import SemverDispatch.Gateway
import SemverDispatch.Numeral
import SemverDispatch.PublicNames
import SemverDispatch.VersioningError.Value
import SemverDispatch.Proofs.BestRoute
import SemverDispatch.Proofs.Channels
import SemverDispatch.Proofs.Compilation
import SemverDispatch.Proofs.Contained
import SemverDispatch.Proofs.Containment
import SemverDispatch.Proofs.Decoding
import SemverDispatch.Proofs.Dispatch
import SemverDispatch.Proofs.Encoding
import SemverDispatch.Proofs.ErrorResponse
import SemverDispatch.Proofs.Exchange
import SemverDispatch.Proofs.Fields
import SemverDispatch.Proofs.Framing
import SemverDispatch.Proofs.Interval
import SemverDispatch.Proofs.Overlay
import SemverDispatch.Proofs.PolicyChecks
import SemverDispatch.Proofs.Rank
import SemverDispatch.Proofs.Reading
import SemverDispatch.Proofs.Registering
import SemverDispatch.Proofs.Result
import SemverDispatch.Proofs.Specificity
import SemverDispatch.Proofs.TableOrder
import SemverDispatch.Proofs.Totality
import SemverDispatch.Proofs.Verdict
import SemverDispatch.Proofs.WellFormed
import SemverDispatch.Proofs.Writable
import SemverDispatch.Proofs.Grammar
import SemverDispatch.Proofs.Latest
import SemverDispatch.Proofs.Concealment
import SemverDispatch.Proofs.FirstSource
import SemverDispatch.Proofs.Canonical
import SemverDispatch.Proofs.Views
import SemverDispatch.Proofs.QueryString
import SemverDispatch.Proofs.HeaderFields
import SemverDispatch.Proofs.Sending
import SemverDispatch.Proofs.Leaves
import SemverDispatch.Proofs.Resolved
import SemverDispatch.Proofs.Layers
import SemverDispatch.Proofs.Matching
import SemverDispatch.Proofs.VersionSegment
import SemverDispatch.Proofs.VersionPattern
import SemverDispatch.Proofs.Strictness
import SemverDispatch.Proofs.LatestText
import SemverDispatch.Proofs.StatusPairs
import SemverDispatch.Proofs.JsonStrings
import SemverDispatch.Proofs.JsonDepth
import SemverDispatch.Proofs.JsonValues
import SemverDispatch.Proofs.JsonAscii
import SemverDispatch.Proofs.JsonResponse
import SemverDispatch.Proofs.Packing
