import SemverDispatch.Policy
import SemverDispatch.Run
import SemverDispatch.Pattern.Search

/-!
# Extraction

How the version text of a request is found. A version that the request already carries comes first; then
the sources are tried in their order, and the first text that is not blank wins. Blanks around it are
dropped.
-/

namespace SemverDispatch

/-- Where a version text was found. -/
inductive Origin where
  /-- the request already carried it -/
  | request
  /-- a source of the policy -/
  | source (s : Source)
  deriving DecidableEq, Repr

/-- The name of an origin. -/
def Origin.name : Origin → Text
  | request => "request"
  | source s => s.name

/-- A version text that was found. -/
structure Extracted where
  /-- the text, without blanks around it -/
  version : Text
  /-- where it was found -/
  origin : Origin
  deriving DecidableEq, Repr

/-- One source, with what is needed to read it. Options that were not checked may hold any values here. -/
inductive Reader where
  /-- a header of a name -/
  | header (name : Value)
  /-- a query parameter of a name -/
  | query (name : Value)
  /-- the first group of a pattern in the path -/
  | path (pattern : Value)
  /-- what a callable gives for the request -/
  | custom (function : Value)

namespace Reader

/-- The source that a reader reads. -/
def source : Reader → Source
  | header _ => .header
  | query _ => .query
  | path _ => .path
  | custom _ => .custom

/-- A text without the blanks around it, if anything is left. -/
def clean (t : Text) : Option Text := if t.strip = [] then none else some t.strip

/-- The version text that a value is, if it is text at all. -/
def cleanValue (v : Value) : Option Text := v.text?.bind clean

/-- What the first group of a pattern keeps of a subject. -/
def firstGroup (engine : Engine) (p : Pattern) (subject : Text) : Except Failure (Option Text) :=
  match p.search engine subject with
  | none => .ok none
  | some found =>
    if found.isCrossed then .error .crossedGroup
    else
      match found.group? 1 with
      | some kept => .ok kept
      | none => .error .noGroup

/-- The version text in a path, for a pattern of text. -/
def pathVersion (engine : Engine) (p : Pattern) (t : Text) : Except Failure (Option Text) :=
  (firstGroup engine p t).map (·.bind clean)

/-- Bytes as a pattern of bytes searches them. -/
def subjectOf (b : Bytes) : Text := b.map fun x => .ofNat x.toNat

/-- The version text in a path, which has to be of the pattern's kind. Bytes that a group keeps are no text. -/
def pathValueVersion (engine : Engine) (p : Pattern) (path : Value) : Except Failure (Option Text) :=
  match p.source, path with
  | .text _, .text t => pathVersion engine p t
  | .bytes _, .text _ => .error .textSearched
  | .text _, .bytes _ | .text _, .buffer _ => .error .bytesSearched
  | .bytes _, .bytes b | .bytes _, .buffer b => (firstGroup engine p (subjectOf b)).map fun _ => none
  | _, v => .error (.notSearchable v.qualifiedTypeName)

/-- The version text that a reader finds in a request. A callable is not awaited. -/
def read (host : Host) (request : Request) : Reader → Run (Option Text)
  | header name => do
    let values ← Run.ofExcept (request.headers.getAllOf name)
    return values.head?.bind cleanValue
  | query name => do
    let value ← Run.ofExcept (request.query.getOf name)
    return (value.map request.query.component).bind cleanValue
  | path (.pattern p) => Run.ofExcept (pathValueVersion host.engine p request.path)
  | path v => Run.fail (.noAttribute v.qualifiedTypeName "search")
  | custom v =>
    match v.callable? with
    | some c => do
      let value ← host.call c [.request request]
      return cleanValue value
    | none => Run.fail (.notCallable v.qualifiedTypeName)

end Reader

/-- Readers in the order in which they are tried. -/
abbrev Extractor := List Reader

namespace Extractor

/-! ## Building -/

/-- The reader of a source of a policy; a callable that is missing has none. -/
def readerOf? (p : Policy) : Source → Option Reader
  | .header => some (.header (.text p.header))
  | .query => some (.query (.text p.query))
  | .path => some (.path (.pattern p.pattern))
  | .custom => p.custom.map fun c => .custom c.value

/-- The extractor of a policy. -/
def ofPolicy (p : Policy) : Extractor := p.sources.filterMap (readerOf? p)

/-- A pattern, compiled if it is text; any other value stays as it is. -/
def compiled (v : Value) : Except Failure Value :=
  match v with
  | .text t =>
    match Pattern.compile [] t with
    | .ok p => .ok (.pattern p)
    | .error e => .error (.badPattern t e)
  | v => .ok v

/-- The reader of a source that a record of options names. Only what the source needs is looked at. -/
def readerIn? (extraction source : Value) : Except Failure (Option Reader) :=
  match source.text?.bind Source.ofName? with
  | some .header => do return some (.header (← (← extraction.member "header").member "name"))
  | some .query => do return some (.query (← (← extraction.member "query").member "name"))
  | some .path => do
    return some (.path (← compiled (← (← extraction.member "path").member "pattern")))
  | some .custom => do
    let custom ← extraction.member "custom"
    return if custom.isNull then none else some (.custom custom)
  | none => .ok none

/-- The readers of several sources. -/
def readersIn (extraction : Value) : List Value → Except Failure Extractor
  | [] => .ok []
  | source :: rest => do
    let reader ← readerIn? extraction source
    return reader.toList ++ (← readersIn extraction rest)

/-- The extractor of a record of options, checked or not. Unknown sources have no reader. -/
def ofRecord (config : Value) : Except Failure Extractor := do
  let extraction ← config.member "extraction"
  let sources ← (← extraction.member "sources").parts
  readersIn extraction sources

/-- The sources that an extractor reads, in order. -/
def sources (readers : Extractor) : List Source := readers.map Reader.source

/-! ## Extracting -/

/-- The version text of the first reader that finds one. -/
def firstOf (host : Host) (request : Request) : Extractor → Run (Option Extracted)
  | [] => pure none
  | reader :: rest => do
    match ← reader.read host request with
    | some version => return some ⟨version, .source reader.source⟩
    | none => firstOf host request rest

/-- The version text of a request, if it has any. -/
def extract (host : Host) (readers : Extractor) (request : Request) : Run (Option Extracted) :=
  match Reader.cleanValue request.version with
  | some version => pure (some ⟨version, .request⟩)
  | none => firstOf host request readers

end Extractor

end SemverDispatch
