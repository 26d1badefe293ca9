import SemverDispatch.Record
import SemverDispatch.Options.Merge
import SemverDispatch.Value.Access
import SemverDispatch.Text.Blank

/-!
# Policies

What a router goes by: options after they have been merged over the defaults and checked once. Everything
that a check pins down has a type of its own here; flags and messages, which no check looks at, stay
values.

Main definitions: `Policy.ofRecord`, which checks a record of options field by field in a fixed order, and
`Policy.toRecord`, the record of a policy.
-/

namespace SemverDispatch

/-- A place of a request where a version may be. -/
inductive Source where
  /-- a header -/
  | header
  /-- a query parameter -/
  | query
  /-- a part of the path -/
  | path
  /-- wherever a callable finds it -/
  | custom
  deriving DecidableEq, Repr

namespace Source

/-- The name of a source. -/
def name : Source → Text
  | header => "header"
  | query => "query"
  | path => "path"
  | custom => "custom"

/-- Every source. -/
def all : List Source := [header, query, path, custom]

/-- The source of a name. -/
def ofName? (t : Text) : Option Source := all.find? fun s => s.name = t

/-- A source is found by its name. -/
@[simp] theorem ofName?_name (s : Source) : ofName? s.name = some s := by cases s <;> decide

end Source

/-- What is done with a version that no route admits. -/
inductive Fallback where
  /-- it is an error -/
  | none
  /-- the latest route answers -/
  | latest
  /-- the default handler answers, or the latest route if there is no default handler -/
  | default
  deriving DecidableEq, Repr

namespace Fallback

/-- The name of a strategy. -/
def name : Fallback → Text
  | none => "none"
  | latest => "latest"
  | default => "default"

/-- Every strategy. -/
def all : List Fallback := [none, latest, default]

/-- The strategy of a name. -/
def ofName? (t : Text) : Option Fallback := all.find? fun s => s.name = t

/-- A strategy is found by its name. -/
@[simp] theorem ofName?_name (s : Fallback) : ofName? s.name = some s := by cases s <;> decide

end Fallback

/-- Checked options. -/
structure Policy where
  /-- where to look for a version, in order -/
  sources : List Source
  /-- the header to read -/
  header : Text
  /-- the query parameter to read -/
  query : Text
  /-- the pattern whose first group is the version in a path -/
  pattern : Pattern
  /-- the callable that finds a version -/
  custom : Option Callable
  /-- the status when no version came -/
  missingStatus : Nat
  /-- the status when no route admits the version -/
  notFoundStatus : Nat
  /-- the status when the version does not parse -/
  invalidStatus : Nat
  /-- what is said when no version came -/
  missingMessage : Value
  /-- what is said when no route admits the version: text, or a callable that makes it -/
  notFoundMessage : Value
  /-- does an error name the version asked for? -/
  includeRequested : Value
  /-- the callable that sees every error first -/
  onError : Option Callable
  /-- what is done with a version that no route admits -/
  fallback : Fallback
  /-- the handler of last resort -/
  defaultHandler : Option Callable
  /-- is an unusable entry of the handlers an error? -/
  validateHandlers : Value
  /-- is a handler told what dispatch found out? -/
  attachVersionInfo : Value
  /-- is a request without a version an error? -/
  requireVersion : Value

namespace Policy

/-! ## Checking fields -/

/-- The source that a value names. -/
def sourceOf (v : Value) : Except Failure Source :=
  match v.text?.bind Source.ofName? with
  | some s => .ok s
  | none => do
    let shown ← v.shown
    .error (.configuration ("Invalid version source: '" ++ shown
      ++ "'. Valid sources: header, query, path, custom"))

/-- The sources that a row of values names: at least one. -/
def sourcesOf (v : Value) : Except Failure (List Source) :=
  match v with
  | .text _ =>
    .error (.configuration "extraction.sources must be a sequence of source names, not a string")
  | .list [] | .tuple [] => .error (.configuration "at least one version source is required")
  | .list items | .tuple items => items.mapM sourceOf
  | _ => .error (.configuration "extraction.sources must be a list or tuple of source names")

/-- A callable, or nothing; anything else is reported by `reason`. -/
def callableOf (reason : Text) (v : Value) : Except Failure (Option Callable) :=
  if v.isNull then .ok none
  else
    match v.callable? with
    | some c => .ok (some c)
    | none => .error (.configuration reason)

/-- The callable that finds a version. It has to be there if it is a source. -/
def customOf (sources : List Source) (v : Value) : Except Failure (Option Callable) :=
  if Source.custom ∈ sources ∧ v.isNull then
    .error (.configuration "Custom extractor function is required when 'custom' source is used")
  else callableOf "custom extractor must be callable" v

/-- The name of a section of `extraction`: text that is not blank. -/
def nameOf (section_ : Text) (v : Value) : Except Failure Text :=
  let reason := "extraction." ++ section_ ++ ".name must be a non-empty string"
  match v.text? with
  | some t => if t.isBlank then .error (.configuration reason) else .ok t
  | none => .error (.configuration reason)

/-- A status between 100 and 599; truth values are none. -/
def statusOf (field : Text) (v : Value) : Except Failure Nat :=
  let reason := field ++ " must be a valid HTTP status code (100-599)"
  match v with
  | .int n =>
    if 100 ≤ n ∧ n ≤ 599 then .ok n.toNat else .error (.configuration reason)
  | _ => .error (.configuration reason)

/-- The status in a field of a record. -/
def statusIn (record : Value) (field : Text) : Except Failure Nat := do
  statusOf field (← record.member field)

/-- The strategy that a value names. A value that cannot be a key cannot be looked for; a set can. -/
def fallbackOf (v : Value) : Except Failure Fallback :=
  match v.text?.bind Fallback.ofName? with
  | some s => .ok s
  | none =>
    let invalid : Except Failure Fallback := do
      let shown ← v.shown
      .error (.configuration ("Invalid fallback strategy: '" ++ shown
        ++ "'. Valid strategies: none, latest, default"))
    match v with
    | .set _ => invalid
    | _ =>
      match v.unhashable? with
      | some part => .error (.unhashable part)
      | none => invalid

/-- What stops a text from being compiled. A count out of range is no fault of the options. -/
def patternFailure (t : Text) (e : PatternError) : Failure :=
  match e with
  | .fault .. | .unplaced _ => .configuration ("path pattern does not compile: " ++ e.message t)
  | _ => .badPattern t e

/-- A pattern with a group, compiled from text if need be. -/
def patternOf (v : Value) : Except Failure Pattern := do
  let p ← match v with
    | .pattern p => .ok p
    | .text t => (Pattern.compile [] t).mapError (patternFailure t)
    | _ => .error (.configuration "path pattern must be a string or compiled regular expression")
  if p.groups = 0 then
    .error (.configuration "path pattern must contain a capture group for the version")
  else .ok p

/-- The pattern of the section `path`, which has to be a record. -/
def patternIn (path : Value) : Except Failure Pattern := do
  let p ← patternOf (← path.member "pattern")
  if Options.isRecord path then .ok p else .error .notReplaceable

/-! ## Checking records -/

/-- The policy of a record of options. The fields are checked one after another, and the first that is
wrong is reported. -/
def ofRecord (config : Value) : Except Failure Policy := do
  let extraction ← config.member "extraction"
  let sources ← sourcesOf (← extraction.member "sources")
  let custom ← customOf sources (← extraction.member "custom")
  let headerName ← (← extraction.member "header").member "name"
  let queryName ← (← extraction.member "query").member "name"
  let header ← nameOf "header" headerName
  let query ← nameOf "query" queryName
  let errors ← config.member "error_response"
  let missingStatus ← statusIn errors "missing_version_status"
  let notFoundStatus ← statusIn errors "version_not_found_status"
  let invalidStatus ← statusIn errors "invalid_version_status"
  let onError ← callableOf "on_error must be callable" (← errors.member "on_error")
  let fallback ← fallbackOf (← config.member "fallback_strategy")
  let defaultHandler ←
    callableOf "default_handler must be callable" (← config.member "default_handler")
  let pattern ← patternIn (← extraction.member "path")
  return {
    sources, header, query, pattern, custom, missingStatus, notFoundStatus, invalidStatus
    missingMessage := ← errors.member "missing_version_message"
    notFoundMessage := ← errors.member "version_not_found_message"
    includeRequested := ← errors.member "include_requested_version"
    onError, fallback, defaultHandler
    validateHandlers := ← config.member "validate_handlers"
    attachVersionInfo := ← config.member "attach_version_info"
    requireVersion := ← config.member "require_version" }

/-- A callable as a value, if there is one. -/
def callableValue : Option Callable → Value
  | some c => c.value
  | none => .null

/-- The record of a policy's section `extraction`. -/
def extractionRecord (p : Policy) : Value :=
  .record .extraction
    [("sources", .tuple (p.sources.map fun s => .text s.name)),
      ("header", .record .header [("name", .text p.header)]),
      ("query", .record .query [("name", .text p.query)]),
      ("path", .record .path [("pattern", .pattern p.pattern)]),
      ("custom", callableValue p.custom)]

/-- The record of a policy's section `error_response`. -/
def errorResponseRecord (p : Policy) : Value :=
  .record .errorResponse
    [("missing_version_status", .int p.missingStatus),
      ("version_not_found_status", .int p.notFoundStatus),
      ("invalid_version_status", .int p.invalidStatus),
      ("missing_version_message", p.missingMessage),
      ("version_not_found_message", p.notFoundMessage),
      ("include_requested_version", p.includeRequested),
      ("on_error", callableValue p.onError)]

/-- The record of a policy. -/
def toRecord (p : Policy) : Value :=
  .record .versioning
    [("extraction", p.extractionRecord),
      ("error_response", p.errorResponseRecord),
      ("fallback_strategy", .text p.fallback.name),
      ("default_handler", callableValue p.defaultHandler),
      ("validate_handlers", p.validateHandlers),
      ("attach_version_info", p.attachVersionInfo),
      ("require_version", p.requireVersion)]

/-- The policy of options laid over defaults. -/
def resolve (options defaults : Value) : Except Failure Policy := do
  ofRecord (← Options.merge defaults "options" options)

end Policy

end SemverDispatch
