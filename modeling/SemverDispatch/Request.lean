import SemverDispatch.Headers
import SemverDispatch.Query

/-!
# Requests

What dispatch sees of a request: method, path, headers, query, and two fields about versions. `version` is
set by whoever knows the version before dispatch; `versionInfo` is set by dispatch for the handler. The scope that
a server handed over is kept for handlers, and nothing else looks at it.

Method and path are text by any sensible caller, but are taken as they come.
-/

namespace SemverDispatch

/-- What dispatch found out about the version of a request. -/
structure VersionInfo where
  /-- the version text of the client -/
  requested : Value
  /-- the key of the handler that was chosen -/
  matched : Value
  /-- where the version text was found -/
  source : Value

/-- What a server hands over with a connection. -/
structure Scope where
  /-- what kind of connection it is -/
  kind : Option Value
  /-- the method -/
  method : Option Value
  /-- the path, without the query -/
  path : Option Value
  /-- the headers -/
  headers : List (Bytes × Bytes)
  /-- the query, in text or bytes -/
  query : Value
  /-- a mapping for what others found out before -/
  state : Value
  /-- everything else, by name -/
  others : List (Text × Value)

/-- The scope in which there is nothing. -/
def Scope.empty : Scope := ⟨none, none, none, [], .bytes [], .null, []⟩

/-- A request. -/
structure Request where
  /-- the method -/
  method : Value
  /-- the path, without the query -/
  path : Value
  /-- the headers -/
  headers : Headers
  /-- the query -/
  query : Query
  /-- a version that is known before dispatch -/
  version : Value
  /-- what dispatch found out -/
  versionInfo : Option VersionInfo
  /-- what a server handed over -/
  scope : Scope

namespace VersionInfo

/-- The parts in order. -/
def parts (info : VersionInfo) : List Value := [info.requested, info.matched, info.source]

end VersionInfo

namespace Request

/-- The default method. -/
def defaultMethod : Text := "GET"

/-- The path of a request that is given none. -/
def defaultPath : Text := "/"

/-- The request of plain parts, about which dispatch has found out nothing yet. -/
def build (method path : Value) (headers : Headers) (query : Query) (version : Value) :
    Request where
  method := method
  path := path
  headers := headers
  query := query
  version := version
  versionInfo := none
  scope := .empty

/-- The path with the query. -/
def url (r : Request) : Value :=
  if r.query.source.isTruthy then
    .text (r.path.display ++ .char '?' :: r.query.source.display)
  else r.path

/-- The request with a version that is known before dispatch. -/
def withVersion (r : Request) (version : Value) : Request := { r with version := version }

/-- The request with what dispatch found out. -/
def withVersionInfo (r : Request) (info : VersionInfo) : Request :=
  { r with versionInfo := some info }

/-- Did dispatch find out the same about two requests? -/
def sameInfo : Option VersionInfo → Option VersionInfo → Bool
  | none, none => true
  | some a, some b => (Value.tuple a.parts).same (.tuple b.parts)
  | _, _ => false

/-- Are two requests the same? Headers and queries count by names and first values, and scopes do not
count. -/
def same (r s : Request) : Bool :=
  r.method.same s.method && r.path.same s.path && r.headers.same s.headers
    && r.query.same s.query && r.version.same s.version && sameInfo r.versionInfo s.versionInfo

/-- The names of a request's fields. -/
def fieldNames : List Text :=
  ["method", "path", "headers", "query", "version", "version_info", "scope"]

/-- No field of a request can be assigned, and nothing else either. -/
def assign (_ : Request) (name : Text) : Failure :=
  if fieldNames.contains name then .frozenField name else .noField

/-! ## From a server -/

/-- The entry of a scope's state that holds a version known before dispatch. -/
def stateKey : Text := "semroute.version"

/-- The version that a scope's state holds. -/
def presetVersion (state : Value) : Except Failure Value :=
  if state.isTruthy then
    match state with
    | .dict entries => .ok ((Value.entry? entries stateKey).getD .null)
    | v => .error (.noAttribute v.qualifiedTypeName "get")
  else .ok .null

/-- The request of a scope. -/
def ofScope (scope : Scope) : Except Failure Request := do
  let path ← match scope.path with
    | some path => .ok path
    | none => .error (.noKey "path")
  let query ← Query.ofValue scope.query
  let version ← presetVersion scope.state
  return {
    method := scope.method.getD (.text defaultMethod)
    path, query, version, scope
    headers := .ofRaw scope.headers
    versionInfo := none }

end Request

end SemverDispatch
