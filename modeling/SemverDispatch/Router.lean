import SemverDispatch.Extraction
import SemverDispatch.Route.Table

/-!
# Routers

A router is a policy and a table of routes, which is never empty. It answers a request with the first
route that admits the request's version; what happens to all other requests is for the policy to say:

    no version           error, or fall back, if versions are not required
    not a version        error
    no route admits it   fall back: the default handler, the latest route, or error

An error is first shown to the policy's hook, which may answer in its place.
-/

namespace SemverDispatch

/-- A policy and the routes that it applies to. -/
structure Router where
  /-- what the router goes by -/
  policy : Policy
  /-- the routes by falling priority -/
  routes : RouteTable
  /-- there is at least one -/
  routes_ne_nil : routes ≠ []

namespace Router

/-! ## Building -/

/-- The entries of a mapping of handlers. -/
def entriesOf : Value → Except Failure (List (Value × Value))
  | .dict entries => .ok entries
  | _ => .error (.configuration "'handlers' must be a mapping of version ranges to handlers")

/-- The router of a policy and a table. -/
def ofTable (policy : Policy) (table : RouteTable) : Except Failure Router :=
  if h : table = [] then
    .error (.configuration "No valid handlers provided. At least one handler is required.")
  else .ok ⟨policy, table, h⟩

/-- The router of handlers and options. Options are checked before the handlers are. -/
def build (handlers options : Value) : Except Failure Router := do
  let entries ← entriesOf handlers
  let policy ← Policy.resolve options defaultOptions
  let table ← RouteTable.compile policy.validateHandlers.isTruthy entries
  ofTable policy table

/-- What is said of the older way to build a router. -/
def deprecation : Text := "create_version_middleware() is deprecated; use VersionRouter instead"

/-- The router of handlers and a default handler, all other options being the default ones. -/
def ofDefaultHandler (handlers defaultHandler : Value) : Except Failure Router :=
  build handlers
    (RecordKind.versioning.build
      [("fallback_strategy", .text "default"), ("default_handler", defaultHandler)])

/-- The keys of the routes, in the order of the table. -/
def available (r : Router) : List Text := r.routes.keys

/-- The router as a message shows it. -/
def literal (r : Router) : Text :=
  ("VersionRouter(" : Text) ++ (Value.list (r.available.map .text)).literal ++ [.char ')']

/-! ## Errors -/

/-- The response of an error, where arrays and objects inside each other have `room`. -/
def errorResponse (r : Router) (room : Nat) (e : VersioningError) : Except Failure Response := do
  let requested : List (Value × Value) :=
    if r.policy.includeRequested.isTruthy && e.requestedVersion.isTruthy then
      [(.text "requestedVersion", e.requestedVersion)]
    else []
  let available : List (Value × Value) ←
    if e.availableVersions.isTruthy then do
      let versions ← e.availableVersions.parts
      pure [(.text "availableVersions", .list versions)]
    else pure []
  let body := [(.text "error", e.code), (.text "message", e.message)] ++ requested ++ available
  Response.ofJson room (.dict body) e.status

/-- What is logged of an error. -/
def errorLine (request : Request) (e : VersioningError) : Text :=
  e.status.display ++ " " ++ request.method.display ++ " " ++ request.path.display ++ ": "
    ++ e.code.display

/-- Answers a request with an error: the hook's answer, if it gives any, or else the error's response. -/
def answerError (r : Router) (host : Host) (request : Request) (e : VersioningError) : Run Value := do
  Run.emit (.logged (errorLine request e))
  let handled ← match r.policy.onError with
    | some hook => host.invoke hook [.error e, .request request]
    | none => pure .null
  if handled.isNull then return (← Run.ofExcept (r.errorResponse host.room e)).toValue
  else return handled

/-- The error of a request without a version. -/
def missing (r : Router) : VersioningError :=
  .missingVersion r.policy.missingMessage (.int r.policy.missingStatus)

/-- The error of a version that does not parse. -/
def invalid (r : Router) (version : Text) : VersioningError :=
  .invalidVersionFormat (.text version) version (.int r.policy.invalidStatus)

/-- The error of a version that no route admits. A callable message is made for the version; it is not
awaited. -/
def notFound (r : Router) (host : Host) (requested : Option Text) : Run VersioningError := do
  let label := requested.getD VersioningError.unknownLabel
  let message ← match r.policy.notFoundMessage.callable? with
    | some c => host.call c [.value (.text label)]
    | none => pure r.policy.notFoundMessage
  return .versionNotFound (.ofText? requested) label (r.available.map .text) message
    (.int r.policy.notFoundStatus)

/-! ## Dispatch -/

/-- The request as a handler sees it: with what dispatch found out, if the policy says so and the request
has a version. -/
def prepare (r : Router) (matched : Text) (found : Option Extracted) (request : Request) : Request :=
  match found with
  | some x =>
    if r.policy.attachVersionInfo.isTruthy then
      request.withVersionInfo ⟨.text x.version, .text matched, .text x.origin.name⟩
    else request
  | none => request

/-- Answers a request with a handler. -/
def answer (r : Router) (host : Host) (request : Request) (found : Option Extracted)
    (matched : Text) (handler : Callable) : Run Value :=
  host.invoke handler [.request (r.prepare matched found request)]

/-- The key that the default handler is said to match. -/
def defaultKey : Text := "default"

/-- What is logged when no route answers. -/
def fallbackLine (r : Router) (requested : Option Text) : Text :=
  "no route for version " ++ requested.getD "None" ++ ", fallback=" ++ r.policy.fallback.name

/-- The handler that answers in place of a route, and the key that it is said to match. -/
def fallbackHandler? (r : Router) : Option (Text × Callable) :=
  let latest := r.routes.findLatest.map fun route => (route.key, route.handler)
  match r.policy.fallback, r.policy.defaultHandler with
  | .none, _ => none
  | .default, some handler => some (defaultKey, handler)
  | .default, none | .latest, _ => latest

/-- Answers a request that no route answers. -/
def fallBack (r : Router) (host : Host) (request : Request) (found : Option Extracted) : Run Value := do
  let requested := found.map Extracted.version
  Run.emit (.logged (r.fallbackLine requested))
  match r.fallbackHandler? with
  | some (matched, handler) => r.answer host request found matched handler
  | none => do
    let e ← (r.notFound host requested).inCoroutine
    r.answerError host request e

/-- What is logged when a route answers. -/
def matchLine (x : Extracted) (key : Text) : Text :=
  "version " ++ x.version ++ " (" ++ x.origin.name ++ ") matched " ++ key

/-- Answers a request of a version text. -/
def answerVersion (r : Router) (host : Host) (request : Request) (x : Extracted) : Run Value :=
  match Version.parse? x.version with
  | none => r.answerError host request (r.invalid x.version)
  | some client =>
    match r.routes.findMatch client with
    | some route => do
      Run.emit (.logged (matchLine x route.key))
      r.answer host request (some x) route.key route.handler
    | none => r.fallBack host request (some x)

/-- Answers a request. All of it is done in a coroutine. -/
def dispatch (r : Router) (host : Host) (request : Request) : Run Value := do
  match ← ((Extractor.ofPolicy r.policy).extract host request).inCoroutine with
  | some x => r.answerVersion host request x
  | none =>
    if r.policy.requireVersion.isTruthy then r.answerError host request r.missing
    else r.fallBack host request none

end Router

end SemverDispatch
