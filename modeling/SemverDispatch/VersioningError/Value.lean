import SemverDispatch.Value.Access

/-!
# Versioning errors and values

A versioning error made by the name of its kind from arguments, and an error as a dictionary.
-/

namespace SemverDispatch

namespace ErrorKind

/-- Every kind. -/
def all : List ErrorKind :=
  [general, missingVersion, invalidVersionFormat, versionNotFound, invalidHandler,
    invalidConfiguration]

/-- The kind of a name. -/
def ofName? (t : Text) : Option ErrorKind := all.find? fun kind => kind.name = t

/-- A kind is found by its name. -/
@[simp] theorem ofName?_name (kind : ErrorKind) : ofName? kind.name = some kind := by
  cases kind <;> decide

/-- What is said of a missing version if nothing else is. -/
def missingVersionMessage : Text := "API version is required"

/-- The parameters of a kind's constructor. -/
def parameters : ErrorKind → List Parameter
  | general =>
    [.required "code", .required "message", .optional "status" (.int 422),
      .optional "requested_version" .null, .optional "available_versions" .null]
  | missingVersion =>
    [.optional "message" (.text missingVersionMessage), .optional "status" (.int 422)]
  | invalidVersionFormat => [.required "version", .optional "status" (.int 400)]
  | versionNotFound =>
    [.required "requested_version", .required "available_versions", .named "message" (.text []),
      .named "status" (.int 422)]
  | invalidHandler => [.required "key", .required "reason"]
  | invalidConfiguration => [.required "reason"]

/-- The constructor of a kind. -/
def signature (kind : ErrorKind) : Signature := ⟨kind.name, kind.parameters⟩

end ErrorKind

namespace VersioningError

/-- The error of a kind whose parameters have the given values. A message is made only if it is needed. -/
def ofParameters (kind : ErrorKind) (given : List (Text × Value)) : Except Failure VersioningError :=
  let get (name : Text) : Value := (given.lookup name).getD .null
  match kind with
  | .general =>
    .ok {
      kind := .general
      code := get "code"
      message := get "message"
      status := get "status"
      requestedVersion := get "requested_version"
      availableVersions := get "available_versions" }
  | .missingVersion => .ok (.missingVersion (get "message") (get "status"))
  | .invalidVersionFormat => do
    return .invalidVersionFormat (get "version") (← (get "version").shown) (get "status")
  | .versionNotFound => do
    let requested := get "requested_version"
    let message := get "message"
    let label ←
      if message.isTruthy || requested.isNull then pure unknownLabel else requested.shown
    let available ← (get "available_versions").parts
    return .versionNotFound requested label available message (get "status")
  | .invalidHandler => do return .invalidHandler (← (get "key").shown) (← (get "reason").shown)
  | .invalidConfiguration => do return .invalidConfiguration (← (get "reason").shown)

/-- The error that the constructor of a kind makes of arguments by position and by name. -/
def ofArguments (kind : ErrorKind) (args : List Value) (named : List (Text × Value)) :
    Except Failure VersioningError := do
  let given ← (kind.signature.bind args named).mapError (.badArguments kind.name)
  ofParameters kind given

/-- The error as a dictionary, with the names of its JSON. -/
def toDict (e : VersioningError) : Except Failure Value := do
  let base : List (Value × Value) :=
    [(.text "code", e.code), (.text "message", e.message), (.text "status", e.status)]
  let requested : List (Value × Value) :=
    if e.requestedVersion.isNull then [] else [(.text "requestedVersion", e.requestedVersion)]
  let available : List (Value × Value) ←
    if e.availableVersions.isNull then pure []
    else do
      let items ← e.availableVersions.parts
      pure [(.text "availableVersions", .list items)]
  return .dict (base ++ requested ++ available)

end VersioningError

end SemverDispatch
