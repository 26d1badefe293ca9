import SemverDispatch.Value.Display
import SemverDispatch.Value.Compare

/-!
# Versioning errors

The errors of dispatch: two that stop the building of a router, three that answer a request. Each has a
stable code and a status. Messages and statuses are values, since options may set them to anything; so are
all parts of a general error. What a message shows is text here, as not every value can be shown.
-/

namespace SemverDispatch

/-- The kinds of versioning error. -/
inductive ErrorKind where
  /-- none of the others -/
  | general
  /-- no version could be extracted and one is required -/
  | missingVersion
  /-- the version text does not parse -/
  | invalidVersionFormat
  /-- the version parses but no route admits it -/
  | versionNotFound
  /-- a key is no range, or its handler cannot be called -/
  | invalidHandler
  /-- options are malformed -/
  | invalidConfiguration
  deriving DecidableEq, Repr

/-- The name of a kind. -/
def ErrorKind.name : ErrorKind → Text
  | general => "VersioningError"
  | missingVersion => "MissingVersion"
  | invalidVersionFormat => "InvalidVersionFormat"
  | versionNotFound => "VersionNotFound"
  | invalidHandler => "InvalidHandler"
  | invalidConfiguration => "InvalidConfiguration"

/-- A failure of versioning. -/
structure VersioningError where
  /-- its kind -/
  kind : ErrorKind
  /-- its code, which is stable for every kind but the general one -/
  code : Value
  /-- what went wrong -/
  message : Value
  /-- the status of its response -/
  status : Value
  /-- the version that the client asked for -/
  requestedVersion : Value
  /-- the versions that it could have -/
  availableVersions : Value

namespace VersioningError

/-- No version came with a request. -/
def missingVersion (message status : Value) : VersioningError where
  kind := .missingVersion
  code := .text "MISSING_VERSION"
  message := message
  status := status
  requestedVersion := .null
  availableVersions := .null

/-- What came as a version is none. The message shows it as `label`. -/
def invalidVersionFormat (version : Value) (label : Text) (status : Value) : VersioningError where
  kind := .invalidVersionFormat
  code := .text "INVALID_VERSION_FORMAT"
  message := .text ("Invalid version format: '" ++ label ++ "'")
  status := status
  requestedVersion := version
  availableVersions := .null

/-- What stands for a version that there is none of. -/
def unknownLabel : Text := "unknown"

/-- No route admits the version. An empty message is replaced by one that shows the version as `label`. -/
def versionNotFound (requested : Value) (label : Text) (available : List Value) (message status : Value) :
    VersioningError where
  kind := .versionNotFound
  code := .text "VERSION_NOT_FOUND"
  message :=
    if message.isTruthy then message
    else .text ("No handler found for API version '" ++ label ++ "'")
  status := status
  requestedVersion := requested
  availableVersions := .tuple available

/-- An entry of the handlers is unusable. -/
def invalidHandler (key reason : Text) : VersioningError where
  kind := .invalidHandler
  code := .text "INVALID_HANDLER"
  message := .text ("Invalid handler for version '" ++ key ++ "': " ++ reason)
  status := .int 500
  requestedVersion := .null
  availableVersions := .null

/-- Options are malformed. -/
def invalidConfiguration (reason : Text) : VersioningError where
  kind := .invalidConfiguration
  code := .text "INVALID_CONFIGURATION"
  message := .text ("Invalid configuration: " ++ reason)
  status := .int 500
  requestedVersion := .null
  availableVersions := .null

/-- The error as one line of text. -/
def line (e : VersioningError) : Text := e.code.display ++ ": " ++ e.message.display

/-- Does the error carry this code? -/
def hasCode (e : VersioningError) (code : Value) : Bool := e.code.same code

end VersioningError

end SemverDispatch
