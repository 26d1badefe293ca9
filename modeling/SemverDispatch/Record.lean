import SemverDispatch.Signature

/-!
# Records

A record has named fields, each with a default. It keeps them in the order of their declaration, and holds
any values. Responses are records, and options come as records inside records, in which nothing is checked
before the options are resolved. Users have records of their own.

    extraction          where to look for a version
      sources             the kinds of place, in order
      header, query       each with the name to look for
      path                with the pattern to look for
      custom              a callable that looks elsewhere
    error_response      statuses and messages, and a hook that sees every error first
    fallback_strategy   what happens to a version that no route admits
    default_handler     the handler of last resort
    flags               what is checked, attached and required
-/

namespace SemverDispatch

namespace RecordKind

/-- The default of the section `header`. -/
def headerDefaults : List (Text × Value) := [("name", .text "accept-version")]

/-- The default of the section `query`. -/
def queryDefaults : List (Text × Value) := [("name", .text "v")]

/-- The default of the section `path`. -/
def pathDefaults : List (Text × Value) := [("pattern", .pattern .versionSegment)]

/-- The defaults of the section `extraction`. -/
def extractionDefaults : List (Text × Value) :=
  [("sources", .tuple [.text "header", .text "query"]),
    ("header", .record .header headerDefaults),
    ("query", .record .query queryDefaults),
    ("path", .record .path pathDefaults),
    ("custom", .null)]

/-- The defaults of the section `error_response`. -/
def errorResponseDefaults : List (Text × Value) :=
  [("missing_version_status", .int 422),
    ("version_not_found_status", .int 422),
    ("invalid_version_status", .int 400),
    ("missing_version_message", .text "API version is required"),
    ("version_not_found_message", .text "No handler found for the requested API version"),
    ("include_requested_version", .bool true),
    ("on_error", .null)]

/-- The defaults of all options. -/
def versioningDefaults : List (Text × Value) :=
  [("extraction", .record .extraction extractionDefaults),
    ("error_response", .record .errorResponse errorResponseDefaults),
    ("fallback_strategy", .text "default"),
    ("default_handler", .null),
    ("validate_handlers", .bool true),
    ("attach_version_info", .bool true),
    ("require_version", .bool true)]

/-- The defaults of a response. -/
def responseDefaults : List (Text × Value) :=
  [("body", .text []), ("status", .int 200), ("content_type", .text "text/plain; charset=utf-8"),
    ("headers", .tuple [])]

/-- The fields of a record with their defaults; a user's record has none that are known here. -/
def defaults : RecordKind → List (Text × Value)
  | versioning => versioningDefaults
  | extraction => extractionDefaults
  | errorResponse => errorResponseDefaults
  | header => headerDefaults
  | query => queryDefaults
  | path => pathDefaults
  | response => responseDefaults
  | user _ => []

/-- Each field that has a default is a field, in the same order. -/
theorem map_fst_defaults {kind : RecordKind} (h : ∀ c, kind ≠ user c) :
    kind.defaults.map Prod.fst = kind.fieldNames := by
  cases kind with
  | user c => exact absurd rfl (h c)
  | _ => rfl

/-- The constructor of a record takes its fields. -/
def signature (kind : RecordKind) : Signature :=
  ⟨kind.name, kind.defaults.map fun (name, value) => .optional name value⟩

/-- The record that its constructor makes of fields by name. -/
def ofFields (kind : RecordKind) (given : List (Text × Value)) : Except ArgumentError Value :=
  (kind.signature.bind [] given).map (.record kind)

/-- The record with some fields given and the defaults for the others. -/
def build (kind : RecordKind) (given : List (Text × Value)) : Value :=
  .record kind (kind.defaults.map fun (name, value) => (name, (given.lookup name).getD value))

end RecordKind

/-- The options of a router that nobody configured. -/
def defaultOptions : Value := RecordKind.versioning.build []

end SemverDispatch
