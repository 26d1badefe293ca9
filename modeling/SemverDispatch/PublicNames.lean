import SemverDispatch.Failure

/-!
# Public names

The names that the package offers, each with the module that defines it. A name is looked up when it is
first used. What the package says about itself, and its modules, are found in the same way.
-/

namespace SemverDispatch

namespace PublicNames

/-- The package's own name. -/
def package : Text := "semroute"

/-- The version of the package. -/
def packageVersion : Text := "0.1.0"

/-- The modules at the top of the package. -/
def modules : List Text :=
  ["_internal", "asgi", "compiler", "config", "errors", "extraction", "http", "router", "version"]

/-- Public names by module, without the package in front. -/
def byModule : List (Text × List Text) :=
  [("router", ["VersionRouter", "create_version_middleware"]),
    ("asgi", ["VersionedApp"]),
    ("config", ["DEFAULT_CONFIG", "ErrorResponseConfig", "ExtractionConfig", "HeaderConfig",
      "PathConfig", "QueryConfig", "VersioningConfig", "resolve_config"]),
    ("version", ["Version", "VersionRange", "compare_versions", "find_latest_version",
      "is_valid_range", "is_valid_version", "normalize_version", "parse_range", "parse_version",
      "satisfies"]),
    ("extraction", ["ExtractionResult", "VersionInfo"]),
    ("http.request", ["Request"]),
    ("http.response", ["Response"]),
    ("errors", ["InvalidConfiguration", "InvalidHandler", "InvalidVersionFormat", "MissingVersion",
      "SemrouteError", "VersionNotFound", "VersioningError", "has_error_code",
      "is_versioning_error"])]

/-- What stands under a name of the package. -/
inductive Entry where
  /-- something that a module defines -/
  | definedIn (module : Text)
  /-- a value -/
  | value (v : Value)

/-- The module that defines a public name. -/
def module? (name : Text) : Option Text :=
  (byModule.find? fun (_, names) => names.contains name).map fun (module, _) =>
    package ++ .char '.' :: module

/-- Inserts a text into texts in the order of their code points. -/
def insertSorted (t : Text) : List Text → List Text
  | [] => [t]
  | u :: rest => if Text.lt u t then u :: insertSorted t rest else t :: u :: rest

/-- Every public name, in the order of code points. -/
def all : List Text := (byModule.flatMap Prod.snd).foldr insertSorted []

/-- Every public name with its module. -/
def registry : List (Value × Value) :=
  byModule.flatMap fun (module, names) =>
    names.map fun name => (.text name, .text (package ++ .char '.' :: module))

/-- What the package says about itself. -/
def facts : List (Text × Entry) :=
  [("__version__", .value (.text packageVersion)), ("__all__", .value (.list (all.map .text))),
    ("__name__", .value (.text package)), ("__package__", .value (.text package)),
    ("__getattr__", .definedIn package), ("_LAZY_IMPORTS", .value (.dict registry))]

/-- What stands under a name. -/
def lookUp (name : Text) : Except Failure Entry :=
  match facts.lookup name, module? name with
  | some entry, _ => .ok entry
  | none, some module => .ok (.definedIn module)
  | none, none =>
    if modules.contains name then .ok (.value (.other "module"))
    else .error (.noPublicName package name)

end PublicNames

end SemverDispatch
