import SemverDispatch.Pattern.Syntax
import SemverDispatch.Binary64

/-!
# Values

What options hold, what handlers give back and what JSON carries: data without a fixed type. Options
arrive as values and are checked once, when a router is built; results of handlers are values, and so are
the parts of a request or a response that nobody checks.

Functions and classes are values too. A user's functions and classes are known by their numbers; what a call of
one does is left to a `Host`.
-/

namespace SemverDispatch

/-- A class of records that a user wrote. Its records do not change, and are the same if their fields are. -/
structure UserClass where
  /-- which one it is -/
  number : Nat
  /-- its name -/
  name : Text
  /-- the names of its fields -/
  fieldNames : List Text
  /-- can its records be called? -/
  isCallable : Bool
  deriving DecidableEq, Repr

/-- The kinds of records of named fields: those that options are made of, responses, and those of users. -/
inductive RecordKind where
  /-- all options of a router -/
  | versioning
  /-- where to look for a version -/
  | extraction
  /-- statuses and messages of errors -/
  | errorResponse
  /-- which header to read -/
  | header
  /-- which query parameter to read -/
  | query
  /-- which part of the path to read -/
  | path
  /-- a response -/
  | response
  /-- a record of a user's class -/
  | user (c : UserClass)
  deriving DecidableEq, Repr

/-- Data without a fixed type. -/
inductive Value where
  /-- nothing -/
  | null
  /-- a truth value, which is also the integer 0 or 1 -/
  | bool (b : Bool)
  /-- an integer -/
  | int (n : Int)
  /-- a floating point number -/
  | float (x : Binary64)
  /-- text -/
  | text (t : Text)
  /-- bytes -/
  | bytes (b : Bytes)
  /-- bytes that can be changed in place -/
  | buffer (b : Bytes)
  /-- values in order -/
  | list (items : List Value)
  /-- values in order, of a fixed number -/
  | tuple (items : List Value)
  /-- values that count once each, in the order in which they are shown -/
  | set (items : List Value)
  /-- values under keys, in order of insertion -/
  | dict (entries : List (Value × Value))
  /-- a compiled pattern -/
  | pattern (p : Pattern)
  /-- a record, with its fields by name -/
  | record (kind : RecordKind) (fields : List (Text × Value))
  /-- the class of a kind of record -/
  | recordClass (kind : RecordKind)
  /-- a class of anything else -/
  | plainClass (number : Nat)
  /-- a function of the user, or anything else that can be called and is neither a class nor a record -/
  | function (number : Nat)
  /-- an object of a type that means nothing here -/
  | other (typeName : Text)
  deriving Inhabited

/-- The name of a kind of record. -/
def RecordKind.name : RecordKind → Text
  | .versioning => "VersioningConfig"
  | .extraction => "ExtractionConfig"
  | .errorResponse => "ErrorResponseConfig"
  | .header => "HeaderConfig"
  | .query => "QueryConfig"
  | .path => "PathConfig"
  | .response => "Response"
  | .user c => c.name

/-- The names of a record's fields, in the order of their declaration. -/
def RecordKind.fieldNames : RecordKind → List Text
  | .versioning =>
    ["extraction", "error_response", "fallback_strategy", "default_handler", "validate_handlers",
      "attach_version_info", "require_version"]
  | .extraction => ["sources", "header", "query", "path", "custom"]
  | .errorResponse =>
    ["missing_version_status", "version_not_found_status", "invalid_version_status",
      "missing_version_message", "version_not_found_message", "include_requested_version", "on_error"]
  | .header | .query => ["name"]
  | .path => ["pattern"]
  | .response => ["body", "status", "content_type", "headers"]
  | .user c => c.fieldNames

namespace Value

/-! ## Size -/

/-- A member of a list is smaller than the list. -/
theorem sizeOf_lt_list {v : Value} {items : List Value} (h : v ∈ items) :
    sizeOf v < sizeOf (list items) := by
  have hlt := List.sizeOf_lt_of_mem h
  simp only [list.sizeOf_spec]
  omega

theorem sizeOf_lt_tuple {v : Value} {items : List Value} (h : v ∈ items) :
    sizeOf v < sizeOf (tuple items) := by
  have hlt := List.sizeOf_lt_of_mem h
  simp only [tuple.sizeOf_spec]
  omega

/-- What stands under a key of a mapping is smaller than the mapping. -/
theorem sizeOf_lt_dict {entry : Value × Value} {entries : List (Value × Value)} (h : entry ∈ entries) :
    sizeOf entry.2 < sizeOf (dict entries) := by
  have hlt := List.sizeOf_lt_of_mem h
  obtain ⟨key, v⟩ := entry
  simp only [Prod.mk.sizeOf_spec, dict.sizeOf_spec] at hlt ⊢
  omega

/-! ## Types -/

/-- The name of a value's type. -/
def typeName : Value → Text
  | null => "NoneType"
  | bool _ => "bool"
  | int _ => "int"
  | float _ => "float"
  | text _ => "str"
  | bytes _ => "bytes"
  | buffer _ => "bytearray"
  | list _ => "list"
  | tuple _ => "tuple"
  | set _ => "set"
  | dict _ => "dict"
  | pattern _ => "Pattern"
  | record kind _ => kind.name
  | recordClass _ | plainClass _ => "type"
  | function _ => "function"
  | other name => name

/-- The name of a value's type with the library that it belongs to, where that is not the core one. -/
def qualifiedTypeName : Value → Text
  | pattern _ => "re.Pattern"
  | v => v.typeName

/-- Does the value count as true? Nothing, zero and what is empty do not. -/
def isTruthy : Value → Bool
  | null => false
  | bool b => b
  | int n => n != 0
  | float x => !x.isZero
  | text t => !t.isEmpty
  | bytes b | buffer b => !b.isEmpty
  | list items | tuple items | set items => !items.isEmpty
  | dict entries => !entries.isEmpty
  | _ => true

/-- Is the value nothing? -/
def isNull : Value → Bool
  | null => true
  | _ => false

theorem isNull_iff {v : Value} : v.isNull = true ↔ v = .null := by
  cases v <;> simp [isNull]

/-- The text that a value is. -/
def text? : Value → Option Text
  | text t => some t
  | _ => none

/-- The value of a text that may be missing. -/
def ofText? : Option Text → Value
  | some t => text t
  | none => null

theorem ofText?_eq_null_or (t? : Option Text) : ofText? t? = .null ∨ ∃ t, ofText? t? = .text t := by
  cases t? with
  | none => exact .inl rfl
  | some t => exact .inr ⟨t, rfl⟩

/-- Is the value a given text? -/
def isText (v : Value) (t : Text) : Bool := v.text? == some t

theorem text?_eq_some_iff {v : Value} {t : Text} : v.text? = some t ↔ v = .text t := by
  cases v <;> simp [text?]

/-- The integer that a value is; truth values count. -/
def integer? : Value → Option Int
  | int n => some n
  | bool b => some (if b then 1 else 0)
  | _ => none

/-- The field of a record, or what the class of a kind of record has in the place of a field. Nothing is known of a
user's class. -/
def field? (name : Text) : Value → Option Value
  | record _ fields => fields.lookup name
  | recordClass (.user _) => none
  | recordClass kind => if kind.fieldNames.contains name then some (other "member_descriptor") else none
  | _ => none

/-- The classes of kinds that are no user's have something of one type in the place of each field. -/
theorem field?_recordClass_eq_some_iff {name : Text} {kind : RecordKind} {v : Value} :
    (recordClass kind).field? name = some v ↔
      (∀ c, kind ≠ .user c) ∧ name ∈ kind.fieldNames ∧ v = .other "member_descriptor" := by
  by_cases huser : ∃ c, kind = .user c
  · obtain ⟨c, rfl⟩ := huser
    exact iff_of_false nofun fun h => h.1 c rfl
  · have hlibrary : ∀ c, kind ≠ .user c := not_exists.mp huser
    simp [field?, hlibrary, eq_comm]

theorem eq_of_field?_recordClass {name : Text} {kind : RecordKind} {v : Value}
    (h : (recordClass kind).field? name = some v) : v = .other "member_descriptor" :=
  (field?_recordClass_eq_some_iff.mp h).2.2

/-- What a pattern was read from, as a value. -/
def ofPatternSource : PatternSource → Value
  | .text t => text t
  | .bytes b => bytes b

/-- What can be read off a value under a name: its fields, and what a pattern was read from. -/
def member? (name : Text) : Value → Option Value
  | pattern p => if name = "pattern" then some (ofPatternSource p.source) else none
  | v => v.field? name

/-- The first part of a value that cannot be a key, by the name of its type. -/
def unhashable? : Value → Option Text
  | list _ => some "list"
  | dict _ => some "dict"
  | set _ => some "set"
  | buffer _ => some "bytearray"
  | tuple items => unhashableIn? items
  | record _ fields => unhashableField? fields
  | _ => none
where
  /-- The first part of several values that cannot be a key. -/
  unhashableIn? : List Value → Option Text
    | [] => none
    | v :: rest => v.unhashable?.or (unhashableIn? rest)
  /-- The first part of a record's fields that cannot be a key. -/
  unhashableField? : List (Text × Value) → Option Text
    | [] => none
    | (_, v) :: rest => v.unhashable?.or (unhashableField? rest)

/-! ## Callables -/

/-- Can the value be called? -/
def isCallable : Value → Bool
  | recordClass _ | plainClass _ | function _ => true
  | record (.user c) _ => c.isCallable
  | _ => false

end Value

/-- A handler, hook or anything else that can be called. -/
structure Callable where
  /-- the value that it is -/
  value : Value
  /-- it can be called -/
  callable : value.isCallable = true

namespace Callable

/-- The function of a number. -/
def function (number : Nat) : Callable := ⟨.function number, rfl⟩

theorem ext {c d : Callable} (h : c.value = d.value) : c = d := by
  cases c
  cases d
  cases h
  rfl

end Callable

/-- The callable that a value is. -/
def Value.callable? (v : Value) : Option Callable := if h : v.isCallable = true then some ⟨v, h⟩ else none

theorem Value.callable?_eq_some_iff {v : Value} {c : Callable} : v.callable? = some c ↔ v = c.value := by
  rw [callable?]
  constructor
  · intro h
    split at h
    · exact congrArg Callable.value (Option.some.inj h)
    · cases h
  · rintro rfl
    exact dif_pos c.callable

@[simp] theorem Callable.callable?_value (c : Callable) : c.value.callable? = some c :=
  Value.callable?_eq_some_iff.mpr rfl

@[simp] theorem Callable.isNull_value (c : Callable) : c.value.isNull = false := by
  obtain ⟨v, hv⟩ := c
  cases v <;> first | rfl | cases hv

end SemverDispatch
