import SemverDispatch.Failure
import SemverDispatch.Record

/-!
# Merging options

Partial options, a mapping with the names of the fields, laid over a record: a field that is named takes
the value given, sections are merged in the same way, and all else stays. Names that no field has are
an error, and are reported in order.

A section is whatever is a record, and so is the class of a kind of record, which has fields as well; but there is
no record whose fields could be replaced then.
-/

namespace SemverDispatch

namespace Options

/-! ## Unknown names -/

/-- Inserts a value into a sorted row, behind those that are not greater. -/
def insertSorted (v : Value) : List Value → Except Failure (List Value)
  | [] => .ok [v]
  | w :: rest =>
    match v.lt w with
    | .error (left, right) => .error (.unordered left right)
    | .ok true => .ok (v :: w :: rest)
    | .ok false => (insertSorted v rest).map (w :: ·)

/-- Values in order, if they have one. -/
def sorted : List Value → Except Failure (List Value)
  | [] => .ok []
  | v :: rest => sorted rest >>= insertSorted v

/-- The texts that values are, counted from an index. -/
def texts (index : Nat) : List Value → Except Failure (List Text)
  | [] => .ok []
  | .text t :: rest => (texts (index + 1) rest).map (t :: ·)
  | v :: _ => .error (.notText index v.qualifiedTypeName)

/-- What is said of names that no field of the record at `place` has. -/
def unknownNames (place : Text) (names : List Value) : Failure :=
  match sorted names >>= texts 0 with
  | .ok ts => .configuration ("unknown option(s) in '" ++ place ++ "': " ++ Text.join ", " ts)
  | .error e => e

/-- Is a value the name of a field? -/
def isKnown (fields : List (Text × Value)) (name : Value) : Bool :=
  name.text?.any fun t => (fields.lookup t).isSome

/-- Is a value among the names of fields? -/
def isAmong (names : List Text) (name : Value) : Bool := name.text?.any names.contains

/-! ## Merging -/

/-- Is the first value's type that of the second, or a part of it? An object of a type that means nothing
here may have any name, also that of a record, and so may a user's record. -/
def isInstance (v w : Value) : Bool :=
  match v, w with
  | .bool _, .int _ => true
  | .record kind _, .record kind' _ => kind = kind'
  | .record .., _ => false
  | _, .record .. => false
  | .other name, .other name' => name = name'
  | .other _, _ => false
  | _, .other _ => false
  | _, _ => v.typeName = w.typeName

/-- Does a value have fields? -/
def isRecord : Value → Bool
  | .record .. | .recordClass _ => true
  | _ => false

/-- Fields with a value put under a name. -/
def setField (fields : List (Text × Value)) (name : Text) (value : Value) : List (Text × Value) :=
  fields.map fun (n, v) => if n = name then (n, value) else (n, v)

/-- The options `given` laid over `base`, which stands at `place`. Nothing leaves the base as it is, and
a value of the base's own type replaces it. -/
def merge (base : Value) (place : Text) (given : Value) : Except Failure Value :=
  match given with
  | .null => .ok base
  | .dict entries =>
    match base with
    | .dict _ => .ok (.dict entries)
    | .record kind fields =>
      let unknown := (entries.map Prod.fst).filter fun name => !isKnown fields name
      if unknown.isEmpty then (mergeEntries place fields entries fields).map (.record kind)
      else .error (unknownNames place unknown)
    | .recordClass kind =>
      let unknown := (entries.map Prod.fst).filter fun name => !isAmong kind.fieldNames name
      if unknown.isEmpty then .error .notReplaceable else .error (unknownNames place unknown)
    | _ => .error .notRecord
  | v =>
    if isInstance v base then .ok v
    else
      .error (.configuration ("'" ++ place ++ "' must be a mapping or " ++ base.typeName ++ ", got "
        ++ v.typeName))
termination_by structural given
where
  /-- Entries laid over fields, from the left; each finds its section among the fields `before`. -/
  mergeEntries (place : Text) (before : List (Text × Value)) (entries : List (Value × Value))
      (fields : List (Text × Value)) : Except Failure (List (Text × Value)) :=
    match entries with
    | [] => .ok fields
    | (.text name, v) :: rest =>
      match before.lookup name with
      | some (.record kind section_) => do
        let merged ← merge (.record kind section_) (place ++ "." ++ name) v
        mergeEntries place before rest (setField fields name merged)
      | some (.recordClass kind) => do
        let merged ← merge (.recordClass kind) (place ++ "." ++ name) v
        mergeEntries place before rest (setField fields name merged)
      | _ => mergeEntries place before rest (setField fields name v)
    | _ :: rest => mergeEntries place before rest fields
  termination_by structural entries

end Options

end SemverDispatch
