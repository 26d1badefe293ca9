import SemverDispatch.Value.Basic

/-!
# Comparing values

When two values are the same, and which comes first. Numbers compare by value across their types, and
texts by code points. Most other values have no order.
-/

namespace SemverDispatch

namespace Value

/-! ## Numbers -/

/-- Is an integer the value of a floating point number? -/
def sameAsFloat (n : Int) (x : Binary64) : Bool :=
  match x.quotient? with
  | some (m, d) => m == n * d
  | none => false

/-- Is an integer less than a floating point number? -/
def intLtFloat (n : Int) : Binary64 → Bool
  | .nan => false
  | .infinite negative => !negative
  | x =>
    match x.quotient? with
    | some (m, d) => n * d < m
    | none => false

/-- Is a floating point number less than an integer? -/
def floatLtInt (n : Int) : Binary64 → Bool
  | .nan => false
  | .infinite negative => negative
  | x =>
    match x.quotient? with
    | some (m, d) => m < n * d
    | none => false

/-- A value as an exact number: an integer or a floating point number. -/
def number? : Value → Option (Int ⊕ Binary64)
  | bool b => some (.inl (if b then 1 else 0))
  | int n => some (.inl n)
  | float x => some (.inr x)
  | _ => none

/-- Are two numbers the same value? -/
def sameNumber : Int ⊕ Binary64 → Int ⊕ Binary64 → Bool
  | .inl a, .inl b => a == b
  | .inl a, .inr b => sameAsFloat a b
  | .inr a, .inl b => sameAsFloat b a
  | .inr a, .inr b => a.sameValue b

/-- Is one number less than another? -/
def ltNumber : Int ⊕ Binary64 → Int ⊕ Binary64 → Bool
  | .inl a, .inl b => a < b
  | .inl a, .inr b => intLtFloat a b
  | .inr a, .inl b => floatLtInt b a
  | .inr a, .inr b => a.lt b

/-! ## Equality -/

/-- Are two values the same? Entries and members count without their order. -/
def same : Value → Value → Bool
  | null, null => true
  | bool b, w => (number? w).any (sameNumber (.inl (if b then 1 else 0)))
  | int n, w => (number? w).any (sameNumber (.inl n))
  | float x, w => (number? w).any (sameNumber (.inr x))
  | text t, text u => t == u
  | bytes b, bytes c | bytes b, buffer c | buffer b, bytes c | buffer b, buffer c => b == c
  | list items, list others => sameAll items others
  | tuple items, tuple others => sameAll items others
  | set items, set others => items.length == others.length && allAmong items others
  | dict entries, dict others => entries.length == others.length && allEntriesAmong entries others
  | pattern p, pattern q => p.source == q.source && Flag.inOrder p.flags == Flag.inOrder q.flags
  | record kind fields, record kind' others => kind == kind' && sameFields fields others
  | recordClass kind, recordClass kind' => kind == kind'
  | plainClass m, plainClass n | function m, function n => m == n
  | _, _ => false
termination_by structural v => v
where
  /-- Are two rows of values the same? -/
  sameAll : List Value → List Value → Bool
    | [], [] => true
    | v :: vs, w :: ws => v.same w && sameAll vs ws
    | _, _ => false
  termination_by structural vs => vs
  /-- Is each value the same as one of others? -/
  allAmong : List Value → List Value → Bool
    | [], _ => true
    | v :: vs, others => others.any (fun w => v.same w) && allAmong vs others
  termination_by structural vs => vs
  /-- Is each entry the same as one of others? -/
  allEntriesAmong : List (Value × Value) → List (Value × Value) → Bool
    | [], _ => true
    | (k, v) :: rest, others =>
      others.any (fun (k', v') => k.same k' && v.same v') && allEntriesAmong rest others
  termination_by structural entries => entries
  /-- Are the fields of two records of one kind the same? -/
  sameFields : List (Text × Value) → List (Text × Value) → Bool
    | [], [] => true
    | (name, v) :: rest, (name', w) :: others => name == name' && v.same w && sameFields rest others
    | _, _ => false
  termination_by structural fields => fields

/-! ## Order -/

/-- Is one value less than another? Rows are compared by their first difference. If there is no order, the
types of the two parts that have none. -/
def lt : Value → Value → Except (Text × Text) Bool
  | text t, text u => .ok (Text.lt t u)
  | bytes b, bytes c | bytes b, buffer c | buffer b, bytes c | buffer b, buffer c =>
    .ok (Text.lt (b.map fun x => .ofNat x.toNat) (c.map fun x => .ofNat x.toNat))
  | list items, list others => ltAll items others
  | tuple items, tuple others => ltAll items others
  | v, w =>
    match number? v, number? w with
    | some a, some b => .ok (ltNumber a b)
    | _, _ => .error (v.qualifiedTypeName, w.qualifiedTypeName)
termination_by structural v => v
where
  /-- Is one row of values less than another? The first difference decides. -/
  ltAll : List Value → List Value → Except (Text × Text) Bool
    | [], others => .ok !others.isEmpty
    | _ :: _, [] => .ok false
    | v :: vs, w :: ws => if v.same w then ltAll vs ws else v.lt w
  termination_by structural vs => vs

/-! ## Entries -/

/-- Entries with a value put under a key. A key that is there keeps its place. -/
def insertEntry (entries : List (Value × Value)) (key value : Value) : List (Value × Value) :=
  match entries with
  | [] => [(key, value)]
  | (k, v) :: rest =>
    if key.same k then (k, value) :: rest else (k, v) :: insertEntry rest key value

/-- The value under a text among entries. -/
def entry? (entries : List (Value × Value)) (key : Text) : Option Value :=
  match entries with
  | [] => none
  | (.text k, v) :: rest => if k = key then some v else entry? rest key
  | _ :: rest => entry? rest key

end Value

end SemverDispatch
