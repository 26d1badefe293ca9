import SemverDispatch.Multimap
import SemverDispatch.Value.Access
import SemverDispatch.Text.Lowercase

/-!
# Headers

The headers of a request: a multimap whose names are folded to lower case when it is built. A name that
is looked up is folded too, so case never matters. On the wire both names and values are Latin-1.

Whoever builds headers by hand may put any values under the names; on the wire values are text.
-/

namespace SemverDispatch

/-- Headers in order of arrival. -/
structure Headers where
  /-- folded names and values -/
  pairs : Multimap Value

namespace Headers

/-! ## Building -/

/-- The headers of names and values. -/
def ofPairs (pairs : List (Text × Value)) : Headers :=
  ⟨pairs.map fun (name, value) => (name.lower, value)⟩

/-- The headers of names and values in bytes. -/
def ofRaw (raw : List (Bytes × Bytes)) : Headers :=
  ofPairs (raw.map fun (name, value) => (Latin1.decode name, .text (Latin1.decode value)))

/-- The headers of names and values, where a name has to be text. -/
def ofValues (pairs : List (Value × Value)) : Except Failure Headers := do
  let named ← pairs.mapM fun (name, value) =>
    match name with
    | .text t => return (t, value)
    | v => throw (.noAttribute v.qualifiedTypeName "lower")
  return ofPairs named

instance : EmptyCollection Headers := ⟨⟨[]⟩⟩

/-! ## Looking up -/

/-- Every value under a name, in order of arrival. -/
def getAll (h : Headers) (name : Text) : List Value := h.pairs.getAll name.lower

/-- The first value under a name. -/
def get? (h : Headers) (name : Text) : Option Value := h.pairs.get? name.lower

/-- Does a name occur? -/
def contains (h : Headers) (name : Text) : Bool := h.pairs.contains name.lower

/-- A name that is looked up, if it is text. Bytes are never a name, and anything else cannot be folded. -/
def nameOf (v : Value) : Except Failure (Option Text) :=
  match v with
  | .text name => .ok (some name)
  | .bytes _ | .buffer _ => .ok none
  | v => .error (.noAttribute v.qualifiedTypeName "lower")

/-- Every value under a name that may be no text. -/
def getAllOf (h : Headers) (name : Value) : Except Failure (List Value) :=
  return (← nameOf name).elim [] h.getAll

/-- The first value under a name that may be no text. -/
def getOf (h : Headers) (name : Value) : Except Failure (Option Value) :=
  return (← nameOf name).bind h.get?

/-- The first value under a name that has to be there. -/
def get (h : Headers) (name : Value) : Except Failure Value := do
  match ← h.getOf name with
  | some value => return value
  | none => throw (.noKey name.display)

/-- Does a name that may be no text occur? -/
def containsOf (h : Headers) (name : Value) : Bool := name.text?.any h.contains

/-! ## Views -/

/-- The distinct names, in order of first arrival. -/
def names (h : Headers) : List Text := h.pairs.names

/-- The distinct names with their first values. -/
def items (h : Headers) : List (Text × Value) := h.pairs.items

/-- The number of distinct names. -/
def size (h : Headers) : Nat := h.names.length

/-- The names and values in bytes, if they have any. -/
def raw (h : Headers) : Except Failure (List (Bytes × Bytes)) :=
  h.pairs.mapM fun (name, value) => return (← name.latin1, ← value.latin1)

/-- The headers as a message shows them. -/
def literal (h : Headers) : Text :=
  let pairs := h.pairs.map fun (name, value) => Value.tuple [.text name, value]
  ("Headers(" : Text) ++ (Value.list pairs).literal ++ [.char ')']

/-- Do two headers have the same names, with the same first values? -/
def same (h other : Headers) : Bool := h.pairs.agrees Value.same other.pairs

/-- Headers never change. -/
def assign (_ : Headers) : Failure := .immutable "Headers"

end Headers

end SemverDispatch
