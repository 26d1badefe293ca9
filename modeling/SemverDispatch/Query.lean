import SemverDispatch.Form
import SemverDispatch.Multimap
import SemverDispatch.Value.Access

/-!
# Query strings

The query of a request: what it was made of, and the fields that it writes. A field without a value counts, so
that a parameter that is there but empty can be told from one that is missing.

A query that came in a buffer is read as ASCII, and its names and values are bytes, so no text is a name in it.
-/

namespace SemverDispatch

/-- A query. -/
structure Query where
  /-- what it was made of; bytes have become the code points of their numbers -/
  source : Value
  /-- names and values in order -/
  fields : Multimap Text

namespace Query

/-! ## Building -/

/-- The query of a text. -/
def ofText (t : Text) : Query := ⟨.text t, Form.parse t⟩

/-- The query of bytes. -/
def ofBytes (bs : Bytes) : Query := ofText (Latin1.decode bs)

instance : EmptyCollection Query := ⟨ofText []⟩

/-- Is the text ASCII? -/
def isAscii (t : Text) : Bool := t.all (·.value < 0x80)

/-- The query in a buffer. The buffer has to be ASCII, and so do names and values. -/
def ofBuffer (bs : Bytes) : Except Failure Query :=
  let raw := Latin1.decode bs
  let fields := Form.parse raw
  if !isAscii raw then .error .notDecodable
  else if fields.all fun (name, value) => isAscii name && isAscii value then
    .ok ⟨.buffer bs, fields⟩
  else .error .notEncodable

/-- The query of a value that is text or bytes. What counts as false has no fields. -/
def ofValue : Value → Except Failure Query
  | .text t => .ok (ofText t)
  | .bytes b => .ok (ofBytes b)
  | .buffer b => ofBuffer b
  | v =>
    if v.isTruthy then .error (.noAttribute v.qualifiedTypeName "decode") else .ok ⟨v, []⟩

/-- The form encoding of one name or value. Bytes are encoded as they are, all else as the text that
displays it. -/
def encodeComponent (v : Value) : Except Failure Text :=
  match v with
  | .bytes b => .ok (Form.encodeBytes b)
  | v =>
    match Form.encodeText? v.display with
    | some t => .ok t
    | none => .error .notEncodable

/-- The query whose fields are the entries of a mapping. -/
def ofEntries (entries : List (Value × Value)) : Except Failure Query := do
  let fields ← entries.mapM fun (name, value) => do
    return Form.field (← encodeComponent name) (← encodeComponent value)
  return ofText (Form.joinFields fields)

/-! ## Looking up -/

/-- Did the query come in a buffer? -/
def inBuffer (q : Query) : Bool :=
  match q.source with
  | .buffer _ => true
  | _ => false

/-- Every value under a name, in order. -/
def getAll (q : Query) (name : Text) : List Text := q.fields.getAll name

/-- The first value under a name. -/
def get? (q : Query) (name : Text) : Option Text := q.fields.get? name

/-- Does a name occur? -/
def contains (q : Query) (name : Text) : Bool := q.fields.contains name

/-- A name that is looked up, if it is text, or bytes in a buffer. Anything else is no name, and cannot be
looked for at all if it cannot be a key. -/
def nameOf (q : Query) (v : Value) : Except Failure (Option Text) := do
  match ← v.asKey with
  | .text t => return if q.inBuffer then none else some t
  | .bytes b => return if q.inBuffer then some (Latin1.decode b) else none
  | _ => return none

/-- Every value under a name that may be no text. -/
def getAllOf (q : Query) (name : Value) : Except Failure (List Text) :=
  return (← q.nameOf name).elim [] q.getAll

/-- The first value under a name that may be no text. -/
def getOf (q : Query) (name : Value) : Except Failure (Option Text) :=
  return (← q.nameOf name).bind q.get?

/-- The first value under a name that has to be there. -/
def get (q : Query) (name : Value) : Except Failure Text := do
  match ← q.getOf name with
  | some value => return value
  | none => throw (.noKey name.display)

/-- Does a name that may be no text occur? -/
def containsOf (q : Query) (name : Value) : Except Failure Bool :=
  return (← q.nameOf name).any q.contains

/-! ## Views -/

/-- The distinct names, in order of first occurrence. -/
def names (q : Query) : List Text := q.fields.names

/-- The distinct names with their first values. -/
def items (q : Query) : List (Text × Text) := q.fields.items

/-- The number of distinct names. -/
def size (q : Query) : Nat := q.names.length

/-- A name or value of a field as the value that it is. -/
def component (q : Query) (t : Text) : Value :=
  if q.inBuffer then .bytes (t.map fun c => UInt8.ofNat c.value) else .text t

/-- The query as a message shows it. -/
def literal (q : Query) : Text := ("QueryParams(" : Text) ++ q.source.literal ++ [.char ')']

/-- Do two queries have the same names, with the same first values? Text and bytes are never the same. -/
def same (q other : Query) : Bool :=
  q.fields.agrees (fun t u => (q.component t).same (other.component u)) other.fields

/-- Does a multimap of values have the same names, with the same first values? Its names are text. -/
def agreesWith (q : Query) (m : Multimap Value) : Bool :=
  if q.inBuffer then q.fields.isEmpty && m.isEmpty
  else q.fields.agrees (fun t v => (Value.text t).same v) m

/-- A query never changes. -/
def assign (_ : Query) : Failure := .immutable "QueryParams"

end Query

end SemverDispatch
