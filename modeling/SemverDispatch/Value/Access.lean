import SemverDispatch.Failure

/-!
# What values are made of

Taking values apart and putting them together: members, pairs, lengths, what stands under a name, what a
message shows, and dictionaries and sets, whose keys and members must not hold anything that can change.
-/

namespace SemverDispatch

/-- The digits of an integer, if there are not too many of them. -/
def Decimal.write (n : Int) : Except Failure Text :=
  if isTooLarge n then .error .tooLarge else .ok (ofInt n)

/-- The bytes of a text in Latin-1, if it has any. -/
def Text.latin1 (t : Text) : Except Failure Bytes :=
  match Latin1.encode? t with
  | some b => .ok b
  | none => .error .notEncodable

namespace Value

/-- The values that a value is made of: members, keys, bytes or single characters. -/
def parts? : Value → Option (List Value)
  | list items | tuple items | set items => some items
  | dict entries => some (entries.map Prod.fst)
  | text t => some (t.map fun c => text [c])
  | bytes b | buffer b => some (b.map fun x => int x.toNat)
  | _ => none

/-- The values that a value has to be made of. -/
def parts (v : Value) : Except Failure (List Value) :=
  match v.parts? with
  | some items => .ok items
  | none => .error (.notIterable v.qualifiedTypeName)

/-- The two values that a value has to be made of. -/
def pair (v : Value) : Except Failure (Value × Value) :=
  match v.parts? with
  | none => .error (.noPair v.qualifiedTypeName)
  | some [a, b] => .ok (a, b)
  | some (_ :: _ :: _ :: _) => .error .tooMany
  | some items => .error (.tooFew items.length)

/-- The number of values that a value is made of. -/
def size (v : Value) : Except Failure Nat :=
  match v.parts? with
  | some items => .ok items.length
  | none => .error (.notSized v.qualifiedTypeName)

/-- The bytes of a value in Latin-1, where the value has to be text. -/
def latin1 : Value → Except Failure Bytes
  | text t => t.latin1
  | v => .error (.noAttribute v.qualifiedTypeName "encode")

/-- A value that can be a key of a dictionary and a member of a set. -/
def asKey (v : Value) : Except Failure Value :=
  match v.unhashable? with
  | some part => .error (.unhashable part)
  | none => .ok v

/-- The dictionary of entries. A key that comes again keeps its first place and takes the last value. -/
def dictOf (entries : List (Value × Value)) : Except Failure Value := do
  let keyed ← entries.mapM fun (k, v) => return (← k.asKey, v)
  return .dict (keyed.foldl (fun found (k, v) => insertEntry found k v) [])

/-- The number of slots for some members of a set: enough to leave two in five empty. -/
def slots (members : Nat) : Nat := ([8, 32, 128, 512].find? fun n => members * 5 < (n - 1) * 3).getD 2048

/-- The slot of an integer among `n`. The slot of -1 is that of -2. -/
def slotOf (n : Nat) (k : Int) : Nat := ((if k = -1 then -2 else k) % (n : Int)).toNat

/-- The members of a set in the order in which it shows them: integers by their slots, anything else as it
came. -/
def arranged (members : List Value) : List Value :=
  match members.mapM integer? with
  | none => members
  | some _ =>
    let slot (v : Value) : Nat := slotOf (slots members.length) (v.integer?.getD 0)
    members.mergeSort fun v w => slot v ≤ slot w

/-- The set of members, each of which counts once. -/
def setOf (members : List Value) : Except Failure Value := do
  let keyed ← members.mapM asKey
  let once := keyed.foldl (fun found v => if found.any v.same then found else found ++ [v]) []
  return .set (arranged once)

/-- Does a value hold an integer with more digits than are written? -/
def holdsLarge : Value → Bool
  | int n => Decimal.isTooLarge n
  | list items | tuple items | set items => anyLarge items
  | dict entries => anyEntryLarge entries
  | record _ fields => anyFieldLarge fields
  | _ => false
where
  /-- Does one of several values? -/
  anyLarge : List Value → Bool
    | [] => false
    | v :: rest => v.holdsLarge || anyLarge rest
  /-- Does a key or a value of an entry? -/
  anyEntryLarge : List (Value × Value) → Bool
    | [] => false
    | (k, v) :: rest => k.holdsLarge || v.holdsLarge || anyEntryLarge rest
  /-- Does a field? -/
  anyFieldLarge : List (Text × Value) → Bool
    | [] => false
    | (_, v) :: rest => v.holdsLarge || anyFieldLarge rest

/-- A value as a message shows it, if its integers can be written. -/
def shown (v : Value) : Except Failure Text :=
  if v.holdsLarge then .error .tooLarge else .ok v.display

/-- What stands under a name. -/
def member (v : Value) (name : Text) : Except Failure Value :=
  match v.member? name with
  | some w => .ok w
  | none => .error (.noAttribute v.qualifiedTypeName name)

end Value

/-- A failure of a handler's entry, by its key and reason. A key that cannot be shown is a failure of its own. -/
def Failure.handler (key : Value) (reason : Text) : Failure :=
  match key.shown with
  | .ok shown => .versioning (.invalidHandler shown reason)
  | .error e => e

end SemverDispatch
