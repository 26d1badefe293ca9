import SemverDispatch.Value.Basic
import SemverDispatch.Text.Quoted

/-!
# Signatures

What a constructor takes when it is called by name, with arguments by position and by name.
`Signature.bind` finds the value of every parameter, or says what is wrong with the arguments: a name that
is unknown or given twice, too many arguments, or too few. Counts include the object that is made.
-/

namespace SemverDispatch

/-- A parameter of a constructor. -/
structure Parameter where
  /-- its name -/
  name : Text
  /-- the value that it has if it is not given -/
  default : Option Value
  /-- can it be given by name alone? -/
  byNameOnly : Bool

namespace Parameter

/-- A parameter that has to be given. -/
def required (name : Text) : Parameter := ⟨name, none, false⟩

/-- A parameter with a default. -/
def optional (name : Text) (default : Value) : Parameter := ⟨name, some default, false⟩

/-- A parameter with a default that is given by name. -/
def named (name : Text) (default : Value) : Parameter := ⟨name, some default, true⟩

end Parameter

/-- A constructor: what it makes, and its parameters in order. -/
structure Signature where
  /-- the name of what it makes -/
  name : Text
  /-- the parameters; those that are given by name alone come last -/
  parameters : List Parameter

/-- What is wrong with the arguments of a call. -/
inductive ArgumentError where
  /-- no parameter has the name -/
  | unexpected (name : Text)
  /-- a parameter is given twice -/
  | repeated (name : Text)
  /-- more arguments than parameters -/
  | tooMany (least most given byName : Nat)
  /-- parameters are not given -/
  | missing (names : List Text)
  deriving DecidableEq, Repr

namespace ArgumentError

/-- The ending of a noun for a count. -/
def plural (n : Nat) : Text := if n = 1 then "" else "s"

/-- The names in quotes, as a row with an `and` before the last. -/
def enumeration : List Text → Text
  | [] => []
  | [a] => a.quoted
  | [a, b] => a.quoted ++ " and " ++ b.quoted
  | names => Text.join ", " (names.dropLast.map Text.quoted) ++ ", and "
      ++ Text.quoted (names.getLast?.getD [])

/-- How many arguments are allowed. -/
def allowance (least most : Nat) : Text :=
  if least = most then Decimal.ofNat most ++ " positional argument" ++ plural most
  else "from " ++ Decimal.ofNat least ++ " to " ++ Decimal.ofNat most ++ " positional arguments"

/-- How many arguments are given. -/
def supply (given byName : Nat) : Text :=
  if byName = 0 then Decimal.ofNat given ++ (if given = 1 then " was" else " were")
  else Decimal.ofNat given ++ " positional argument" ++ plural given ++ " (and "
    ++ Decimal.ofNat byName ++ " keyword-only argument" ++ plural byName ++ ") were"

/-- The error as text, for a constructor of a name. -/
def message (name : Text) (e : ArgumentError) : Text :=
  name ++ ".__init__() " ++
    match e with
    | unexpected argument => "got an unexpected keyword argument '" ++ argument ++ "'"
    | repeated argument => "got multiple values for argument " ++ argument.quoted
    | tooMany least most given byName =>
      "takes " ++ allowance least most ++ " but " ++ supply given byName ++ " given"
    | missing names =>
      "missing " ++ Decimal.ofNat names.length ++ " required positional argument"
        ++ plural names.length ++ ": " ++ enumeration names

end ArgumentError

namespace Signature

/-- The name under which the object that is made is a parameter too. -/
def receiver : Text := "self"

/-- The parameters that can be given by position. -/
def positional (s : Signature) : List Parameter := s.parameters.filter fun p => !p.byNameOnly

/-- The named arguments put behind those already placed. -/
def placeNamed (s : Signature) (placed : List (Text × Value)) :
    List (Text × Value) → Except ArgumentError (List (Text × Value))
  | [] => .ok placed
  | (name, v) :: rest =>
    if name = receiver then .error (.repeated name)
    else if s.parameters.all fun p => p.name ≠ name then .error (.unexpected name)
    else if (placed.lookup name).isSome then .error (.repeated name)
    else s.placeNamed (placed ++ [(name, v)]) rest

/-- The error of more arguments than parameters. -/
def excess (s : Signature) (given : Nat) (placed : List (Text × Value)) : ArgumentError :=
  let byName := s.parameters.filter fun p => p.byNameOnly && (placed.lookup p.name).isSome
  let least := s.positional.filter fun p => p.default.isNone
  .tooMany (least.length + 1) (s.positional.length + 1) (given + 1) byName.length

/-- The value of every parameter, in their order. -/
def bind (s : Signature) (args : List Value) (named : List (Text × Value)) :
    Except ArgumentError (List (Text × Value)) := do
  let placed ← s.placeNamed ((s.positional.map Parameter.name).zip args) named
  if s.positional.length < args.length then throw (s.excess args.length placed)
  let given (p : Parameter) : Option Value := (placed.lookup p.name).or p.default
  match s.parameters.filter fun p => (given p).isNone with
  | [] => return s.parameters.map fun p => (p.name, (given p).getD .null)
  | unset => throw (.missing (unset.map Parameter.name))

end Signature

end SemverDispatch
