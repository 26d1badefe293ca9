import SemverDispatch.VersioningError
import SemverDispatch.Signature
import SemverDispatch.Json.Writer
import SemverDispatch.Json.Reader
import SemverDispatch.Pattern.Parser

/-!
# Failures

Every way in which an operation ends without a result: a versioning error, a value put to a use that its
type does not allow, text or bytes that cannot be converted, or whatever a callable raised.
-/

namespace SemverDispatch

/-- Why an operation gave no result. -/
inductive Failure where
  /-- a versioning error -/
  | versioning (e : VersioningError)
  /-- a callable raised an error of a named kind -/
  | raised (kind message : Text)
  /-- a callable raised, under the name of its class, what ends an iteration -/
  | stopped (kind message : Text)
  /-- two values of these types have no order -/
  | unordered (left right : Text)
  /-- text was expected at a place in a row -/
  | notText (index : Nat) (typeName : Text)
  /-- a value of this type can be no key and no member of a set -/
  | unhashable (typeName : Text)
  /-- a value of this type has nothing under a name -/
  | noAttribute (typeName name : Text)
  /-- fields of something that is no record were to be replaced -/
  | notReplaceable
  /-- fields of something that is no record were to be listed -/
  | notRecord
  /-- a value of this type was called -/
  | notCallable (typeName : Text)
  /-- the constructor of a name was called with arguments that do not fit -/
  | badArguments (constructor : Text) (e : ArgumentError)
  /-- a value of this type was taken apart -/
  | notIterable (typeName : Text)
  /-- a value of this type was to give items to a row -/
  | notSpreadable (typeName : Text)
  /-- a value of this type was taken for a pair -/
  | noPair (typeName : Text)
  /-- a row of fewer than two was taken for a pair -/
  | tooFew (length : Nat)
  /-- a row of more than two was taken for a pair -/
  | tooMany
  /-- a value of this type has no length -/
  | notSized (typeName : Text)
  /-- a value of this type was searched for a pattern -/
  | notSearchable (typeName : Text)
  /-- bytes were searched for a pattern of text -/
  | bytesSearched
  /-- text was searched for a pattern of bytes -/
  | textSearched
  /-- parts of a value are too deep inside each other -/
  | tooDeep
  /-- a value of this type was read as JSON -/
  | noJson (typeName : Text)
  /-- a value of this type stands where a number is compared -/
  | notComparable (typeName : Text)
  /-- a value of this type is no response -/
  | noResponse (typeName : Text)
  /-- a value has no JSON -/
  | notWritable (e : Json.WriteError)
  /-- a text is no JSON -/
  | notReadable (e : Json.ReadError)
  /-- a text has no bytes in its encoding -/
  | notEncodable
  /-- bytes are no text in their encoding -/
  | notDecodable
  /-- nothing stands under a key -/
  | noKey (key : Text)
  /-- a pattern has no group of the number asked for -/
  | noGroup
  /-- a group of a match ends before it begins -/
  | crossedGroup
  /-- a text is no pattern -/
  | badPattern (source : Text) (e : PatternError)
  /-- a component of a version is negative -/
  | negativeComponent (major minor patch : Int)
  /-- a number was shifted by a negative width -/
  | negativeShift
  /-- a text writes no whole number -/
  | notInteger (t : Text)
  /-- a text writes no number -/
  | notNumber (t : Text)
  /-- an integer has more digits than are read -/
  | tooLong (digits : Nat)
  /-- an integer has more digits than are written -/
  | tooLarge
  /-- a field of something that never changes was assigned -/
  | frozenField (name : Text)
  /-- something that is no field of a record that never changes was assigned -/
  | noField
  /-- something that never changes was assigned to -/
  | immutable (what : Text)
  /-- a module has nothing under a name -/
  | noPublicName (module name : Text)
  /-- no message is left to receive -/
  | nothingToReceive

namespace Failure

/-- What a message says about a type and a name that it lacks. -/
def lacks (typeName name : Text) : Text :=
  "'" ++ typeName ++ "' object has no attribute '" ++ name ++ "'"

/-- The text of a failure, if it has one. -/
def message? : Failure → Option Text
  | versioning e => some e.line
  | raised _ message | stopped _ message => some message
  | unordered left right =>
    some ("'<' not supported between instances of '" ++ left ++ "' and '" ++ right ++ "'")
  | notText index name =>
    some ("sequence item " ++ Decimal.ofNat index ++ ": expected str instance, " ++ name ++ " found")
  | unhashable name => some ("unhashable type: '" ++ name ++ "'")
  | noAttribute typeName name => some (lacks typeName name)
  | notReplaceable => some "replace() should be called on dataclass instances"
  | notRecord => some "must be called with a dataclass type or instance"
  | notCallable name => some ("'" ++ name ++ "' object is not callable")
  | badArguments constructor e => some (e.message constructor)
  | notIterable name => some ("'" ++ name ++ "' object is not iterable")
  | notSpreadable name => some ("Value after * must be an iterable, not " ++ name)
  | noPair name => some ("cannot unpack non-iterable " ++ name ++ " object")
  | tooFew length =>
    some ("not enough values to unpack (expected 2, got " ++ Decimal.ofNat length ++ ")")
  | tooMany => some "too many values to unpack (expected 2)"
  | notSized name => some ("object of type '" ++ name ++ "' has no len()")
  | notSearchable name => some ("expected string or bytes-like object, got '" ++ name ++ "'")
  | bytesSearched => some "cannot use a string pattern on a bytes-like object"
  | textSearched => some "cannot use a bytes pattern on a string-like object"
  | tooDeep => some "maximum recursion depth exceeded"
  | noJson name => some ("the JSON object must be str, bytes or bytearray, not " ++ name)
  | notComparable name =>
    some ("'<=' not supported between instances of 'int' and '" ++ name ++ "'")
  | noResponse name => some ("Cannot convert " ++ name ++ " to a response")
  | notWritable e => some e.message
  | notReadable e => e.message?
  | notEncodable => none
  | notDecodable => none
  | noKey key => some key
  | noGroup => some "no such group"
  | crossedGroup =>
    some "The span of capturing group is wrong, please report a bug for the re module."
  | badPattern source e => some (e.message source)
  | negativeComponent major minor patch =>
    some ("Version components must be non-negative, got (" ++ Decimal.ofInt major ++ ", "
      ++ Decimal.ofInt minor ++ ", " ++ Decimal.ofInt patch ++ ")")
  | negativeShift => some "negative shift count"
  | notInteger t =>
    some ("invalid literal for int() with base 10: " ++ (Text.quoted t).take 200)
  | notNumber t => some ("could not convert string to float: " ++ Text.quoted t)
  | tooLong digits => some (Decimal.tooLong digits)
  | tooLarge => some Decimal.tooLarge
  | frozenField name => some ("cannot assign to field '" ++ name ++ "'")
  | noField => some "super(type, obj): obj must be an instance or subtype of type"
  | immutable what => some (what ++ " is immutable")
  | noPublicName module name =>
    some ("module " ++ Text.quoted module ++ " has no attribute " ++ Text.quoted name)
  | nothingToReceive => some "receive exhausted"

/-- A failure of configuration, by its reason. -/
def configuration (reason : Text) : Failure :=
  .versioning (.invalidConfiguration reason)

/-- A failure that leaves a coroutine. What ends an iteration cannot. -/
def outOfCoroutine : Failure → Failure
  | stopped .. => raised "RuntimeError" "coroutine raised StopIteration"
  | e => e

@[simp] theorem outOfCoroutine_idem (e : Failure) : e.outOfCoroutine.outOfCoroutine = e.outOfCoroutine := by
  cases e <;> rfl

/-- A failure to write JSON. An integer that is too large fails as it does wherever it is written. -/
def ofWriteError : Json.WriteError → Failure
  | .tooLarge => .tooLarge
  | e => .notWritable e

end Failure

end SemverDispatch
