import BundleBinding.Value.Basic

/-!
Values in JSON. Writing forgets the kind; reading is told the kind, and takes an integer only if the
kind can hold it.
-/

namespace BundleBinding

inductive ValueError where
  | expected (what : String) (found : Json)
  | parcel (error : ParcelError)
  | parcels (found : Json)
  | sparse (error : SparseError)
  deriving Repr

namespace ValueError

def reason : ValueError → String
  | expected what found => "expected " ++ what ++ ", found " ++ found.render
  | parcel error => "expected \x7b\"class\": .., \"fields\": \x7b..\x7d\x7d: " ++ error.message
  | parcels found => "expected an array of parcelables, found " ++ found.render
  | sparse error => "expected an object of index -> parcelable: " ++ error.message

end ValueError

namespace Json

/-- An integer that a signed word of the given width holds. -/
def signed? (width : Nat) (json : Json) : Option Int :=
  json.int64?.bind fun value =>
    if -Int.pow 2 (width - 1) ≤ value ∧ value < Int.pow 2 (width - 1) then some value else none

def int8? (json : Json) : Option Int8 :=
  (json.signed? 8).map Int8.ofInt

def int16? (json : Json) : Option Int16 :=
  (json.signed? 16).map Int16.ofInt

def int32? (json : Json) : Option Int32 :=
  (json.signed? 32).map Int32.ofInt

def longInteger? (json : Json) : Option Int64 :=
  (json.signed? 64).map Int64.ofInt

def single? (json : Json) : Option Single :=
  json.double?.map Double.narrow

def char? (json : Json) : Option Char :=
  match json.string?.map String.toList with
  | some [c] => some c
  | _ => none

/-- The items of an array, if each can be read. -/
def items? {α : Type} (item? : Json → Option α) (json : Json) : Option (List α) :=
  json.array?.bind fun items => items.mapM item?

/-- Characters from an array, or those of a string. -/
def chars? (json : Json) : Option (List Char) :=
  match json with
  | string text => some text.toList
  | other => other.items? char?

end Json

namespace Value

def toJson : Value → Json
  | boolean value => .bool value
  | booleanArray values => .array (values.map .bool)
  | byte value => .integer value.toInt
  | byteArray values => .array (values.map fun value => .integer value.toInt)
  | char value => .string (String.singleton value)
  | charArray values => .array (values.map fun value => .string (String.singleton value))
  | charSequence value => .string value
  | charSequenceArray values => .array (values.map .string)
  | charSequenceArrayList values => .array (values.map .string)
  | double value => .float value
  | doubleArray values => .array (values.map .float)
  | float value => .float value.widen
  | floatArray values => .array (values.map fun value => .float value.widen)
  | int value => .integer value.toInt
  | intArray values => .array (values.map fun value => .integer value.toInt)
  | integerArrayList values => .array (values.map fun value => .integer value.toInt)
  | long value => .integer value.toInt
  | longArray values => .array (values.map fun value => .integer value.toInt)
  | parcelable value => value.toJson
  | parcelableArray values => .array (values.map Parcel.toJson)
  | parcelableArrayList values => .array (values.map Parcel.toJson)
  | serializable value => value
  | short value => .integer value.toInt
  | shortArray values => .array (values.map fun value => .integer value.toInt)
  | sparseParcelableArray value => value.toJson
  | string value => .string value
  | stringArray values => .array (values.map .string)
  | stringArrayList values => .array (values.map .string)

def readParcels (json : Json) : Except ValueError (List Parcel) :=
  match json with
  | .array items => items.mapM fun item => (Parcel.ofJson item).mapError .parcel
  | other => throw (.parcels other)

def read (kind : Kind) (json : Json) : Except ValueError Value :=
  let require {α : Type} (what : String) (form : α → Value) (found : Option α) :
      Except ValueError Value :=
    match found with
    | some value => pure (form value)
    | none => throw (.expected what json)
  match kind with
  | .boolean => require "a boolean" boolean json.bool?
  | .byte => require "a byte" byte json.int8?
  | .short => require "a short" short json.int16?
  | .int => require "an int" int json.int32?
  | .long => require "a long" long json.longInteger?
  | .float => require "a float" float json.single?
  | .double => require "a double" double json.double?
  | .char => require "a single character" char json.char?
  | .string => require "a string" string json.string?
  | .charSequence => require "a string" charSequence json.string?
  | .serializable => pure (serializable json)
  | .booleanArray => require "an array of booleans" booleanArray (json.items? Json.bool?)
  | .byteArray => require "an array of bytes" byteArray (json.items? Json.int8?)
  | .shortArray => require "an array of shorts" shortArray (json.items? Json.int16?)
  | .intArray => require "an array of ints" intArray (json.items? Json.int32?)
  | .integerArrayList => require "an array of ints" integerArrayList (json.items? Json.int32?)
  | .longArray => require "an array of longs" longArray (json.items? Json.longInteger?)
  | .floatArray => require "an array of floats" floatArray (json.items? Json.single?)
  | .doubleArray => require "an array of doubles" doubleArray (json.items? Json.double?)
  | .charArray => require "a string or an array of characters" charArray json.chars?
  | .stringArray => require "an array of strings" stringArray (json.items? Json.string?)
  | .stringArrayList => require "an array of strings" stringArrayList (json.items? Json.string?)
  | .charSequenceArray =>
      require "an array of strings" charSequenceArray (json.items? Json.string?)
  | .charSequenceArrayList =>
      require "an array of strings" charSequenceArrayList (json.items? Json.string?)
  | .parcelable => do pure (parcelable (← (Parcel.ofJson json).mapError .parcel))
  | .parcelableArray => do pure (parcelableArray (← readParcels json))
  | .parcelableArrayList => do pure (parcelableArrayList (← readParcels json))
  | .sparseParcelableArray => do
      pure (sparseParcelableArray (← (SparseArray.ofJson json).mapError .sparse))

/-- Reads a value as the argument for a key. -/
def ofJson (kind : Kind) (key : String) (json : Json) : Except Fault Value :=
  (read kind json).mapError fun error => .invalidArgument key error.reason

end Value

end BundleBinding
