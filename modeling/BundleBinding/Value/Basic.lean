import BundleBinding.Fault
import BundleBinding.Value.Parcel

/-!
Values: what a bundle stores, one form for each kind.
-/

namespace BundleBinding

inductive Value where
  | boolean (value : Bool)
  | booleanArray (values : List Bool)
  | byte (value : Int8)
  | byteArray (values : List Int8)
  | char (value : Char)
  | charArray (values : List Char)
  | charSequence (value : String)
  | charSequenceArray (values : List String)
  | charSequenceArrayList (values : List String)
  | double (value : Double)
  | doubleArray (values : List Double)
  | float (value : Single)
  | floatArray (values : List Single)
  | int (value : Int32)
  | intArray (values : List Int32)
  | integerArrayList (values : List Int32)
  | long (value : Int64)
  | longArray (values : List Int64)
  | parcelable (value : Parcel)
  | parcelableArray (values : List Parcel)
  | parcelableArrayList (values : List Parcel)
  | serializable (value : Json)
  | short (value : Int16)
  | shortArray (values : List Int16)
  | sparseParcelableArray (value : SparseArray)
  | string (value : String)
  | stringArray (values : List String)
  | stringArrayList (values : List String)
  deriving Repr

namespace Value

def kind : Value → Kind
  | boolean _ => .boolean
  | booleanArray _ => .booleanArray
  | byte _ => .byte
  | byteArray _ => .byteArray
  | char _ => .char
  | charArray _ => .charArray
  | charSequence _ => .charSequence
  | charSequenceArray _ => .charSequenceArray
  | charSequenceArrayList _ => .charSequenceArrayList
  | double _ => .double
  | doubleArray _ => .doubleArray
  | float _ => .float
  | floatArray _ => .floatArray
  | int _ => .int
  | intArray _ => .intArray
  | integerArrayList _ => .integerArrayList
  | long _ => .long
  | longArray _ => .longArray
  | parcelable _ => .parcelable
  | parcelableArray _ => .parcelableArray
  | parcelableArrayList _ => .parcelableArrayList
  | serializable _ => .serializable
  | short _ => .short
  | shortArray _ => .shortArray
  | sparseParcelableArray _ => .sparseParcelableArray
  | string _ => .string
  | stringArray _ => .stringArray
  | stringArrayList _ => .stringArrayList

/-- The value as one of the given kind, if it fits. Strings are character sequences, alone as in
arrays and lists. -/
def toKind? (value : Value) (kind : Kind) : Option Value :=
  if value.kind = kind then some value
  else
    match value, kind with
    | string text, .charSequence => some (charSequence text)
    | stringArray texts, .charSequenceArray => some (charSequenceArray texts)
    | stringArrayList texts, .charSequenceArrayList => some (charSequenceArrayList texts)
    | _, _ => none

end Value

end BundleBinding
