import BundleBinding.Type.Assignable
import BundleBinding.Type.Name

/-!
Value kinds: the closed set of what a bundle entry can hold. A kind has its annotation, its pair of
container accessors, and the rule that says which declared types may carry it.
-/

namespace BundleBinding

inductive TypeRule where
  | primitive (base : Primitive)
  | primitiveArray (base : Primitive)
  /-- Any type assignable to this declared type. -/
  | assignable (name : String)
  /-- Any array whose component is assignable to this declared type. -/
  | arrayOf (name : String)
  /-- The collection type or a subtype, whose type arguments all fit the element type. -/
  | collection (raw element : String)
  deriving Repr, DecidableEq

namespace TypeRule

def accepts (rule : TypeRule) (table : TypeTable) (type : TypeRef) : Bool :=
  match rule, type with
  | primitive base, type => type == .primitive base
  | primitiveArray base, .array component => component == .primitive base
  | assignable name, type => table.isAssignable type (.named name)
  | arrayOf name, .array component => table.isAssignable component (.named name)
  | collection raw element, .declared name arguments =>
      table.isSubtype name raw &&
        arguments.all fun argument => table.isAssignable argument (.named element)
  | _, _ => false

def render : TypeRule → String
  | primitive base => base.keyword
  | primitiveArray base => base.keyword ++ "[]"
  | assignable name => name
  | arrayOf name => name ++ "[]"
  | collection raw element => raw ++ "<? extends " ++ element ++ ">"

end TypeRule

inductive Kind where
  | boolean
  | booleanArray
  | byte
  | byteArray
  | char
  | charArray
  | charSequence
  | charSequenceArray
  | charSequenceArrayList
  | double
  | doubleArray
  | float
  | floatArray
  | int
  | intArray
  | integerArrayList
  | long
  | longArray
  | parcelable
  | parcelableArray
  | parcelableArrayList
  | serializable
  | short
  | shortArray
  | sparseParcelableArray
  | string
  | stringArray
  | stringArrayList
  deriving Repr, DecidableEq

namespace Kind

/-- The name of a kind, which its accessors and its annotation are made from. -/
def name : Kind → String
  | boolean => "Boolean"
  | booleanArray => "BooleanArray"
  | byte => "Byte"
  | byteArray => "ByteArray"
  | char => "Char"
  | charArray => "CharArray"
  | charSequence => "CharSequence"
  | charSequenceArray => "CharSequenceArray"
  | charSequenceArrayList => "CharSequenceArrayList"
  | double => "Double"
  | doubleArray => "DoubleArray"
  | float => "Float"
  | floatArray => "FloatArray"
  | int => "Int"
  | intArray => "IntArray"
  | integerArrayList => "IntegerArrayList"
  | long => "Long"
  | longArray => "LongArray"
  | parcelable => "Parcelable"
  | parcelableArray => "ParcelableArray"
  | parcelableArrayList => "ParcelableArrayList"
  | serializable => "Serializable"
  | short => "Short"
  | shortArray => "ShortArray"
  | sparseParcelableArray => "SparseParcelableArray"
  | string => "String"
  | stringArray => "StringArray"
  | stringArrayList => "StringArrayList"

/-- All kinds, alphabetically by annotation name without regard to case. The order decides which of
two clashing bindings is the duplicate, and the order of the fields of a host. -/
def all : List Kind :=
  [booleanArray, boolean, byteArray, byte, charArray, charSequenceArrayList, charSequenceArray,
   charSequence, char, doubleArray, double, floatArray, float, intArray, integerArrayList, int,
   longArray, long, parcelableArrayList, parcelableArray, parcelable, serializable, shortArray,
   short, sparseParcelableArray, stringArrayList, stringArray, string]

theorem mem_all (kind : Kind) : kind ∈ all := by
  cases kind <;> decide

/-- The simple name of the annotation that declares this kind. -/
def marker (kind : Kind) : String :=
  kind.name ++ "Value"

def getter (kind : Kind) : String :=
  "get" ++ kind.name

def setter (kind : Kind) : String :=
  "put" ++ kind.name

def rule : Kind → TypeRule
  | boolean => .primitive .boolean
  | booleanArray => .primitiveArray .boolean
  | byte => .primitive .byte
  | byteArray => .primitiveArray .byte
  | char => .primitive .char
  | charArray => .primitiveArray .char
  | charSequence => .assignable TypeRef.charSequence
  | charSequenceArray => .arrayOf TypeRef.charSequence
  | charSequenceArrayList => .collection TypeRef.arrayList TypeRef.charSequence
  | double => .primitive .double
  | doubleArray => .primitiveArray .double
  | float => .primitive .float
  | floatArray => .primitiveArray .float
  | int => .primitive .int
  | intArray => .primitiveArray .int
  | integerArrayList => .collection TypeRef.arrayList TypeRef.integer
  | long => .primitive .long
  | longArray => .primitiveArray .long
  | parcelable => .assignable TypeRef.parcelable
  | parcelableArray => .arrayOf TypeRef.parcelable
  | parcelableArrayList => .collection TypeRef.arrayList TypeRef.parcelable
  | serializable => .assignable TypeRef.serializable
  | short => .primitive .short
  | shortArray => .primitiveArray .short
  | sparseParcelableArray => .collection TypeRef.sparseArray TypeRef.parcelable
  | string => .assignable TypeRef.string
  | stringArray => .arrayOf TypeRef.string
  | stringArrayList => .collection TypeRef.arrayList TypeRef.string

def accepts (kind : Kind) (table : TypeTable) (type : TypeRef) : Bool :=
  kind.rule.accepts table type

/-- The getter may return a proper supertype of the declared type, so generated code casts what it
reads. -/
def needsCast : Kind → Bool
  | charSequence | charSequenceArray | parcelable | parcelableArray | parcelableArrayList
  | serializable | sparseParcelableArray => true
  | _ => false

/-- The kind that an annotation declares. A qualified annotation counts by its simple name. -/
def ofMarker? (marker : String) : Option Kind :=
  all.find? fun kind => kind.marker == Name.simple marker

def ofName? (name : String) : Option Kind :=
  all.find? fun kind => kind.name == name

end Kind

end BundleBinding
