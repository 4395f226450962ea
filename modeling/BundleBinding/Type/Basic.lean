import BundleBinding.Type.Name

/-!
Declared types as program models write them: primitives, declared types with type arguments, arrays,
and the wildcards that may stand among type arguments.
-/

namespace BundleBinding

inductive Primitive where
  | boolean
  | byte
  | char
  | short
  | int
  | long
  | float
  | double
  | void
  deriving Repr, DecidableEq

namespace Primitive

def keyword : Primitive → String
  | boolean => "boolean"
  | byte => "byte"
  | char => "char"
  | short => "short"
  | int => "int"
  | long => "long"
  | float => "float"
  | double => "double"
  | void => "void"

def all : List Primitive :=
  [boolean, byte, char, short, int, long, float, double, void]

def ofKeyword? (word : String) : Option Primitive :=
  all.find? fun primitive => primitive.keyword == word

theorem ofKeyword?_keyword (primitive : Primitive) :
    ofKeyword? primitive.keyword = some primitive := by
  cases primitive <;> decide

theorem keyword_of_ofKeyword? {word : String} {primitive : Primitive}
    (h : ofKeyword? word = some primitive) : primitive.keyword = word := by
  simpa using List.find?_some h

end Primitive

/-- A declared type. The two wildcards are types only among the type arguments of another. -/
inductive TypeRef where
  | primitive (base : Primitive)
  | declared (name : String) (arguments : List TypeRef)
  | array (component : TypeRef)
  /-- The wildcard `?`. -/
  | anything
  /-- The wildcard `? extends bound`. -/
  | extending (bound : TypeRef)
  deriving Repr, Inhabited

namespace TypeRef

mutual

def same : TypeRef → TypeRef → Bool
  | primitive left, primitive right => left == right
  | declared left lefts, declared right rights => left == right && sameList lefts rights
  | array left, array right => same left right
  | anything, anything => true
  | extending left, extending right => same left right
  | _, _ => false

def sameList : List TypeRef → List TypeRef → Bool
  | [], [] => true
  | left :: lefts, right :: rights => same left right && sameList lefts rights
  | _, _ => false

end

mutual

theorem eq_of_same : {left right : TypeRef} → same left right = true → left = right
  | primitive _, right, h | anything, right, h => by cases right <;> simp_all [same]
  | declared name arguments, right, h => by
      cases right with
      | declared other others =>
          simp only [same, Bool.and_eq_true, beq_iff_eq] at h
          rw [h.1, eq_of_sameList h.2]
      | _ => simp [same] at h
  | array component, right, h => by
      cases right with
      | array other => rw [@eq_of_same component other (by simpa [same] using h)]
      | _ => simp [same] at h
  | extending bound, right, h => by
      cases right with
      | extending other => rw [@eq_of_same bound other (by simpa [same] using h)]
      | _ => simp [same] at h

theorem eq_of_sameList :
    {lefts rights : List TypeRef} → sameList lefts rights = true → lefts = rights
  | [], rights, h => by cases rights <;> simp_all [sameList]
  | left :: lefts, rights, h => by
      cases rights with
      | nil => simp [sameList] at h
      | cons right rights =>
          simp only [sameList, Bool.and_eq_true] at h
          rw [eq_of_same h.1, eq_of_sameList h.2]

end

mutual

theorem same_self : (type : TypeRef) → same type type = true
  | primitive _ | anything => by simp [same]
  | declared _ arguments => by simp [same, sameList_self arguments]
  | array component => by simp [same, same_self component]
  | extending bound => by simp [same, same_self bound]

theorem sameList_self : (types : List TypeRef) → sameList types types = true
  | [] => by simp [sameList]
  | type :: types => by simp [sameList, same_self type, sameList_self types]

end

theorem same_iff {left right : TypeRef} : same left right = true ↔ left = right :=
  ⟨eq_of_same, fun h => h ▸ same_self left⟩

instance : DecidableEq TypeRef :=
  fun _ _ => decidable_of_iff _ same_iff

def isWildcard : TypeRef → Bool
  | anything | extending _ => true
  | _ => false

def rawName? : TypeRef → Option String
  | declared name _ => some name
  | _ => none

mutual

def render : TypeRef → String
  | primitive base => base.keyword
  | declared name [] => name
  | declared name (first :: others) =>
      name ++ "<" ++ render first ++ renderFurther others ++ ">"
  | array component => render component ++ "[]"
  | anything => "?"
  | extending bound => "? extends " ++ render bound

/-- The type arguments after the first, each behind its comma. -/
def renderFurther : List TypeRef → String
  | [] => ""
  | type :: types => ", " ++ render type ++ renderFurther types

end

/-- The written form without package and type arguments; a wildcard is a question mark. -/
def simpleName : TypeRef → String
  | primitive base => base.keyword
  | declared name _ => Name.simple name
  | array component => simpleName component ++ "[]"
  | _ => "?"

def named (name : String) : TypeRef :=
  declared name []

def object : String := "java.lang.Object"

def string : String := "java.lang.String"

def charSequence : String := "java.lang.CharSequence"

def integer : String := "java.lang.Integer"

def serializable : String := "java.io.Serializable"

def cloneable : String := "java.lang.Cloneable"

def arrayList : String := "java.util.ArrayList"

def parcelable : String := "android.os.Parcelable"

def sparseArray : String := "android.util.SparseArray"

/-- The container type that every service method returns. -/
def bundle : String := "android.os.Bundle"

end TypeRef

end BundleBinding
