import BundleBinding.Registry
import BundleBinding.Type.Basic
import BundleBinding.Unvisited

/-!
Supertype facts. A type table lists the direct supertypes of each declared type; a type that it does
not list has none. `isSubtype` searches the table breadth first and remembers the names it has
visited, so cyclic tables are searched to their end.
-/

namespace BundleBinding

/-- The direct supertypes (superclass and interfaces) of declared types, by qualified name. -/
abbrev TypeTable := Registry String (List String)

namespace TypeTable

def supertypes (table : TypeTable) (name : String) : List String :=
  (table.get? name).getD []

/-- Facts about the platform types that the value kinds speak of. -/
def platformTypes : List (String × List String) :=
  [("java.lang.Object", []),
   ("java.lang.CharSequence", []),
   ("java.lang.Comparable", []),
   ("java.lang.Cloneable", []),
   ("java.io.Serializable", []),
   ("java.lang.String",
     ["java.lang.CharSequence", "java.io.Serializable", "java.lang.Comparable"]),
   ("java.lang.StringBuilder", ["java.lang.CharSequence", "java.io.Serializable"]),
   ("java.lang.Number", ["java.io.Serializable"]),
   ("java.lang.Boolean", ["java.io.Serializable", "java.lang.Comparable"]),
   ("java.lang.Character", ["java.io.Serializable", "java.lang.Comparable"]),
   ("java.lang.Byte", ["java.lang.Number", "java.lang.Comparable"]),
   ("java.lang.Short", ["java.lang.Number", "java.lang.Comparable"]),
   ("java.lang.Integer", ["java.lang.Number", "java.lang.Comparable"]),
   ("java.lang.Long", ["java.lang.Number", "java.lang.Comparable"]),
   ("java.lang.Float", ["java.lang.Number", "java.lang.Comparable"]),
   ("java.lang.Double", ["java.lang.Number", "java.lang.Comparable"]),
   ("java.util.Collection", []),
   ("java.util.List", ["java.util.Collection"]),
   ("java.util.AbstractList", ["java.util.List"]),
   ("java.util.ArrayList",
     ["java.util.AbstractList", "java.util.List", "java.lang.Cloneable", "java.io.Serializable"]),
   ("java.util.Map", []),
   ("java.util.HashMap", ["java.util.Map", "java.lang.Cloneable", "java.io.Serializable"]),
   ("java.util.Date", ["java.lang.Cloneable", "java.io.Serializable"]),
   ("android.os.Parcelable", []),
   ("android.os.BaseBundle", []),
   ("android.os.Bundle",
     ["android.os.BaseBundle", "android.os.Parcelable", "java.lang.Cloneable"]),
   ("android.util.SparseArray", ["java.lang.Cloneable"]),
   ("android.net.Uri", ["android.os.Parcelable", "java.lang.Comparable"]),
   ("android.content.Intent", ["android.os.Parcelable", "java.lang.Cloneable"]),
   ("android.graphics.Rect", ["android.os.Parcelable"]),
   ("android.graphics.Point", ["android.os.Parcelable"])]

/-- Records the direct supertypes of a type, in place of those recorded before. -/
def declare (table : TypeTable) (name : String) (supertypes : List String) : TypeTable :=
  table.insert name supertypes

theorem supertypes_declare (table : TypeTable) (name other : String) (supertypes : List String) :
    (table.declare name supertypes).supertypes other =
      if other = name then supertypes else table.supertypes other := by
  rw [TypeTable.supertypes, declare, Registry.get?_insert]
  by_cases hname : other = name
  · rw [if_pos hname, if_pos hname, Option.getD_some]
  · rw [if_neg hname, if_neg hname, TypeTable.supertypes]

def platform : TypeTable :=
  platformTypes.foldl (fun table entry => table.declare entry.1 entry.2) Registry.empty

theorem supertypes_of_not_mem {table : TypeTable} {name : String} (h : name ∉ table.keys) :
    table.supertypes name = [] := by
  have : table.get? name = none := by
    simp only [Registry.get?, Option.map_eq_none_iff, List.find?_eq_none]
    intro entry hentry
    simp only [Registry.keys, List.mem_map, not_exists, not_and] at h
    simpa using h entry hentry
  simp [supertypes, this]

/-- Does a chain of direct supertype steps lead from a queued name to the target? Names in `visited`
have had their supertypes queued. -/
def reaches (table : TypeTable) (target : String) (visited queue : List String) : Bool :=
  match queue with
  | [] => false
  | name :: queue =>
      if _hvisited : name ∈ visited then
        table.reaches target visited queue
      else if target ∈ table.supertypes name then
        true
      else
        table.reaches target (name :: visited) (queue ++ table.supertypes name)
termination_by ((unvisited id table.keys visited).length, queue.length)
decreasing_by
  · exact Prod.Lex.right _ (by simp)
  · by_cases hkey : name ∈ table.keys
    · exact Prod.Lex.left _ _ (@length_unvisited_cons_lt _ _ _ id _ _ _ hkey _hvisited)
    · rw [supertypes_of_not_mem hkey]
      rcases Nat.lt_or_eq_of_le (length_unvisited_cons_le id table.keys visited name) with h | h
      · exact Prod.Lex.left _ _ h
      · rw [h]
        exact Prod.Lex.right _ (by simp)

/-- Is the first type the second, or below it? Every declared type is below the object type. -/
def isSubtype (table : TypeTable) (sub super : String) : Bool :=
  sub == super || super == TypeRef.object || table.reaches super [] [sub]

end TypeTable

end BundleBinding
