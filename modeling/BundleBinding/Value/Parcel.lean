import BundleBinding.Json.Number
import BundleBinding.Json.Printer
import BundleBinding.Text.Quoted

/-!
Parcelable objects and sparse arrays of them, and their form in JSON: a parcelable is an object with
a class and fields, or an array of these two; a sparse array is an object whose names are indices.
-/

namespace BundleBinding

/-- A parcelable object: its class and the fields it has written, in the order of their names. -/
structure Parcel where
  className : String
  fields : List (String × Json)
  deriving Repr, Inhabited

inductive ParcelError where
  | unexpected (found : Json) (expected : String)
  | missingClass
  | emptyArray
  | longArray (count : Nat)
  deriving Repr

inductive SparseError where
  | notAnObject (found : Json)
  | keyNotNumeric
  /-- The numeral ends too early, is malformed, or exceeds all numbers, at a column. -/
  | keyEnded (column : Nat)
  | keyInvalid (column : Nat)
  | keyOutOfRange (column : Nat)
  /-- The number is no index of 32 bits; it ends at a column. -/
  | notAnIndex (number : JsonNumber) (column : Nat)
  | parcel (error : ParcelError)
  deriving Repr

namespace Json

/-- What a value is called in a report on its type. -/
def describe : Json → String
  | null => "null"
  | bool value => "boolean `" ++ (if value then "true" else "false") ++ "`"
  | number (.integer value) => "integer `" ++ toString value ++ "`"
  | number (.float value) => "floating point `" ++ value.render ++ "`"
  | string value => "string " ++ Text.quoted value
  | array _ => "sequence"
  | object _ => "map"

end Json

namespace ParcelError

def message : ParcelError → String
  | unexpected found expected => "invalid type: " ++ found.describe ++ ", expected " ++ expected
  | missingClass => "missing field `class`"
  | emptyArray => "invalid length 0, expected struct ParcelObject with 2 elements"
  | longArray count =>
      "invalid length " ++ toString count ++ ", expected fewer elements in array"

end ParcelError

namespace SparseError

def message : SparseError → String
  | notAnObject found => (ParcelError.unexpected found "a map").message
  | keyNotNumeric => "invalid value: expected key to be a number in quotes"
  | keyEnded column => "EOF while parsing a value" ++ place column
  | keyInvalid column => "invalid number" ++ place column
  | keyOutOfRange column => "number out of range" ++ place column
  | notAnIndex number column =>
      let fault :=
        match number with
        | .integer _ => "invalid value: "
        | .float _ => "invalid type: "
      fault ++ (Json.number number).describe ++ ", expected i32" ++ place column
  | parcel error => error.message
where
  place (column : Nat) : String := " at line 1 column " ++ toString column

end SparseError

namespace Parcel

def toJson (parcel : Parcel) : Json :=
  .object [("class", .string parcel.className), ("fields", .object parcel.fields)]

def readClass (json : Json) : Except ParcelError String :=
  match json with
  | .string name => pure name
  | other => throw (.unexpected other "a string")

def readFields (json : Json) : Except ParcelError (List (String × Json)) :=
  match json with
  | .object fields => pure fields
  | other => throw (.unexpected other "a map")

/-- Reads a parcelable. Other members of an object do not count, and the fields may be left out. -/
def ofJson (json : Json) : Except ParcelError Parcel :=
  match json with
  | .object _ => do
      let className ← (json.member? "class").mapM readClass
      let fields ← (json.member? "fields").mapM readFields
      match className with
      | some className => pure ⟨className, fields.getD []⟩
      | none => throw .missingClass
  | .array [] => throw .emptyArray
  | .array [className] => do pure ⟨← readClass className, []⟩
  | .array (className :: fields :: others) => do
      let parcel : Parcel := ⟨← readClass className, ← readFields fields⟩
      if others.isEmpty then pure parcel else throw (.longArray (others.length + 2))
  | other => throw (.unexpected other "struct ParcelObject")

end Parcel

/-- Parcelables at distinct indices, in ascending order. -/
structure SparseArray where
  entries : List (Int32 × Parcel)
  sorted : entries.Pairwise fun left right => left.1.toInt < right.1.toInt
  deriving Repr

namespace SparseArray

def empty : SparseArray :=
  ⟨[], List.Pairwise.nil⟩

def insertEntry (index : Int32) (parcel : Parcel) : List (Int32 × Parcel) → List (Int32 × Parcel)
  | [] => [(index, parcel)]
  | entry :: entries =>
      if index.toInt < entry.1.toInt then (index, parcel) :: entry :: entries
      else if entry.1.toInt < index.toInt then entry :: insertEntry index parcel entries
      else (index, parcel) :: entries

theorem fst_of_mem_insertEntry {index : Int32} {parcel : Parcel} {entries : List (Int32 × Parcel)}
    {entry : Int32 × Parcel} (h : entry ∈ insertEntry index parcel entries) :
    entry.1 = index ∨ entry ∈ entries := by
  induction entries with
  | nil => simp_all [insertEntry]
  | cons first entries ih =>
      unfold insertEntry at h
      split at h
      · simp_all
        rcases h with h | h <;> simp_all
      · split at h
        · rcases List.mem_cons.mp h with h | h
          · simp [h]
          · rcases ih h with h | h <;> simp [h]
        · rcases List.mem_cons.mp h with h | h <;> simp [h]

theorem sorted_insertEntry (index : Int32) (parcel : Parcel) {entries : List (Int32 × Parcel)}
    (h : entries.Pairwise fun left right => left.1.toInt < right.1.toInt) :
    (insertEntry index parcel entries).Pairwise fun left right =>
      left.1.toInt < right.1.toInt := by
  induction entries with
  | nil => simp [insertEntry]
  | cons first entries ih =>
      obtain ⟨hfirst, hrest⟩ := List.pairwise_cons.mp h
      unfold insertEntry
      split
      · next hlt =>
          refine List.pairwise_cons.mpr ⟨?_, h⟩
          intro entry hentry
          rcases List.mem_cons.mp hentry with he | he
          · exact he ▸ hlt
          · exact Int.lt_trans hlt (hfirst entry he)
      · split
        · next hgt =>
            refine List.pairwise_cons.mpr ⟨?_, ih hrest⟩
            intro entry hentry
            rcases fst_of_mem_insertEntry hentry with he | he
            · exact he ▸ hgt
            · exact hfirst entry he
        · next hnlt hngt =>
            refine List.pairwise_cons.mpr ⟨?_, hrest⟩
            intro entry hentry
            have := hfirst entry hentry
            simp only
            omega

def insert (array : SparseArray) (index : Int32) (parcel : Parcel) : SparseArray :=
  ⟨insertEntry index parcel array.entries, sorted_insertEntry index parcel array.sorted⟩

def toJson (array : SparseArray) : Json :=
  Json.ofMembers (array.entries.map fun entry => (toString entry.1.toInt, entry.2.toJson))

/-- An index is a whole numeral without fraction or exponent, within 32 signed bits. -/
def readIndex (name : String) : Except SparseError Int32 :=
  let text := name.toList
  if text.head?.any fun c => c.isDigit || c == '-' then
    match Numeral.scan text with
    | .error (.ended column) => throw (.keyEnded column)
    | .error (.invalid column) => throw (.keyInvalid column)
    | .ok (numeral, rest) =>
        let column := text.length - rest.length
        match numeral.value? with
        | none => throw (.keyOutOfRange column)
        | some (.integer value) =>
            if -Int.pow 2 31 ≤ value ∧ value < Int.pow 2 31 then
              if rest.isEmpty then pure (Int32.ofInt value) else throw .keyNotNumeric
            else throw (.notAnIndex (.integer value) column)
        | some number => throw (.notAnIndex number column)
  else throw .keyNotNumeric

/-- Reads a sparse array, member by member, the name of each before its value. -/
def ofJson (json : Json) : Except SparseError SparseArray :=
  match json with
  | .object members =>
      members.foldlM (fun array member => do
        let index ← readIndex member.1
        match Parcel.ofJson member.2 with
        | .ok parcel => pure (array.insert index parcel)
        | .error error => throw (.parcel error)) empty
  | other => throw (.notAnObject other)

end SparseArray

end BundleBinding
