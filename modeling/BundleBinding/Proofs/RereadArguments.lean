import BundleBinding.Proofs.IntegersInJson
import BundleBinding.Proofs.Overflow

/-!
# Rereading arguments

An accepted argument is written as JSON and read again. It comes back as it was, whatever spelling it was
given in, unless a number of it is beyond the format of its kind. Such a number is accepted nevertheless: it
is stored as an infinity, for which JSON has null only, and null is refused.
-/

namespace BundleBinding

open BinaryFormat (single)

namespace Json

variable {json : Json}

theorem float_eq_null_iff (number : Double) : float number = null ↔ ¬ number.isFinite = true := by
  rw [float]
  split
  · next hfinite => exact iff_of_false (fun hnull => by cases hnull) (not_not_intro hfinite)
  · next hinfinite => exact iff_of_true rfl hinfinite

/-- What JSON shows of numbers: the items of an array, and of anything else the thing itself. -/
def parts : Json → List Json
  | array items => items
  | json => [json]

theorem parts_float (number : Double) : (float number).parts = [float number] := by
  rw [float]
  split <;> rfl

theorem items?_map_some {α β : Type} (item? : Json → Option α) (convert : α → β) :
    json.items? (fun item => (item? item).map convert) = (json.items? item?).map (List.map convert) := by
  rw [items?, items?]
  cases json.array? with
  | none => rfl
  | some items =>
      rw [Option.bind_some, Option.bind_some]
      induction items with
      | nil => rfl
      | cons item items ih =>
          rw [List.mapM_cons, List.mapM_cons, ih]
          cases item? item with
          | none => rfl
          | some value => cases items.mapM item? <;> rfl

theorem items?_eq_none {α : Type} {item? : Json → Option α} {items : List Json}
    (hrefused : ∃ item ∈ items, item? item = none) : (array items).items? item? = none := by
  rw [items?, array?, Option.bind_some]
  induction items with
  | nil =>
      obtain ⟨item, hmem, -⟩ := hrefused
      cases hmem
  | cons first items ih =>
      rw [List.mapM_cons]
      obtain ⟨item, hmem, hnone⟩ := hrefused
      rcases List.mem_cons.mp hmem with rfl | hlater
      · rw [hnone]
        rfl
      · rw [ih ⟨item, hlater, hnone⟩]
        cases item? first <;> rfl

end Json

namespace Kind

variable {kind : Kind}

/-- The numbers of an argument that a kind of floating-point numbers reads; the other kinds read none. -/
def numbersIn (kind : Kind) (json : Json) : List Double :=
  match kind with
  | float | double => json.double?.toList
  | floatArray | doubleArray => (json.items? Json.double?).getD []
  | _ => []

/-- The number that is left of one that a kind stores. -/
def stored : Kind → Double → Double
  | float, number | floatArray, number => number.narrow.widen
  | _, number => number

/-- A kind holds the finite numbers that its format has a finite number for. -/
def Holds (kind : Kind) (number : Double) : Prop :=
  number.isFinite = true ∧ (kind = float ∨ kind = floatArray → number.size < single.overflowThreshold)

theorem isFinite_stored_iff (kind : Kind) (number : Double) :
    (kind.stored number).isFinite = true ↔ kind.Holds number := by
  by_cases hsingle : kind = float ∨ kind = floatArray
  · have hnarrow : kind.stored number = number.narrow.widen := by
      rcases hsingle with rfl | rfl <;> rfl
    rw [hnarrow, Single.isFinite_widen, Double.isFinite_narrow_iff, Holds, forall_prop_of_true hsingle]
  · have hsame : kind.stored number = number := by
      cases kind with
      | float => exact absurd (.inl rfl) hsingle
      | floatArray => exact absurd (.inr rfl) hsingle
      | _ => rfl
    rw [hsame, Holds, and_iff_left fun hone => absurd hone hsingle]

end Kind

namespace Value

variable {kind : Kind} {key : String} {json : Json} {value : Value}

/-- The floating-point numbers that a value consists of, in the wider format. -/
def numbers : Value → List Double
  | float value => [value.widen]
  | floatArray values => values.map Single.widen
  | double value => [value]
  | doubleArray values => values
  | _ => []

theorem isFinite_iff_numbers (value : Value) :
    value.isFinite = true ↔ ∀ number ∈ value.numbers, number.isFinite = true := by
  cases value with
  | float value => rw [isFinite, numbers, List.forall_mem_singleton, Single.isFinite_widen]
  | floatArray values =>
      rw [isFinite, numbers, List.forall_mem_map, List.all_eq_true]
      simp only [Single.isFinite_widen]
  | double value => rw [isFinite, numbers, List.forall_mem_singleton]
  | doubleArray values => rw [isFinite, numbers, List.all_eq_true]
  | _ => exact iff_of_true rfl (List.forall_mem_nil _)

theorem numbers_of_read (hread : read kind json = .ok value) :
    value.numbers = (kind.numbersIn json).map kind.stored := by
  obtain rfl := kind_of_read hread
  cases value with
  | float =>
      simp only [Value.kind, read] at hread
      split at hread
      · next hsingle =>
          obtain ⟨number, hfound, rfl⟩ := Option.map_eq_some_iff.mp hsingle
          cases hread
          simp only [numbers, Value.kind, Kind.numbersIn, hfound]
          rfl
      · cases hread
  | double =>
      simp only [Value.kind, read] at hread
      split at hread
      · next hfound =>
          cases hread
          simp only [numbers, Value.kind, Kind.numbersIn, hfound]
          rfl
      · cases hread
  | floatArray =>
      simp only [Value.kind, read] at hread
      split at hread
      · next hsingles =>
          unfold Json.single? at hsingles
          rw [Json.items?_map_some, Option.map_eq_some_iff] at hsingles
          obtain ⟨found, hfound, rfl⟩ := hsingles
          cases hread
          simp only [numbers, Value.kind, Kind.numbersIn, hfound, List.map_map]
          rfl
      · cases hread
  | doubleArray =>
      simp only [Value.kind, read] at hread
      split at hread
      · next hfound =>
          cases hread
          simp only [numbers, Value.kind, Kind.numbersIn, hfound]
          exact (List.map_id _).symm
      · cases hread
  | _ => rfl

theorem parts_toJson (hnumbers : value.numbers ≠ []) :
    value.toJson.parts = value.numbers.map Json.float := by
  cases value with
  | float | double => exact Json.parts_float _
  | floatArray values => rw [toJson, Json.parts, numbers, List.map_map, Function.comp_def]
  | doubleArray => rfl
  | _ => exact absurd rfl hnumbers

/-- Null is no number, so what has an infinity cannot be read again. -/
theorem exists_expected_of_not_isFinite (hinfinite : ¬ value.isFinite = true) :
    ∃ what, read value.kind value.toJson = .error (.expected what value.toJson) := by
  rw [isFinite_iff_numbers] at hinfinite
  simp only [not_forall] at hinfinite
  obtain ⟨number, hmem, hnumber⟩ := hinfinite
  have hnull : Json.float number = .null := (Json.float_eq_null_iff number).mpr hnumber
  cases value with
  | float value =>
      obtain rfl := List.mem_singleton.mp hmem
      refine ⟨"a float", ?_⟩
      rw [toJson, hnull]
      rfl
  | double value =>
      obtain rfl := List.mem_singleton.mp hmem
      refine ⟨"a double", ?_⟩
      rw [toJson, hnull]
      rfl
  | floatArray values =>
      obtain ⟨value, hvalue, rfl⟩ := List.mem_map.mp hmem
      have hrefused : ∃ item ∈ values.map fun value => Json.float value.widen, item.single? = none :=
        ⟨_, List.mem_map_of_mem hvalue, by rw [hnull]; rfl⟩
      refine ⟨"an array of floats", ?_⟩
      simp only [Value.kind, toJson, read, Json.items?_eq_none hrefused]
      rfl
  | doubleArray values =>
      have hrefused : ∃ item ∈ values.map Json.float, item.double? = none :=
        ⟨_, List.mem_map_of_mem hmem, by rw [hnull]; rfl⟩
      refine ⟨"an array of doubles", ?_⟩
      simp only [Value.kind, toJson, read, Json.items?_eq_none hrefused]
      rfl
  | _ => cases hmem

end Value

/-- **Accepted arguments are read again if their kind holds them.** A value that was read from JSON comes back
from the JSON that it is written as exactly if its kind holds each of the numbers read. A number beyond the
format is written as null, in the place where it stood, and then the whole is refused. -/
theorem reread_iff_holds {kind : Kind} {key : String} {json : Json} {value : Value}
    (hread : Value.ofJson kind key json = .ok value) :
    (Value.ofJson kind key value.toJson = .ok value ↔
      ∀ number ∈ kind.numbersIn json, kind.Holds number) ∧
    (∀ (place : Nat) (number : Double), (kind.numbersIn json)[place]? = some number →
      (value.toJson.parts[place]? = some .null ↔ ¬ kind.Holds number)) ∧
    ((∃ number ∈ kind.numbersIn json, ¬ kind.Holds number) →
      ∃ what, Value.ofJson kind key value.toJson =
        .error (.invalidArgument key ("expected " ++ what ++ ", found " ++ value.toJson.render))) := by
  rw [Value.ofJson_eq_ok_iff] at hread
  have hnumbers := Value.numbers_of_read hread
  obtain rfl := Value.kind_of_read hread
  have hfinite : value.isFinite = true ↔
      ∀ number ∈ value.kind.numbersIn json, value.kind.Holds number := by
    rw [Value.isFinite_iff_numbers, hnumbers, List.forall_mem_map]
    simp only [Kind.isFinite_stored_iff]
  have hrefused : ¬ value.isFinite = true → ∃ what, Value.ofJson value.kind key value.toJson =
      .error (.invalidArgument key ("expected " ++ what ++ ", found " ++ value.toJson.render)) := by
    intro hinfinite
    obtain ⟨what, herror⟩ := Value.exists_expected_of_not_isFinite hinfinite
    exact ⟨what, Value.ofJson_of_expected herror⟩
  refine ⟨?_, ?_, ?_⟩
  · rw [← hfinite]
    refine ⟨fun hagain => ?_, reading_undoes_writing key⟩
    by_contra hinfinite
    obtain ⟨what, herror⟩ := hrefused hinfinite
    rw [herror] at hagain
    cases hagain
  · intro place number hplace
    have hsome : value.numbers ≠ [] := by
      rintro hempty
      rw [hempty, eq_comm, List.map_eq_nil_iff] at hnumbers
      rw [hnumbers] at hplace
      cases hplace
    rw [Value.parts_toJson hsome, hnumbers, List.getElem?_map, List.getElem?_map, hplace, Option.map_some,
      Option.map_some, Option.some_inj, Json.float_eq_null_iff, Kind.isFinite_stored_iff]
  · rintro ⟨number, hmem, hbeyond⟩
    exact hrefused fun hheld => hbeyond (hfinite.mp hheld number hmem)

/-- Of the weights 1 and 1e39 the second is lost. -/
theorem second_weight_not_reread :
    ∃ value, Value.ofJson .floatArray "weights"
        (.array [.float ⟨0x3ff0000000000000⟩, .float ⟨0x48078287f49c4a1d⟩]) = .ok value ∧
      value.toJson.parts[1]? = some .null ∧
      ∃ what, Value.ofJson .floatArray "weights" value.toJson =
        .error (.invalidArgument "weights"
          ("expected " ++ what ++ ", found " ++ value.toJson.render)) := by
  have hread : Value.ofJson .floatArray "weights"
      (.array [.float ⟨0x3ff0000000000000⟩, .float ⟨0x48078287f49c4a1d⟩]) =
        .ok (.floatArray [⟨0x3f800000⟩, ⟨0x7f800000⟩]) :=
    rfl
  have hbeyond : ¬ Kind.floatArray.Holds ⟨0x48078287f49c4a1d⟩ := by
    rw [← Kind.isFinite_stored_iff]
    decide
  obtain ⟨-, hplaces, hrefused⟩ := reread_iff_holds hread
  exact ⟨_, hread, (hplaces 1 _ rfl).mpr hbeyond, hrefused ⟨_, by decide, hbeyond⟩⟩

/-- 1e39 is accepted as a float, stored as infinity, written as null and then refused. -/
theorem great_weight_not_reread :
    ∃ value, Value.ofJson .float "weight" (.float ⟨0x48078287f49c4a1d⟩) = .ok value ∧
      value.toJson = .null ∧
      Value.ofJson .float "weight" value.toJson =
        .error (.invalidArgument "weight" "expected a float, found null") :=
  ⟨.float ⟨0x7f800000⟩, rfl, rfl, rfl⟩

end BundleBinding
