import BundleBinding.Proofs.SparseArrays
import BundleBinding.Proofs.Widening
import BundleBinding.Value.Json

/-!
# Values in JSON

Writing leaves out the kind of a value, and reading is told it. With it every value comes back as it was.
Infinite and undefined numbers are the exception, since JSON has none.
-/

namespace BundleBinding

namespace Json

theorem signed?_integer {width : Nat} {value : Int}
    (hwidth : Int.pow 2 (width - 1) ≤ Int.pow 2 63)
    (hlow : -Int.pow 2 (width - 1) ≤ value) (hhigh : value < Int.pow 2 (width - 1)) :
    (integer value).signed? width = some value := by
  have hword : (integer value).int64? = some value := if_pos (by omega)
  rw [signed?, hword, Option.bind_some, if_pos ⟨hlow, hhigh⟩]

theorem int8?_toInt (value : Int8) : (integer value.toInt).int8? = some value := by
  rw [int8?, signed?_integer (by decide) value.le_toInt value.toInt_lt, Option.map_some,
    Int8.ofInt_toInt]

theorem int16?_toInt (value : Int16) : (integer value.toInt).int16? = some value := by
  rw [int16?, signed?_integer (by decide) value.le_toInt value.toInt_lt, Option.map_some,
    Int16.ofInt_toInt]

theorem int32?_toInt (value : Int32) : (integer value.toInt).int32? = some value := by
  rw [int32?, signed?_integer (by decide) value.le_toInt value.toInt_lt, Option.map_some,
    Int32.ofInt_toInt]

theorem longInteger?_toInt (value : Int64) : (integer value.toInt).longInteger? = some value := by
  rw [longInteger?, signed?_integer (by decide) value.le_toInt value.toInt_lt, Option.map_some,
    Int64.ofInt_toInt]

theorem double?_float {value : Double} (hfinite : value.isFinite = true) :
    (float value).double? = some value := by
  rw [float, if_pos hfinite, double?]

theorem single?_float {value : Single} (hfinite : value.isFinite = true) :
    (float value.widen).single? = some value := by
  rw [single?, double?_float (Single.exists_significand_widen hfinite).1, Option.map_some,
    Single.narrow_widen hfinite]

theorem char?_singleton (c : Char) : (string (String.singleton c)).char? = some c := by
  simp [char?, string?]

theorem items?_map {α : Type} {item? : Json → Option α} {write : α → Json} {values : List α}
    (hitem : ∀ value ∈ values, item? (write value) = some value) :
    (array (values.map write)).items? item? = some values := by
  rw [items?, array?, Option.bind_some]
  induction values with
  | nil => rfl
  | cons value values ih =>
      have hfirst := hitem value List.mem_cons_self
      have hothers := ih fun other hmem => hitem other (List.mem_cons_of_mem _ hmem)
      rw [List.map_cons, List.mapM_cons, hfirst, hothers]
      rfl

theorem items?_map_string (values : List String) :
    (array (values.map string)).items? string? = some values :=
  items?_map fun _ _ => rfl

end Json

namespace Value

/-- None of the floating-point numbers that the value consists of is infinite or undefined. -/
def isFinite : Value → Bool
  | double value => value.isFinite
  | doubleArray values => values.all Double.isFinite
  | float value => value.isFinite
  | floatArray values => values.all Single.isFinite
  | _ => true

theorem readParcels_map_toJson (parcels : List Parcel) :
    readParcels (.array (parcels.map Parcel.toJson)) = .ok parcels := by
  rw [readParcels]
  induction parcels with
  | nil => rfl
  | cons parcel parcels ih =>
      rw [List.map_cons, List.mapM_cons, Parcel.ofJson_toJson, ih]
      rfl

/-- Reading is told the kind that writing has left out. -/
theorem read_toJson {value : Value} (hfinite : value.isFinite = true) :
    read value.kind value.toJson = .ok value := by
  cases value with
  | boolean => rfl
  | charSequence => rfl
  | string => rfl
  | serializable => rfl
  | byte value => simp only [kind, toJson, read, Json.int8?_toInt]; rfl
  | short value => simp only [kind, toJson, read, Json.int16?_toInt]; rfl
  | int value => simp only [kind, toJson, read, Json.int32?_toInt]; rfl
  | long value => simp only [kind, toJson, read, Json.longInteger?_toInt]; rfl
  | char value => simp only [kind, toJson, read, Json.char?_singleton]; rfl
  | float value => simp only [kind, toJson, read, Json.single?_float hfinite]; rfl
  | double value => simp only [kind, toJson, read, Json.double?_float hfinite]; rfl
  | booleanArray values =>
      have hitems : (Json.array (values.map .bool)).items? Json.bool? = some values :=
        Json.items?_map fun _ _ => rfl
      simp only [kind, toJson, read, hitems]
      rfl
  | byteArray values =>
      have hitems := Json.items?_map fun value (_ : value ∈ values) => Json.int8?_toInt value
      simp only [kind, toJson, read, hitems]
      rfl
  | shortArray values =>
      have hitems := Json.items?_map fun value (_ : value ∈ values) => Json.int16?_toInt value
      simp only [kind, toJson, read, hitems]
      rfl
  | intArray values =>
      have hitems := Json.items?_map fun value (_ : value ∈ values) => Json.int32?_toInt value
      simp only [kind, toJson, read, hitems]
      rfl
  | integerArrayList values =>
      have hitems := Json.items?_map fun value (_ : value ∈ values) => Json.int32?_toInt value
      simp only [kind, toJson, read, hitems]
      rfl
  | longArray values =>
      have hitems := Json.items?_map fun value (_ : value ∈ values) => Json.longInteger?_toInt value
      simp only [kind, toJson, read, hitems]
      rfl
  | charArray values =>
      have hitems := Json.items?_map fun value (_ : value ∈ values) => Json.char?_singleton value
      simp only [kind, toJson, read, Json.chars?, hitems]
      rfl
  | doubleArray values =>
      have hall := List.all_eq_true.mp hfinite
      have hitems := Json.items?_map fun value hmem => Json.double?_float (hall value hmem)
      simp only [kind, toJson, read, hitems]
      rfl
  | floatArray values =>
      have hall := List.all_eq_true.mp hfinite
      have hitems := Json.items?_map fun value hmem => Json.single?_float (hall value hmem)
      simp only [kind, toJson, read, hitems]
      rfl
  | stringArray values => simp only [kind, toJson, read, Json.items?_map_string]; rfl
  | stringArrayList values => simp only [kind, toJson, read, Json.items?_map_string]; rfl
  | charSequenceArray values => simp only [kind, toJson, read, Json.items?_map_string]; rfl
  | charSequenceArrayList values => simp only [kind, toJson, read, Json.items?_map_string]; rfl
  | parcelable value => simp only [kind, toJson, read, Parcel.ofJson_toJson]; rfl
  | parcelableArray values => simp only [kind, toJson, read, readParcels_map_toJson]; rfl
  | parcelableArrayList values => simp only [kind, toJson, read, readParcels_map_toJson]; rfl
  | sparseParcelableArray value => simp only [kind, toJson, read, SparseArray.ofJson_toJson]; rfl

end Value

/-- **Reading undoes writing for values of every kind.** -/
theorem reading_undoes_writing (key : String) {value : Value} (hfinite : value.isFinite = true) :
    Value.ofJson value.kind key value.toJson = .ok value := by
  have hread := Value.read_toJson hfinite
  rw [Value.ofJson, hread]
  rfl

/-- The least number above zero, the zero with a sign and the greatest finite number. -/
theorem extreme_weights_read :
    Value.ofJson .floatArray "weights"
        (.array [.float (Single.widen ⟨1⟩), .float (Single.widen ⟨0x80000000⟩),
          .float (Single.widen ⟨0x7f7fffff⟩)]) =
      .ok (.floatArray [⟨1⟩, ⟨0x80000000⟩, ⟨0x7f7fffff⟩]) := by
  have hfinite :
      (Value.floatArray [⟨1⟩, ⟨0x80000000⟩, ⟨0x7f7fffff⟩]).isFinite = true := by decide
  exact reading_undoes_writing "weights" hfinite

end BundleBinding
