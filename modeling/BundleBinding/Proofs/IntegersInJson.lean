import BundleBinding.Proofs.Traversal
import BundleBinding.Proofs.ValuesInJson

/-!
# Integers in JSON

A kind of integers takes exactly the numbers that its words can hold: for such a kind reading is the inverse
of writing in both directions. Floating-point numbers and integers beyond the word are refused, and in an
array one of them is enough to refuse the whole.
-/

namespace BundleBinding

/-- The integers that a word of the given width holds in two's complement. -/
def FitsWord (width : Nat) (number : Int) : Prop :=
  -2 ^ (width - 1) ≤ number ∧ number < 2 ^ (width - 1)

theorem FitsWord.mono {narrow wide : Nat} {number : Int} (hle : narrow ≤ wide)
    (hfits : FitsWord narrow number) : FitsWord wide number := by
  have hpow : (2 : Int) ^ (narrow - 1) ≤ 2 ^ (wide - 1) :=
    pow_le_pow_right₀ one_le_two (Nat.sub_le_sub_right hle 1)
  obtain ⟨hlow, hhigh⟩ := hfits
  exact ⟨(neg_le_neg hpow).trans hlow, hhigh.trans_le hpow⟩

/-- A type of words of the given width, which has one word for each integer that fits. -/
structure Words (width : Nat) (α : Type) where
  ofInt : Int → α
  toInt : α → Int
  toInt_ofInt : ∀ number, FitsWord width number → toInt (ofInt number) = number
  fits : ∀ word, FitsWord width (toInt word)
  ofInt_toInt : ∀ word, ofInt (toInt word) = word

namespace Words

variable {width : Nat} {α : Type}

def int8 : Words 8 Int8 where
  ofInt := Int8.ofInt
  toInt := Int8.toInt
  toInt_ofInt := fun _ hfits => Int8.toInt_ofInt_of_le hfits.1 hfits.2
  fits := fun word => ⟨word.le_toInt, word.toInt_lt⟩
  ofInt_toInt := Int8.ofInt_toInt

def int16 : Words 16 Int16 where
  ofInt := Int16.ofInt
  toInt := Int16.toInt
  toInt_ofInt := fun _ hfits => Int16.toInt_ofInt_of_le hfits.1 hfits.2
  fits := fun word => ⟨word.le_toInt, word.toInt_lt⟩
  ofInt_toInt := Int16.ofInt_toInt

def int32 : Words 32 Int32 where
  ofInt := Int32.ofInt
  toInt := Int32.toInt
  toInt_ofInt := fun _ hfits => Int32.toInt_ofInt_of_le hfits.1 hfits.2
  fits := fun word => ⟨word.le_toInt, word.toInt_lt⟩
  ofInt_toInt := Int32.ofInt_toInt

def int64 : Words 64 Int64 where
  ofInt := Int64.ofInt
  toInt := Int64.toInt
  toInt_ofInt := fun _ hfits => Int64.toInt_ofInt_of_le hfits.1 hfits.2
  fits := fun word => ⟨word.le_toInt, word.toInt_lt⟩
  ofInt_toInt := Int64.ofInt_toInt

theorem map_toInt_ofInt (words : Words width α) {numbers : List Int}
    (hfits : ∀ number ∈ numbers, FitsWord width number) :
    (numbers.map words.ofInt).map words.toInt = numbers := by
  rw [List.map_map, List.map_congr_left, List.map_id]
  exact fun number hmem => words.toInt_ofInt number (hfits number hmem)

theorem forall_fits (words : Words width α) (values : List α) :
    ∀ number ∈ values.map words.toInt, FitsWord width number := by
  rintro _ hmem
  obtain ⟨word, -, rfl⟩ := List.mem_map.mp hmem
  exact words.fits word

end Words

namespace Json

variable {json : Json} {number : Int} {width : Nat}

theorem int64?_eq_some_iff : json.int64? = some number ↔ json = integer number ∧ FitsWord 64 number := by
  constructor
  · intro hread
    unfold int64? at hread
    split at hread
    · split at hread
      · next hrange =>
          cases hread
          exact ⟨rfl, hrange⟩
      · cases hread
    · cases hread
  · rintro ⟨rfl, hrange⟩
    exact if_pos hrange

theorem signed?_eq_some_iff (hwidth : width ≤ 64) :
    json.signed? width = some number ↔ json = integer number ∧ FitsWord width number := by
  rw [signed?, Option.bind_eq_some_iff]
  constructor
  · rintro ⟨value, hread, hfits⟩
    split at hfits
    · next hrange =>
        cases hfits
        exact ⟨(int64?_eq_some_iff.mp hread).1, hrange⟩
    · cases hfits
  · rintro ⟨hjson, hfits⟩
    exact ⟨number, int64?_eq_some_iff.mpr ⟨hjson, hfits.mono hwidth⟩, if_pos hfits⟩

/-- A word is read from the number that it is written as, and from nothing else. -/
theorem map_signed?_eq_some_iff {α : Type} (words : Words width α) (hwidth : width ≤ 64) {word : α} :
    (json.signed? width).map words.ofInt = some word ↔ json = integer (words.toInt word) := by
  rw [Option.map_eq_some_iff]
  constructor
  · rintro ⟨number, hread, rfl⟩
    obtain ⟨hjson, hfits⟩ := (signed?_eq_some_iff hwidth).mp hread
    rw [hjson, words.toInt_ofInt number hfits]
  · intro hjson
    exact ⟨_, (signed?_eq_some_iff hwidth).mpr ⟨hjson, words.fits word⟩, words.ofInt_toInt word⟩

theorem int8?_eq_some_iff (json : Json) (word : Int8) :
    json.int8? = some word ↔ json = integer word.toInt :=
  map_signed?_eq_some_iff Words.int8 (by decide)

theorem int16?_eq_some_iff (json : Json) (word : Int16) :
    json.int16? = some word ↔ json = integer word.toInt :=
  map_signed?_eq_some_iff Words.int16 (by decide)

theorem int32?_eq_some_iff (json : Json) (word : Int32) :
    json.int32? = some word ↔ json = integer word.toInt :=
  map_signed?_eq_some_iff Words.int32 (by decide)

theorem longInteger?_eq_some_iff (json : Json) (word : Int64) :
    json.longInteger? = some word ↔ json = integer word.toInt :=
  map_signed?_eq_some_iff Words.int64 (by decide)

theorem mapM_eq_some_iff {α : Type} {item? : Json → Option α} {write : α → Json}
    (hitem : ∀ item value, item? item = some value ↔ item = write value) {items : List Json}
    {values : List α} : items.mapM item? = some values ↔ items = values.map write := by
  induction items generalizing values with
  | nil => simp [eq_comm]
  | cons item items ih =>
      rw [List.mapM_cons]
      simp only [Option.bind_eq_bind, Option.bind_eq_some_iff, Option.pure_def, Option.some.injEq, hitem, ih]
      constructor
      · rintro ⟨value, rfl, others, rfl, rfl⟩
        rfl
      · intro hitems
        cases values with
        | nil => cases hitems
        | cons value others =>
            obtain ⟨hfirst, hothers⟩ := List.cons.inj hitems
            exact ⟨value, hfirst, others, hothers, rfl⟩

/-- What is read item by item is read from the array that it is written as, and from nothing else. -/
theorem items?_eq_some_iff {α : Type} {item? : Json → Option α} {write : α → Json}
    (hitem : ∀ item value, item? item = some value ↔ item = write value) {values : List α} :
    json.items? item? = some values ↔ json = array (values.map write) := by
  cases json with
  | array items =>
      rw [items?, array?, Option.bind_some, mapM_eq_some_iff hitem]
      exact ⟨congrArg array, array.inj⟩
  | _ =>
      constructor
      all_goals
        intro hread
        cases hread

end Json

/-! ### Kinds of integers -/

namespace Value

variable {kind : Kind} {key : String} {json : Json} {value : Value}

theorem kind_of_read (hread : read kind json = .ok value) : value.kind = kind := by
  cases kind with
  | serializable =>
      cases hread
      rfl
  | parcelable | parcelableArray | parcelableArrayList | sparseParcelableArray =>
      obtain ⟨_, _, hvalue⟩ := bind_eq_ok_iff.mp hread
      cases hvalue
      rfl
  | _ =>
      simp only [read] at hread
      split at hread
      · cases hread
        rfl
      · cases hread

theorem ofJson_eq_ok_iff : ofJson kind key json = .ok value ↔ read kind json = .ok value := by
  rw [ofJson]
  cases read kind json <;> simp [Except.mapError]

theorem ofJson_of_expected {what : String} (herror : read kind json = .error (.expected what json)) :
    ofJson kind key json =
      .error (.invalidArgument key ("expected " ++ what ++ ", found " ++ json.render)) := by
  rw [ofJson, herror]
  rfl

/-- The integers that a value of a kind of integers stores. -/
def integers : Value → List Int
  | byte value => [value.toInt]
  | short value => [value.toInt]
  | int value => [value.toInt]
  | long value => [value.toInt]
  | byteArray values => values.map Int8.toInt
  | shortArray values => values.map Int16.toInt
  | intArray values => values.map Int32.toInt
  | integerArrayList values => values.map Int32.toInt
  | longArray values => values.map Int64.toInt
  | _ => []

end Value

namespace Kind

variable {kind : Kind} {width : Nat} {json : Json} {value : Value}

/-- The kinds of one integer, with the width of its word. -/
inductive HoldsWord : Kind → Nat → Prop
  | byte : HoldsWord .byte 8
  | short : HoldsWord .short 16
  | int : HoldsWord .int 32
  | long : HoldsWord .long 64

theorem HoldsWord.toJson_eq (hkind : value.kind.HoldsWord width) :
    ∃ number, value.integers = [number] ∧ FitsWord width number ∧ value.toJson = .integer number := by
  cases value with
  | byte word =>
      cases hkind
      exact ⟨_, rfl, Words.int8.fits word, rfl⟩
  | short word =>
      cases hkind
      exact ⟨_, rfl, Words.int16.fits word, rfl⟩
  | int word =>
      cases hkind
      exact ⟨_, rfl, Words.int32.fits word, rfl⟩
  | long word =>
      cases hkind
      exact ⟨_, rfl, Words.int64.fits word, rfl⟩
  | _ => cases hkind

theorem HoldsWord.exists_value (hkind : kind.HoldsWord width) {number : Int}
    (hfits : FitsWord width number) :
    ∃ value : Value, value.kind = kind ∧ value.integers = [number] := by
  cases hkind with
  | byte =>
      refine ⟨.byte (.ofInt number), rfl, ?_⟩
      rw [Value.integers, Int8.toInt_ofInt_of_le hfits.1 hfits.2]
  | short =>
      refine ⟨.short (.ofInt number), rfl, ?_⟩
      rw [Value.integers, Int16.toInt_ofInt_of_le hfits.1 hfits.2]
  | int =>
      refine ⟨.int (.ofInt number), rfl, ?_⟩
      rw [Value.integers, Int32.toInt_ofInt_of_le hfits.1 hfits.2]
  | long =>
      refine ⟨.long (.ofInt number), rfl, ?_⟩
      rw [Value.integers, Int64.toInt_ofInt_of_le hfits.1 hfits.2]

theorem HoldsWord.read_eq_ok_iff_toJson (hkind : kind.HoldsWord width) :
    Value.read kind json = .ok value ↔ value.kind = kind ∧ json = value.toJson := by
  constructor
  · intro hread
    refine ⟨Value.kind_of_read hread, ?_⟩
    cases hkind
    all_goals
      simp only [Value.read] at hread
      split at hread
      · next word hword =>
          cases hread
          simp only [Json.int8?_eq_some_iff, Json.int16?_eq_some_iff, Json.int32?_eq_some_iff,
            Json.longInteger?_eq_some_iff] at hword
          exact hword
      · cases hread
  · rintro ⟨rfl, rfl⟩
    apply Value.read_toJson
    cases value with
    | float | floatArray | double | doubleArray => cases hkind
    | _ => rfl

theorem HoldsWord.read_iff (hkind : kind.HoldsWord width) :
    Value.read kind json = .ok value ↔
      value.kind = kind ∧
        ∃ number, json = .integer number ∧ FitsWord width number ∧ value.integers = [number] := by
  rw [hkind.read_eq_ok_iff_toJson]
  apply and_congr_right
  rintro rfl
  obtain ⟨stored, hstored, hfits, hwritten⟩ := hkind.toJson_eq
  rw [hwritten, hstored]
  constructor
  · intro hjson
    exact ⟨stored, hjson, hfits, rfl⟩
  · rintro ⟨number, hjson, -, hnumber⟩
    rw [hjson, List.singleton_inj.mp hnumber]

theorem HoldsWord.exists_read_iff (hkind : kind.HoldsWord width) :
    (∃ value, Value.read kind json = .ok value) ↔
      ∃ number, json = .integer number ∧ FitsWord width number := by
  constructor
  · rintro ⟨value, hread⟩
    obtain ⟨-, number, hjson, hfits, -⟩ := hkind.read_iff.mp hread
    exact ⟨number, hjson, hfits⟩
  · rintro ⟨number, hjson, hfits⟩
    obtain ⟨value, hvalue, hintegers⟩ := hkind.exists_value hfits
    exact ⟨value, hkind.read_iff.mpr ⟨hvalue, number, hjson, hfits, hintegers⟩⟩

/-- The kinds of several integers, with the width of their words. -/
inductive HoldsWords : Kind → Nat → Prop
  | byteArray : HoldsWords .byteArray 8
  | shortArray : HoldsWords .shortArray 16
  | intArray : HoldsWords .intArray 32
  | integerArrayList : HoldsWords .integerArrayList 32
  | longArray : HoldsWords .longArray 64

theorem HoldsWords.toJson_eq (hkind : value.kind.HoldsWords width) :
    (∀ number ∈ value.integers, FitsWord width number) ∧
      value.toJson = .array (value.integers.map .integer) := by
  cases value with
  | byteArray words =>
      cases hkind
      exact ⟨Words.int8.forall_fits words, by rw [Value.integers, List.map_map]; rfl⟩
  | shortArray words =>
      cases hkind
      exact ⟨Words.int16.forall_fits words, by rw [Value.integers, List.map_map]; rfl⟩
  | intArray words =>
      cases hkind
      exact ⟨Words.int32.forall_fits words, by rw [Value.integers, List.map_map]; rfl⟩
  | integerArrayList words =>
      cases hkind
      exact ⟨Words.int32.forall_fits words, by rw [Value.integers, List.map_map]; rfl⟩
  | longArray words =>
      cases hkind
      exact ⟨Words.int64.forall_fits words, by rw [Value.integers, List.map_map]; rfl⟩
  | _ => cases hkind

theorem HoldsWords.exists_value (hkind : kind.HoldsWords width) {numbers : List Int}
    (hfits : ∀ number ∈ numbers, FitsWord width number) :
    ∃ value : Value, value.kind = kind ∧ value.integers = numbers := by
  cases hkind with
  | byteArray => exact ⟨.byteArray (numbers.map .ofInt), rfl, Words.int8.map_toInt_ofInt hfits⟩
  | shortArray => exact ⟨.shortArray (numbers.map .ofInt), rfl, Words.int16.map_toInt_ofInt hfits⟩
  | intArray => exact ⟨.intArray (numbers.map .ofInt), rfl, Words.int32.map_toInt_ofInt hfits⟩
  | integerArrayList =>
      exact ⟨.integerArrayList (numbers.map .ofInt), rfl, Words.int32.map_toInt_ofInt hfits⟩
  | longArray => exact ⟨.longArray (numbers.map .ofInt), rfl, Words.int64.map_toInt_ofInt hfits⟩

theorem HoldsWords.read_eq_ok_iff_toJson (hkind : kind.HoldsWords width) :
    Value.read kind json = .ok value ↔ value.kind = kind ∧ json = value.toJson := by
  constructor
  · intro hread
    refine ⟨Value.kind_of_read hread, ?_⟩
    cases hkind
    all_goals
      simp only [Value.read] at hread
      split at hread
      · next words hwords =>
          cases hread
          simp only [Json.items?_eq_some_iff Json.int8?_eq_some_iff,
            Json.items?_eq_some_iff Json.int16?_eq_some_iff,
            Json.items?_eq_some_iff Json.int32?_eq_some_iff,
            Json.items?_eq_some_iff Json.longInteger?_eq_some_iff] at hwords
          exact hwords
      · cases hread
  · rintro ⟨rfl, rfl⟩
    apply Value.read_toJson
    cases value with
    | float | floatArray | double | doubleArray => cases hkind
    | _ => rfl

theorem HoldsWords.read_iff (hkind : kind.HoldsWords width) :
    Value.read kind json = .ok value ↔
      value.kind = kind ∧
        ∃ numbers : List Int, json = .array (numbers.map .integer) ∧
          (∀ number ∈ numbers, FitsWord width number) ∧ value.integers = numbers := by
  rw [hkind.read_eq_ok_iff_toJson]
  apply and_congr_right
  rintro rfl
  obtain ⟨hfits, hwritten⟩ := hkind.toJson_eq
  rw [hwritten]
  constructor
  · intro hjson
    exact ⟨_, hjson, hfits, rfl⟩
  · rintro ⟨numbers, hjson, -, rfl⟩
    exact hjson

theorem HoldsWords.exists_read_iff (hkind : kind.HoldsWords width) :
    (∃ value, Value.read kind json = .ok value) ↔
      ∃ numbers : List Int, json = .array (numbers.map .integer) ∧
        ∀ number ∈ numbers, FitsWord width number := by
  constructor
  · rintro ⟨value, hread⟩
    obtain ⟨-, numbers, hjson, hfits, -⟩ := hkind.read_iff.mp hread
    exact ⟨numbers, hjson, hfits⟩
  · rintro ⟨numbers, hjson, hfits⟩
    obtain ⟨value, hvalue, hintegers⟩ := hkind.exists_value hfits
    exact ⟨value, hkind.read_iff.mpr ⟨hvalue, numbers, hjson, hfits, hintegers⟩⟩

theorem HoldsWords.exists_expected (hkind : kind.HoldsWords width)
    (hrefused : ¬ ∃ value, Value.read kind json = .ok value) :
    ∃ what, Value.read kind json = .error (.expected what json) := by
  cases hkind
  all_goals
    simp only [Value.read] at hrefused ⊢
    split
    · next words hwords =>
        rw [hwords] at hrefused
        exact absurd ⟨_, rfl⟩ hrefused
    · exact ⟨_, rfl⟩

theorem HoldsWords.not_exists_read (hkind : kind.HoldsWords width) {items : List Json}
    (hunfit : ∃ item ∈ items, ∀ number, item = .integer number → ¬ FitsWord width number) :
    ¬ ∃ value, Value.read kind (.array items) = .ok value := by
  rw [hkind.exists_read_iff]
  -- An array that is read consists of integers that fit, the offending item included.
  rintro ⟨numbers, hnumbers, hfits⟩
  obtain ⟨item, hmem, hitem⟩ := hunfit
  cases hnumbers
  obtain ⟨number, hnumber, rfl⟩ := List.mem_map.mp hmem
  exact hitem number rfl (hfits number hnumber)

end Kind

/-- **Integers are read exactly.** A value that is read has the kind that was asked for. A kind of one integer
takes a number exactly if it is an integer that the word holds, and a kind of several an array exactly if
all of its items are; what is stored are these integers. One other item is enough to refuse the array, in a
report that names the key. -/
theorem integers_read_exactly (kind : Kind) (key : String) (json : Json) :
    (∀ value, Value.ofJson kind key json = .ok value → value.kind = kind) ∧
    (∀ width, kind.HoldsWord width →
      ((∃ value, Value.ofJson kind key json = .ok value) ↔
        ∃ number, json = .integer number ∧ FitsWord width number) ∧
      ∀ value, Value.ofJson kind key json = .ok value ↔
        value.kind = kind ∧
          ∃ number, json = .integer number ∧ FitsWord width number ∧ value.integers = [number]) ∧
    ∀ width, kind.HoldsWords width →
      ((∃ value, Value.ofJson kind key json = .ok value) ↔
        ∃ numbers : List Int, json = .array (numbers.map .integer) ∧
          ∀ number ∈ numbers, FitsWord width number) ∧
      (∀ value, Value.ofJson kind key json = .ok value ↔
        value.kind = kind ∧
          ∃ numbers : List Int, json = .array (numbers.map .integer) ∧
            (∀ number ∈ numbers, FitsWord width number) ∧ value.integers = numbers) ∧
      ∀ items, json = .array items →
        (∃ item ∈ items, ∀ number, item = .integer number → ¬ FitsWord width number) →
        ∃ what, Value.ofJson kind key json =
          .error (.invalidArgument key ("expected " ++ what ++ ", found " ++ json.render)) := by
  simp only [Value.ofJson_eq_ok_iff]
  refine ⟨fun _ => Value.kind_of_read,
    fun width hkind => ⟨hkind.exists_read_iff, fun value => hkind.read_iff⟩,
    fun width hkind => ⟨hkind.exists_read_iff, fun value => hkind.read_iff, ?_⟩⟩
  rintro items rfl hunfit
  obtain ⟨what, herror⟩ := hkind.exists_expected (hkind.not_exists_read hunfit)
  exact ⟨what, Value.ofJson_of_expected herror⟩

example : Value.ofJson .byteArray "data" (.array [.integer (-128), .integer 127]) =
    .ok (.byteArray [-128, 127]) :=
  rfl

end BundleBinding
