import BundleBinding.Value.Parcel
import Mathlib.Data.List.Nodup
import Mathlib.Data.List.Perm.Basic
import Mathlib.Data.List.TakeWhile

/-!
# Sparse arrays in JSON

The indices of a sparse array are written as decimal names, and the members of an object are sorted by
name, so they come back in another order. Every index is read back from its name, distinct indices have
distinct names, and an array is put together in the same way from any order of its entries.
-/

namespace BundleBinding

namespace Numeral

theorem valueOf_toDigits (number : Nat) : valueOf (Nat.toDigits 10 number) = number :=
  Nat.ofDigitChars_toDigits (by decide) (by decide)

theorem isDigit_of_mem_toDigits (number : Nat) {c : Char} (hmem : c ∈ Nat.toDigits 10 number) :
    c.isDigit = true :=
  Nat.isDigit_of_mem_toDigits (by decide) (by decide) hmem

theorem exists_toDigits_eq_cons (number : Nat) :
    ∃ c rest, Nat.toDigits 10 number = c :: rest ∧ c.isDigit = true := by
  obtain ⟨c, rest, hdigits⟩ :=
    List.exists_cons_of_ne_nil (Nat.toDigits_ne_nil (n := number) (b := 10))
  refine ⟨c, rest, hdigits, isDigit_of_mem_toDigits number ?_⟩
  rw [hdigits]
  exact List.mem_cons_self

theorem digitsOf_toDigits (number : Nat) :
    digitsOf (Nat.toDigits 10 number) = (Nat.toDigits 10 number, []) := by
  have hall : ∀ c ∈ Nat.toDigits 10 number, c.isDigit = true := fun _ => isDigit_of_mem_toDigits number
  rw [digitsOf, List.takeWhile_eq_self_iff.mpr hall, List.dropWhile_eq_nil_iff.mpr hall]

theorem eq_zero_of_toDigits_eq_zero_cons {number : Nat} {rest : List Char}
    (hdigits : Nat.toDigits 10 number = '0' :: rest) : number = 0 := by
  induction number using Nat.strongRecOn generalizing rest with
  | ind number ih =>
      rw [Nat.toDigits_eq_if (by decide)] at hdigits
      by_cases hsmall : number < 10
      · rw [if_pos hsmall] at hdigits
        have hchar : Nat.digitChar number = '0' := (List.cons.inj hdigits).1
        have hvalue := congrArg Char.toNat hchar
        rw [Nat.toNat_digitChar_of_lt_ten hsmall] at hvalue
        have hzero : '0'.toNat = 48 := rfl
        omega
      · -- The leading digits are those of a tenth of the number.
        rw [if_neg hsmall] at hdigits
        obtain ⟨c, others, htenth, _⟩ := exists_toDigits_eq_cons (number / 10)
        rw [htenth, List.cons_append, List.cons.injEq] at hdigits
        have htenth_zero : number / 10 = 0 := ih (number / 10) (by omega) (hdigits.1 ▸ htenth)
        omega

theorem scanWhole_toDigits (count number : Nat) :
    scanWhole count (Nat.toDigits 10 number) = .ok (Nat.toDigits 10 number, []) := by
  obtain ⟨c, rest, hdigits, hdigit⟩ := exists_toDigits_eq_cons number
  by_cases hzero : number = 0
  · subst hzero
    rfl
  · have hne : c ≠ '0' := by
      rintro rfl
      exact hzero (eq_zero_of_toDigits_eq_zero_cons hdigits)
    have hall := digitsOf_toDigits number
    rw [hdigits] at hall ⊢
    unfold scanWhole
    split
    · next h => cases h
    · next h => exact absurd (List.cons.inj h).1 hne
    · next first _ _ _ h =>
        obtain ⟨rfl, rfl⟩ := List.cons.inj h
        rw [if_pos hdigit, hall]
        rfl

theorem scan_toDigits (number : Nat) :
    scan (Nat.toDigits 10 number) = .ok (⟨false, Nat.toDigits 10 number, none, none⟩, []) := by
  unfold scan
  split
  next negative body hbody =>
    split at hbody
    · next rest hsign =>
        have hdigit : '-'.isDigit = true := by
          apply isDigit_of_mem_toDigits number
          rw [hsign]
          exact List.mem_cons_self
        exact absurd hdigit (by decide)
    · cases hbody
      rw [scanWhole_toDigits]
      rfl

theorem scan_minus_toDigits (number : Nat) :
    scan ('-' :: Nat.toDigits 10 number) = .ok (⟨true, Nat.toDigits 10 number, none, none⟩, []) := by
  unfold scan
  simp only
  rw [scanWhole_toDigits]
  rfl

end Numeral

theorem Parcel.ofJson_toJson (parcel : Parcel) : ofJson parcel.toJson = .ok parcel := by
  rfl

namespace SparseArray

theorem toList_toString (value : Int) :
    (toString value).toList =
      (if value < 0 then ['-'] else []) ++ Nat.toDigits 10 value.natAbs := by
  rw [Int.toString_eq_repr]
  cases value with
  | ofNat number =>
      rw [if_neg (by simp)]
      exact Nat.toList_repr
  | negSucc number =>
      rw [if_pos (Int.negSucc_lt_zero number)]
      simp [Int.repr, Nat.toList_repr]

theorem exists_scan_toString (index : Int32) :
    ∃ numeral, Numeral.scan (toString index.toInt).toList = .ok (numeral, []) ∧
      numeral.value? = some (.integer index.toInt) := by
  have hlow : -2 ^ 31 ≤ index.toInt := index.le_toInt
  have hhigh : index.toInt < 2 ^ 31 := index.toInt_lt
  rw [toList_toString]
  by_cases hnegative : index.toInt < 0
  · rw [if_pos hnegative]
    refine ⟨_, Numeral.scan_minus_toDigits _, ?_⟩
    have hbound : 0 < index.toInt.natAbs ∧ index.toInt.natAbs ≤ Nat.pow 2 63 := by
      have hpow : Nat.pow 2 63 = 2 ^ 63 := rfl
      omega
    have hvalue : -(index.toInt.natAbs : Int) = index.toInt := by omega
    simp only [Numeral.value?, Numeral.valueOf_toDigits, if_true]
    rw [if_pos hbound, hvalue]
  · rw [if_neg hnegative, List.nil_append]
    refine ⟨_, Numeral.scan_toDigits _, ?_⟩
    have hbound : index.toInt.natAbs < Nat.pow 2 64 := by
      have hpow : Nat.pow 2 64 = 2 ^ 64 := rfl
      omega
    have hvalue : (index.toInt.natAbs : Int) = index.toInt := by omega
    simp only [Numeral.value?, Numeral.valueOf_toDigits, Bool.false_eq_true, if_false]
    rw [if_pos hbound, hvalue]

theorem head?_toString (value : Int) :
    ((toString value).toList.head?.any fun c => c.isDigit || c == '-') = true := by
  rw [toList_toString]
  by_cases hnegative : value < 0
  · rw [if_pos hnegative]
    rfl
  · rw [if_neg hnegative, List.nil_append]
    obtain ⟨c, rest, hdigits, hdigit⟩ := Numeral.exists_toDigits_eq_cons value.natAbs
    rw [hdigits, List.head?_cons, Option.any_some, hdigit, Bool.true_or]

/-- An index is read back from the name that it is written as. -/
theorem readIndex_toString (index : Int32) : readIndex (toString index.toInt) = .ok index := by
  have hrange : -Int.pow 2 31 ≤ index.toInt ∧ index.toInt < Int.pow 2 31 :=
    ⟨index.le_toInt, index.toInt_lt⟩
  have hstart := head?_toString index.toInt
  obtain ⟨numeral, hnumeral, hvalue⟩ := exists_scan_toString index
  rw [readIndex]
  simp only [hstart, if_true, hnumeral, hvalue, if_pos hrange, List.isEmpty_nil, Int32.ofInt_toInt]
  rfl

theorem toString_injective {left right : Int32}
    (hnames : toString left.toInt = toString right.toInt) : left = right := by
  have hread := readIndex_toString left
  rw [hnames, readIndex_toString] at hread
  exact (Except.ok.inj hread).symm

end SparseArray

/-! ### Insertion into sorted lists -/

/-- An insertion that adds what is new, wherever it puts it, adds a list of new items one by one. -/
theorem perm_foldl_of_forall_perm {α κ : Type} (key : α → κ) (insert : List α → α → List α)
    (hinsert : ∀ items item, key item ∉ items.map key → (insert items item).Perm (item :: items))
    (items kept : List α) (hnodup : ((kept ++ items).map key).Nodup) :
    (items.foldl insert kept).Perm (kept ++ items) := by
  induction items generalizing kept with
  | nil =>
      rw [List.append_nil]
      exact .refl kept
  | cons item items ih =>
      have hmiddle : (kept ++ item :: items).Perm ((item :: kept) ++ items) := List.perm_middle
      have hfresh : key item ∉ kept.map key := by
        have hnodup' := (hmiddle.map key).nodup_iff.mp hnodup
        rw [List.cons_append, List.map_cons, List.nodup_cons, List.map_append] at hnodup'
        exact fun hmem => hnodup'.1 (List.mem_append_left _ hmem)
      have hstep : (insert kept item ++ items).Perm (kept ++ item :: items) :=
        ((hinsert kept item hfresh).append_right items).trans hmiddle.symm
      exact (ih (insert kept item) ((hstep.map key).nodup_iff.mpr hnodup)).trans hstep

namespace Json

theorem perm_insertMember {α : Type} {name : String} (value : α) {members : List (String × α)}
    (hfresh : name ∉ members.map Prod.fst) :
    (insertMember name value members).Perm ((name, value) :: members) := by
  induction members with
  | nil => exact .refl _
  | cons member members ih =>
      rw [List.map_cons, List.mem_cons, not_or] at hfresh
      rw [insertMember]
      split
      · exact .refl _
      · rw [if_neg hfresh.1]
        exact ((ih hfresh.2).cons member).trans (.swap _ _ _)

end Json

namespace SparseArray

theorem perm_insertEntry {index : Int32} (parcel : Parcel) {entries : List (Int32 × Parcel)}
    (hfresh : index ∉ entries.map Prod.fst) :
    (insertEntry index parcel entries).Perm ((index, parcel) :: entries) := by
  induction entries with
  | nil => exact .refl _
  | cons entry entries ih =>
      rw [List.map_cons, List.mem_cons, not_or] at hfresh
      rw [insertEntry]
      split
      · exact .refl _
      · split
        · exact ((ih hfresh.2).cons entry).trans (.swap _ _ _)
        · have heq : index.toInt = entry.1.toInt := by omega
          exact absurd (Int32.toInt_inj.mp heq) hfresh.1

theorem nodup_indices (array : SparseArray) : (array.entries.map Prod.fst).Nodup := by
  rw [List.Nodup, List.pairwise_map]
  refine array.sorted.imp fun hlt heq => ?_
  rw [heq] at hlt
  exact Int.lt_irrefl _ hlt

theorem entries_foldl_insert (entries : List (Int32 × Parcel)) (array : SparseArray) :
    (entries.foldl (fun array entry => array.insert entry.1 entry.2) array).entries =
      entries.foldl (fun kept entry => insertEntry entry.1 entry.2 kept) array.entries := by
  induction entries generalizing array with
  | nil => rfl
  | cons entry entries ih => exact ih (array.insert entry.1 entry.2)

/-- Put together from its entries in any order, an array is the one that it was. -/
theorem foldl_insert_of_perm {array : SparseArray} {entries : List (Int32 × Parcel)}
    (hperm : entries.Perm array.entries) :
    entries.foldl (fun array entry => array.insert entry.1 entry.2) empty = array := by
  have hnodup : (([] ++ entries).map Prod.fst).Nodup :=
    (hperm.map Prod.fst).nodup_iff.mpr array.nodup_indices
  have hentries := perm_foldl_of_forall_perm Prod.fst
    (fun kept entry => insertEntry entry.1 entry.2 kept)
    (fun _ entry hfresh => perm_insertEntry entry.2 hfresh) entries [] hnodup
  generalize hfilled : entries.foldl (fun array entry => array.insert entry.1 entry.2) empty = filled
  have hfilledEntries : filled.entries.Perm array.entries := by
    rw [← hfilled, entries_foldl_insert]
    exact hentries.trans hperm
  have heq : filled.entries = array.entries := by
    apply hfilledEntries.eq_of_pairwise ?_ filled.sorted array.sorted
    intro left right _ _ hlt hgt
    exact absurd hlt (Int.lt_asymm hgt)
  cases filled
  cases array
  cases heq
  rfl

/-- The member of an object that an entry is written as. -/
def member (entry : Int32 × Parcel) : String × Json :=
  (toString entry.1.toInt, entry.2.toJson)

theorem ofJson_map_member (entries : List (Int32 × Parcel)) :
    ofJson (.object (entries.map member)) =
      .ok (entries.foldl (fun array entry => array.insert entry.1 entry.2) empty) := by
  rw [ofJson]
  generalize empty = array
  induction entries generalizing array with
  | nil => rfl
  | cons entry entries ih =>
      rw [List.map_cons, List.foldlM_cons, List.foldl_cons]
      have hstep : readIndex (member entry).1 = .ok entry.1 := readIndex_toString entry.1
      have hparcel : Parcel.ofJson (member entry).2 = .ok entry.2 := Parcel.ofJson_toJson entry.2
      rw [hstep]
      simp only [bind, Except.bind, hparcel]
      exact ih (array.insert entry.1 entry.2)

theorem exists_perm_toJson (array : SparseArray) :
    ∃ entries : List (Int32 × Parcel), entries.Perm array.entries ∧
      array.toJson = .object (entries.map member) := by
  have hnames : (([] ++ array.entries.map member).map Prod.fst).Nodup := by
    have hmap : (array.entries.map member).map Prod.fst =
        (array.entries.map Prod.fst).map fun index => toString index.toInt := by
      rw [List.map_map, List.map_map]
      rfl
    rw [List.nil_append, hmap]
    exact array.nodup_indices.map fun _ _ => toString_injective
  have hmembers := perm_foldl_of_forall_perm Prod.fst
    (fun sorted member => Json.insertMember member.1 member.2 sorted)
    (fun _ member hfresh => Json.perm_insertMember member.2 hfresh) _ [] hnames
  -- The members in the order of their names are those of the entries in some order.
  obtain ⟨entries, hsorted, hperm⟩ :=
    (congrFun (congrFun (List.eq_map_comp_perm member) _) _).mpr hmembers
  exact ⟨entries, hperm, congrArg Json.object hsorted⟩

theorem ofJson_toJson (array : SparseArray) : ofJson array.toJson = .ok array := by
  obtain ⟨entries, hperm, hjson⟩ := array.exists_perm_toJson
  rw [hjson, ofJson_map_member, foldl_insert_of_perm hperm]

end SparseArray

end BundleBinding
