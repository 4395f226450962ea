import BundleBinding.Text.Uppercase

/-!
Qualified names. A name is a list of segments joined by periods; its package ends before the first
segment that begins with an upper-case letter, so a nested type keeps its outer type in the class
path.
-/

namespace BundleBinding.Name

/-- The segments between the periods of a text; there is always at least one. -/
def segments : List Char → List (List Char)
  | [] => [[]]
  | '.' :: text => [] :: segments text
  | c :: text =>
      match segments text with
      | [] => [[c]]
      | segment :: others => (c :: segment) :: others

theorem segments_ne_nil (text : List Char) : segments text ≠ [] := by
  unfold segments
  split
  · simp
  · simp
  · split <;> simp

theorem segments_cons_of_ne {c : Char} (hc : c ≠ '.') (text : List Char) :
    ∃ part others, segments text = part :: others ∧
      segments (c :: text) = (c :: part) :: others := by
  obtain ⟨part, others, hparts⟩ := List.exists_cons_of_ne_nil (segments_ne_nil text)
  refine ⟨part, others, hparts, ?_⟩
  rw [segments, hparts]
  exact hc

theorem exists_part_iff {c : Char} {text : List Char} :
    (∃ part ∈ segments text, c ∈ part) ↔ c ∈ text ∧ c ≠ '.' := by
  fun_induction segments text with
  | case1 => simp
  | case2 text ih =>
      simp only [List.mem_cons, exists_eq_or_imp, List.not_mem_nil, false_or, ih]
      grind
  | case3 d text hdot hparts => exact absurd hparts (segments_ne_nil text)
  | case4 d text hdot part others hparts ih =>
      rw [hparts] at ih
      simp only [List.mem_cons, exists_eq_or_imp] at ih ⊢
      grind

def beginsUppercase : List Char → Bool
  | [] => false
  | c :: _ => Text.isUppercase c

/-- The part of a qualified name behind its last period. -/
def simple (qualified : String) : String :=
  String.ofList ((segments qualified.toList).getLastD [])

/-- The offset of the first capitalized segment, counted in bytes. The given segments begin at the
given offset, and a period follows each but the last. -/
def capitalizedOffset? (offset : Nat) : List (List Char) → Option Nat
  | [] => none
  | segment :: others =>
      if beginsUppercase segment then some offset
      else capitalizedOffset? (offset + (String.ofList segment).utf8ByteSize + 1) others

/-- What stands in front of the last period of a text and behind it. -/
def aroundLastPeriod? : List Char → Option (List Char × List Char)
  | [] => none
  | c :: text =>
      match aroundLastPeriod? text with
      | some (front, back) => some (c :: front, back)
      | none => if c = '.' then some ([], text) else none

/-- The package and the class path of a qualified name. The class path begins with the first
capitalized segment, and the period in front of that belongs to neither; without a capitalized
segment it is the last segment. -/
def split (qualified : String) : String × String :=
  match capitalizedOffset? 0 (segments qualified.toList) with
  | some 0 => ("", qualified)
  | some offset =>
      (String.Pos.Raw.extract qualified 0 ⟨offset - 1⟩,
        String.Pos.Raw.extract qualified ⟨offset⟩ qualified.rawEndPos)
  | none =>
      match aroundLastPeriod? qualified.toList with
      | some (package, last) => (String.ofList package, String.ofList last)
      | none => ("", qualified)

/-- The package of a qualified name, empty for the default package. -/
def package (qualified : String) : String :=
  (split qualified).1

/-- The type path inside the package. -/
def classPath (qualified : String) : String :=
  (split qualified).2

end BundleBinding.Name
