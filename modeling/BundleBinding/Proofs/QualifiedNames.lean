import BundleBinding.Program.Index
import Mathlib.Data.List.Induction
import Mathlib.Data.String.Basic

/-!
# Qualified names

A qualified name is cut at an offset that was counted up segment by segment. The cut divides its segments
between the package and the class path: each of the two is its own segments joined by periods. So both parts
give their segments back, and together they give back the name.
-/

namespace BundleBinding

theorem intercalate_append {α : Type} {separator : List α} {first second : List (List α)}
    (hfirst : first ≠ []) (hsecond : second ≠ []) :
    separator.intercalate (first ++ second) =
      separator.intercalate first ++ separator ++ separator.intercalate second := by
  induction first with
  | nil => exact absurd rfl hfirst
  | cons part parts ih =>
      rw [List.cons_append,
        List.intercalate_cons_of_ne_nil (List.append_ne_nil_of_right_ne_nil parts hsecond)]
      by_cases hparts : parts = []
      · subst hparts
        rw [List.nil_append, List.intercalate_singleton]
      · rw [ih hparts, List.intercalate_cons_of_ne_nil hparts]
        simp only [List.append_assoc]

theorem suffix_intercalate_append {α : Type} (separator : List α) (parts : List (List α))
    (last : List α) : last <:+ separator.intercalate (parts ++ [last]) := by
  by_cases hparts : parts = []
  · refine ⟨[], ?_⟩
    rw [hparts, List.nil_append, List.nil_append, List.intercalate_singleton]
  · rw [intercalate_append hparts (List.cons_ne_nil _ _), List.intercalate_singleton]
    exact List.suffix_append _ _

namespace Name

/-! ### Identifiers -/

theorem ne_nil_of_isIdentifier {text : List Char} (htext : isIdentifier text = true) : text ≠ [] := by
  rintro rfl
  cases htext

theorem isIdentifierStart_or_isDigit {text : List Char} (htext : isIdentifier text = true) :
    ∀ c ∈ text, isIdentifierStart c = true ∨ c.isDigit = true := by
  cases text with
  | nil => exact fun _ hmem => absurd hmem List.not_mem_nil
  | cons first rest =>
      rw [isIdentifier, Bool.and_eq_true, List.all_eq_true] at htext
      rw [List.forall_mem_cons]
      refine ⟨.inl htext.1, ?_⟩
      intro c hmem
      have hc := htext.2 c hmem
      rwa [Bool.or_eq_true] at hc

theorem period_notMem_of_isIdentifier {text : List Char} (htext : isIdentifier text = true) :
    '.' ∉ text := by
  intro hmem
  have hperiod := isIdentifierStart_or_isDigit htext '.' hmem
  revert hperiod
  decide

theorem slash_notMem_of_isIdentifier {text : List Char} (htext : isIdentifier text = true) :
    '/' ∉ text := by
  intro hmem
  have hslash := isIdentifierStart_or_isDigit htext '/' hmem
  revert hslash
  decide

/-! ### Segments -/

def joinSegments (parts : List (List Char)) : List Char :=
  ['.'].intercalate parts

theorem segments_eq_splitOn (text : List Char) : segments text = text.splitOn '.' := by
  fun_induction segments text with
  | case1 => rfl
  | case2 text ih =>
      rw [List.splitOn_cons_eq_if_modifyHead, if_pos (beq_self_eq_true _), ih]
  | case3 c text _ hnil => exact absurd hnil (segments_ne_nil text)
  | case4 c text hc segment others hsegments ih =>
      have hne : c ≠ '.' := fun heq => hc heq
      rw [List.splitOn_cons_eq_if_modifyHead, if_neg (by rwa [beq_iff_eq]), ← ih, hsegments,
        List.modifyHead_cons]

/-- Every text is its segments joined by periods. -/
theorem joinSegments_segments (text : List Char) : joinSegments (segments text) = text := by
  rw [segments_eq_splitOn]
  exact List.intercalate_splitOn '.'

theorem period_notMem_of_mem_segments {text segment : List Char} (hmem : segment ∈ segments text) :
    '.' ∉ segment :=
  fun hperiod => (exists_part_iff.mp ⟨segment, hmem, hperiod⟩).2 rfl

theorem segments_joinSegments {parts : List (List Char)}
    (hparts : ∀ part ∈ parts, isIdentifier part = true) (hne : parts ≠ []) :
    segments (joinSegments parts) = parts := by
  rw [segments_eq_splitOn, joinSegments]
  exact List.splitOn_intercalate '.' (fun part hmem => period_notMem_of_isIdentifier (hparts part hmem))
    hne

/-! ### Division -/

/-- The segments of the package and those of the class path. A name without a capitalized segment
has its last segment as class path. -/
def splitSegments (parts : List (List Char)) : List (List Char) × List (List Char) :=
  if parts.any beginsUppercase then
    (parts.takeWhile fun part => !beginsUppercase part,
      parts.dropWhile fun part => !beginsUppercase part)
  else (parts.dropLast, parts.getLast?.toList)

/-- How segments are divided: in front of the first capitalized one, or else in front of the last. -/
inductive SegmentsDivide : List (List Char) → List (List Char) → Prop
  | capitalized {front others : List (List Char)} {first : List Char}
      (hfront : ∀ part ∈ front, beginsUppercase part = false)
      (hfirst : beginsUppercase first = true) : SegmentsDivide front (first :: others)
  | lower {front : List (List Char)} {last : List Char}
      (hlower : ∀ part ∈ front ++ [last], beginsUppercase part = false) : SegmentsDivide front [last]

variable {front back others : List (List Char)} {first last : List Char}

theorem SegmentsDivide.splitSegments_eq (hdivide : SegmentsDivide front back) :
    splitSegments (front ++ back) = (front, back) := by
  cases hdivide with
  | @capitalized others first hfront hfirst =>
      have hany : (front ++ first :: others).any beginsUppercase = true :=
        List.any_eq_true.mpr ⟨first, List.mem_append_right front List.mem_cons_self, hfirst⟩
      have hlower : ∀ part ∈ front, (!beginsUppercase part) = true :=
        fun part hmem => by rw [hfront part hmem, Bool.not_false]
      rw [splitSegments, if_pos hany, List.takeWhile_append_of_pos hlower,
        List.dropWhile_append_of_pos hlower]
      simp only [List.takeWhile_cons, List.dropWhile_cons, hfirst, Bool.not_true, Bool.false_eq_true,
        if_false, List.append_nil]
  | @lower last hlower =>
      have hnone : ¬ (front ++ [last]).any beginsUppercase = true := by
        rw [List.any_eq_true]
        rintro ⟨part, hmem, hpart⟩
        rw [hlower part hmem] at hpart
        cases hpart
      rw [splitSegments, if_neg hnone, List.dropLast_concat, List.getLast?_concat, Option.toList_some]

theorem SegmentsDivide.front_lower (hdivide : SegmentsDivide front back) :
    ∀ part ∈ front, beginsUppercase part = false := by
  cases hdivide with
  | capitalized hfront _ => exact hfront
  | lower hlower => exact (List.forall_mem_append.mp hlower).1

theorem SegmentsDivide.back_ne_nil (hdivide : SegmentsDivide front back) : back ≠ [] := by
  cases hdivide with
  | capitalized => exact List.cons_ne_nil _ _
  | lower => exact List.cons_ne_nil _ _

theorem SegmentsDivide.back_capitalized (hdivide : SegmentsDivide front back)
    (hany : ∃ part ∈ front ++ back, beginsUppercase part = true) :
    ∃ first others, back = first :: others ∧ beginsUppercase first = true := by
  cases hdivide with
  | capitalized _ hfirst => exact ⟨_, _, rfl, hfirst⟩
  | lower hlower =>
      obtain ⟨part, hmem, hpart⟩ := hany
      rw [hlower part hmem] at hpart
      cases hpart

theorem SegmentsDivide.back_last (hdivide : SegmentsDivide front back)
    (hlower : ∀ part ∈ front ++ back, beginsUppercase part = false) : ∃ last, back = [last] := by
  cases hdivide with
  | @capitalized others first _ hfirst =>
      rw [hlower first (List.mem_append_right front List.mem_cons_self)] at hfirst
      cases hfirst
  | @lower last _ => exact ⟨last, rfl⟩

theorem exists_segmentsDivide {parts : List (List Char)} (hne : parts ≠ []) :
    ∃ front back, parts = front ++ back ∧ SegmentsDivide front back := by
  cases hfind : parts.find? beginsUppercase with
  | some first =>
      obtain ⟨hfirst, front, others, hparts, hfront⟩ := List.find?_eq_some_iff_append.mp hfind
      refine ⟨front, first :: others, hparts, .capitalized ?_ hfirst⟩
      intro part hmem
      rw [← Bool.not_eq_true']
      exact hfront part hmem
  | none =>
      obtain ⟨front, last, rfl⟩ := (List.eq_nil_or_concat' parts).resolve_left hne
      refine ⟨front, [last], rfl, .lower ?_⟩
      intro part hmem
      exact Bool.eq_false_iff.mpr (List.find?_eq_none.mp hfind part hmem)

/-! ### Cuts -/

/-- Each segment in front has a period behind it. -/
theorem joinSegments_append (front : List (List Char)) {rest : List (List Char)} (hrest : rest ≠ []) :
    joinSegments (front ++ rest) = front.flatMap (· ++ ['.']) ++ joinSegments rest := by
  induction front with
  | nil => rfl
  | cons segment front ih =>
      calc joinSegments (segment :: (front ++ rest))
          = segment ++ ['.'] ++ joinSegments (front ++ rest) :=
            List.intercalate_cons_of_ne_nil (List.append_ne_nil_of_right_ne_nil front hrest)
        _ = segment ++ ['.'] ++ (front.flatMap (· ++ ['.']) ++ joinSegments rest) := by rw [ih]
        _ = (segment :: front).flatMap (· ++ ['.']) ++ joinSegments rest := by
            rw [List.flatMap_cons, List.append_assoc (segment ++ ['.'])]

theorem flatMap_period (hfront : front ≠ []) :
    front.flatMap (· ++ ['.']) = joinSegments front ++ ['.'] := by
  have hclosed := joinSegments_append front (List.cons_ne_nil [] [])
  rw [joinSegments, intercalate_append hfront (List.cons_ne_nil [] [])] at hclosed
  exact (List.append_cancel_right hclosed).symm

theorem toList_eq_of_segments {name : String} (hback : back ≠ [])
    (hname : segments name.toList = front ++ back) :
    name.toList = front.flatMap (· ++ ['.']) ++ joinSegments back := by
  rw [← joinSegments_append front hback, ← hname, joinSegments_segments]

theorem utf8Len_append_period (text : List Char) :
    String.utf8Len (text ++ ['.']) = String.utf8Len text + 1 :=
  String.utf8Len_append text ['.']

/-- The offset counts the segments in front, each with its period. -/
theorem capitalizedOffset?_append (hfront : ∀ part ∈ front, beginsUppercase part = false)
    (hfirst : beginsUppercase first = true) (offset : Nat) :
    capitalizedOffset? offset (front ++ first :: others) =
      some (offset + String.utf8Len (front.flatMap (· ++ ['.']))) := by
  induction front generalizing offset with
  | nil =>
      rw [List.nil_append, capitalizedOffset?, if_pos hfirst]
      rfl
  | cons part front ih =>
      obtain ⟨hpart, hfront⟩ := List.forall_mem_cons.mp hfront
      have hsize : (String.ofList part).utf8ByteSize + 1 = String.utf8Len (part ++ ['.']) := by
        rw [utf8Len_append_period, String.utf8ByteSize_ofList]
      calc capitalizedOffset? offset (part :: (front ++ first :: others))
          = capitalizedOffset? (offset + (String.ofList part).utf8ByteSize + 1)
              (front ++ first :: others) := by rw [capitalizedOffset?, hpart, if_neg Bool.false_ne_true]
        _ = some (offset + String.utf8Len (part ++ ['.']) +
              String.utf8Len (front.flatMap (· ++ ['.']))) := by rw [ih hfront, Nat.add_assoc offset, hsize]
        _ = some (offset + String.utf8Len ((part :: front).flatMap (· ++ ['.']))) := by
            rw [List.flatMap_cons, String.utf8Len_append (part ++ ['.']), Nat.add_assoc]

theorem capitalizedOffset?_of_lower {parts : List (List Char)}
    (hparts : ∀ part ∈ parts, beginsUppercase part = false) (offset : Nat) :
    capitalizedOffset? offset parts = none := by
  induction parts generalizing offset with
  | nil => rfl
  | cons part parts ih =>
      obtain ⟨hpart, hparts⟩ := List.forall_mem_cons.mp hparts
      rw [capitalizedOffset?, hpart, if_neg Bool.false_ne_true, ih hparts]

theorem aroundLastPeriod?_of_notMem {text : List Char} (htext : '.' ∉ text) :
    aroundLastPeriod? text = none := by
  induction text with
  | nil => rfl
  | cons c text ih =>
      obtain ⟨hc, htext⟩ := not_or.mp (List.mem_cons.not.mp htext)
      rw [aroundLastPeriod?, ih htext]
      exact if_neg (Ne.symm hc)

theorem aroundLastPeriod?_append (hlast : '.' ∉ last) (text : List Char) :
    aroundLastPeriod? (text ++ '.' :: last) = some (text, last) := by
  induction text with
  | nil =>
      rw [List.nil_append, aroundLastPeriod?, aroundLastPeriod?_of_notMem hlast]
      exact if_pos rfl
  | cons c text ih => rw [List.cons_append, aroundLastPeriod?, ih]

theorem extract_front (text rest : List Char) :
    String.Pos.Raw.extract (String.ofList (text ++ rest)) 0 ⟨String.utf8Len text⟩ =
      String.ofList text := by
  have hextract := String.extract_of_valid [] text rest
  rw [String.utf8Len_nil, Nat.zero_add] at hextract
  exact hextract

theorem extract_back (text rest : List Char) :
    String.Pos.Raw.extract (String.ofList (text ++ rest)) ⟨String.utf8Len text⟩
      (String.ofList (text ++ rest)).rawEndPos = String.ofList rest := by
  have hextract := String.extract_of_valid text rest []
  rw [List.append_nil, ← String.utf8Len_append] at hextract
  rw [String.rawEndPos_ofList]
  exact hextract

theorem split_of_capitalized (hfront : ∀ part ∈ front, beginsUppercase part = false)
    (hfirst : beginsUppercase first = true) {name : String}
    (hname : segments name.toList = front ++ first :: others) :
    split name =
      (String.ofList (joinSegments front), String.ofList (joinSegments (first :: others))) := by
  have htext := toList_eq_of_segments (List.cons_ne_nil first others) hname
  have hoffset : capitalizedOffset? 0 (segments name.toList) =
      some (String.utf8Len (front.flatMap (· ++ ['.']))) := by
    rw [hname, capitalizedOffset?_append hfront hfirst, Nat.zero_add]
  rw [split, hoffset]
  by_cases hnil : front = []
  · subst hnil
    rw [List.flatMap_nil, List.nil_append] at htext
    rw [← htext, String.ofList_toList]
    rfl
  · rw [flatMap_period hnil] at htext ⊢
    rw [utf8Len_append_period]
    -- The period in front of the cut is one byte, which belongs to neither part.
    have hpackage := extract_front (joinSegments front) ('.' :: joinSegments (first :: others))
    rw [List.append_cons, ← htext, String.ofList_toList] at hpackage
    have hpath := extract_back (joinSegments front ++ ['.']) (joinSegments (first :: others))
    rw [← htext, String.ofList_toList, utf8Len_append_period] at hpath
    exact Prod.ext hpackage hpath

theorem split_of_lower {name : String}
    (hlower : ∀ part ∈ front ++ [last], beginsUppercase part = false)
    (hname : segments name.toList = front ++ [last]) :
    split name = (String.ofList (joinSegments front), String.ofList (joinSegments [last])) := by
  have hlast : '.' ∉ last :=
    period_notMem_of_mem_segments (hname ▸ List.mem_append_right front (List.mem_singleton_self last))
  have htext := toList_eq_of_segments (List.cons_ne_nil last []) hname
  have hsingle : joinSegments [last] = last := List.intercalate_singleton
  rw [hsingle] at htext ⊢
  rw [split, hname, capitalizedOffset?_of_lower hlower]
  by_cases hnil : front = []
  · subst hnil
    rw [List.flatMap_nil, List.nil_append] at htext
    rw [htext, aroundLastPeriod?_of_notMem hlast, ← htext, String.ofList_toList]
    rfl
  · rw [flatMap_period hnil, List.append_assoc, List.singleton_append] at htext
    rw [htext, aroundLastPeriod?_append hlast]

theorem split_of_segmentsDivide {name : String}
    (hdivide : SegmentsDivide front back) (hname : segments name.toList = front ++ back) :
    split name = (String.ofList (joinSegments front), String.ofList (joinSegments back)) := by
  cases hdivide with
  | capitalized hfront hfirst => exact split_of_capitalized hfront hfirst hname
  | lower hlower => exact split_of_lower hlower hname

/-! ### Packages and class paths -/

/-- The segments of the package of a name. -/
def packageSegments (qualified : String) : List (List Char) :=
  (splitSegments (segments qualified.toList)).1

/-- The segments of the class path of a name. -/
def classSegments (qualified : String) : List (List Char) :=
  (splitSegments (segments qualified.toList)).2

variable {name other : String}

theorem segmentsDivide (name : String) :
    SegmentsDivide (packageSegments name) (classSegments name) := by
  obtain ⟨front, back, hparts, hdivide⟩ := exists_segmentsDivide (segments_ne_nil name.toList)
  rw [packageSegments, classSegments, hparts, hdivide.splitSegments_eq]
  exact hdivide

theorem packageSegments_append (name : String) :
    packageSegments name ++ classSegments name = segments name.toList := by
  obtain ⟨front, back, hparts, hdivide⟩ := exists_segmentsDivide (segments_ne_nil name.toList)
  rw [packageSegments, classSegments, hparts, hdivide.splitSegments_eq]

theorem classSegments_ne_nil (name : String) : classSegments name ≠ [] :=
  (segmentsDivide name).back_ne_nil

/-- The cut leaves each part its own segments. -/
theorem split_eq (name : String) :
    split name = (String.ofList (joinSegments (packageSegments name)),
      String.ofList (joinSegments (classSegments name))) :=
  split_of_segmentsDivide (segmentsDivide name) (packageSegments_append name).symm

example : split "app.Outer.Inner" = ("app", "Outer.Inner") := by decide

theorem toList_package (name : String) :
    (package name).toList = joinSegments (packageSegments name) := by
  rw [package, split_eq]
  exact String.toList_ofList

theorem toList_classPath (name : String) :
    (classPath name).toList = joinSegments (classSegments name) := by
  rw [classPath, split_eq]
  exact String.toList_ofList

theorem isIdentifier_of_mem_append (hname : isQualified name = true) :
    ∀ part ∈ packageSegments name ++ classSegments name, isIdentifier part = true := by
  rw [packageSegments_append]
  exact List.all_eq_true.mp hname

theorem isIdentifier_of_mem_packageSegments (hname : isQualified name = true) {part : List Char}
    (hmem : part ∈ packageSegments name) : isIdentifier part = true :=
  isIdentifier_of_mem_append hname part (List.mem_append_left _ hmem)

theorem isIdentifier_of_mem_classSegments (hname : isQualified name = true) {part : List Char}
    (hmem : part ∈ classSegments name) : isIdentifier part = true :=
  isIdentifier_of_mem_append hname part (List.mem_append_right _ hmem)

theorem segments_classPath (hname : isQualified name = true) :
    segments (classPath name).toList = classSegments name := by
  rw [toList_classPath]
  exact segments_joinSegments (fun _ => isIdentifier_of_mem_classSegments hname) (classSegments_ne_nil name)

/-- The empty package has one segment, which is empty; otherwise no segment is. -/
theorem filter_segments_package (hname : isQualified name = true) :
    (segments (package name).toList).filter (fun segment => !segment.isEmpty) = packageSegments name := by
  have hparts : ∀ part ∈ packageSegments name, isIdentifier part = true :=
    fun _ => isIdentifier_of_mem_packageSegments hname
  rw [toList_package]
  by_cases hnil : packageSegments name = []
  · rw [hnil]
    rfl
  · rw [segments_joinSegments hparts hnil, List.filter_eq_self]
    intro part hmem
    rw [Bool.not_eq_true', List.isEmpty_eq_false_iff]
    exact ne_nil_of_isIdentifier (hparts part hmem)

theorem eq_of_segments (hpackage : packageSegments name = packageSegments other)
    (hclass : classSegments name = classSegments other) : name = other := by
  have hsegments : segments name.toList = segments other.toList := by
    rw [← packageSegments_append, ← packageSegments_append, hpackage, hclass]
  rw [← String.toList_inj, ← joinSegments_segments name.toList, hsegments, joinSegments_segments]

theorem slash_notMem_classPath (hname : isQualified name = true) : '/' ∉ (classPath name).toList := by
  intro hmem
  obtain ⟨segment, hsegment, hslash⟩ := exists_part_iff.mpr ⟨hmem, by decide⟩
  rw [segments_classPath hname] at hsegment
  exact slash_notMem_of_isIdentifier (isIdentifier_of_mem_classSegments hname hsegment) hslash

theorem classPath_ne_nil (hname : isQualified name = true) : (classPath name).toList ≠ [] := by
  intro hnil
  have hsegments := segments_classPath hname
  rw [hnil] at hsegments
  have hempty : [] ∈ classSegments name := hsegments ▸ List.mem_singleton_self []
  exact ne_nil_of_isIdentifier (isIdentifier_of_mem_classSegments hname hempty) rfl

theorem eq_of_package_of_classPath (hname : isQualified name = true)
    (hother : isQualified other = true) (hpackage : package name = package other)
    (hclass : classPath name = classPath other) : name = other := by
  apply eq_of_segments
  · rw [← filter_segments_package hname, hpackage, filter_segments_package hother]
  · rw [← segments_classPath hname, hclass, segments_classPath hother]

/-- The class path is the end of the name. -/
theorem classPath_suffix (name : String) : (classPath name).toList <:+ name.toList := by
  rw [toList_classPath, ← joinSegments_segments name.toList, ← packageSegments_append]
  by_cases hnil : packageSegments name = []
  · rw [hnil]
    exact List.suffix_refl _
  · rw [joinSegments, joinSegments, intercalate_append hnil (classSegments_ne_nil name)]
    exact List.suffix_append _ _

end Name

end BundleBinding
