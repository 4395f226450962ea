import BundleBinding.Proofs.IndexCalls
import BundleBinding.Proofs.QualifiedNames

/-!
# The division of qualified names

What package and class path of a name have to be can be said without saying how they are found: joined they
give the name, no segment of the package is capitalized, and the class path begins with a capitalized segment
if there is one and is the last segment if there is none. For a name that an index accepts there is one such
division, and the cut finds it. It never falls inside a character.
-/

namespace BundleBinding

namespace Name

variable {name package path : String}

/-- What package and class path of a name have to be. -/
structure Divides (name package path : String) : Prop where
  path_ne_empty : path ≠ ""
  name_eq : name = if package = "" then path else package ++ "." ++ path
  package_lower : ∀ segment ∈ segments package.toList, beginsUppercase segment = false
  path_capitalized : (∃ segment ∈ segments name.toList, beginsUppercase segment = true) →
    beginsUppercase path.toList = true
  path_last : (∀ segment ∈ segments name.toList, beginsUppercase segment = false) → path = simple name

/-! ### Segments of the parts -/

theorem segments_append_period (front back : List Char) :
    segments (front ++ '.' :: back) = segments front ++ segments back := by
  rw [segments_eq_splitOn, segments_eq_splitOn, segments_eq_splitOn, List.splitOn_append_cons_self]

theorem segments_of_notMem {text : List Char} (htext : '.' ∉ text) : segments text = [text] := by
  rw [segments_eq_splitOn]
  exact List.splitOn_eq_singleton htext

/-- A text begins as its first segment does, which is empty if a period comes first. -/
theorem beginsUppercase_of_segments {text first : List Char} {others : List (List Char)}
    (hsegments : segments text = first :: others) : beginsUppercase first = beginsUppercase text := by
  cases text with
  | nil =>
      cases hsegments
      rfl
  | cons c text =>
      by_cases hc : c = '.'
      · subst hc
        cases hsegments
        rfl
      · obtain ⟨part, rest, _, hcons⟩ := segments_cons_of_ne hc text
        rw [hcons] at hsegments
        cases hsegments
        rfl

theorem getLast?_segments (name : String) :
    (segments name.toList).getLast? = some (simple name).toList := by
  rw [simple, String.toList_ofList, List.getLastD_eq_getLast?,
    List.getLast?_eq_some_getLast (segments_ne_nil name.toList), Option.getD_some]

/-! ### There is one division -/

/-- The segments in front of the class path are those of the package, and none if that is empty. -/
theorem Divides.exists_front (hdivides : Divides name package path) :
    ∃ front, joinSegments front = package.toList ∧
      segments name.toList = front ++ segments path.toList ∧
      ∀ part ∈ front, beginsUppercase part = false := by
  have hname := hdivides.name_eq
  by_cases hempty : package = ""
  · rw [if_pos hempty] at hname
    subst hname hempty
    exact ⟨[], rfl, rfl, fun _ hmem => absurd hmem List.not_mem_nil⟩
  · rw [if_neg hempty] at hname
    refine ⟨segments package.toList, joinSegments_segments _, ?_, hdivides.package_lower⟩
    have htext : name.toList = package.toList ++ '.' :: path.toList := by
      rw [hname, String.toList_append, String.toList_append, List.append_assoc]
      rfl
    rw [htext, segments_append_period]

theorem Divides.exists_segmentsDivide (hdivides : Divides name package path) :
    ∃ front, joinSegments front = package.toList ∧
      segments name.toList = front ++ segments path.toList ∧
      SegmentsDivide front (segments path.toList) := by
  obtain ⟨front, hpackage, hname, hfront⟩ := hdivides.exists_front
  refine ⟨front, hpackage, hname, ?_⟩
  by_cases hany : ∃ segment ∈ segments name.toList, beginsUppercase segment = true
  · obtain ⟨first, others, hpath⟩ := List.exists_cons_of_ne_nil (segments_ne_nil path.toList)
    rw [hpath]
    refine .capitalized hfront ?_
    rw [beginsUppercase_of_segments hpath]
    exact hdivides.path_capitalized hany
  · have hlower : ∀ segment ∈ segments name.toList, beginsUppercase segment = false := by
      intro segment hmem
      exact Bool.eq_false_iff.mpr fun hsegment => hany ⟨segment, hmem, hsegment⟩
    -- The last segment has no period, so it is the only segment of itself.
    have hlast : segments path.toList = [path.toList] := by
      have hmem : (simple name).toList ∈ segments name.toList :=
        List.mem_of_getLast? (getLast?_segments name)
      rw [hdivides.path_last hlower]
      exact segments_of_notMem (period_notMem_of_mem_segments hmem)
    rw [hname] at hlower
    rw [hlast] at hlower ⊢
    exact .lower hlower

theorem Divides.eq_split (hdivides : Divides name package path) :
    package = Name.package name ∧ path = classPath name := by
  obtain ⟨front, hpackage, hname, hdivide⟩ := hdivides.exists_segmentsDivide
  have hsplit := hdivide.splitSegments_eq
  rw [← hname] at hsplit
  constructor
  · rw [← String.toList_inj, toList_package, packageSegments, hsplit, hpackage]
  · rw [← String.toList_inj, toList_classPath, classSegments, hsplit, joinSegments_segments]

/-! ### The cut finds it -/

theorem package_eq_empty_iff (hname : isQualified name = true) :
    Name.package name = "" ↔ packageSegments name = [] := by
  constructor
  · intro hempty
    rw [← filter_segments_package hname, hempty]
    rfl
  · intro hnil
    rw [← String.toList_inj, toList_package, hnil]
    rfl

theorem beginsUppercase_of_mem_package (hname : isQualified name = true) {segment : List Char}
    (hmem : segment ∈ segments (Name.package name).toList) : beginsUppercase segment = false := by
  by_cases hempty : segment.isEmpty = true
  · rw [List.isEmpty_iff.mp hempty]
    rfl
  · have hpart : segment ∈ packageSegments name := by
      rw [← filter_segments_package hname, List.mem_filter, Bool.not_eq_true', Bool.eq_false_iff]
      exact ⟨hmem, hempty⟩
    exact (segmentsDivide name).front_lower segment hpart

theorem eq_package_append_classPath (hname : isQualified name = true) :
    name = if Name.package name = "" then classPath name else Name.package name ++ "." ++ classPath name := by
  have htext : name.toList = joinSegments (packageSegments name ++ classSegments name) := by
    rw [packageSegments_append, joinSegments_segments]
  by_cases hnil : packageSegments name = []
  · rw [if_pos ((package_eq_empty_iff hname).mpr hnil), ← String.toList_inj, toList_classPath, htext, hnil,
      List.nil_append]
  · rw [if_neg ((package_eq_empty_iff hname).not.mpr hnil), ← String.toList_inj, String.toList_append,
      String.toList_append, toList_package, toList_classPath, htext, joinSegments,
      intercalate_append hnil (classSegments_ne_nil name)]
    rfl

theorem divides_split (hname : isQualified name = true) :
    Divides name (Name.package name) (classPath name) where
  path_ne_empty := by
    rw [Ne, ← String.toList_inj]
    exact classPath_ne_nil hname
  name_eq := eq_package_append_classPath hname
  package_lower := fun _ => beginsUppercase_of_mem_package hname
  path_capitalized := by
    rw [← packageSegments_append]
    intro hany
    obtain ⟨first, others, hclass, hfirst⟩ := (segmentsDivide name).back_capitalized hany
    rw [← segments_classPath hname] at hclass
    rwa [← beginsUppercase_of_segments hclass]
  path_last := by
    rw [← packageSegments_append]
    intro hlower
    obtain ⟨last, hclass⟩ := (segmentsDivide name).back_last hlower
    have hlast := getLast?_segments name
    rw [← packageSegments_append, hclass, List.getLast?_concat, Option.some_inj] at hlast
    rw [← String.toList_inj, toList_classPath, hclass, joinSegments, List.intercalate_singleton, hlast]

/-! ### The cut falls between characters -/

theorem isValid_utf8Len {front back : List Char} (hname : name.toList = front ++ back) :
    (⟨String.utf8Len front⟩ : String.Pos.Raw).IsValid name := by
  rw [String.Pos.Raw.isValid_iff_exists_append]
  refine ⟨String.ofList front, String.ofList back, ?_, ?_⟩
  · rw [← String.ofList_append, ← hname, String.ofList_toList]
  · rw [String.rawEndPos_ofList]

theorem cut_isValid {offset : Nat}
    (hoffset : capitalizedOffset? 0 (segments name.toList) = some offset) :
    (⟨offset - 1⟩ : String.Pos.Raw).IsValid name ∧ (⟨offset⟩ : String.Pos.Raw).IsValid name := by
  obtain ⟨front, back, hname, hdivide⟩ := exists_segmentsDivide (segments_ne_nil name.toList)
  rw [hname] at hoffset
  cases hdivide with
  | lower hlower =>
      rw [capitalizedOffset?_of_lower hlower] at hoffset
      cases hoffset
  | @capitalized others first hfront hfirst =>
      rw [capitalizedOffset?_append hfront hfirst, Nat.zero_add, Option.some_inj] at hoffset
      subst hoffset
      have htext := toList_eq_of_segments (List.cons_ne_nil first others) hname
      refine ⟨?_, isValid_utf8Len htext⟩
      by_cases hnil : front = []
      · subst hnil
        exact isValid_utf8Len (List.nil_append name.toList).symm
      · rw [flatMap_period hnil, List.append_assoc] at htext
        rw [flatMap_period hnil, utf8Len_append_period, Nat.add_one_sub_one]
        exact isValid_utf8Len htext

end Name

/-! ### Names that an index accepts -/

namespace ProgramIndex

variable {name : String}

/-- A name that some index accepts, for a type or for one of its supertypes. -/
def Admits (name : String) : Prop :=
  ∃ index declaration next, addType index declaration = .ok next ∧
    (name = declaration.name ∨ name ∈ declaration.supertypes)

theorem isQualified_of_forM {names : List String} {done : Unit}
    (hchecks : names.forM checkQualified = .ok done) :
    ∀ name ∈ names, Name.isQualified name = true := by
  induction names with
  | nil => exact fun _ hmem => absurd hmem List.not_mem_nil
  | cons first names ih =>
      obtain ⟨_, hfirst, hchecks⟩ := bind_eq_ok_iff.mp hchecks
      exact List.forall_mem_cons.mpr ⟨isQualified_of_check hfirst, ih hchecks⟩

theorem admits_iff : Admits name ↔ Name.isQualified name = true := by
  constructor
  · rintro ⟨index, declaration, next, hadd, hname⟩
    obtain ⟨_, hcheck, hadd⟩ := bind_eq_ok_iff.mp hadd
    obtain ⟨_, hchecks, _⟩ := bind_eq_ok_iff.mp hadd
    rcases hname with rfl | hmem
    · exact isQualified_of_check hcheck
    · exact isQualified_of_forM hchecks name hmem
  · intro hname
    have hcheck : checkQualified name = .ok () := if_pos hname
    cases hadd : empty.addType ⟨name, .classType, [], none, []⟩ with
    | ok next => exact ⟨empty, _, next, hadd, .inl rfl⟩
    | error fault =>
        rw [addType, hcheck] at hadd
        cases hadd

end ProgramIndex

/-- **Names are divided without loss.** For a name that an index accepts, package and class path are what
they have to be, and nothing else is; and where the name is cut, in front of a capitalized segment and in
front of the period before that, no character is cut. -/
theorem admitted_names_divided {name : String} (hname : ProgramIndex.Admits name) :
    Name.Divides name (Name.package name) (Name.classPath name) ∧
    (∀ package path, Name.Divides name package path →
      package = Name.package name ∧ path = Name.classPath name) ∧
    ∀ offset, Name.capitalizedOffset? 0 (Name.segments name.toList) = some offset →
      (⟨offset - 1⟩ : String.Pos.Raw).IsValid name ∧ (⟨offset⟩ : String.Pos.Raw).IsValid name := by
  have hqualified := ProgramIndex.admits_iff.mp hname
  refine ⟨Name.divides_split hqualified, ?_, ?_⟩
  · intro package path hdivides
    exact hdivides.eq_split
  · intro offset hoffset
    exact Name.cut_isValid hoffset

theorem nested_name_divided :
    ProgramIndex.Admits "com.example.Outer.inner.Deep" ∧
    Name.Divides "com.example.Outer.inner.Deep" "com.example" "Outer.inner.Deep" ∧
    (⟨11⟩ : String.Pos.Raw).IsValid "com.example.Outer.inner.Deep" ∧
    (⟨12⟩ : String.Pos.Raw).IsValid "com.example.Outer.inner.Deep" := by
  have hname : ProgramIndex.Admits "com.example.Outer.inner.Deep" :=
    ProgramIndex.admits_iff.mpr (by decide)
  obtain ⟨hdivides, -, hcut⟩ := admitted_names_divided hname
  have hpackage : Name.package "com.example.Outer.inner.Deep" = "com.example" := by decide
  have hpath : Name.classPath "com.example.Outer.inner.Deep" = "Outer.inner.Deep" := by decide
  rw [hpackage, hpath] at hdivides
  exact ⟨hname, hdivides, hcut 12 (by decide)⟩

end BundleBinding
