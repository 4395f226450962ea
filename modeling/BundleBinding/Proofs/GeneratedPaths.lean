import BundleBinding.FileTree
import BundleBinding.Java.Source
import BundleBinding.Proofs.QualifiedNames

/-!
# Paths of generated files

The path of a generated file has a part for each segment of the package, and then what is made of the class
path and the suffix. The suffix may bring parts of its own, but the same ones for every host; so the path
tells hosts apart by their packages and flattened class paths and by nothing else.
-/

namespace BundleBinding

namespace FilePath

/-! ### Parts -/

theorem split_eq_splitOn (text : List Char) : split text = text.splitOn '/' := by
  fun_induction split text with
  | case1 => rfl
  | case2 text ih =>
      rw [List.splitOn_cons_eq_if_modifyHead, if_pos (beq_self_eq_true _), ih]
  | case3 c text _ hnil ih =>
      rw [hnil] at ih
      exact absurd ih.symm (List.splitOn_ne_nil '/' text)
  | case4 c text hc part others hparts ih =>
      have hne : c ≠ '/' := fun heq => hc heq
      rw [List.splitOn_cons_eq_if_modifyHead, if_neg (by rwa [beq_iff_eq]), ← ih, hparts,
        List.modifyHead_cons]

theorem split_ne_nil (text : List Char) : split text ≠ [] := by
  rw [split_eq_splitOn]
  exact List.splitOn_ne_nil '/' text

theorem split_append_slash (first second : List Char) :
    split (first ++ '/' :: second) = split first ++ split second := by
  rw [split_eq_splitOn, split_eq_splitOn, split_eq_splitOn, List.splitOn_append_cons_self]

/-- What stands before the first slash joins the first part. -/
theorem split_append_of_notMem {first : List Char} (hfirst : '/' ∉ first) (second : List Char) :
    split (first ++ second) = (split second).modifyHead (first ++ ·) := by
  rw [split_eq_splitOn, split_eq_splitOn]
  induction first with
  | nil =>
      rw [List.nil_append]
      cases second.splitOn '/' <;> rfl
  | cons c first ih =>
      obtain ⟨hc, hfirst⟩ := not_or.mp (List.mem_cons.not.mp hfirst)
      rw [List.cons_append, List.splitOn_cons_eq_if_modifyHead,
        if_neg (by rw [beq_iff_eq]; exact Ne.symm hc), ih hfirst, List.modifyHead_modifyHead]
      rfl

/-! ### Pushing -/

theorem startsWith_slash_iff (text : String) : text.startsWith "/" = true ↔ ['/'] <+: text.toList :=
  String.startsWith_string_iff

theorem endsWith_slash_iff (text : String) : text.endsWith "/" = true ↔ ['/'] <:+ text.toList := by
  rw [String.endsWith, String.Slice.endsWith_string_iff, String.copy_toSlice]
  rfl

theorem push_of_relative {path part : String} (hpart : ¬ ['/'] <+: part.toList)
    (hpath : path ≠ "") :
    push path part = if path.endsWith "/" then path ++ part else path ++ "/" ++ part := by
  have hrelative : (part.startsWith "/" || path.isEmpty) = false := by
    rw [Bool.or_eq_false_iff, Bool.eq_false_iff, Bool.eq_false_iff, Ne, startsWith_slash_iff, Ne,
      String.isEmpty_iff]
    exact ⟨hpart, hpath⟩
  rw [push, hrelative, if_neg Bool.false_ne_true]

theorem push_of_unclosed {path part : String} (hpart : ¬ ['/'] <+: part.toList) (hpath : path ≠ "")
    (hend : ¬ ['/'] <:+ path.toList) : push path part = path ++ "/" ++ part := by
  rw [push_of_relative hpart hpath, if_neg]
  rwa [endsWith_slash_iff]

theorem push_empty (part : String) : push "" part = part := by
  rw [push, String.isEmpty_iff.mpr rfl, Bool.or_true, if_pos rfl]

/-- A relative path goes behind the parts of the directory, whatever that is. -/
theorem exists_split_push (directory : String) :
    ∃ front parts, ∀ part : String, ¬ ['/'] <+: part.toList →
      (push directory part).toList = front ++ part.toList ∧
      split (push directory part).toList = parts ++ split part.toList := by
  by_cases hempty : directory = ""
  · subst hempty
    refine ⟨[], [], fun part _ => ?_⟩
    rw [push_empty]
    exact ⟨rfl, rfl⟩
  by_cases hend : ['/'] <:+ directory.toList
  · obtain ⟨front, hfront⟩ := hend
    refine ⟨directory.toList, split front, fun part hpart => ?_⟩
    have hclosed : directory.endsWith "/" = true := (endsWith_slash_iff directory).mpr ⟨front, hfront⟩
    rw [push_of_relative hpart hempty, if_pos hclosed, String.toList_append]
    refine ⟨rfl, ?_⟩
    rw [← hfront, List.append_assoc, List.singleton_append, split_append_slash]
  · refine ⟨directory.toList ++ ['/'], split directory.toList, fun part hpart => ?_⟩
    rw [push_of_unclosed hpart hempty hend, String.toList_append, String.toList_append]
    refine ⟨rfl, ?_⟩
    change split (directory.toList ++ ['/'] ++ part.toList) = _
    rw [List.append_assoc, List.singleton_append, split_append_slash]

variable {parts : List (List Char)}

theorem ofParts_append (parts : List String) (last : String) :
    ofParts (parts ++ [last]) = push (ofParts parts) last := by
  rw [ofParts, List.foldl_append, List.foldl_cons, List.foldl_nil, ofParts]

/-- A file below directories with proper names. -/
theorem toList_push_ofParts (hparts : ∀ part ∈ parts, part ≠ [] ∧ '/' ∉ part) {file : String}
    (hfile : ¬ ['/'] <+: file.toList) :
    (push (ofParts (parts.map String.ofList)) file).toList =
      ['/'].intercalate (parts ++ [file.toList]) := by
  induction parts using List.reverseRecOn generalizing file with
  | nil =>
      change (push "" file).toList = _
      rw [push_empty, List.nil_append, List.intercalate_singleton]
  | append_singleton parts last ih =>
      obtain ⟨hothers, hlast⟩ := List.forall_mem_append.mp hparts
      obtain ⟨hne, hslash⟩ := hlast last (List.mem_singleton_self last)
      have hrelative : ¬ ['/'] <+: (String.ofList last).toList := by
        rw [String.toList_ofList]
        exact fun hstart => hslash (hstart.subset (List.mem_singleton_self _))
      have hpath := ih hothers hrelative
      rw [String.toList_ofList] at hpath
      -- The directory ends with the name of the last one.
      obtain ⟨front, hfront⟩ := suffix_intercalate_append ['/'] parts last
      rw [List.map_append, List.map_singleton, ofParts_append, push_of_unclosed hfile]
      · rw [String.toList_append, String.toList_append, hpath,
          intercalate_append (List.append_ne_nil_of_right_ne_nil _ (List.cons_ne_nil _ _))
            (List.cons_ne_nil _ _), List.intercalate_singleton]
        rfl
      · intro hempty
        rw [hempty, ← hfront] at hpath
        exact hne (List.append_eq_nil_iff.mp hpath.symm).2
      · rw [hpath, ← hfront]
        intro hend
        have hlast : ['/'] <:+ last :=
          List.suffix_of_suffix_length_le hend (List.suffix_append front last)
            (List.length_pos_iff.mpr hne)
        exact hslash (hlast.subset (List.mem_singleton_self _))

theorem split_intercalate_append (hparts : ∀ part ∈ parts, '/' ∉ part) (file : List Char) :
    split (['/'].intercalate (parts ++ [file])) = parts ++ split file := by
  by_cases hnil : parts = []
  · rw [hnil, List.nil_append, List.intercalate_singleton, List.nil_append]
  · rw [intercalate_append hnil (List.cons_ne_nil _ _), List.intercalate_singleton, List.append_assoc,
      List.singleton_append, split_append_slash, split_eq_splitOn,
      List.splitOn_intercalate '/' hparts hnil]

end FilePath

namespace Java

open Name (packageSegments classSegments)

variable {host other suffix : String} {spec : BindingSpec}

/-- The class path of a host as a single name. -/
def flatName (host : String) : String :=
  (Name.classPath host).map fun c => if c = '.' then '$' else c

theorem toList_flatName (host : String) :
    (flatName host).toList = (Name.classPath host).toList.map fun c => if c = '.' then '$' else c :=
  String.toList_map

theorem period_notMem_flatName (host : String) : '.' ∉ (flatName host).toList := by
  rw [toList_flatName, List.mem_map]
  rintro ⟨c, _, hc⟩
  by_cases hperiod : c = '.'
  · rw [if_pos hperiod] at hc
    exact absurd hc (by decide)
  · rw [if_neg hperiod] at hc
    exact hperiod hc

theorem slash_notMem_flatName (hhost : Name.isQualified host = true) :
    '/' ∉ (flatName host).toList := by
  rw [toList_flatName, List.mem_map]
  rintro ⟨c, hmem, hc⟩
  by_cases hperiod : c = '.'
  · rw [if_pos hperiod] at hc
    exact absurd hc (by decide)
  · rw [if_neg hperiod] at hc
    subst hc
    exact Name.slash_notMem_classPath hhost hmem

theorem flatName_ne_nil (hhost : Name.isQualified host = true) : (flatName host).toList ≠ [] := by
  rw [toList_flatName, Ne, List.map_eq_nil_iff]
  exact Name.classPath_ne_nil hhost

theorem binderSimpleName_eq (suffix host : String) :
    binderSimpleName suffix host = flatName host ++ suffix := rfl

/-! ### The parts of a path -/

theorem path_generate (suffix : String) (spec : BindingSpec) :
    (generate suffix spec).path =
      FilePath.push
        (FilePath.ofParts (((Name.segments spec.package.toList).map String.ofList).filter
          fun segment => !segment.isEmpty))
        (binderSimpleName suffix spec.host ++ ".java") := rfl

theorem toList_path (hhost : Name.isQualified spec.host = true) :
    (generate suffix spec).path.toList =
      ['/'].intercalate (packageSegments spec.host ++
        [(flatName spec.host).toList ++ (suffix ++ ".java").toList]) := by
  have hfile : (binderSimpleName suffix spec.host ++ ".java").toList =
      (flatName spec.host).toList ++ (suffix ++ ".java").toList := by
    rw [binderSimpleName_eq, String.append_assoc, String.toList_append]
  have hrelative : ¬ ['/'] <+: (binderSimpleName suffix spec.host ++ ".java").toList := by
    rw [hfile]
    intro hstart
    have hflat : ['/'] <+: (flatName spec.host).toList :=
      List.prefix_of_prefix_length_le hstart (List.prefix_append _ _)
        (List.length_pos_iff.mpr (flatName_ne_nil hhost))
    exact slash_notMem_flatName hhost (hflat.subset (List.mem_singleton_self _))
  have hdirectories : ((Name.segments spec.package.toList).map String.ofList).filter
      (fun segment => !segment.isEmpty) = (packageSegments spec.host).map String.ofList := by
    rw [List.filter_map, ← Name.filter_segments_package hhost]
    refine congrArg (List.map String.ofList) (List.filter_congr ?_)
    intro segment _
    rw [Function.comp_apply, Bool.eq_iff_iff, Bool.not_eq_true', Bool.not_eq_true',
      Bool.eq_false_iff, Bool.eq_false_iff, Ne, Ne, String.isEmpty_iff, List.isEmpty_iff,
      ← String.toList_inj, String.toList_ofList]
    rfl
  rw [path_generate, hdirectories, ← hfile]
  apply FilePath.toList_push_ofParts _ hrelative
  intro part hmem
  have hpart := Name.isIdentifier_of_mem_packageSegments hhost hmem
  exact ⟨Name.ne_nil_of_isIdentifier hpart, Name.slash_notMem_of_isIdentifier hpart⟩

theorem split_path (hhost : Name.isQualified spec.host = true) :
    FilePath.split (generate suffix spec).path.toList =
      packageSegments spec.host ++
        (FilePath.split (suffix ++ ".java").toList).modifyHead ((flatName spec.host).toList ++ ·) := by
  rw [toList_path hhost, FilePath.split_intercalate_append,
    FilePath.split_append_of_notMem (slash_notMem_flatName hhost)]
  intro part hmem
  exact Name.slash_notMem_of_isIdentifier (Name.isIdentifier_of_mem_packageSegments hhost hmem)

/-! ### Equal paths -/

theorem append_cons_inj {α : Type} {front others rest : List α} {first second : α}
    (heq : front ++ first :: rest = others ++ second :: rest) : front = others ∧ first = second := by
  rw [List.append_cons front first rest, List.append_cons others second rest] at heq
  obtain ⟨hfront, hlast⟩ := List.append_inj' (List.append_cancel_right heq) rfl
  exact ⟨hfront, List.singleton_inj.mp hlast⟩

theorem package_eq {first second : BindingSpec}
    (hsegments : packageSegments first.host = packageSegments second.host) :
    first.package = second.package := by
  rw [← String.toList_inj, BindingSpec.package, BindingSpec.package, Name.toList_package,
    Name.toList_package, hsegments]

/-- A path tells the package and the flattened class path, and nothing else. -/
theorem path_eq_iff {first second : BindingSpec} (hfirst : Name.isQualified first.host = true)
    (hsecond : Name.isQualified second.host = true) :
    (generate suffix first).path = (generate suffix second).path ↔
      first.package = second.package ∧ flatName first.host = flatName second.host := by
  constructor
  · intro hpath
    have hsplit := congrArg (fun path : String => FilePath.split path.toList) hpath
    simp only [split_path hfirst, split_path hsecond] at hsplit
    obtain ⟨part, parts, hparts⟩ :=
      List.exists_cons_of_ne_nil (FilePath.split_ne_nil (suffix ++ ".java").toList)
    rw [hparts, List.modifyHead_cons, List.modifyHead_cons] at hsplit
    obtain ⟨hpackage, hflat⟩ := append_cons_inj hsplit
    exact ⟨package_eq hpackage, String.toList_inj.mp (List.append_cancel_right hflat)⟩
  · rintro ⟨hpackage, hflat⟩
    rw [path_generate, path_generate, hpackage, binderSimpleName_eq, binderSimpleName_eq, hflat]

theorem map_flatName (hdollar : '$' ∉ host.toList) :
    (flatName host).toList.map (fun c => if c = '$' then '.' else c) =
      (Name.classPath host).toList := by
  have hdollar : '$' ∉ (Name.classPath host).toList :=
    fun hmem => hdollar ((Name.classPath_suffix host).subset hmem)
  rw [toList_flatName, List.map_map]
  refine (List.map_congr_left ?_).trans (List.map_id _)
  intro c hmem
  by_cases hperiod : c = '.'
  · rw [Function.comp_apply, if_pos hperiod, if_pos rfl, hperiod, id]
  · have hc : c ≠ '$' := fun heq => hdollar (heq ▸ hmem)
    rw [Function.comp_apply, if_neg hperiod, if_neg hc, id]

theorem host_eq_of_path_eq {first second : BindingSpec}
    (hfirst : Name.isQualified first.host = true) (hsecond : Name.isQualified second.host = true)
    (hfirstDollar : '$' ∉ first.host.toList) (hsecondDollar : '$' ∉ second.host.toList)
    (hpath : (generate suffix first).path = (generate suffix second).path) :
    first.host = second.host := by
  obtain ⟨hpackage, hflat⟩ := (path_eq_iff hfirst hsecond).mp hpath
  apply Name.eq_of_package_of_classPath hfirst hsecond hpackage
  rw [← String.toList_inj, ← map_flatName hfirstDollar, ← map_flatName hsecondDollar, hflat]

end Java

end BundleBinding
