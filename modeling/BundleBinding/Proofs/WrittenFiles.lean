import BundleBinding.Java.Output
import BundleBinding.Proofs.GeneratedPaths
import BundleBinding.Proofs.IndexCalls
import BundleBinding.Proofs.Offers
import BundleBinding.Proofs.Resolution

/-!
# Written files

A file is overwritten when a later path leads to its place. Two paths of one run do so if they are equal,
which takes hosts of one package whose class paths are the same once they are flattened; or if they climb
back on the way, which takes a suffix that says so.
-/

namespace BundleBinding

namespace FilePath

/-! ### Where paths lead -/

/-- One part further along a path. -/
def follow (location : Location) (part : String) : Option Location :=
  if part.isEmpty || part == "." then some location
  else if part == ".." then
    if location.isEmpty then none else some location.dropLast
  else some (location ++ [part])

theorem locate_eq (path : String) :
    locate path = ((split path.toList).map String.ofList).foldlM follow [] := rfl

/-- A part that is an entry of the directory before it. -/
def isEntry (part : String) : Bool :=
  !(part.isEmpty || part == ".")

/-- A part that is not made of periods alone is the name of an entry. -/
theorem isEntry_ofList {text : List Char} {c : Char} (hmem : c ∈ text) (hc : c ≠ '.') :
    isEntry (String.ofList text) = true ∧ String.ofList text ≠ ".." := by
  have hne : ∀ other : String, c ∉ other.toList → String.ofList text ≠ other := by
    rintro _ hother rfl
    rw [String.toList_ofList] at hother
    exact hother hmem
  refine ⟨?_, hne ".." (by simp [hc])⟩
  rw [isEntry, Bool.not_eq_true', Bool.or_eq_false_iff, Bool.eq_false_iff, Ne, String.isEmpty_iff,
    beq_eq_false_iff_ne]
  exact ⟨hne "" (by simp), hne "." (by simp [hc])⟩

/-- Parts that do not climb lead down by their entries. -/
theorem foldlM_follow {parts : List String} (hparts : ".." ∉ parts) (location : Location) :
    parts.foldlM follow location = some (location ++ parts.filter isEntry) := by
  induction parts generalizing location with
  | nil => rw [List.filter_nil, List.append_nil]; rfl
  | cons part parts ih =>
      obtain ⟨hpart, hparts⟩ := not_or.mp (List.mem_cons.not.mp hparts)
      rw [List.foldlM_cons, follow]
      by_cases hstays : (part.isEmpty || part == ".") = true
      · rw [if_pos hstays, List.filter_cons_of_neg (by rw [isEntry, hstays]; exact Bool.false_ne_true)]
        exact ih hparts location
      · rw [if_neg hstays, if_neg (by rw [beq_iff_eq]; exact Ne.symm hpart),
          List.filter_cons_of_pos (by rw [isEntry, Bool.eq_false_iff.mpr hstays]; rfl)]
        refine (ih hparts (location ++ [part])).trans ?_
        rw [List.append_assoc, List.singleton_append]

end FilePath

namespace FileTree

variable {tree next : FileTree} {location : Location} {text path : String}

/-- A place that is free is written. -/
theorem write?_of_free
    (hfree : (location.all FilePath.isEntryName && !(above location).any tree.isFile &&
      !tree.isDirectory location) = true) (text : String) :
    tree.write? location text = some { tree.addDirectories (above location) with
      files := tree.files.insert location text } :=
  if_pos hfree

theorem get?_of_write? (hwrite : tree.write? location text = some next) (other : Location) :
    next.files.get? other = if other = location then some text else tree.files.get? other := by
  simp only [write?] at hwrite
  split at hwrite
  · cases hwrite
    exact tree.files.get?_insert location other text
  · cases hwrite

theorem read_of_get? (hlocate : FilePath.locate path = some location)
    (hget : tree.files.get? location = some text) (hfile : ¬ ['/'] <:+ path.toList) :
    tree.read path = .ok text := by
  simp only [read, hlocate, hget]
  rw [if_neg (by rwa [FilePath.endsWith_slash_iff])]
  rfl

theorem run_write (path text : String) (tree : FileTree) :
    (access.write path text).run tree =
      match (FilePath.locate path).bind fun location => tree.write? location text with
      | some next => (true, next)
      | none => (false, tree) := by
  change (match (FilePath.locate path).bind fun location => tree.write? location text with
    | some tree => (do set tree; return true : StateM FileTree Bool)
    | none => return false).run tree = _
  cases (FilePath.locate path).bind fun location => tree.write? location text with
  | none => rfl
  | some next => rfl

end FileTree

namespace Java

variable {suffix directory : String} {tree next final : FileTree} {spec : BindingSpec}
  {specs : List BindingSpec} {location : Location}

/-- The path of a specification's file below a directory. -/
def target (suffix directory : String) (spec : BindingSpec) : String :=
  FilePath.push directory (generate suffix spec).path

/-! ### Runs that write every file -/

theorem run_add (suffix directory : String) (output : Output) (spec : BindingSpec) (tree : FileTree) :
    (Output.add FileTree.access suffix directory output spec).run tree =
      match (FilePath.locate (target suffix directory spec)).bind fun location =>
        tree.write? location (generate suffix spec).source with
      | some next =>
          ({ output with written := output.written ++ [target suffix directory spec] }, next)
      | none =>
          ({ output with failures := output.failures ++
              [(BindingProblem.unwritable spec.host Fault.elided).report spec.host none] }, tree) := by
  have hwrite := FileTree.run_write (target suffix directory spec) (generate suffix spec).source tree
  rw [target] at hwrite ⊢
  simp only [Output.add, StateT.run_bind, hwrite]
  cases (FilePath.locate (FilePath.push directory (generate suffix spec).path)).bind
      fun location => tree.write? location (generate suffix spec).source with
  | none => rfl
  | some next => rfl

/-- Every file is written where its path leads, one after the other. -/
inductive Writes (suffix directory : String) : FileTree → List BindingSpec → FileTree → Prop
  | done (tree : FileTree) : Writes suffix directory tree [] tree
  | write {tree next final : FileTree} {spec : BindingSpec} {specs : List BindingSpec}
      {location : Location}
      (hlocate : FilePath.locate (target suffix directory spec) = some location)
      (hwrite : tree.write? location (generate suffix spec).source = some next)
      (hrest : Writes suffix directory next specs final) :
      Writes suffix directory tree (spec :: specs) final

theorem writes_of_no_failures (output : Output) (specs : List BindingSpec) (tree : FileTree)
    (hfailures :
      ((specs.foldlM (Output.add FileTree.access suffix directory) output).run tree).1.failures = []) :
    output.failures = [] ∧
      Writes suffix directory tree specs
        ((specs.foldlM (Output.add FileTree.access suffix directory) output).run tree).2 := by
  induction specs generalizing output tree with
  | nil => exact ⟨hfailures, .done tree⟩
  | cons spec specs ih =>
      have hadd := run_add suffix directory output spec tree
      simp only [List.foldlM_cons, StateT.run_bind, hadd] at hfailures ⊢
      cases hwritten : (FilePath.locate (target suffix directory spec)).bind
          fun location => tree.write? location (generate suffix spec).source with
      | none =>
          -- A failure stays to the end.
          rw [hwritten] at hfailures
          obtain ⟨hnone, -⟩ := ih _ tree hfailures
          exact absurd hnone (List.append_ne_nil_of_right_ne_nil _ (List.cons_ne_nil _ _))
      | some next =>
          rw [hwritten] at hfailures
          obtain ⟨houtput, hwrites⟩ := ih _ next hfailures
          obtain ⟨location, hlocate, hwrite⟩ := Option.bind_eq_some_iff.mp hwritten
          exact ⟨houtput, .write hlocate hwrite hwrites⟩

namespace Writes

/-- Such a run names the paths in order and adds no failure. -/
theorem run_eq (hwrites : Writes suffix directory tree specs final) (output : Output) :
    (specs.foldlM (Output.add FileTree.access suffix directory) output).run tree =
      ({ output with written := output.written ++ specs.map (target suffix directory) }, final) := by
  induction hwrites generalizing output with
  | done => rw [List.map_nil, List.append_nil]; rfl
  | write hlocate hwrite _ ih =>
      rw [List.foldlM_cons, StateT.run_bind, run_add, hlocate, Option.bind_some, hwrite]
      refine (ih _).trans ?_
      rw [List.map_cons, List.append_assoc, List.singleton_append]

theorem exists_location (hwrites : Writes suffix directory tree specs final) (hmem : spec ∈ specs) :
    ∃ location, FilePath.locate (target suffix directory spec) = some location := by
  induction hwrites with
  | done => cases hmem
  | write hlocate _ _ ih =>
      rcases List.mem_cons.mp hmem with rfl | hmem
      · exact ⟨_, hlocate⟩
      · exact ih hmem

/-- Files to which no path leads stay as they are. -/
theorem get?_of_forall_ne (hwrites : Writes suffix directory tree specs final)
    (hother : ∀ spec ∈ specs, FilePath.locate (target suffix directory spec) ≠ some location) :
    final.files.get? location = tree.files.get? location := by
  induction hwrites with
  | done => rfl
  | write hlocate hwrite _ ih =>
      obtain ⟨hfirst, hothers⟩ := List.forall_mem_cons.mp hother
      rw [ih hothers, FileTree.get?_of_write? hwrite, if_neg]
      rintro rfl
      exact hfirst hlocate

/-- The last of the files that go to a place is there in the end. -/
theorem get?_last {before after : List BindingSpec} {last : BindingSpec}
    (hwrites : Writes suffix directory tree (before ++ last :: after) final)
    (hlast : FilePath.locate (target suffix directory last) = some location)
    (hafter : ∀ later ∈ after, FilePath.locate (target suffix directory later) ≠ some location) :
    final.files.get? location = some (generate suffix last).source := by
  induction before generalizing tree with
  | nil =>
      cases hwrites with
      | write hlocate hwrite hrest =>
          rw [hlast] at hlocate
          cases hlocate
          rw [hrest.get?_of_forall_ne hafter, FileTree.get?_of_write? hwrite, if_pos rfl]
  | cons first before ih =>
      cases hwrites with
      | write _ _ hrest => exact ih hrest

end Writes

/-! ### Places of generated files -/

section Places

variable {first second : BindingSpec}

/-- What the suffix adds behind the class name never climbs. -/
def StaysBelow (suffix : String) : Prop :=
  ".." ∉ ((FilePath.split (suffix ++ ".java").toList).tail.map String.ofList)

instance (suffix : String) : Decidable (StaysBelow suffix) :=
  inferInstanceAs (Decidable (".." ∉ _))

theorem path_relative (hhost : Name.isQualified spec.host = true) :
    ¬ ['/'] <+: (generate suffix spec).path.toList := by
  rintro ⟨rest, hrest⟩
  have hsplit := @split_path suffix spec hhost
  obtain ⟨part, parts, hparts⟩ :=
    List.exists_cons_of_ne_nil (FilePath.split_ne_nil (suffix ++ ".java").toList)
  rw [← hrest, List.singleton_append, FilePath.split, hparts, List.modifyHead_cons] at hsplit
  -- The first part is a segment of the package, or else begins with the class name.
  cases hpackage : Name.packageSegments spec.host with
  | nil =>
      rw [hpackage, List.nil_append] at hsplit
      exact flatName_ne_nil hhost (List.append_eq_nil_iff.mp (List.cons.inj hsplit).1.symm).1
  | cons segment segments =>
      have hsegment : Name.isIdentifier segment = true :=
        Name.isIdentifier_of_mem_packageSegments hhost (hpackage ▸ List.mem_cons_self)
      rw [hpackage, List.cons_append] at hsplit
      exact Name.ne_nil_of_isIdentifier hsegment (List.cons.inj hsplit).1.symm

theorem target_not_slash (hhost : Name.isQualified spec.host = true) (directory : String) :
    ¬ ['/'] <:+ (target suffix directory spec).toList := by
  obtain ⟨front, parts, hpush⟩ := FilePath.exists_split_push directory
  rw [target, (hpush _ (path_relative hhost)).1, toList_path hhost]
  intro hslash
  have hjava : ".java".toList <:+ front ++ ['/'].intercalate (Name.packageSegments spec.host ++
      [(flatName spec.host).toList ++ (suffix ++ ".java").toList]) := by
    rw [String.toList_append, ← List.append_assoc (flatName spec.host).toList]
    exact (List.suffix_append _ _).trans
      ((suffix_intercalate_append _ _ _).trans (List.suffix_append _ _))
  have hend := List.suffix_of_suffix_length_le hslash hjava (by decide)
  revert hend
  decide

theorem isEntry_of_mem_packageSegments (hhost : Name.isQualified spec.host = true) {part : String}
    (hmem : part ∈ (Name.packageSegments spec.host).map String.ofList) :
    FilePath.isEntry part = true ∧ part ≠ ".." := by
  obtain ⟨segment, hsegment, rfl⟩ := List.mem_map.mp hmem
  have hidentifier := Name.isIdentifier_of_mem_packageSegments hhost hsegment
  obtain ⟨c, hc⟩ := List.exists_mem_of_ne_nil _ (Name.ne_nil_of_isIdentifier hidentifier)
  refine FilePath.isEntry_ofList hc ?_
  rintro rfl
  exact Name.period_notMem_of_isIdentifier hidentifier hc

theorem isEntry_flatName (hhost : Name.isQualified spec.host = true) (rest : List Char) :
    FilePath.isEntry (String.ofList ((flatName spec.host).toList ++ rest)) = true ∧
      String.ofList ((flatName spec.host).toList ++ rest) ≠ ".." := by
  obtain ⟨c, hc⟩ := List.exists_mem_of_ne_nil _ (flatName_ne_nil hhost)
  refine FilePath.isEntry_ofList (List.mem_append_left rest hc) ?_
  rintro rfl
  exact period_notMem_flatName spec.host hc

/-- Where a file goes that its suffix keeps below its package, seen from where the directory is. -/
theorem locate_target (hhost : Name.isQualified spec.host = true) (hstays : StaysBelow suffix)
    {parts : List (List Char)} {part : List Char}
    (hsuffix : FilePath.split (suffix ++ ".java").toList = part :: parts)
    {directoryParts : List (List Char)}
    (hdirectory : FilePath.split (target suffix directory spec).toList =
      directoryParts ++ FilePath.split (generate suffix spec).path.toList) :
    FilePath.locate (target suffix directory spec) =
      ((directoryParts.map String.ofList).foldlM FilePath.follow []).map fun location =>
        location ++ ((Name.packageSegments spec.host).map String.ofList ++
          String.ofList ((flatName spec.host).toList ++ part) ::
            (parts.map String.ofList).filter FilePath.isEntry) := by
  rw [StaysBelow, hsuffix, List.tail_cons] at hstays
  have hparts : (FilePath.split (generate suffix spec).path.toList).map String.ofList =
      (Name.packageSegments spec.host).map String.ofList ++
        String.ofList ((flatName spec.host).toList ++ part) :: parts.map String.ofList := by
    rw [split_path hhost, hsuffix, List.modifyHead_cons, List.map_append, List.map_cons]
  have hclimb : ".." ∉ (FilePath.split (generate suffix spec).path.toList).map String.ofList := by
    rw [hparts, List.mem_append, List.mem_cons, not_or, not_or]
    exact ⟨fun hmem => (isEntry_of_mem_packageSegments hhost hmem).2 rfl,
      (isEntry_flatName hhost part).2.symm, hstays⟩
  have hentries : ((FilePath.split (generate suffix spec).path.toList).map String.ofList).filter
      FilePath.isEntry = (Name.packageSegments spec.host).map String.ofList ++
        String.ofList ((flatName spec.host).toList ++ part) ::
          (parts.map String.ofList).filter FilePath.isEntry := by
    rw [hparts, List.filter_append, List.filter_cons_of_pos (isEntry_flatName hhost part).1,
      List.filter_eq_self.mpr fun _ hmem => (isEntry_of_mem_packageSegments hhost hmem).1]
  rw [FilePath.locate_eq, hdirectory, List.map_append, List.foldlM_append]
  cases (directoryParts.map String.ofList).foldlM FilePath.follow [] with
  | none => rfl
  | some location =>
      rw [Option.map_some, ← hentries]
      exact FilePath.foldlM_follow hclimb location

/-- Files that a suffix keeps below their packages go to the same place only if their paths are equal. -/
theorem path_eq_of_locate_eq (hfirst : Name.isQualified first.host = true)
    (hsecond : Name.isQualified second.host = true) (hstays : StaysBelow suffix)
    (hlocate : FilePath.locate (target suffix directory first) = some location)
    (hother : FilePath.locate (target suffix directory second) = some location) :
    (generate suffix first).path = (generate suffix second).path := by
  obtain ⟨part, parts, hsuffix⟩ :=
    List.exists_cons_of_ne_nil (FilePath.split_ne_nil (suffix ++ ".java").toList)
  obtain ⟨_, directoryParts, hpush⟩ := FilePath.exists_split_push directory
  rw [locate_target hfirst hstays hsuffix (hpush _ (path_relative hfirst)).2] at hlocate
  rw [locate_target hsecond hstays hsuffix (hpush _ (path_relative hsecond)).2] at hother
  cases hbase : (directoryParts.map String.ofList).foldlM FilePath.follow [] with
  | none => rw [hbase] at hlocate; cases hlocate
  | some base =>
      rw [hbase, Option.map_some, Option.some.injEq] at hlocate hother
      obtain ⟨hpackage, hflat⟩ :=
        append_cons_inj (List.append_cancel_left (hlocate.trans hother.symm))
      rw [path_eq_iff hfirst hsecond]
      refine ⟨package_eq ?_, ?_⟩
      · exact List.map_injective_iff.mpr (fun _ _ => String.ofList_injective) hpackage
      · rw [← String.toList_inj]
        exact List.append_cancel_right (String.ofList_injective hflat)

end Places

/-! ### What is read afterwards -/

theorem exists_last {α : Type} {holds : α → Prop} {items : List α} (hitems : ∃ item ∈ items, holds item) :
    ∃ before last after, items = before ++ last :: after ∧ holds last ∧
      ∀ item ∈ after, ¬ holds item := by
  induction items using List.reverseRecOn with
  | nil =>
      obtain ⟨item, hmem, _⟩ := hitems
      cases hmem
  | append_singleton items final ih =>
      by_cases hfinal : holds final
      · exact ⟨items, final, [], rfl, hfinal, fun _ hmem => nomatch hmem⟩
      · have hothers : ∃ item ∈ items, holds item := by
          obtain ⟨item, hmem, hitem⟩ := hitems
          rcases List.mem_append.mp hmem with hmem | hmem
          · exact ⟨item, hmem, hitem⟩
          · exact absurd (List.mem_singleton.mp hmem ▸ hitem) hfinal
        obtain ⟨before, last, after, hsplit, hlast, hafter⟩ := ih hothers
        refine ⟨before, last, after ++ [final], ?_, hlast, ?_⟩
        · rw [hsplit, List.append_assoc, List.cons_append]
        · rw [List.forall_mem_append, List.forall_mem_singleton]
          exact ⟨hafter, hfinal⟩

theorem Writes.read_last (hwrites : Writes suffix directory tree specs final)
    (hhost : Name.isQualified spec.host = true) {before after : List BindingSpec} {last : BindingSpec}
    (hspecs : specs = before ++ last :: after)
    (hlast : FilePath.locate (target suffix directory last) =
      FilePath.locate (target suffix directory spec))
    (hafter : ∀ later ∈ after, FilePath.locate (target suffix directory later) ≠
      FilePath.locate (target suffix directory spec)) :
    final.read (target suffix directory spec) = .ok (generate suffix last).source := by
  subst hspecs
  obtain ⟨location, hlocation⟩ := hwrites.exists_location (List.mem_append_right _ List.mem_cons_self)
  rw [hlocation] at hlast
  rw [← hlast] at hafter
  exact FileTree.read_of_get? hlast.symm (hwrites.get?_last hlocation hafter)
    (target_not_slash hhost directory)

theorem Writes.read_own (hwrites : Writes suffix directory tree specs final)
    (hhosts : ∀ spec ∈ specs, Name.isQualified spec.host = true) (hstays : StaysBelow suffix)
    {before after : List BindingSpec} (hspecs : specs = before ++ spec :: after)
    (hafter : ∀ later ∈ after, (generate suffix later).path ≠ (generate suffix spec).path) :
    final.read (target suffix directory spec) = .ok (generate suffix spec).source := by
  have hmem : spec ∈ specs := hspecs ▸ List.mem_append_right _ List.mem_cons_self
  obtain ⟨location, hlocation⟩ := hwrites.exists_location hmem
  refine hwrites.read_last (hhosts spec hmem) hspecs rfl ?_
  intro later hlater hlocate
  have hlatermem : later ∈ specs :=
    hspecs ▸ List.mem_append_right _ (List.mem_cons_of_mem spec hlater)
  exact hafter later hlater (path_eq_of_locate_eq (hhosts later hlatermem) (hhosts spec hmem) hstays
    (hlocate.trans hlocation) hlocation)

/-- What is found under the path of a specification's file when all specifications have been written. -/
def readBack (suffix directory : String) (specs : List BindingSpec) (tree : FileTree)
    (spec : BindingSpec) : Except ReadFault String :=
  ((writeAll FileTree.access suffix directory specs).run tree).2.read (target suffix directory spec)

end Java

namespace ProgramModel

variable {model : ProgramModel} {reserved : List String} {host : String}

theorem exists_element_of_isBound (hbound : model.isBound reserved host = true) :
    ∃ element ∈ model.elements, element.enclosure = .type host := by
  have hcandidates : model.candidatesOf host ≠ [] := by
    intro hnone
    have hfields := (model.scan_agreeOn reserved host).fields_eq
    rw [hnone] at hfields
    rw [isBound, hfields] at hbound
    cases hbound
  obtain ⟨candidate, hmem⟩ := List.exists_mem_of_ne_nil _ hcandidates
  have henclosure := (enclosure_of_mem_candidatesOf hmem).2
  obtain ⟨kind, _, hmem⟩ := List.mem_flatMap.mp (List.mem_of_mem_filter hmem)
  obtain ⟨element, helement, hcandidate⟩ := List.mem_filterMap.mp hmem
  obtain ⟨_, _, rfl⟩ := Option.map_eq_some_iff.mp hcandidate
  exact ⟨element, List.mem_of_mem_filter helement, henclosure⟩

end ProgramModel

open Java (generate generateAll target writeAll readBack StaysBelow)

namespace ProgramIndex.Loaded

variable {index : ProgramIndex} {reserved : List String} {spec : BindingSpec}

theorem host_mem_keys (hloaded : index.Loaded)
    (hmem : spec ∈ (index.model.resolve reserved).specs.values) : spec.host ∈ index.types.keys := by
  have hbound := ProgramModel.isBound_of_spec (ProgramModel.get?_host_of_mem_values hmem)
  obtain ⟨element, helement, henclosure⟩ := ProgramModel.exists_element_of_isBound hbound
  have howner := (hloaded.checked.elements_owned element helement).2
  rwa [henclosure] at howner

theorem isQualified_host (hloaded : index.Loaded)
    (hmem : spec ∈ (index.model.resolve reserved).specs.values) :
    Name.isQualified spec.host = true :=
  hloaded.checked.qualified _ (hloaded.host_mem_keys hmem)

theorem nodup_paths (hloaded : index.Loaded) (suffix : String)
    (hdollar : ∀ spec ∈ (index.model.resolve reserved).specs.values, '$' ∉ spec.host.toList) :
    ((generateAll suffix (index.model.resolve reserved).specs.values).map
      GeneratedFile.path).Nodup := by
  have hhosts := index.model.linked_nodup_hosts reserved
  rw [generateAll, List.map_map]
  refine List.Nodup.map_on ?_ (List.Nodup.of_map _ hhosts)
  intro first hfirst second hsecond hpath
  apply List.inj_on_of_nodup_map hhosts hfirst hsecond
  exact Java.host_eq_of_path_eq (hloaded.isQualified_host hfirst) (hloaded.isQualified_host hsecond)
    (hdollar first hfirst) (hdollar second hsecond) hpath

end ProgramIndex.Loaded

/-- **Files of one run are told apart by packages and flattened class paths.** Two paths are equal exactly
if the hosts have the same package and the same class path but for `$` in place of a period; so no two are
if no host has a `$`. When all files are written, under each path stands the last of those whose paths lead
to the same place; and unless the suffix climbs, that is the own file, if no later one has the same path. -/
theorem generated_files {index : ProgramIndex} (hloaded : index.Loaded) (reserved : List String)
    (suffix : String) :
    let specs := (index.model.resolve reserved).specs.values
    (∀ first ∈ specs, ∀ second ∈ specs,
      (generate suffix first).path = (generate suffix second).path ↔
        first.package = second.package ∧ Java.flatName first.host = Java.flatName second.host) ∧
    ((∀ spec ∈ specs, '$' ∉ spec.host.toList) →
      ((generateAll suffix specs).map GeneratedFile.path).Nodup) ∧
    ∀ directory tree,
      ((writeAll FileTree.access suffix directory specs).run tree).1.failures = [] →
      ((writeAll FileTree.access suffix directory specs).run tree).1.written =
        specs.map (target suffix directory) ∧
      (∀ spec ∈ specs, ∃ before last after, specs = before ++ last :: after ∧
        FilePath.locate (target suffix directory last) =
          FilePath.locate (target suffix directory spec) ∧
        (∀ later ∈ after, FilePath.locate (target suffix directory later) ≠
          FilePath.locate (target suffix directory spec)) ∧
        readBack suffix directory specs tree spec = .ok (generate suffix last).source) ∧
      (StaysBelow suffix → ∀ before spec after, specs = before ++ spec :: after →
        (∀ later ∈ after, (generate suffix later).path ≠ (generate suffix spec).path) →
        readBack suffix directory specs tree spec = .ok (generate suffix spec).source) ∧
      (StaysBelow suffix → (∀ spec ∈ specs, '$' ∉ spec.host.toList) →
        ∀ spec ∈ specs,
          readBack suffix directory specs tree spec = .ok (generate suffix spec).source) := by
  intro specs
  have hhosts : ∀ spec ∈ specs, Name.isQualified spec.host = true :=
    fun _ hmem => hloaded.isQualified_host hmem
  refine ⟨?_, hloaded.nodup_paths suffix, ?_⟩
  · intro first hfirst second hsecond
    exact Java.path_eq_iff (hhosts first hfirst) (hhosts second hsecond)
  · intro directory tree hfailures
    obtain ⟨-, hwrites⟩ := Java.writes_of_no_failures Java.Output.empty specs tree hfailures
    have hwritten := congrArg (fun run => run.1.written) (hwrites.run_eq Java.Output.empty)
    refine ⟨hwritten, ?_, ?_, ?_⟩
    · intro spec hmem
      have hsome : ∃ other ∈ specs, FilePath.locate (target suffix directory other) =
          FilePath.locate (target suffix directory spec) := ⟨spec, hmem, rfl⟩
      obtain ⟨before, last, after, hsplit, hlast, hafter⟩ := Java.exists_last hsome
      exact ⟨before, last, after, hsplit, hlast, hafter,
        hwrites.read_last (hhosts spec hmem) hsplit hlast hafter⟩
    · intro hstays before spec after hsplit hafter
      exact hwrites.read_own hhosts hstays hsplit hafter
    · intro hstays hdollar spec hmem
      obtain ⟨before, after, hsplit⟩ := List.append_of_mem hmem
      refine hwrites.read_own hhosts hstays hsplit ?_
      have hpaths := hloaded.nodup_paths suffix hdollar
      rw [generateAll, List.map_map, show (index.model.resolve reserved).specs.values = _ from hsplit,
        List.map_append, List.map_cons] at hpaths
      intro later hlater hpath
      have hnone := (List.nodup_cons.mp (List.nodup_append.mp hpaths).2.1).1
      exact hnone (List.mem_map.mpr ⟨later, hlater, hpath⟩)

/-- Adds a class with one marked field. -/
def ProgramIndex.addMarked (index : ProgramIndex) (host : String) : Except ModelFault ProgramIndex := do
  let index ← index.addType ⟨host, .classType, [], none, []⟩
  index.addElement ⟨"count", .primitive .int, [], [⟨"IntValue", some "count", none⟩], .type host⟩

theorem ProgramIndex.Loaded.foldlM_addMarked {index next : ProgramIndex} {hosts : List String}
    (hloaded : index.Loaded) (hadd : hosts.foldlM ProgramIndex.addMarked index = .ok next) :
    next.Loaded := by
  induction hosts generalizing index with
  | nil =>
      cases hadd
      exact hloaded
  | cons host hosts ih =>
      rw [List.foldlM_cons] at hadd
      obtain ⟨_, hhost, hadd⟩ := bind_eq_ok_iff.mp hadd
      obtain ⟨_, htype, helement⟩ := bind_eq_ok_iff.mp hhost
      exact ih ((hloaded.addType htype).addElement helement) hadd

def markedIndex (hosts : List String) : ProgramIndex :=
  (hosts.foldlM ProgramIndex.addMarked ProgramIndex.empty).toOption.getD ProgramIndex.empty

theorem loaded_markedIndex (hosts : List String) : (markedIndex hosts).Loaded := by
  rw [markedIndex]
  cases hadd : hosts.foldlM ProgramIndex.addMarked ProgramIndex.empty with
  | error fault => exact .empty
  | ok index => exact ProgramIndex.Loaded.empty.foldlM_addMarked hadd

/-- What such a class is resolved to. -/
def markedSpec (host : String) : BindingSpec :=
  ⟨host, [⟨"count", .int, "count", .primitive .int, false, ""⟩], none⟩

theorem values_resolve_markedIndex {hosts : List String}
    (hdrafts : ((markedIndex hosts).model.scan []).drafts.entries =
      hosts.map fun host => (host, markedSpec host))
    (htop : ∀ host ∈ hosts, (markedIndex hosts).model.superclassOf? host = none) :
    ((markedIndex hosts).model.resolve []).specs.values = hosts.map markedSpec := by
  have hkeys : ∀ host ∈ ((markedIndex hosts).model.scan []).drafts.keys,
      (markedIndex hosts).model.superclassOf? host = none := by
    rw [Registry.keys, hdrafts, List.map_map]
    exact List.forall_mem_map.mpr htop
  rw [ProgramModel.specs_resolve_of_top hkeys, Registry.values, hdrafts, List.map_map]
  rfl

/-- A class, a class nested in it, and the class of the same name in another package. -/
def outerHosts : List String :=
  ["app.Outer", "app.Outer.Inner", "shop.Outer"]

def outerSpecs : List BindingSpec :=
  outerHosts.map markedSpec

/-- A tree in which the first of the files is there from an earlier run. -/
def olderTree : FileTree :=
  FileTree.ofTexts [("out/app/Outer_Binder.java", "older")]

theorem exists_writes_outerSpecs :
    ∃ final, Java.Writes "_Binder" "out" olderTree outerSpecs final := by
  have houter : FilePath.locate (target "_Binder" "out" (markedSpec "app.Outer")) =
      some ["out", "app", "Outer_Binder.java"] := by decide +kernel
  have hinner : FilePath.locate (target "_Binder" "out" (markedSpec "app.Outer.Inner")) =
      some ["out", "app", "Outer$Inner_Binder.java"] := by decide +kernel
  have hshop : FilePath.locate (target "_Binder" "out" (markedSpec "shop.Outer")) =
      some ["out", "shop", "Outer_Binder.java"] := by decide +kernel
  exact ⟨_, .write houter (FileTree.write?_of_free (by decide +kernel) _)
    (.write hinner (FileTree.write?_of_free (by decide +kernel) _)
      (.write hshop (FileTree.write?_of_free (by decide +kernel) _) (.done _)))⟩

/-- Three files are told apart, and after one run each is there, the older one replaced. -/
theorem outer_files_kept :
    (markedIndex outerHosts).Loaded ∧ StaysBelow "_Binder" ∧
    ((markedIndex outerHosts).model.resolve []).specs.values = outerSpecs ∧
    (∀ spec ∈ outerSpecs, '$' ∉ spec.host.toList) ∧
    ((generateAll "_Binder" outerSpecs).map GeneratedFile.path).Nodup ∧
    ((generateAll "_Binder" outerSpecs).map GeneratedFile.source).Nodup ∧
    olderTree.read "out/app/Outer_Binder.java" = .ok "older" ∧
    ((writeAll FileTree.access "_Binder" "out" outerSpecs).run olderTree).1.failures = [] ∧
    ((writeAll FileTree.access "_Binder" "out" outerSpecs).run olderTree).1.written =
      ["out/app/Outer_Binder.java", "out/app/Outer$Inner_Binder.java", "out/shop/Outer_Binder.java"] ∧
    ∀ spec ∈ outerSpecs,
      readBack "_Binder" "out" outerSpecs olderTree spec = .ok (generate "_Binder" spec).source := by
  have hloaded := loaded_markedIndex outerHosts
  have hspecs : ((markedIndex outerHosts).model.resolve []).specs.values = outerSpecs :=
    values_resolve_markedIndex rfl (by decide)
  have hstays : StaysBelow "_Binder" := by decide +kernel
  have hdollar : ∀ spec ∈ outerSpecs, '$' ∉ spec.host.toList := by decide
  have holder : olderTree.read "out/app/Outer_Binder.java" = .ok "older" := by
    have hlocate : FilePath.locate "out/app/Outer_Binder.java" =
        some ["out", "app", "Outer_Binder.java"] := by decide +kernel
    exact FileTree.read_of_get? hlocate (by decide +kernel) (by decide)
  have hsources : ((generateAll "_Binder" outerSpecs).map GeneratedFile.source).Nodup := by
    decide +kernel
  have htargets : outerSpecs.map (target "_Binder" "out") =
      ["out/app/Outer_Binder.java", "out/app/Outer$Inner_Binder.java", "out/shop/Outer_Binder.java"] := by
    decide +kernel
  obtain ⟨final, hwrites⟩ := exists_writes_outerSpecs
  have hfailures :
      ((writeAll FileTree.access "_Binder" "out" outerSpecs).run olderTree).1.failures = [] := by
    rw [writeAll, hwrites.run_eq]
    rfl
  obtain ⟨-, hnodup, hfiles⟩ := generated_files hloaded [] "_Binder"
  rw [hspecs] at hnodup hfiles
  obtain ⟨hwritten, -, -, hown⟩ := hfiles "out" olderTree hfailures
  exact ⟨hloaded, hstays, hspecs, hdollar, hnodup hdollar, hsources, holder, hfailures,
    hwritten.trans htargets, hown hstays hdollar⟩

/-- A class that is named as if it were nested, beside the nested one. -/
def twinHosts : List String :=
  outerHosts ++ ["app.Outer$Inner"]

def twinIndex : ProgramIndex :=
  markedIndex twinHosts

/-- The twins share a path, and a suffix that climbs brings different paths to one place. -/
theorem twins_share_paths :
    twinIndex.Loaded ∧
    ¬ ((generateAll Java.defaultSuffix (twinIndex.model.resolve []).specs.values).map
      GeneratedFile.path).Nodup ∧
    ∃ first ∈ (twinIndex.model.resolve []).specs.values,
      ∃ second ∈ (twinIndex.model.resolve []).specs.values,
        (generate "/../Binder" first).path ≠ (generate "/../Binder" second).path ∧
        FilePath.locate (target "/../Binder" "out" first) =
          FilePath.locate (target "/../Binder" "out" second) := by
  have hspecs : (twinIndex.model.resolve []).specs.values = twinHosts.map markedSpec :=
    values_resolve_markedIndex rfl (by decide)
  rw [hspecs]
  have hpaths : (generateAll Java.defaultSuffix (twinHosts.map markedSpec)).map GeneratedFile.path =
      ["app/Outer_BundleBinder.java", "app/Outer$Inner_BundleBinder.java",
        "shop/Outer_BundleBinder.java", "app/Outer$Inner_BundleBinder.java"] := by
    decide +kernel
  have hinner : (generate "/../Binder" (markedSpec "app.Outer.Inner")).path =
      "app/Outer$Inner/../Binder.java" := by decide +kernel
  have houter : (generate "/../Binder" (markedSpec "app.Outer")).path =
      "app/Outer/../Binder.java" := by decide +kernel
  refine ⟨loaded_markedIndex twinHosts, ?_, markedSpec "app.Outer.Inner", ?_,
    markedSpec "app.Outer", ?_, ?_⟩
  · rw [hpaths]
    decide
  · exact List.mem_map_of_mem (by decide)
  · exact List.mem_map_of_mem (by decide)
  · rw [target, target, hinner, houter]
    exact ⟨by decide, by decide +kernel⟩

end BundleBinding
