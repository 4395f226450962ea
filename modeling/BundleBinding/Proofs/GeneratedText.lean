import BundleBinding.Java.Source
import BundleBinding.Proofs.QualifiedNames
import Mathlib.Data.List.Basic

/-!
# The text of generated classes

A generated class is a row of lines, each ended by a line feed. Most of a line is fixed; names, types, keys
and descriptions stand in between. Names are put into the text as they are, so what they do to it depends
on the characters they have, and all names that are made of others have the characters of those, a period
and a dollar sign apart. Keys are escaped, character by character.
-/

namespace BundleBinding

namespace Name

/-- The package is the beginning of the name. -/
theorem package_prefix (name : String) : (package name).toList <+: name.toList := by
  rw [toList_package, ← joinSegments_segments name.toList, ← packageSegments_append]
  by_cases hnil : packageSegments name = []
  · rw [hnil]
    exact List.nil_prefix
  · rw [joinSegments, joinSegments, intercalate_append hnil (classSegments_ne_nil name),
      List.append_assoc]
    exact List.prefix_append _ _

end Name

namespace Java

variable {suffix : String} {spec : BindingSpec}

theorem toList_source (suffix : String) (spec : BindingSpec) :
    (generate suffix spec).source.toList =
      (lines suffix spec).flatMap fun line => line.toList ++ ['\n'] := by
  rw [generate, String.toList_join, List.flatMap_map]
  simp only [String.toList_append]
  rfl

/-! ### Names -/

/-- No character of the text is one of these. -/
def Free (marks : List Char) (text : String) : Prop :=
  ∀ c ∈ text.toList, c ∉ marks

theorem Free.mono {marks others : List Char} {text : String} (hfree : Free marks text)
    (hothers : others ⊆ marks) : Free others text :=
  fun c hmem hother => hfree c hmem (hothers hother)

theorem free_append_iff {marks : List Char} {first second : String} :
    Free marks (first ++ second) ↔ Free marks first ∧ Free marks second := by
  rw [Free, String.toList_append]
  exact List.forall_mem_append

/-- The text is searched, not the set of all characters. -/
instance (marks : List Char) (text : String) : Decidable (Free marks text) :=
  List.decidableBAll (· ∉ marks) text.toList

/-- The names and types that go into a generated class have none of the characters. -/
structure NamesFree (marks : List Char) (suffix : String) (spec : BindingSpec) : Prop where
  suffix_free : Free marks suffix
  host_free : Free marks spec.host
  parent_free : ∀ parent, spec.parent = some parent → Free marks parent.host
  name_free : ∀ field ∈ spec.fields, Free marks field.name
  type_free : ∀ field ∈ spec.fields, Free marks field.type.render

variable {marks : List Char} {host : String}

theorem Free.package (hhost : Free marks host) : Free marks (Name.package host) :=
  fun c hmem => hhost c ((Name.package_prefix host).subset hmem)

theorem Free.classPath (hhost : Free marks host) : Free marks (Name.classPath host) :=
  fun c hmem => hhost c ((Name.classPath_suffix host).subset hmem)

theorem Free.binderSimpleName (hhost : Free marks host) (hsuffix : Free marks suffix)
    (hdollar : '$' ∉ marks) : Free marks (binderSimpleName suffix host) := by
  refine free_append_iff.mpr ⟨?_, hsuffix⟩
  intro c hmem
  rw [String.toList_map] at hmem
  obtain ⟨other, hother, rfl⟩ := List.mem_map.mp hmem
  by_cases hperiod : other = '.'
  · rwa [if_pos hperiod]
  · rw [if_neg hperiod]
    exact hhost.classPath other hother

theorem Free.binderName (hhost : Free marks host) (hsuffix : Free marks suffix) (hdollar : '$' ∉ marks)
    (hperiod : '.' ∉ marks) : Free marks (binderName suffix host) := by
  have hsimple := hhost.binderSimpleName hsuffix hdollar
  have hperiod : Free marks "." := fun c hmem => List.mem_singleton.mp hmem ▸ hperiod
  simp only [Java.binderName]
  split
  · exact hsimple
  · exact free_append_iff.mpr ⟨free_append_iff.mpr ⟨hhost.package, hperiod⟩, hsimple⟩

/-! ### Descriptions -/

/-- Each of these ends a line, and a return with a feed behind it ends one line, not two. -/
def lineEnds : List Char :=
  ['\n', '\r']

theorem feed_notMem_commentText (text : String) : '\n' ∉ (commentText text).toList := by
  rw [commentText, String.toList_map, List.mem_map]
  rintro ⟨c, -, hc⟩
  by_cases hfeed : c = '\n'
  · rw [if_pos hfeed] at hc
    cases hc
  · rw [if_neg hfeed] at hc
    exact hfeed hc

theorem commentText_return_iff (c : Char) : (if c = '\n' then ' ' else c) = '\r' ↔ c = '\r' := by
  by_cases hfeed : c = '\n'
  · subst hfeed
    decide
  · rw [if_neg hfeed]

/-- Line feeds become spaces, carriage returns stay. -/
theorem free_commentText {text : String} (htext : '\r' ∉ text.toList) :
    Free lineEnds (commentText text) := by
  intro c hmem hend
  rcases List.mem_pair.mp hend with rfl | rfl
  · exact feed_notMem_commentText text hmem
  · rw [commentText, String.toList_map] at hmem
    obtain ⟨other, hother, hc⟩ := List.mem_map.mp hmem
    exact htext ((commentText_return_iff other).mp hc ▸ hother)

/-! ### Keys -/

/-- What becomes of one character of a key. -/
def escapeCharacter (c : Char) : List Char :=
  if c = '\\' ∨ c = '"' then ['\\', c] else [c]

theorem escapeCharacter_of_plain {c : Char} (hbackslash : c ≠ '\\') (hquote : c ≠ '"') :
    escapeCharacter c = [c] :=
  if_neg (not_or.mpr ⟨hbackslash, hquote⟩)

/-- The backslashes that quotes get are not doubled, since backslashes are replaced first. -/
theorem toList_escape (text : String) : (escape text).toList = text.toList.flatMap escapeCharacter := by
  rw [escape, String.toList_ofList, replaceAll, replaceAll, List.flatMap_assoc]
  refine List.flatMap_congr fun c _ => ?_
  by_cases hbackslash : c = '\\'
  · subst hbackslash
    rfl
  · rw [if_neg hbackslash, List.flatMap_singleton]
    by_cases hquote : c = '"'
    · subst hquote
      rfl
    · rw [if_neg hquote, escapeCharacter_of_plain hbackslash hquote]

end Java

end BundleBinding
