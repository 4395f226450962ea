import BundleBinding.Proofs.GeneratedText
import Mathlib.Algebra.BigOperators.Group.List.Basic
import Mathlib.Tactic.Ring

/-!
# The lines of generated classes

The emitter writes as many lines as the outline of a specification asks for. A reader of the class ends
lines at line feeds and at carriage returns, and finds those in the texts that were put into the class,
too. Keys and names are put there as they are, backslashes and quotes apart; descriptions lose their line
feeds and keep their carriage returns.
-/

namespace BundleBinding.Java

/-! ### Splitting -/

/-- The lines of a text as its readers count them. -/
def splitLines : List Char → List (List Char)
  | [] => [[]]
  | '\r' :: '\n' :: text => [] :: splitLines text
  | c :: text => if c ∈ lineEnds then [] :: splitLines text else (splitLines text).modifyHead (c :: ·)

/-- A line ends at each feed, and at each return that has no feed behind it. -/
def EndsLine (c : Char) (next : Option Char) : Prop :=
  c = '\n' ∨ c = '\r' ∧ next ≠ some '\n'

instance (c : Char) (next : Option Char) : Decidable (EndsLine c next) :=
  inferInstanceAs (Decidable (_ ∨ _))

/-- The number of lines that end in a text. -/
def breaks : List Char → Nat
  | [] => 0
  | c :: text => breaks text + if EndsLine c text.head? then 1 else 0

variable {front back text rest : List Char} {c : Char}

theorem endsLine_iff_of_not_pair
    (hpair : ∀ others, c = '\r' → text ≠ '\n' :: others) : EndsLine c text.head? ↔ c ∈ lineEnds := by
  rw [lineEnds, List.mem_pair, EndsLine]
  refine or_congr_right (and_iff_left_of_imp fun hreturn hnext => ?_)
  obtain ⟨others, rfl⟩ := List.head?_eq_some_iff.mp hnext
  exact hpair others hreturn rfl

theorem length_splitLines (text : List Char) : (splitLines text).length = breaks text + 1 := by
  fun_induction splitLines text with
  | case1 => rfl
  | case2 text ih =>
      rw [List.length_cons, ih]
      rfl
  | case3 c text hpair hend ih =>
      rw [List.length_cons, ih, breaks, if_pos ((endsLine_iff_of_not_pair hpair).mpr hend)]
  | case4 c text hpair hend ih =>
      rw [List.length_modifyHead, ih, breaks, if_neg ((endsLine_iff_of_not_pair hpair).not.mpr hend)]

/-- Where texts meet, no line end is lost unless a return meets a feed. -/
theorem breaks_append (hmeet : front.getLast? = some '\r' → back.head? ≠ some '\n') :
    breaks (front ++ back) = breaks front + breaks back := by
  induction front with
  | nil => exact (Nat.zero_add _).symm
  | cons c front ih =>
      have hothers : front.getLast? = some '\r' → back.head? ≠ some '\n' := by
        intro hlast
        exact hmeet (by rw [List.getLast?_cons, hlast]; rfl)
      have hends : EndsLine c (front ++ back).head? ↔ EndsLine c front.head? := by
        cases front with
        | cons next front => rfl
        | nil =>
            refine or_congr_right (and_congr_right fun hreturn => ?_)
            subst hreturn
            exact iff_of_true (hmeet rfl) (Option.some_ne_none _).symm
      rw [List.cons_append, breaks, breaks, ih hothers, Nat.add_right_comm, if_congr hends rfl rfl]

theorem breaks_eq_zero_iff : breaks text = 0 ↔ ∀ c ∈ text, c ∉ lineEnds := by
  induction text with
  | nil => exact iff_of_true rfl (List.forall_mem_nil _)
  | cons c text ih =>
      rw [breaks, Nat.add_eq_zero_iff, ih, List.forall_mem_cons, and_comm]
      refine and_congr_left fun htext => ?_
      have hpair : ∀ others, c = '\r' → text ≠ '\n' :: others := by
        rintro others - rfl
        exact htext '\n' List.mem_cons_self (by decide)
      rw [← endsLine_iff_of_not_pair hpair]
      split <;> simp [*]

theorem breaks_append_of_free {front : List Char} (hfront : ∀ c ∈ front, c ∉ lineEnds) (back : List Char) :
    breaks (front ++ back) = breaks back := by
  rw [breaks_append, breaks_eq_zero_iff.mpr hfront, Nat.zero_add]
  intro hlast
  exact absurd (hfront '\r' (List.mem_of_getLast? hlast)) (by decide)

theorem breaks_append_free (front : List Char) {back : List Char} (hback : ∀ c ∈ back, c ∉ lineEnds) :
    breaks (front ++ back) = breaks front := by
  rw [breaks_append, breaks_eq_zero_iff.mpr hback, Nat.add_zero]
  intro _ hfirst
  exact absurd (hback '\n' (List.mem_of_head? hfirst)) (by decide)

/-- Two texts with something fixed between them do not meet. -/
theorem breaks_splice (front : List Char) {fixed : List Char} (hfixed : ∀ c ∈ fixed, c ∉ lineEnds)
    (hne : fixed ≠ []) (back : List Char) :
    breaks (front ++ fixed ++ back) = breaks front + breaks back := by
  rw [breaks_append, breaks_append_free front hfixed]
  intro hlast
  rw [List.getLast?_append_of_ne_nil _ hne] at hlast
  exact absurd (hfixed '\r' (List.mem_of_getLast? hlast)) (by decide)

/-! ### Keys and descriptions -/

theorem head?_flatMap_escapeCharacter (key : List Char) :
    (key.flatMap escapeCharacter).head? = some '\n' ↔ key.head? = some '\n' := by
  cases key with
  | nil => rfl
  | cons c key =>
      rw [List.flatMap_cons, escapeCharacter]
      split
      · next hc => rcases hc with rfl | rfl <;> simp
      · rfl

/-- The escaped key has the line ends of the key. -/
theorem breaks_escape (key : String) : breaks (escape key).toList = breaks key.toList := by
  rw [toList_escape]
  induction key.toList with
  | nil => rfl
  | cons c key ih =>
      rw [List.flatMap_cons, breaks, ← ih]
      by_cases hbackslash : c = '\\'
      · subst hbackslash
        rfl
      · by_cases hquote : c = '"'
        · subst hquote
          rfl
        · rw [escapeCharacter_of_plain hbackslash hquote, List.singleton_append, breaks]
          refine congrArg (_ + ·) (if_congr (or_congr_right (and_congr_right fun _ => not_congr ?_)) rfl rfl)
          exact head?_flatMap_escapeCharacter key

/-- A return in front of the feed that ends the line belongs to that feed. -/
theorem breaks_append_feed (hfeed : '\n' ∉ text) :
    breaks (text ++ ['\n']) = text.dropLast.count '\r' + 1 := by
  induction text with
  | nil => rfl
  | cons c text ih =>
      obtain ⟨hc, hothers⟩ := List.ne_and_not_mem_of_not_mem_cons hfeed
      rw [List.cons_append, breaks, ih hothers]
      cases text with
      | nil =>
          have hends : ¬EndsLine c (some '\n') := by
            rintro (rfl | ⟨-, hnext⟩)
            · exact hc rfl
            · exact hnext rfl
          rw [List.nil_append, List.head?_cons, if_neg hends]
          rfl
      | cons next text =>
          have hnext : next ≠ '\n' := (List.ne_of_not_mem_cons hothers).symm
          have hends : EndsLine c (some next) ↔ c = '\r' := by
            rw [EndsLine, or_iff_right (Ne.symm hc)]
            exact and_iff_left fun heq => hnext (Option.some.inj heq)
          rw [List.cons_append, List.head?_cons, if_congr hends rfl rfl, List.dropLast_cons_cons,
            List.count_cons, Nat.add_right_comm]
          simp only [beq_iff_eq]

theorem count_return_commentText (text : String) :
    (commentText text).toList.dropLast.count '\r' = text.toList.dropLast.count '\r' := by
  rw [commentText, String.toList_map, List.dropLast_eq_take, List.length_map, ← List.map_take,
    ← List.dropLast_eq_take, List.count_eq_countP, List.countP_map, List.count_eq_countP]
  refine List.countP_congr fun c _ => ?_
  simp only [Function.comp_apply, beq_iff_eq]
  exact commentText_return_iff c

/-! ### Lines -/

/-- The lines that end in an emitted line and its feed. -/
def lineBreaks (line : String) : Nat :=
  breaks (line.toList ++ ['\n'])

variable {suffix : String} {spec : BindingSpec}

theorem lineBreaks_of_free {line : String} (hline : Free lineEnds line) : lineBreaks line = 1 :=
  breaks_append_of_free hline _

theorem lineBreaks_closed (front : String) {fixed : String} (hfixed : Free lineEnds fixed)
    (hne : fixed.toList ≠ []) : lineBreaks (front ++ fixed) = breaks front.toList + 1 := by
  rw [lineBreaks, String.toList_append, breaks_splice _ hfixed hne]
  rfl

theorem breaks_opened {fixed : String} (hfixed : Free lineEnds fixed) (text : String) :
    breaks (fixed ++ text).toList = breaks text.toList := by
  rw [String.toList_append, breaks_append_of_free hfixed]

theorem breaks_spliced (front : String) {fixed : String} (hfixed : Free lineEnds fixed)
    (hne : fixed.toList ≠ []) (text : String) :
    breaks (front ++ fixed ++ text).toList = breaks front.toList + breaks text.toList := by
  rw [String.toList_append, String.toList_append, breaks_splice _ hfixed hne]

theorem lineBreaks_spliced (front : String) {fixed : String} (hfixed : Free lineEnds fixed)
    (hne : fixed.toList ≠ []) (text : String) :
    lineBreaks (front ++ fixed ++ text) = breaks front.toList + lineBreaks text := by
  rw [lineBreaks, String.toList_append, String.toList_append, List.append_assoc,
    breaks_splice _ hfixed hne, lineBreaks]

theorem breaks_getter (kind : Kind) : breaks kind.getter.toList = 0 := by
  cases kind <;> rfl

theorem breaks_setter (kind : Kind) : breaks kind.setter.toList = 0 := by
  cases kind <;> rfl

theorem breaks_cast (field : FieldBinding) :
    breaks (cast field).toList =
      if field.kind.needsCast then breaks field.type.render.toList else 0 := by
  unfold Java.cast
  split
  · have hclosing : Free lineEnds ") " := by decide
    rw [String.toList_append, breaks_append_free _ hclosing]
    simp (disch := decide) only [breaks_opened]
  · rfl

theorem lineBreaks_commentText (text : String) :
    lineBreaks (commentText text) = text.toList.dropLast.count '\r' + 1 := by
  rw [lineBreaks, breaks_append_feed (feed_notMem_commentText text), count_return_commentText]

theorem lineBreaks_commentLine (field : FieldBinding) :
    lineBreaks (commentLine field) =
      breaks field.name.toList + field.description.toList.dropLast.count '\r' + 1 := by
  unfold commentLine
  simp (disch := decide) only [lineBreaks_spliced, breaks_opened, lineBreaks_commentText, Nat.add_assoc]

theorem lineBreaks_testLine (field : FieldBinding) :
    lineBreaks (testLine field) = breaks field.key.toList + 1 := by
  unfold testLine
  simp (disch := decide) only [lineBreaks_closed, breaks_opened, breaks_escape]

theorem lineBreaks_readLine (field : FieldBinding) :
    lineBreaks (readLine field) = breaks field.name.toList +
      (if field.kind.needsCast then breaks field.type.render.toList else 0) +
      breaks field.key.toList + 1 := by
  unfold readLine
  simp (disch := decide) only [lineBreaks_closed, breaks_spliced, breaks_opened, breaks_escape, breaks_cast,
    breaks_getter, Nat.add_zero]

theorem lineBreaks_failureLine (field : FieldBinding) :
    lineBreaks (failureLine field) = breaks field.key.toList + breaks field.name.toList + 1 := by
  unfold failureLine
  simp (disch := decide) only [lineBreaks_closed, breaks_spliced, breaks_opened, breaks_escape]

theorem lineBreaks_writeLine (field : FieldBinding) :
    lineBreaks (writeLine field) = breaks field.key.toList + breaks field.name.toList + 1 := by
  unfold writeLine
  simp (disch := decide) only [lineBreaks_closed, breaks_spliced, breaks_opened, breaks_escape, breaks_setter,
    Nat.zero_add]

/-! ### The outline -/

structure FieldOutline where
  required : Bool
  described : Bool
  deriving Repr, DecidableEq

namespace FieldOutline

def lineCount (field : FieldOutline) : Nat :=
  4 + 2 * field.required.toNat + field.described.toNat

end FieldOutline

/-- What the number of emitted lines depends on. -/
structure Outline where
  packaged : Bool
  inherits : Bool
  fields : List FieldOutline
  deriving Repr, DecidableEq

namespace Outline

def lineCount (outline : Outline) : Nat :=
  10 + 2 * outline.packaged.toNat + 2 * outline.inherits.toNat +
    (outline.fields.map FieldOutline.lineCount).sum

end Outline

def fieldOutline (field : FieldBinding) : FieldOutline :=
  ⟨field.required, !field.description.isEmpty⟩

def outline (spec : BindingSpec) : Outline :=
  ⟨!spec.package.isEmpty, spec.parent.isSome, spec.fields.map fieldOutline⟩

/-- The line ends that a field's key and description bring along. The key stands in the test, in the read, in
the write and, for a required field, in the text of the exception. -/
def textBreaks (field : FieldBinding) : Nat :=
  (3 + field.required.toNat) * breaks field.key.toList + field.description.toList.dropLast.count '\r'

/-- The line ends in a field's name and in the type that what is read is cast to. -/
def fieldNameBreaks (field : FieldBinding) : Nat :=
  (2 + field.required.toNat + (!field.description.isEmpty).toNat) * breaks field.name.toList +
    if field.kind.needsCast then breaks field.type.render.toList else 0

/-- The line ends in the names of a class, its host, its parent and its fields. -/
def nameBreaks (suffix : String) (spec : BindingSpec) : Nat :=
  breaks spec.package.toList + breaks (binderSimpleName suffix spec.host).toList +
    2 * breaks spec.classPath.toList +
    2 * (spec.parent.toList.map fun parent => breaks (binderName suffix parent.host).toList).sum +
    (spec.fields.map fieldNameBreaks).sum

theorem sum_commentLines (field : FieldBinding) :
    ((if field.description.isEmpty then [] else [commentLine field]).map lineBreaks).sum =
      (!field.description.isEmpty).toNat * (breaks field.name.toList + 1) +
        field.description.toList.dropLast.count '\r' := by
  cases hempty : field.description.isEmpty with
  | true =>
      rw [String.isEmpty_iff.mp hempty]
      simp
  | false =>
      simp only [Bool.false_eq_true, if_false, List.map_singleton, List.sum_singleton, lineBreaks_commentLine,
        Bool.not_false, Bool.toNat_true]
      omega

theorem sum_failureLines (field : FieldBinding) :
    ((if field.required then ["    \x7d else \x7b", failureLine field] else []).map lineBreaks).sum =
      field.required.toNat * (breaks field.key.toList + breaks field.name.toList + 2) := by
  have helse : lineBreaks "    \x7d else \x7b" = 1 := lineBreaks_of_free (by decide)
  cases field.required with
  | false => simp
  | true =>
      simp only [if_true, List.map_cons, List.map_nil, List.sum_cons, List.sum_nil, helse,
        lineBreaks_failureLine, Bool.toNat_true]
      omega

/-- The lines for a field, in both methods. -/
theorem sum_fieldLines (field : FieldBinding) :
    ((readLines field).map lineBreaks).sum + lineBreaks (writeLine field) =
      (fieldOutline field).lineCount + textBreaks field + fieldNameBreaks field := by
  have hclosed : lineBreaks "    \x7d" = 1 := lineBreaks_of_free (by decide)
  simp only [readLines, List.map_append, List.sum_append, sum_commentLines, sum_failureLines, List.map_cons,
    List.map_nil, List.sum_cons, List.sum_nil, hclosed, lineBreaks_testLine, lineBreaks_readLine,
    lineBreaks_writeLine, FieldOutline.lineCount, fieldOutline, textBreaks, fieldNameBreaks]
  ring

theorem sum_methodLines {name : String} (hname : Free lineEnds name) (suffix : String) (spec : BindingSpec)
    (body : List String) :
    ((methodLines name suffix spec body).map lineBreaks).sum =
      2 + breaks spec.classPath.toList + spec.parent.isSome.toNat +
        (spec.parent.toList.map fun parent => breaks (binderName suffix parent.host).toList).sum +
        (body.map lineBreaks).sum := by
  have hsignature : lineBreaks ("  public static void " ++ name ++ "(" ++ spec.classPath ++ " target, " ++
      container ++ " bundle) \x7b") = breaks spec.classPath.toList + 1 := by
    have hcontainer : breaks container.toList = 0 := rfl
    simp (disch := decide) only [lineBreaks_closed, breaks_spliced, breaks_opened, hcontainer,
      breaks_eq_zero_iff.mpr hname, Nat.zero_add, Nat.add_zero]
  have hcall : ∀ parent : BindingSpec,
      lineBreaks ("    " ++ binderName suffix parent.host ++ "." ++ name ++ "(target, bundle);") =
        breaks (binderName suffix parent.host).toList + 1 := by
    intro parent
    simp (disch := decide) only [lineBreaks_closed, breaks_spliced, breaks_opened,
      breaks_eq_zero_iff.mpr hname, Nat.add_zero]
  have hclosed : lineBreaks "  \x7d" = 1 := lineBreaks_of_free (by decide)
  rw [methodLines, List.map_append, List.map_append, List.map_append, List.sum_append, List.sum_append,
    List.sum_append, List.map_singleton, List.sum_singleton, hsignature, List.map_singleton,
    List.sum_singleton, hclosed]
  cases spec.parent with
  | none =>
      simp only [Option.toList_none, Option.isSome_none, Bool.toNat_false, List.map_nil, List.sum_nil]
      omega
  | some parent =>
      simp only [Option.toList_some, Option.isSome_some, Bool.toNat_true, List.map_cons, List.map_nil,
        List.sum_cons, List.sum_nil, hcall]
      omega

theorem sum_fieldsLines (fields : List FieldBinding) :
    ((fields.flatMap readLines).map lineBreaks).sum + ((fields.map writeLine).map lineBreaks).sum =
      ((fields.map fieldOutline).map FieldOutline.lineCount).sum + (fields.map textBreaks).sum +
        (fields.map fieldNameBreaks).sum := by
  induction fields with
  | nil => rfl
  | cons field fields ih =>
      have hfield := sum_fieldLines field
      simp only [List.flatMap_cons, List.map_append, List.sum_append, List.map_cons, List.sum_cons]
      omega

theorem sum_packageLines (package : String) :
    ((if package.isEmpty then [] else ["package " ++ package ++ ";", ""]).map lineBreaks).sum =
      2 * (!package.isEmpty).toNat + breaks package.toList := by
  have hempty : lineBreaks "" = 1 := rfl
  have hpackage : lineBreaks ("package " ++ package ++ ";") = breaks package.toList + 1 := by
    simp (disch := decide) only [lineBreaks_closed, breaks_opened]
  cases hpackaged : package.isEmpty with
  | true =>
      rw [String.isEmpty_iff.mp hpackaged]
      rfl
  | false =>
      simp only [Bool.false_eq_true, if_false, List.map_cons, List.map_nil, List.sum_cons, List.sum_nil,
        hpackage, hempty, Bool.not_false, Bool.toNat_true]
      omega

/-- The outline, and what the inserted texts add to it. -/
theorem sum_lines (suffix : String) (spec : BindingSpec) :
    ((lines suffix spec).map lineBreaks).sum =
      (outline spec).lineCount + (spec.fields.map textBreaks).sum + nameBreaks suffix spec := by
  have hheader : lineBreaks "// Generated by bundlewire. Do not modify." = 1 := lineBreaks_of_free (by decide)
  have himport : lineBreaks ("import " ++ TypeRef.bundle ++ ";") = 1 := lineBreaks_of_free (by decide)
  have hempty : lineBreaks "" = 1 := rfl
  have hclosed : lineBreaks "\x7d" = 1 := lineBreaks_of_free (by decide)
  have hclass : lineBreaks ("public class " ++ binderSimpleName suffix spec.host ++ " \x7b") =
      breaks (binderSimpleName suffix spec.host).toList + 1 := by
    simp (disch := decide) only [lineBreaks_closed, breaks_opened]
  have hbind := sum_methodLines (show Free lineEnds "bind" by decide) suffix spec
    (spec.fields.flatMap readLines)
  have hpack := sum_methodLines (show Free lineEnds "pack" by decide) suffix spec
    (spec.fields.map writeLine)
  have hfields := sum_fieldsLines spec.fields
  simp only [lines, List.map_append, List.sum_append, sum_packageLines, hbind, hpack, List.map_cons,
    List.map_nil, List.sum_cons, List.sum_nil, hheader, himport, hempty, hclosed, hclass]
  simp only [Outline.lineCount, outline, nameBreaks]
  omega

/-! ### The source -/

theorem breaks_flatMap_line (lines : List String) :
    breaks (lines.flatMap fun line => line.toList ++ ['\n']) = (lines.map lineBreaks).sum := by
  induction lines with
  | nil => rfl
  | cons line lines ih =>
      have hmeet : (line.toList ++ ['\n']).getLast? ≠ some '\r' := by
        rw [List.getLast?_concat]
        decide
      rw [List.flatMap_cons, breaks_append fun hlast => absurd hlast hmeet, ih, List.map_cons, List.sum_cons,
        lineBreaks]

theorem length_splitLines_source (suffix : String) (spec : BindingSpec) :
    (splitLines (generate suffix spec).source.toList).length =
      (outline spec).lineCount + 1 + (spec.fields.map textBreaks).sum + nameBreaks suffix spec := by
  rw [length_splitLines, toList_source, breaks_flatMap_line, sum_lines]
  omega

theorem nameBreaks_eq_zero (hnames : NamesFree lineEnds suffix spec) : nameBreaks suffix spec = 0 := by
  have hbreaks : ∀ {text : String}, Free lineEnds text → breaks text.toList = 0 := breaks_eq_zero_iff.mpr
  have hparents :
      (spec.parent.toList.map fun parent => breaks (binderName suffix parent.host).toList).sum = 0 := by
    refine List.sum_eq_zero ?_
    simp only [List.mem_map, Option.mem_toList]
    rintro _ ⟨parent, hparent, rfl⟩
    exact hbreaks
      ((hnames.parent_free parent hparent).binderName hnames.suffix_free (by decide) (by decide))
  have hfields : (spec.fields.map fieldNameBreaks).sum = 0 := by
    refine List.sum_eq_zero ?_
    simp only [List.mem_map]
    rintro _ ⟨field, hfield, rfl⟩
    rw [fieldNameBreaks, hbreaks (hnames.name_free field hfield), hbreaks (hnames.type_free field hfield),
      Nat.mul_zero, Nat.zero_add, ite_self]
  rw [nameBreaks, hparents, hfields, BindingSpec.package, BindingSpec.classPath,
    hbreaks hnames.host_free.package, hbreaks hnames.host_free.classPath,
    hbreaks (hnames.host_free.binderSimpleName hnames.suffix_free (by decide))]

/-- The key has no line ends, and the description has no return before its end. -/
def StaysInLine (field : FieldBinding) : Prop :=
  Free lineEnds field.key ∧ '\r' ∉ field.description.toList.dropLast

theorem textBreaks_eq_zero_iff (field : FieldBinding) : textBreaks field = 0 ↔ StaysInLine field := by
  have hwritten : 3 + field.required.toNat ≠ 0 := by omega
  rw [textBreaks, Nat.add_eq_zero_iff, Nat.mul_eq_zero, or_iff_right hwritten, breaks_eq_zero_iff,
    List.count_eq_zero]
  rfl

theorem sum_textBreaks_eq_zero_iff (fields : List FieldBinding) :
    (fields.map textBreaks).sum = 0 ↔ ∀ field ∈ fields, StaysInLine field := by
  simp only [List.sum_eq_zero_iff_forall_eq_nat, List.forall_mem_map, textBreaks_eq_zero_iff]

/-! ### Emitted lines and lines read -/

theorem length_fieldLines (field : FieldBinding) :
    (readLines field).length + 1 = (fieldOutline field).lineCount := by
  simp only [readLines, fieldOutline, FieldOutline.lineCount]
  cases field.description.isEmpty <;> cases field.required <;> rfl

theorem length_fieldsLines (fields : List FieldBinding) :
    (fields.flatMap readLines).length + (fields.map writeLine).length =
      ((fields.map fieldOutline).map FieldOutline.lineCount).sum := by
  induction fields with
  | nil => rfl
  | cons field fields ih =>
      have hfield := length_fieldLines field
      simp only [List.flatMap_cons, List.length_append, List.map_cons, List.length_cons, List.sum_cons]
      omega

theorem length_methodLines (name suffix : String) (spec : BindingSpec) (body : List String) :
    (methodLines name suffix spec body).length = 2 + spec.parent.isSome.toNat + body.length := by
  have hcall : spec.parent.toList.length = spec.parent.isSome.toNat := by
    cases spec.parent <;> rfl
  simp only [methodLines, List.length_append, List.length_map, List.length_singleton, hcall]
  omega

theorem length_lines (suffix : String) (spec : BindingSpec) :
    (lines suffix spec).length = (outline spec).lineCount := by
  have hpackage : (if spec.package.isEmpty then [] else ["package " ++ spec.package ++ ";", ""]).length =
      2 * (!spec.package.isEmpty).toNat := by
    cases spec.package.isEmpty <;> rfl
  have hfields := length_fieldsLines spec.fields
  simp only [lines, List.length_append, hpackage, length_methodLines, List.length_cons, List.length_nil]
  simp only [Outline.lineCount, outline]
  omega

/-- A line without the return that a reader takes for a part of the line end. -/
def withoutReturn (line : List Char) : List Char :=
  if line.getLast? = some '\r' then line.dropLast else line

theorem splitLines_append_of_free {front : List Char} (hfront : ∀ c ∈ front, c ∉ lineEnds)
    (back : List Char) :
    splitLines (front ++ back) = (splitLines back).modifyHead (front ++ ·) := by
  induction front with
  | nil => exact (congrFun List.modifyHead_id _).symm
  | cons c front ih =>
      obtain ⟨hc, hothers⟩ := List.forall_mem_cons.mp hfront
      rw [List.cons_append, splitLines, if_neg hc, ih hothers, List.modifyHead_modifyHead]
      · rfl
      · rintro _ rfl
        exact absurd hc (by decide)

theorem splitLines_append_of_ended (hfront : ∀ c ∈ front, c ∉ lineEnds)
    (hback : splitLines back = [] :: splitLines rest) :
    splitLines (front ++ back) = front :: splitLines rest := by
  rw [splitLines_append_of_free hfront, hback, List.modifyHead_cons, List.append_nil]

/-- A line in which no other line ends is read as it was written. -/
theorem splitLines_line {line : String} (hline : lineBreaks line = 1) (rest : List Char) :
    splitLines (line.toList ++ '\n' :: rest) = withoutReturn line.toList :: splitLines rest := by
  rw [lineBreaks] at hline
  generalize line.toList = text at hline ⊢
  by_cases hreturn : text.getLast? = some '\r'
  · obtain ⟨front, rfl⟩ := List.getLast?_eq_some_iff.mp hreturn
    have hfront : breaks front = 0 := by
      rw [List.append_assoc, breaks_append fun _ => by decide] at hline
      exact Nat.succ_injective hline
    rw [withoutReturn, if_pos hreturn, List.dropLast_concat, List.append_assoc]
    exact splitLines_append_of_ended (breaks_eq_zero_iff.mp hfront) rfl
  · have hfront : breaks text = 0 := by
      rw [breaks_append fun hlast => absurd hlast hreturn] at hline
      exact Nat.succ_injective hline
    rw [withoutReturn, if_neg hreturn]
    exact splitLines_append_of_ended (breaks_eq_zero_iff.mp hfront) rfl

theorem one_le_lineBreaks (line : String) : 1 ≤ lineBreaks line := by
  refine Nat.one_le_iff_ne_zero.mpr fun hnone => ?_
  exact breaks_eq_zero_iff.mp hnone '\n' (List.mem_append_right _ List.mem_cons_self) (by decide)

/-- Where there are as many line ends as lines, each line has its own. -/
theorem lineBreaks_eq_one_of_sum {lines : List String} (hsum : (lines.map lineBreaks).sum = lines.length) :
    ∀ line ∈ lines, lineBreaks line = 1 := by
  induction lines with
  | nil => exact List.forall_mem_nil _
  | cons line lines ih =>
      have hline := one_le_lineBreaks line
      have hothers : lines.length ≤ (lines.map lineBreaks).sum := by
        rw [← List.length_map lineBreaks]
        refine List.length_le_sum_of_one_le _ ?_
        exact List.forall_mem_map.mpr fun other _ => one_le_lineBreaks other
      rw [List.map_cons, List.sum_cons, List.length_cons] at hsum
      exact List.forall_mem_cons.mpr ⟨by omega, ih (by omega)⟩

theorem splitLines_flatMap_line {lines : List String} (hlines : ∀ line ∈ lines, lineBreaks line = 1) :
    splitLines (lines.flatMap fun line => line.toList ++ ['\n']) =
      (lines.map fun line => withoutReturn line.toList) ++ [[]] := by
  induction lines with
  | nil => rfl
  | cons line lines ih =>
      obtain ⟨hline, hothers⟩ := List.forall_mem_cons.mp hlines
      rw [List.flatMap_cons, List.append_assoc, List.singleton_append, splitLines_line hline, ih hothers]
      rfl

/-- **A class has the lines of its outline and those that its texts add.** The outline of a specification,
its keys, its descriptions and its names account for all lines of its class. Where no name has a line end,
the class has the lines of the outline exactly when every key and every description stays in its line, and
then the lines read are the lines emitted. -/
theorem lines_follow_outline (suffix : String) (spec : BindingSpec) :
    (splitLines (generate suffix spec).source.toList).length =
      (outline spec).lineCount + 1 + (spec.fields.map textBreaks).sum + nameBreaks suffix spec ∧
    (NamesFree lineEnds suffix spec →
      ((splitLines (generate suffix spec).source.toList).length = (outline spec).lineCount + 1 ↔
        ∀ field ∈ spec.fields, StaysInLine field) ∧
      ((∀ field ∈ spec.fields, StaysInLine field) →
        splitLines (generate suffix spec).source.toList =
          ((lines suffix spec).map fun line => withoutReturn line.toList) ++ [[]])) := by
  refine ⟨length_splitLines_source suffix spec, fun hnames => ⟨?_, fun hstays => ?_⟩⟩
  · rw [length_splitLines_source, nameBreaks_eq_zero hnames, ← sum_textBreaks_eq_zero_iff]
    omega
  · -- There are as many line ends as lines, so that no line has more than its own.
    have hsum : ((lines suffix spec).map lineBreaks).sum = (lines suffix spec).length := by
      rw [sum_lines, length_lines, nameBreaks_eq_zero hnames, (sum_textBreaks_eq_zero_iff _).mpr hstays,
        Nat.add_zero]
    rw [toList_source, splitLines_flatMap_line (lineBreaks_eq_one_of_sum hsum)]

/-- A class with one required field. -/
def loginSpec (key description : String) : BindingSpec :=
  ⟨"app.Login", [⟨"user", .string, key, .declared "java.lang.String" [], true, description⟩], none⟩

/-- A return at the end of a description is part of the line end. -/
theorem login_lines :
    (splitLines (generate defaultSuffix (loginSpec "a\"b" "who\r")).source.toList).length = 20 := by
  have hnames : NamesFree lineEnds defaultSuffix (loginSpec "a\"b" "who\r") :=
    { suffix_free := by decide
      host_free := by decide
      parent_free := by
        intro parent hparent
        cases hparent
      name_free := by decide
      type_free := by decide }
  have hstays : ∀ field ∈ (loginSpec "a\"b" "who\r").fields, StaysInLine field := by
    refine List.forall_mem_singleton.mpr ⟨by decide, by decide⟩
  exact ((lines_follow_outline defaultSuffix _).2 hnames).1.mpr hstays

/-- A feed in a key ends a line in each of the four places where the key stands, and a return inside a
description ends one, though the outlines are the same. -/
theorem keys_and_descriptions_add_lines :
    outline (loginSpec "a\nb" "who") = outline (loginSpec "ab" "who") ∧
    (splitLines (generate defaultSuffix (loginSpec "a\nb" "who")).source.toList).length = 24 ∧
    outline (loginSpec "ab" "w\rho") = outline (loginSpec "ab" "who") ∧
    (splitLines (generate defaultSuffix (loginSpec "ab" "w\rho")).source.toList).length = 21 ∧
    (splitLines (generate defaultSuffix (loginSpec "ab" "who")).source.toList).length = 20 := by
  simp only [length_splitLines_source]
  decide +kernel

end BundleBinding.Java
