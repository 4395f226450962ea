import BundleBinding.Type.Syntax
import Mathlib.Data.List.TakeWhile

/-!
# The grammar of written types

A written type is a row of tokens with blanks before, between and behind them at will. The tokens follow
from the type, and a type has a written form exactly when it is well formed: its names are proper, and
wildcards stand only where type arguments and their bounds stand.
-/

namespace BundleBinding

/-! ### Tokens -/

inductive TypeToken where
  | name (text : String)
  | opening
  | comma
  | closing
  | brackets
  | question
  | extendsWord
  deriving Repr, DecidableEq

def TypeToken.text : TypeToken → List Char
  | name text => text.toList
  | opening => ['<']
  | comma => [',']
  | closing => ['>']
  | brackets => ['[', ']']
  | question => ['?']
  | extendsWord => "extends".toList

namespace TypeRef

mutual

def tokens : TypeRef → List TypeToken
  | primitive base => [.name base.keyword]
  | declared name [] => [.name name]
  | declared name (first :: others) =>
      .name name :: .opening :: (tokens first ++ furtherTokens others)
  | array component => tokens component ++ [.brackets]
  | anything => [.question]
  | extending bound => .question :: .extendsWord :: tokens bound

/-- The tokens behind the first type argument: each further argument behind its comma, and the end. -/
def furtherTokens : List TypeRef → List TypeToken
  | [] => [.closing]
  | type :: types => .comma :: (tokens type ++ furtherTokens types)

end

/-- Words of letters, digits, `_` and `$` with single periods between them. -/
def IsDottedName (name : List Char) : Prop :=
  ∀ part ∈ Name.segments name,
    part ≠ [] ∧ ∀ c ∈ part, Text.isAlphanumeric c = true ∨ c = '_' ∨ c = '$'

/-- The names of declared types: dotted names other than the keywords of primitive types. -/
def IsTypeName (name : String) : Prop :=
  IsDottedName name.toList ∧ ∀ base : Primitive, base.keyword ≠ name

/-- Types and wildcards as they may stand among type arguments. -/
inductive WellFormed : TypeRef → Prop
  | primitive (base : Primitive) : WellFormed (primitive base)
  | declared {name : String} {arguments : List TypeRef} (hname : IsTypeName name)
      (harguments : ∀ argument ∈ arguments, WellFormed argument) :
      WellFormed (declared name arguments)
  | array {component : TypeRef} (hplain : component.isWildcard = false)
      (hcomponent : WellFormed component) : WellFormed (array component)
  | anything : WellFormed anything
  | extending {bound : TypeRef} (hbound : WellFormed bound) : WellFormed (extending bound)

end TypeRef

def AllBlank (text : List Char) : Prop :=
  ∀ c ∈ text, Text.isBlank c = true

/-- The text begins with the tokens, blanks standing before, between and behind them at will, and
`rest` comes behind. -/
inductive Spells : List TypeToken → List Char → List Char → Prop
  | done {blank : List Char} (hblank : AllBlank blank) (rest : List Char) :
      Spells [] (blank ++ rest) rest
  | token {blank text rest : List Char} {tokens : List TypeToken} (hblank : AllBlank blank)
      (token : TypeToken) (hrest : Spells tokens text rest) :
      Spells (token :: tokens) (blank ++ (token.text ++ text)) rest

theorem allBlank_nil : AllBlank [] :=
  fun _ hmem => absurd hmem List.not_mem_nil

theorem AllBlank.append {first second : List Char} (hfirst : AllBlank first)
    (hsecond : AllBlank second) : AllBlank (first ++ second) :=
  List.forall_mem_append.mpr ⟨hfirst, hsecond⟩

namespace Spells

variable {first second tokens : List TypeToken} {text middle rest blank : List Char}

theorem blank_append (hblank : AllBlank blank) (hspells : Spells tokens text rest) :
    Spells tokens (blank ++ text) rest := by
  cases hspells with
  | done hfirst rest =>
      rw [← List.append_assoc]
      exact .done (hblank.append hfirst) rest
  | token hfirst token hrest =>
      rw [← List.append_assoc]
      exact .token (hblank.append hfirst) token hrest

theorem append (hfirst : Spells first text middle) (hsecond : Spells second middle rest) :
    Spells (first ++ second) text rest := by
  induction hfirst with
  | done hblank _ => exact hsecond.blank_append hblank
  | token hblank token _ ih => exact .token hblank token (ih hsecond)

theorem exists_middle (hspells : Spells (first ++ second) text rest) :
    ∃ middle, Spells first text middle ∧ Spells second middle rest := by
  induction first generalizing text with
  | nil => exact ⟨text, .done allBlank_nil text, hspells⟩
  | cons token first ih =>
      cases hspells with
      | token hblank _ hrest =>
          obtain ⟨middle, hfirst, hsecond⟩ := ih hrest
          exact ⟨middle, .token hblank token hfirst, hsecond⟩

theorem single (token : TypeToken) (rest : List Char) : Spells [token] (token.text ++ rest) rest :=
  .token allBlank_nil token (.done allBlank_nil rest)

end Spells

/-! ### Blanks -/

namespace Text

theorem skipBlank_append_of_allBlank {blank : List Char} (hblank : AllBlank blank)
    (text : List Char) : skipBlank (blank ++ text) = skipBlank text :=
  List.dropWhile_append_of_pos hblank

theorem exists_allBlank_append_skipBlank (text : List Char) :
    ∃ blank, AllBlank blank ∧ text = blank ++ skipBlank text :=
  ⟨text.takeWhile isBlank, fun _ => List.mem_takeWhile_imp,
    List.takeWhile_append_dropWhile.symm⟩

theorem skipBlank_cons_of_not_blank {c : Char} (hc : isBlank c = false) (text : List Char) :
    skipBlank (c :: text) = c :: text :=
  List.dropWhile_cons_of_neg (by rw [hc]; exact Bool.false_ne_true)

end Text

namespace Spells

variable {tokens : List TypeToken} {token : TypeToken} {text rest : List Char}

theorem of_skipBlank (hspells : Spells tokens (Text.skipBlank text) rest) :
    Spells tokens text rest := by
  obtain ⟨blank, hblank, htext⟩ := Text.exists_allBlank_append_skipBlank text
  rw [htext]
  exact hspells.blank_append hblank

theorem nil_iff : Spells [] text rest ↔ ∃ blank, AllBlank blank ∧ text = blank ++ rest := by
  constructor
  · intro hspells
    cases hspells with
    | done hblank _ => exact ⟨_, hblank, rfl⟩
  · rintro ⟨blank, hblank, rfl⟩
    exact .done hblank rest

theorem skipBlank_eq (hspells : Spells [] text rest) :
    Text.skipBlank text = Text.skipBlank rest := by
  obtain ⟨blank, hblank, rfl⟩ := nil_iff.mp hspells
  exact Text.skipBlank_append_of_allBlank hblank rest

end Spells

/-! ### Names -/

namespace Name

theorem forall_ne_nil_iff_tail {text : List Char} :
    (∀ part ∈ segments text, part ≠ []) ↔
      text ≠ [] ∧ text.head? ≠ some '.' ∧ ∀ part ∈ (segments text).tail, part ≠ [] := by
  cases text with
  | nil => simp [segments]
  | cons c text =>
      by_cases hc : c = '.'
      · simp [hc, segments]
      · obtain ⟨part, others, _, hcons⟩ := segments_cons_of_ne hc text
        simp [hc, hcons]

/-- The parts behind the first period are not empty if the periods stand alone and inside. -/
theorem forall_tail_ne_nil_iff {text : List Char} :
    (∀ part ∈ (segments text).tail, part ≠ []) ↔ TypeRef.periodsInside text = true := by
  fun_induction TypeRef.periodsInside text with
  | case1 => simp [segments]
  | case2 => simp [segments]
  | case3 rest => simp [segments]
  | case4 c rest hlone hdouble ih =>
      by_cases hc : c = '.'
      · subst hc
        have hhead : rest.head? ≠ some '.' := by
          intro hhead
          obtain ⟨later, hrest⟩ := List.head?_eq_some_iff.mp hhead
          exact hdouble later rfl hrest
        have hne : rest ≠ [] := fun hrest => hlone rfl hrest
        rw [segments, List.tail_cons, forall_ne_nil_iff_tail, ih]
        simp [hne, hhead]
      · obtain ⟨part, others, hparts, hcons⟩ := segments_cons_of_ne hc rest
        rw [hcons, ← ih, hparts, List.tail_cons, List.tail_cons]

theorem forall_ne_nil_iff {text : List Char} :
    (∀ part ∈ segments text, part ≠ []) ↔
      text ≠ [] ∧ TypeRef.isWellFormedName text = true := by
  rw [forall_ne_nil_iff_tail, forall_tail_ne_nil_iff, TypeRef.isWellFormedName,
    Bool.and_eq_true, bne_iff_ne]

end Name

namespace TypeRef

theorem isNameCharacter_iff {c : Char} :
    isNameCharacter c = true ↔
      c = '.' ∨ (Text.isAlphanumeric c = true ∨ c = '_' ∨ c = '$') := by
  simp only [isNameCharacter, Bool.or_eq_true, beq_iff_eq]
  rw [or_comm, or_assoc]

theorem isDottedName_iff {name : List Char} :
    IsDottedName name ↔
      name ≠ [] ∧ isWellFormedName name = true ∧ ∀ c ∈ name, isNameCharacter c = true := by
  have hcharacters : (∀ part ∈ Name.segments name, ∀ c ∈ part,
      Text.isAlphanumeric c = true ∨ c = '_' ∨ c = '$') ↔
        ∀ c ∈ name, isNameCharacter c = true := by
    constructor
    · intro hparts c hmem
      rw [isNameCharacter_iff, or_iff_not_imp_left]
      intro hperiod
      obtain ⟨part, hpart, hc⟩ := Name.exists_part_iff.mpr ⟨hmem, hperiod⟩
      exact hparts part hpart c hc
    · intro hname part hpart c hc
      obtain ⟨hmem, hperiod⟩ := Name.exists_part_iff.mp ⟨part, hpart, hc⟩
      exact (isNameCharacter_iff.mp (hname c hmem)).resolve_left hperiod
  unfold IsDottedName
  simp only [imp_and, forall_and, Name.forall_ne_nil_iff, hcharacters, and_assoc]

/-- No blank can be taken for a part of a name. -/
theorem isNameCharacter_of_isBlank {c : Char} (hc : Text.isBlank c = true) :
    isNameCharacter c = false := by
  have hall : ∀ range ∈ Text.blankRanges, ∀ point ∈ List.range' range.1 (range.2 + 1 - range.1),
      isNameCharacter (Char.ofNat point) = false := by
    decide +kernel
  obtain ⟨range, hrange, hlow, hhigh⟩ := Text.CodePoints.contains_iff.mp hc
  have hpoint : c.toNat ∈ List.range' range.1 (range.2 + 1 - range.1) := by
    rw [List.mem_range'_1]
    omega
  have hname := hall range hrange c.toNat hpoint
  rwa [Char.ofNat_toNat] at hname

theorem isDottedName_keyword (base : Primitive) : IsDottedName base.keyword.toList := by
  rw [isDottedName_iff, ← List.all_eq_true]
  cases base <;> decide

theorem ofKeyword?_eq_none_iff {word : String} :
    Primitive.ofKeyword? word = none ↔ ∀ base : Primitive, base.keyword ≠ word := by
  constructor
  · rintro hnone base rfl
    rw [Primitive.ofKeyword?_keyword] at hnone
    cases hnone
  · intro hne
    cases hbase : Primitive.ofKeyword? word with
    | none => rfl
    | some base => exact absurd (Primitive.keyword_of_ofKeyword? hbase) (hne base)

end TypeRef

end BundleBinding
