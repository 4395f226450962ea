import BundleBinding.Proofs.TypeGrammar

/-!
# The rules of reading types

By which rules the reader takes names, types and type arguments from the front of a text. That only
written types are read, and that all of them are, both follow from the rules.
-/

namespace BundleBinding

namespace Text

variable {α β ε : Type} {text outer : List Char}

/-- The outcome of a reader is a value with the text behind it. -/
def Yields (outcome : Except ε (Parsed α text)) (value : α) (rest : List Char) : Prop :=
  ∃ parsed, outcome = .ok parsed ∧ parsed.value = value ∧ parsed.rest = rest

theorem yields_pure {parsed : Parsed α text} {value : α} {rest : List Char} :
    Yields (pure parsed : Except ε (Parsed α text)) value rest ↔
      parsed.value = value ∧ parsed.rest = rest := by
  simp [Yields, pure, Except.pure]

theorem Yields.length_lt {outcome : Except ε (Parsed α text)} {value : α} {rest : List Char}
    (hyields : Yields outcome value rest) : rest.length < text.length := by
  obtain ⟨parsed, _, _, rfl⟩ := hyields
  exact parsed.shorter

theorem not_yields_throw (error : ε) (value : α) (rest : List Char) :
    ¬ Yields (throw error : Except ε (Parsed α text)) value rest := by
  rintro ⟨parsed, hparsed, _⟩
  cases hparsed

theorem yields_bind {first : Except ε (Parsed β outer)} {value : α} {rest : List Char}
    {continues : Parsed β outer → Except ε (Parsed α text)} :
    Yields (first >>= continues) value rest ↔
      ∃ parsed, first = .ok parsed ∧ Yields (continues parsed) value rest := by
  cases first with
  | error error => simp [Yields, bind, Except.bind]
  | ok parsed => simp [Yields, bind, Except.bind]

end Text

namespace TypeRef

open Text (after? skipBlank Yields yields_pure yields_bind not_yields_throw)

variable {size : Nat} {text rest : List Char} {type : TypeRef}

/-! ### Names -/

theorem takeWhile_isNameCharacter {name rest : List Char}
    (hname : ∀ c ∈ name, isNameCharacter c = true)
    (hrest : ∀ c ∈ rest.head?, isNameCharacter c = false) :
    (name ++ rest).takeWhile isNameCharacter = name ∧
      (name ++ rest).dropWhile isNameCharacter = rest := by
  rw [List.takeWhile_append_of_pos hname, List.dropWhile_append_of_pos hname]
  cases rest with
  | nil => exact ⟨List.append_nil name, rfl⟩
  | cons c rest =>
      have hc : ¬ isNameCharacter c = true := by
        rw [hrest c rfl]
        exact Bool.false_ne_true
      rw [List.takeWhile_cons_of_neg hc, List.dropWhile_cons_of_neg hc]
      exact ⟨List.append_nil name, rfl⟩

theorem yields_parseName_iff {name : String} :
    Yields (parseName size text) name rest ↔
      text = name.toList ++ rest ∧ IsDottedName name.toList ∧
        ∀ c ∈ rest.head?, isNameCharacter c = false := by
  constructor
  · intro hyields
    unfold parseName at hyields
    dsimp only at hyields
    split at hyields
    · exact absurd hyields (not_yields_throw _ _ _)
    · next hne =>
        split at hyields
        · exact absurd hyields (not_yields_throw _ _ _)
        · next hperiods =>
            obtain ⟨rfl, rfl⟩ := yields_pure.mp hyields
            rw [String.toList_ofList, isDottedName_iff]
            refine ⟨List.takeWhile_append_dropWhile.symm, ⟨hne, by simpa using hperiods, ?_⟩, ?_⟩
            · exact fun c => List.mem_takeWhile_imp
            · intro c hc
              have hhead := List.head?_dropWhile_not isNameCharacter text
              rwa [hc] at hhead
  · rintro ⟨rfl, hdotted, hrest⟩
    obtain ⟨hne, hperiods, hname⟩ := isDottedName_iff.mp hdotted
    obtain ⟨htake, hdrop⟩ := takeWhile_isNameCharacter hname hrest
    unfold parseName
    dsimp only
    rw [dif_neg (by rwa [htake]), if_neg (by simp [htake, hperiods])]
    exact yields_pure.mpr ⟨(congrArg String.ofList htake).trans String.ofList_toList, hdrop⟩

/-! ### The rules of reading -/

/-- The rules by which a type is read from the front of a text. -/
inductive ReadsType (size : Nat) (text : List Char) : TypeRef → List Char → Prop
  | anything {rest : List Char} (hquestion : skipBlank text = '?' :: rest)
      (hsuper : after? "super".toList (skipBlank rest) = none)
      (hextends : after? "extends".toList (skipBlank rest) = none) :
      ReadsType size text .anything rest
  | extending {behind boundText rest : List Char} {bound : TypeRef}
      (hquestion : skipBlank text = '?' :: behind)
      (hsuper : after? "super".toList (skipBlank behind) = none)
      (hextends : after? "extends".toList (skipBlank behind) = some boundText)
      (hbound : Yields (parseType size boundText) bound rest) :
      ReadsType size text (.extending bound) rest
  | primitive {name : String} {behind rest : List Char} {base : Primitive} {type : TypeRef}
      (hname : Yields (parseName size (skipBlank text)) name behind)
      (hbase : Primitive.ofKeyword? name = some base)
      (hbrackets : parseBrackets (.primitive base) behind = (type, rest)) :
      ReadsType size text type rest
  | raw {name : String} {behind rest : List Char} {type : TypeRef}
      (hname : Yields (parseName size (skipBlank text)) name behind)
      (hbase : Primitive.ofKeyword? name = none)
      (hopening : (skipBlank behind).head? ≠ some '<')
      (hbrackets : parseBrackets (.declared name []) behind = (type, rest)) :
      ReadsType size text type rest
  | generic {name : String} {behind inner behindArguments rest : List Char}
      {arguments : List TypeRef} {type : TypeRef}
      (hname : Yields (parseName size (skipBlank text)) name behind)
      (hbase : Primitive.ofKeyword? name = none) (hopening : skipBlank behind = '<' :: inner)
      (harguments : Yields (parseArguments size inner) arguments behindArguments)
      (hbrackets : parseBrackets (.declared name arguments) behindArguments = (type, rest)) :
      ReadsType size text type rest

theorem yields_withBrackets_iff {outer : List Char} {behind : List Char}
    {hshorter : behind.length < outer.length} {base : TypeRef} :
    Yields (pure (base.withBrackets behind hshorter) : Except TypeSyntaxError _) type rest ↔
      parseBrackets base behind = (type, rest) := by
  rw [yields_pure, withBrackets, Prod.ext_iff]

theorem readsType_of_yields (hyields : Yields (parseType size text) type rest) :
    ReadsType size text type rest := by
  unfold parseType at hyields
  split at hyields
  · next behind hquestion =>
      split at hyields
      · exact absurd hyields (not_yields_throw _ _ _)
      · next hsuper =>
          rw [Option.not_isSome_iff_eq_none] at hsuper
          split at hyields
          · next boundText hextends =>
              obtain ⟨bound, hbound, hyields⟩ := yields_bind.mp hyields
              obtain ⟨rfl, rfl⟩ := yields_pure.mp hyields
              exact .extending hquestion hsuper hextends ⟨bound, hbound, rfl, rfl⟩
          · next hextends =>
              obtain ⟨rfl, rfl⟩ := yields_pure.mp hyields
              exact .anything hquestion hsuper hextends
  · next hbody =>
      dsimp only at hyields
      obtain ⟨name, hname, hyields⟩ := yields_bind.mp hyields
      have hname : Yields (parseName size (skipBlank text)) name.value name.rest :=
        ⟨name, hname, rfl, rfl⟩
      split at hyields
      · next base hbase =>
          exact .primitive hname hbase (yields_withBrackets_iff.mp hyields)
      · next hbase =>
          split at hyields
          · next inner hopening =>
              obtain ⟨arguments, harguments, hyields⟩ := yields_bind.mp hyields
              exact .generic hname hbase hopening ⟨arguments, harguments, rfl, rfl⟩
                (yields_withBrackets_iff.mp hyields)
          · next hopening =>
              refine .raw hname hbase ?_ (yields_withBrackets_iff.mp hyields)
              intro hhead
              obtain ⟨inner, hinner⟩ := List.head?_eq_some_iff.mp hhead
              exact hopening inner hinner

theorem not_yields_parseName_question {name : String} {behind : List Char} :
    ¬ Yields (parseName size ('?' :: text)) name behind := by
  intro hyields
  obtain ⟨htext, hdotted, _⟩ := yields_parseName_iff.mp hyields
  obtain ⟨hne, _, hname⟩ := isDottedName_iff.mp hdotted
  obtain ⟨c, others, hcons⟩ := List.exists_cons_of_ne_nil hne
  rw [hcons] at htext hname
  cases htext
  exact absurd (hname '?' List.mem_cons_self) (by decide)

theorem yields_of_readsType (hreads : ReadsType size text type rest) :
    Yields (parseType size text) type rest := by
  unfold parseType
  split
  · next behind hquestion =>
      cases hreads with
      | anything hquestion' hsuper hextends =>
          rw [hquestion] at hquestion'
          cases hquestion'
          rw [if_neg (by rw [hsuper]; exact Bool.false_ne_true)]
          split
          · next hsome => rw [hextends] at hsome; cases hsome
          · exact yields_pure.mpr ⟨rfl, rfl⟩
      | extending hquestion' hsuper hextends hbound =>
          rw [hquestion] at hquestion'
          cases hquestion'
          obtain ⟨bound, hbound, rfl, rfl⟩ := hbound
          rw [if_neg (by rw [hsuper]; exact Bool.false_ne_true)]
          split
          · next hsome =>
              rw [hextends] at hsome
              cases hsome
              exact yields_bind.mpr ⟨bound, hbound, yields_pure.mpr ⟨rfl, rfl⟩⟩
          · next hnone => rw [hextends] at hnone; cases hnone
      | primitive hname => exact absurd (hquestion ▸ hname) not_yields_parseName_question
      | raw hname => exact absurd (hquestion ▸ hname) not_yields_parseName_question
      | generic hname => exact absurd (hquestion ▸ hname) not_yields_parseName_question
  · next hbody =>
      dsimp only
      cases hreads with
      | anything hquestion => exact absurd hquestion (hbody _)
      | extending hquestion => exact absurd hquestion (hbody _)
      | primitive hname hbase hbrackets =>
          obtain ⟨name, hname, rfl, rfl⟩ := hname
          refine yields_bind.mpr ⟨name, hname, ?_⟩
          split
          · next hsome =>
              rw [hbase] at hsome
              cases hsome
              exact yields_withBrackets_iff.mpr hbrackets
          · next hnone => rw [hbase] at hnone; cases hnone
      | raw hname hbase hopening hbrackets =>
          obtain ⟨name, hname, rfl, rfl⟩ := hname
          refine yields_bind.mpr ⟨name, hname, ?_⟩
          split
          · next hsome => rw [hbase] at hsome; cases hsome
          · split
            · next hinner => rw [hinner] at hopening; exact absurd rfl hopening
            · exact yields_withBrackets_iff.mpr hbrackets
      | generic hname hbase hopening harguments hbrackets =>
          obtain ⟨name, hname, rfl, rfl⟩ := hname
          obtain ⟨arguments, harguments, rfl, rfl⟩ := harguments
          refine yields_bind.mpr ⟨name, hname, ?_⟩
          split
          · next hsome => rw [hbase] at hsome; cases hsome
          · split
            · next hinner =>
                rw [hopening] at hinner
                cases hinner
                refine yields_bind.mpr ⟨arguments, harguments, ?_⟩
                exact yields_withBrackets_iff.mpr hbrackets
            · next hnone => exact absurd hopening (hnone _)

theorem yields_parseType_iff :
    Yields (parseType size text) type rest ↔ ReadsType size text type rest :=
  ⟨readsType_of_yields, yields_of_readsType⟩

/-- The rules by which type arguments are read, up to and including the end. -/
inductive ReadsArguments (size : Nat) (text : List Char) : List TypeRef → List Char → Prop
  | last {behind rest : List Char} {type : TypeRef}
      (hfirst : Yields (parseType size text) type behind)
      (hclosing : skipBlank behind = '>' :: rest) : ReadsArguments size text [type] rest
  | further {behind inner rest : List Char} {type : TypeRef} {types : List TypeRef}
      (hfirst : Yields (parseType size text) type behind)
      (hcomma : skipBlank behind = ',' :: inner)
      (hothers : Yields (parseArguments size inner) types rest) :
      ReadsArguments size text (type :: types) rest

theorem yields_parseArguments_iff {types : List TypeRef} :
    Yields (parseArguments size text) types rest ↔ ReadsArguments size text types rest := by
  unfold parseArguments
  constructor
  · intro hyields
    obtain ⟨first, hfirst, hyields⟩ := yields_bind.mp hyields
    have hfirst : Yields (parseType size text) first.value first.rest := ⟨first, hfirst, rfl, rfl⟩
    dsimp only at hyields
    split at hyields
    · next inner hcomma =>
        obtain ⟨others, hothers, hyields⟩ := yields_bind.mp hyields
        obtain ⟨rfl, rfl⟩ := yields_pure.mp hyields
        exact .further hfirst hcomma ⟨others, hothers, rfl, rfl⟩
    · next hclosing =>
        obtain ⟨rfl, rfl⟩ := yields_pure.mp hyields
        exact .last hfirst hclosing
    · exact absurd hyields (not_yields_throw _ _ _)
  · intro hreads
    cases hreads with
    | last hfirst hclosing =>
        obtain ⟨first, hfirst, rfl, rfl⟩ := hfirst
        refine yields_bind.mpr ⟨first, hfirst, ?_⟩
        dsimp only
        split
        · next hcomma => rw [hclosing] at hcomma; cases hcomma
        · next hclosing' =>
            rw [hclosing] at hclosing'
            cases hclosing'
            exact yields_pure.mpr ⟨rfl, rfl⟩
        · next hnone => exact absurd hclosing (hnone _)
    | further hfirst hcomma hothers =>
        obtain ⟨first, hfirst, rfl, rfl⟩ := hfirst
        obtain ⟨others, hothers, rfl, rfl⟩ := hothers
        refine yields_bind.mpr ⟨first, hfirst, ?_⟩
        dsimp only
        split
        · next hcomma' =>
            rw [hcomma] at hcomma'
            cases hcomma'
            exact yields_bind.mpr ⟨others, hothers, yields_pure.mpr ⟨rfl, rfl⟩⟩
        · next hclosing => rw [hcomma] at hclosing; cases hclosing
        · next hnone _ => exact absurd hcomma (hnone _)

end TypeRef

end BundleBinding
