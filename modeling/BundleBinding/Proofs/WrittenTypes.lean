import BundleBinding.Proofs.TypeReading
import Mathlib.Data.List.DropRight

/-!
# Written types are read back

The reader of types accepts exactly the written forms of well-formed types and gives back the type.
It takes the longest names and all brackets, and yet never too much: what may follow a type in a
written form does not continue the type.
-/

namespace BundleBinding

namespace Text

theorem after?_eq_some_iff {word text rest : List Char} :
    after? word text = some rest ↔ text = word ++ rest := by
  fun_induction after? word text with
  | case1 text => simp
  | case2 => simp
  | case3 c word d text hequal ih =>
      rw [beq_iff_eq] at hequal
      simp [hequal, ih]
  | case4 c word d text hdiffer =>
      rw [beq_iff_eq] at hdiffer
      simp [Ne.symm hdiffer]

theorem skipBlank_skipBlank (text : List Char) : skipBlank (skipBlank text) = skipBlank text :=
  List.dropWhile_idempotent isBlank text

end Text

namespace Spells

variable {token : TypeToken} {tokens : List TypeToken} {text rest : List Char}

theorem single_of_skipBlank (htext : Text.skipBlank text = token.text ++ rest) :
    Spells [token] text rest := by
  refine of_skipBlank ?_
  rw [htext]
  exact single token rest

theorem exists_behind {c : Char} {others : List Char} (hspells : Spells (token :: tokens) text rest)
    (htoken : token.text = c :: others) (hc : Text.isBlank c = false) :
    ∃ behind, Text.skipBlank text = token.text ++ behind ∧ Spells tokens behind rest := by
  cases hspells with
  | token hblank _ hrest =>
      refine ⟨_, ?_, hrest⟩
      rw [Text.skipBlank_append_of_allBlank hblank, htoken, List.cons_append,
        Text.skipBlank_cons_of_not_blank hc]

end Spells

namespace TypeRef

open Text (after? after?_eq_some_iff skipBlank skipBlank_skipBlank Yields)

variable {size : Nat} {text rest : List Char} {type : TypeRef}

/-! ### Brackets -/

theorem parseBrackets_of_some (hafter : after? ['[', ']'] (skipBlank text) = some rest) :
    parseBrackets type text = parseBrackets (.array type) rest := by
  rw [parseBrackets]
  split
  · next hsome =>
      rw [hafter] at hsome
      cases hsome
      rfl
  · next hnone => rw [hafter] at hnone; cases hnone

theorem parseBrackets_of_none (hafter : after? ['[', ']'] (skipBlank text) = none) :
    parseBrackets type text = (type, skipBlank text) := by
  rw [parseBrackets]
  split
  · next hsome => rw [hafter] at hsome; cases hsome
  · rfl

theorem parseBrackets_congr {first second : List Char}
    (hskip : skipBlank first = skipBlank second) :
    parseBrackets type first = parseBrackets type second := by
  cases hafter : after? ['[', ']'] (skipBlank first) with
  | none =>
      rw [parseBrackets_of_none hafter]
      rw [hskip] at hafter ⊢
      rw [parseBrackets_of_none hafter]
  | some rest =>
      rw [parseBrackets_of_some hafter]
      rw [hskip] at hafter
      rw [parseBrackets_of_some hafter]

/-! ### What is read is written -/

/-- The text begins with a written form of the type, which is well formed. -/
def IsWritten (type : TypeRef) (text rest : List Char) : Prop :=
  WellFormed type ∧ Spells type.tokens text rest

theorem IsWritten.parseBrackets {behind : List Char} (hwritten : IsWritten type text behind)
    (hplain : type.isWildcard = false) :
    IsWritten (parseBrackets type behind).1 text (parseBrackets type behind).2 := by
  fun_induction TypeRef.parseBrackets type behind with
  | case1 type behind rest hafter _ ih =>
      obtain ⟨hformed, hspells⟩ := hwritten
      refine ih ⟨.array hplain hformed, ?_⟩ rfl
      rw [tokens]
      exact hspells.append (Spells.single_of_skipBlank (after?_eq_some_iff.mp hafter))
  | case2 type behind hafter =>
      obtain ⟨hformed, hspells⟩ := hwritten
      refine ⟨hformed, ?_⟩
      rw [← List.append_nil type.tokens]
      exact hspells.append (.of_skipBlank (.done allBlank_nil _))

theorem isDottedName_and_spells_of_yields {name : String}
    (hname : Yields (parseName size (skipBlank text)) name rest) :
    IsDottedName name.toList ∧ Spells [.name name] text rest := by
  obtain ⟨htext, hdotted, _⟩ := yields_parseName_iff.mp hname
  exact ⟨hdotted, Spells.single_of_skipBlank htext⟩

theorem arguments_written_of_yields {limit : Nat} {arguments : List TypeRef}
    (htypes : ∀ {text rest : List Char} {type : TypeRef}, text.length < limit →
      Yields (parseType size text) type rest → IsWritten type text rest)
    (hlimit : text.length < limit) (hyields : Yields (parseArguments size text) arguments rest) :
    ∃ first others, arguments = first :: others ∧
      (∀ argument ∈ first :: others, WellFormed argument) ∧
      Spells (first.tokens ++ furtherTokens others) text rest := by
  induction hlength : text.length using Nat.strong_induction_on generalizing text arguments with
  | _ length ih =>
      cases yields_parseArguments_iff.mp hyields with
      | last hfirst hclosing =>
          obtain ⟨hformed, hspells⟩ := htypes hlimit hfirst
          refine ⟨_, [], rfl, List.forall_mem_singleton.mpr hformed, ?_⟩
          rw [furtherTokens]
          exact hspells.append (Spells.single_of_skipBlank hclosing)
      | @further behind inner _ first _ hfirst hcomma hothers =>
          obtain ⟨hformed, hspells⟩ := htypes hlimit hfirst
          have hbehind : behind.length < text.length := hfirst.length_lt
          have hinner : inner.length < behind.length := Text.length_lt_of_skipBlank hcomma
          obtain ⟨second, others, rfl, hformeds, hrest⟩ :=
            ih inner.length (by omega) (by omega) hothers rfl
          refine ⟨first, second :: others, rfl, List.forall_mem_cons.mpr ⟨hformed, hformeds⟩, ?_⟩
          rw [furtherTokens]
          exact hspells.append ((Spells.single_of_skipBlank hcomma).append hrest)

theorem isWritten_of_yields (hyields : Yields (parseType size text) type rest) :
    IsWritten type text rest := by
  -- Bounds and type arguments are read from shorter texts, hence the induction on the length.
  induction hlength : text.length using Nat.strong_induction_on generalizing text type rest with
  | _ length ih =>
      cases yields_parseType_iff.mp hyields with
      | anything hquestion =>
          refine ⟨.anything, ?_⟩
          rw [tokens]
          exact Spells.single_of_skipBlank hquestion
      | @extending behind boundText _ bound hquestion _ hextends hbound =>
          have hshorter : boundText.length < text.length :=
            Nat.lt_trans (length_lt_of_after?_skipBlank hextends)
              (Text.length_lt_of_skipBlank hquestion)
          obtain ⟨hformed, hspells⟩ := ih boundText.length (hlength ▸ hshorter) hbound rfl
          have hword : skipBlank behind = TypeToken.extendsWord.text ++ boundText :=
            after?_eq_some_iff.mp hextends
          refine ⟨.extending hformed, ?_⟩
          rw [tokens]
          exact (Spells.single_of_skipBlank hquestion).append
            ((Spells.single_of_skipBlank hword).append hspells)
      | primitive hname hbase hbrackets =>
          obtain ⟨_, hspells⟩ := isDottedName_and_spells_of_yields hname
          obtain rfl := Primitive.keyword_of_ofKeyword? hbase
          have hwritten := IsWritten.parseBrackets ⟨.primitive _, hspells⟩ rfl
          rwa [hbrackets] at hwritten
      | @raw name behind _ _ hname hbase _ hbrackets =>
          obtain ⟨hdotted, hspells⟩ := isDottedName_and_spells_of_yields hname
          have hformed : WellFormed (.declared name []) :=
            .declared ⟨hdotted, ofKeyword?_eq_none_iff.mp hbase⟩ (by simp)
          have hwritten := IsWritten.parseBrackets ⟨hformed, hspells⟩ rfl
          rwa [hbrackets] at hwritten
      | @generic name behind inner behindArguments _ arguments _ hname hbase hopening harguments
          hbrackets =>
          obtain ⟨hdotted, hspells⟩ := isDottedName_and_spells_of_yields hname
          have hinner : inner.length < text.length :=
            calc
              inner.length < behind.length := Text.length_lt_of_skipBlank hopening
              _ < (skipBlank text).length := hname.length_lt
              _ ≤ text.length := Text.skipBlank_length_le text
          obtain ⟨first, others, rfl, hformeds, hrest⟩ := arguments_written_of_yields
            (fun hlimit hyields => ih _ (hlength ▸ hlimit) hyields rfl) hinner harguments
          have hformed : WellFormed (.declared name (first :: others)) :=
            .declared ⟨hdotted, ofKeyword?_eq_none_iff.mp hbase⟩ hformeds
          have hwritten : IsWritten (.declared name (first :: others)) text behindArguments := by
            refine ⟨hformed, ?_⟩
            rw [tokens]
            exact hspells.append ((Spells.single_of_skipBlank hopening).append hrest)
          have hbracketed := hwritten.parseBrackets rfl
          rwa [hbrackets] at hbracketed

/-! ### What is written is read -/

/-- Neither a name nor a declared type goes on in the text. -/
def EndsBase (text : List Char) : Prop :=
  ∀ c ∈ (skipBlank text).head?, isNameCharacter c = false ∧ c ≠ '<'

/-- The text goes on as one does behind a type argument or behind a whole type. -/
def EndsArgument (text : List Char) : Prop :=
  ∀ c ∈ (skipBlank text).head?, c = ',' ∨ c = '>'

theorem endsArgument_of_skipBlank {c : Char} (hskip : skipBlank text = c :: rest)
    (hc : c = ',' ∨ c = '>') : EndsArgument text := by
  intro d hd
  rw [hskip] at hd
  cases hd
  exact hc

theorem EndsArgument.endsBase (hends : EndsArgument text) : EndsBase text := by
  intro c hc
  obtain rfl | rfl := hends c hc
  · decide
  · decide

theorem EndsArgument.parseBrackets (hends : EndsArgument text) :
    parseBrackets type text = (type, skipBlank text) := by
  refine parseBrackets_of_none ?_
  rw [Option.eq_none_iff_forall_ne_some]
  intro rest hafter
  have hhead : '[' ∈ (skipBlank text).head? := by
    rw [after?_eq_some_iff.mp hafter]
    rfl
  exact absurd (hends '[' hhead) (by decide)

/-- A name ends before blanks. -/
theorem head_not_nameCharacter
    (hskipped : ∀ c ∈ (skipBlank text).head?, isNameCharacter c = false) :
    ∀ c ∈ text.head?, isNameCharacter c = false := by
  cases text with
  | nil => exact hskipped
  | cons first others =>
      intro c hc
      obtain rfl := Option.mem_some_iff.mp hc
      cases hblank : Text.isBlank first with
      | true => exact isNameCharacter_of_isBlank hblank
      | false =>
          rw [Text.skipBlank_cons_of_not_blank hblank] at hskipped
          exact hskipped first rfl

theorem exists_cons_of_isDottedName {name : List Char} (hdotted : IsDottedName name) :
    ∃ c others, name = c :: others ∧ Text.isBlank c = false := by
  obtain ⟨hne, _, hname⟩ := isDottedName_iff.mp hdotted
  obtain ⟨c, others, rfl⟩ := List.exists_cons_of_ne_nil hne
  refine ⟨c, others, rfl, ?_⟩
  by_contra hblank
  rw [Bool.not_eq_false] at hblank
  have hnot := isNameCharacter_of_isBlank hblank
  rw [hname c List.mem_cons_self] at hnot
  cases hnot

theorem yields_parseName_of_spells {name : String} {later : List TypeToken}
    (hdotted : IsDottedName name.toList) (hspells : Spells (.name name :: later) text rest)
    (hlater : ∀ behind, Spells later behind rest →
      ∀ c ∈ (skipBlank behind).head?, isNameCharacter c = false) :
    ∃ behind, Yields (parseName size (skipBlank text)) name behind ∧ Spells later behind rest := by
  obtain ⟨c, others, hcons, hc⟩ := exists_cons_of_isDottedName hdotted
  obtain ⟨behind, htext, hbehind⟩ := hspells.exists_behind hcons hc
  refine ⟨behind, yields_parseName_iff.mpr ⟨htext, hdotted, ?_⟩, hbehind⟩
  exact head_not_nameCharacter (hlater behind hbehind)

/-- Wherever the type is written and ends, it is read together with the brackets behind it. -/
def IsReadWithBrackets (size : Nat) (type : TypeRef) : Prop :=
  ∀ ⦃text rest : List Char⦄, Spells type.tokens text rest → EndsBase rest →
    Yields (parseType size text) (parseBrackets type rest).1 (parseBrackets type rest).2

/-- Wherever the type or wildcard is written as a type argument, it is read. -/
def IsReadAsArgument (size : Nat) (type : TypeRef) : Prop :=
  ∀ ⦃text rest : List Char⦄, Spells type.tokens text rest → EndsArgument rest →
    ∃ behind, Yields (parseType size text) type behind ∧ skipBlank behind = skipBlank rest

theorem IsReadWithBrackets.asArgument (hread : IsReadWithBrackets size type) :
    IsReadAsArgument size type := by
  intro text rest hspells hends
  refine ⟨skipBlank rest, ?_, skipBlank_skipBlank rest⟩
  have hyields := hread hspells hends.endsBase
  rwa [hends.parseBrackets] at hyields

theorem primitive_isRead (base : Primitive) : IsReadWithBrackets size (.primitive base) := by
  intro text rest hspells hends
  rw [tokens] at hspells
  obtain ⟨behind, hname, hbehind⟩ := yields_parseName_of_spells (isDottedName_keyword base) hspells
    (fun behind hbehind c hc => (hends c (hbehind.skipBlank_eq ▸ hc)).1)
  refine yields_parseType_iff.mpr (.primitive hname (Primitive.ofKeyword?_keyword base) ?_)
  exact parseBrackets_congr hbehind.skipBlank_eq

theorem raw_isRead {name : String} (hname : IsTypeName name) :
    IsReadWithBrackets size (.declared name []) := by
  intro text rest hspells hends
  rw [tokens] at hspells
  obtain ⟨behind, hread, hbehind⟩ := yields_parseName_of_spells hname.1 hspells
    (fun behind hbehind c hc => (hends c (hbehind.skipBlank_eq ▸ hc)).1)
  refine yields_parseType_iff.mpr (.raw hread (ofKeyword?_eq_none_iff.mpr hname.2) ?_ ?_)
  · rw [hbehind.skipBlank_eq]
    exact fun hhead => (hends '<' hhead).2 rfl
  · exact parseBrackets_congr hbehind.skipBlank_eq

theorem arguments_are_read {first : TypeRef} {others : List TypeRef}
    (hreads : ∀ argument ∈ first :: others, IsReadAsArgument size argument)
    (hspells : Spells (first.tokens ++ furtherTokens others) text rest) :
    ∃ behind, Yields (parseArguments size text) (first :: others) behind ∧
      skipBlank behind = skipBlank rest := by
  induction others generalizing first text with
  | nil =>
      obtain ⟨middle, hfirst, hclosing⟩ := hspells.exists_middle
      rw [furtherTokens] at hclosing
      obtain ⟨inner, hmiddle, hinner⟩ := hclosing.exists_behind rfl (by decide)
      obtain ⟨behind, hyields, hbehind⟩ := hreads first List.mem_cons_self hfirst
        (endsArgument_of_skipBlank hmiddle (.inr rfl))
      exact ⟨inner, yields_parseArguments_iff.mpr (.last hyields (hbehind.trans hmiddle)),
        hinner.skipBlank_eq⟩
  | cons second others ih =>
      obtain ⟨middle, hfirst, hcomma⟩ := hspells.exists_middle
      rw [furtherTokens] at hcomma
      obtain ⟨inner, hmiddle, hinner⟩ := hcomma.exists_behind rfl (by decide)
      obtain ⟨behind, hyields, hbehind⟩ := hreads first List.mem_cons_self hfirst
        (endsArgument_of_skipBlank hmiddle (.inl rfl))
      obtain ⟨last, hothers, hlast⟩ := ih (fun argument hmem =>
        hreads argument (List.mem_cons_of_mem first hmem)) hinner
      exact ⟨last, yields_parseArguments_iff.mpr (.further hyields (hbehind.trans hmiddle) hothers),
        hlast⟩

theorem generic_isRead {name : String} {first : TypeRef} {others : List TypeRef}
    (hname : IsTypeName name)
    (hreads : ∀ argument ∈ first :: others, IsReadAsArgument size argument) :
    IsReadWithBrackets size (.declared name (first :: others)) := by
  intro text rest hspells hends
  rw [tokens] at hspells
  obtain ⟨behind, hread, hbehind⟩ := yields_parseName_of_spells hname.1 hspells (by
    intro behind hbehind c hc
    obtain ⟨_, hopening, _⟩ := hbehind.exists_behind rfl (by decide)
    rw [hopening] at hc
    cases hc
    decide)
  obtain ⟨inner, hopening, hinner⟩ := hbehind.exists_behind rfl (by decide)
  obtain ⟨last, harguments, hlast⟩ := arguments_are_read hreads hinner
  refine yields_parseType_iff.mpr
    (.generic hread (ofKeyword?_eq_none_iff.mpr hname.2) hopening harguments ?_)
  exact parseBrackets_congr hlast

theorem array_isRead {component : TypeRef} (hread : IsReadWithBrackets size component) :
    IsReadWithBrackets size (.array component) := by
  intro text rest hspells hends
  rw [tokens] at hspells
  obtain ⟨middle, hcomponent, hbrackets⟩ := hspells.exists_middle
  obtain ⟨behind, hmiddle, hbehind⟩ := hbrackets.exists_behind rfl (by decide)
  have hmiddleEnds : EndsBase middle := by
    intro c hc
    rw [hmiddle] at hc
    cases hc
    decide
  have hyields := hread hcomponent hmiddleEnds
  -- The component is read with the brackets of the array and all that stand behind them.
  rwa [parseBrackets_of_some (after?_eq_some_iff.mpr hmiddle),
    parseBrackets_congr hbehind.skipBlank_eq] at hyields

theorem anything_isRead : IsReadAsArgument size .anything := by
  intro text rest hspells hends
  rw [tokens] at hspells
  obtain ⟨behind, hquestion, hbehind⟩ := hspells.exists_behind rfl (by decide)
  have hskip := hbehind.skipBlank_eq
  -- What may follow an argument begins neither with `super` nor with `extends`.
  have hnone : ∀ c word, c ≠ ',' → c ≠ '>' → after? (c :: word) (skipBlank behind) = none := by
    intro c word hcomma hclosing
    rw [Option.eq_none_iff_forall_ne_some, hskip]
    intro later hafter
    have hhead : c ∈ (skipBlank rest).head? := by
      rw [after?_eq_some_iff.mp hafter]
      rfl
    exact (hends c hhead).elim hcomma hclosing
  exact ⟨behind, yields_parseType_iff.mpr (.anything hquestion
    (hnone 's' _ (by decide) (by decide)) (hnone 'e' _ (by decide) (by decide))), hskip⟩

theorem extending_isRead {bound : TypeRef} (hread : IsReadAsArgument size bound) :
    IsReadAsArgument size (.extending bound) := by
  intro text rest hspells hends
  rw [tokens] at hspells
  obtain ⟨behind, hquestion, hbehind⟩ := hspells.exists_behind rfl (by decide)
  obtain ⟨boundText, hword, hboundText⟩ := hbehind.exists_behind rfl (by decide)
  have hsuper : after? "super".toList (skipBlank behind) = none := by
    rw [hword]
    rfl
  obtain ⟨last, hbound, hlast⟩ := hread hboundText hends
  exact ⟨last, yields_parseType_iff.mpr (.extending hquestion hsuper
    (after?_eq_some_iff.mpr hword) hbound), hlast⟩

theorem WellFormed.isRead (hformed : WellFormed type) :
    IsReadAsArgument size type ∧
      (type.isWildcard = false → IsReadWithBrackets size type) := by
  induction hformed with
  | primitive base =>
      exact ⟨(primitive_isRead base).asArgument, fun _ => primitive_isRead base⟩
  | @declared name arguments hname _ ih =>
      have hread : IsReadWithBrackets size (.declared name arguments) := by
        cases arguments with
        | nil => exact raw_isRead hname
        | cons first others => exact generic_isRead hname fun argument hmem => (ih argument hmem).1
      exact ⟨hread.asArgument, fun _ => hread⟩
  | array hplain _ ih =>
      have hread := array_isRead (ih.2 hplain)
      exact ⟨hread.asArgument, fun _ => hread⟩
  | anything => exact ⟨anything_isRead, fun hplain => by cases hplain⟩
  | extending _ ih => exact ⟨extending_isRead ih.1, fun hplain => by cases hplain⟩

/-! ### Rendering -/

theorem allBlank_space : AllBlank [' '] :=
  List.forall_mem_singleton.mpr (by decide)

mutual

theorem spells_render (rest : List Char) :
    (type : TypeRef) → Spells type.tokens (type.render.toList ++ rest) rest
  | primitive base => by
      rw [tokens, render]
      exact .single (.name base.keyword) rest
  | declared name [] => by
      rw [tokens, render]
      exact .single (.name name) rest
  | declared name (first :: others) => by
      rw [tokens, render]
      simp only [String.toList_append, List.append_assoc]
      exact (Spells.single (.name name) _).append ((Spells.single .opening _).append
        ((spells_render _ first).append (spells_renderFurther rest others)))
  | array component => by
      rw [tokens, render, String.toList_append, List.append_assoc]
      exact (spells_render _ component).append (.single .brackets rest)
  | anything => by
      rw [tokens, render]
      exact .single .question rest
  | extending bound => by
      rw [tokens, render, String.toList_append, List.append_assoc]
      exact (Spells.single .question _).append
        ((Spells.token allBlank_space .extendsWord (.done allBlank_space _)).append
          (spells_render rest bound))

theorem spells_renderFurther (rest : List Char) :
    (types : List TypeRef) →
      Spells (furtherTokens types) ((renderFurther types).toList ++ (">".toList ++ rest)) rest
  | [] => by
      rw [furtherTokens, renderFurther]
      exact .single .closing rest
  | type :: types => by
      rw [furtherTokens, renderFurther]
      simp only [String.toList_append, List.append_assoc]
      exact (Spells.single .comma _).append
        (((spells_render _ type).blank_append allBlank_space).append
          (spells_renderFurther rest types))

end

/-! ### Whole texts -/

theorem parse_eq_ok_iff_yields {text : String} :
    parse text = .ok type ↔
      type.isWildcard = false ∧
        ∃ rest, Yields (parseType text.utf8ByteSize text.toList) type rest ∧
          skipBlank rest = [] := by
  unfold parse
  cases hparsed : parseType text.utf8ByteSize text.toList with
  | error error => simp [Yields, bind, Except.bind]
  | ok parsed =>
      simp only [Yields, bind, Except.bind, Except.ok.injEq, exists_eq_left']
      split
      · next hnil =>
          split
          · next hwildcard =>
              constructor
              · intro hthrow
                cases hthrow
              · rintro ⟨hplain, _, ⟨rfl, _⟩, _⟩
                rw [hwildcard] at hplain
                cases hplain
          · next hplain =>
              rw [Bool.not_eq_true] at hplain
              constructor
              · intro hpure
                cases hpure
                exact ⟨hplain, parsed.rest, ⟨rfl, rfl⟩, hnil⟩
              · rintro ⟨_, _, ⟨rfl, _⟩, _⟩
                rfl
      · next hcons =>
          constructor
          · intro hthrow
            cases hthrow
          · rintro ⟨_, _, ⟨_, rfl⟩, hnil⟩
            exact absurd hnil hcons

/-- The text is a written form of the type, and the type is one that may stand alone. -/
def IsWrittenAs (type : TypeRef) (text : String) : Prop :=
  type.isWildcard = false ∧ WellFormed type ∧ Spells type.tokens text.toList []

theorem parse_eq_ok_iff {text : String} : parse text = .ok type ↔ IsWrittenAs type text := by
  rw [parse_eq_ok_iff_yields]
  constructor
  · rintro ⟨hplain, rest, hyields, hrest⟩
    obtain ⟨hformed, hspells⟩ := isWritten_of_yields hyields
    have hend : Spells [] rest [] := by
      refine .of_skipBlank ?_
      rw [hrest]
      exact .done allBlank_nil []
    refine ⟨hplain, hformed, ?_⟩
    rw [← List.append_nil type.tokens]
    exact hspells.append hend
  · rintro ⟨hplain, hformed, hspells⟩
    have hends : EndsArgument [] := fun c hc => by cases hc
    obtain ⟨behind, hyields, hbehind⟩ := hformed.isRead.1 hspells hends
    exact ⟨hplain, behind, hyields, hbehind⟩

theorem IsWrittenAs.render {text : String} (hwritten : IsWrittenAs type text) :
    IsWrittenAs type type.render := by
  obtain ⟨hplain, hformed, _⟩ := hwritten
  have hspells := spells_render [] type
  rw [List.append_nil] at hspells
  exact ⟨hplain, hformed, hspells⟩

/-- **Reading inverts writing.** A text is read as a type exactly if it is a written form of the type,
every type that was read is read again from its own rendering, and every other text is refused. -/
theorem reading_inverts_writing :
    (∀ (text : String) (type : TypeRef), parse text = .ok type ↔ IsWrittenAs type text) ∧
    (∀ (text : String) (type : TypeRef), parse text = .ok type → parse type.render = .ok type) ∧
    ∀ text : String,
      (∃ error, parse text = .error error) ↔ ∀ type : TypeRef, ¬ IsWrittenAs type text := by
  refine ⟨fun _ _ => parse_eq_ok_iff, ?_, ?_⟩
  · intro text type hparse
    exact parse_eq_ok_iff.mpr (parse_eq_ok_iff.mp hparse).render
  · intro text
    constructor
    · rintro ⟨error, herror⟩ type hwritten
      have hok := parse_eq_ok_iff.mpr hwritten
      rw [herror] at hok
      cases hok
    · intro hnone
      cases hparse : parse text with
      | ok type => exact absurd (parse_eq_ok_iff.mp hparse) (hnone type)
      | error error => exact ⟨error, rfl⟩

end TypeRef

end BundleBinding
