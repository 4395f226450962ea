import BundleBinding.Proofs.GeneratedText

/-!
# Keys in string literals

In a key each backslash and each quote is escaped by a backslash of its own, so who reads the literal takes
them in pairs, whatever stands before and behind. Reading the escaped key gives the key and goes on with what
follows. Hence the quote of the emitter closes the literal, and no two keys have the same one.
-/

namespace BundleBinding.Java

/-! ### Reading -/

/-- What a string literal says, and the text behind its closing quote. -/
structure Literal where
  content : List Char
  rest : List Char
  deriving Repr, DecidableEq

namespace Literal

/-- The literal with more in front. -/
def prepend (front : List Char) (literal : Literal) : Literal :=
  ⟨front ++ literal.content, literal.rest⟩

theorem prepend_nil : prepend [] = id := rfl

theorem prepend_comp_prepend (front back : List Char) :
    prepend front ∘ prepend back = prepend (front ++ back) := by
  funext literal
  rw [Function.comp_apply, prepend, prepend, prepend, List.append_assoc]

end Literal

/-- Reads a string literal behind its opening quote. A backslash in front of a backslash or a quote makes it
stand for itself; an unescaped quote ends the literal. -/
def readLiteral : List Char → Option Literal
  | [] => none
  | '"' :: text => some ⟨[], text⟩
  | '\\' :: '\\' :: text => (readLiteral text).map (Literal.prepend ['\\'])
  | '\\' :: '"' :: text => (readLiteral text).map (Literal.prepend ['"'])
  | c :: text => (readLiteral text).map (Literal.prepend [c])

theorem readLiteral_cons_of_plain {c : Char} (hbackslash : c ≠ '\\') (hquote : c ≠ '"')
    (text : List Char) :
    readLiteral (c :: text) = (readLiteral text).map (Literal.prepend [c]) := by
  rw [readLiteral]
  · exact hquote
  · exact fun _ heq => absurd heq hbackslash
  · exact fun _ heq => absurd heq hbackslash

theorem readLiteral_escapeCharacter (c : Char) (text : List Char) :
    readLiteral (escapeCharacter c ++ text) = (readLiteral text).map (Literal.prepend [c]) := by
  by_cases hbackslash : c = '\\'
  · subst hbackslash
    rfl
  · by_cases hquote : c = '"'
    · subst hquote
      rfl
    · rw [escapeCharacter_of_plain hbackslash hquote, List.singleton_append,
        readLiteral_cons_of_plain hbackslash hquote]

/-- An escaped text is read as itself, and the reading goes on behind it. -/
theorem readLiteral_escape_append (text : String) (rest : List Char) :
    readLiteral ((escape text).toList ++ rest) =
      (readLiteral rest).map (Literal.prepend text.toList) := by
  rw [toList_escape]
  induction text.toList with
  | nil => rw [List.flatMap_nil, List.nil_append, Literal.prepend_nil, Option.map_id, id]
  | cons c others ih =>
      rw [List.flatMap_cons, List.append_assoc, readLiteral_escapeCharacter, ih, Option.map_map,
        Literal.prepend_comp_prepend, List.singleton_append]

theorem readLiteral_escape (text : String) (rest : List Char) :
    readLiteral ((escape text).toList ++ '"' :: rest) = some ⟨text.toList, rest⟩ := by
  rw [readLiteral_escape_append, readLiteral, Option.map_some, Literal.prepend, List.append_nil]

/-- Where two literals with what follows them are the same text, they are the same literal. -/
theorem eq_of_escape_quote_eq {text other : String} {rest behind : List Char}
    (heq : (escape text).toList ++ '"' :: rest = (escape other).toList ++ '"' :: behind) :
    text = other ∧ rest = behind := by
  have hread := congrArg readLiteral heq
  rw [readLiteral_escape, readLiteral_escape] at hread
  obtain ⟨htext, hrest⟩ := Literal.mk.inj (Option.some.inj hread)
  exact ⟨String.toList_inj.mp htext, hrest⟩

/-- The characters that do not stand for themselves in a literal. -/
def escapes : List Char :=
  ['\\', '"']

/-- A text without backslashes and quotes is read as it is. -/
theorem readLiteral_append_of_free {text : String} (htext : Free escapes text) (rest : List Char) :
    readLiteral (text.toList ++ rest) = (readLiteral rest).map (Literal.prepend text.toList) := by
  rw [Free] at htext
  generalize text.toList = characters at htext ⊢
  induction characters with
  | nil => rw [List.nil_append, Literal.prepend_nil, Option.map_id, id]
  | cons c characters ih =>
      obtain ⟨hc, hothers⟩ := List.forall_mem_cons.mp htext
      have hbackslash : c ≠ '\\' := List.ne_of_not_mem_cons hc
      have hquote : c ≠ '"' := List.ne_of_not_mem_cons (List.not_mem_of_not_mem_cons hc)
      rw [List.cons_append, readLiteral_cons_of_plain hbackslash hquote, ih hothers, Option.map_map,
        Literal.prepend_comp_prepend, List.singleton_append]

theorem append_cons_ne_cons {text rest after : List Char} {c next : Char} (hnext : next ≠ c)
    (hhead : ∀ others, text ≠ c :: others) : text ++ next :: rest ≠ c :: after := by
  cases text with
  | nil => exact fun heq => hnext (List.cons.inj heq).1
  | cons first others =>
      intro heq
      exact hhead others (by rw [(List.cons.inj heq).1])

/-- Behind a character that no backslash can escape, a quote closes the literal at the latest. -/
theorem exists_readLiteral (text rest : List Char) :
    ∃ literal, readLiteral (text ++ ')' :: '"' :: rest) = some literal := by
  fun_induction readLiteral text with
  | case1 => exact ⟨⟨[')'], rest⟩, rfl⟩
  | case2 text => exact ⟨_, rfl⟩
  | case3 text ih =>
      obtain ⟨literal, hliteral⟩ := ih
      refine ⟨literal.prepend ['\\'], ?_⟩
      rw [List.cons_append, List.cons_append, readLiteral, hliteral, Option.map_some]
  | case4 text ih =>
      obtain ⟨literal, hliteral⟩ := ih
      refine ⟨literal.prepend ['"'], ?_⟩
      rw [List.cons_append, List.cons_append, readLiteral, hliteral, Option.map_some]
  | case5 c text hquote hbackslashes hquoted ih =>
      obtain ⟨literal, hliteral⟩ := ih
      refine ⟨literal.prepend [c], ?_⟩
      rw [List.cons_append, readLiteral, hliteral, Option.map_some]
      · exact hquote
      · exact fun after hc => append_cons_ne_cons (by decide) fun others => hbackslashes others hc
      · exact fun after hc => append_cons_ne_cons (by decide) fun others => hquoted others hc

/-- What is read does not depend on what stands behind it. -/
theorem readLiteral_append {text : List Char} {literal : Literal}
    (hread : readLiteral text = some literal) (rest : List Char) :
    readLiteral (text ++ rest) = some ⟨literal.content, literal.rest ++ rest⟩ := by
  fun_induction readLiteral text generalizing literal with
  | case1 => cases hread
  | case2 text =>
      cases hread
      rfl
  | case3 text ih =>
      obtain ⟨inner, hinner, rfl⟩ := Option.map_eq_some_iff.mp hread
      rw [List.cons_append, List.cons_append, readLiteral, ih hinner]
      rfl
  | case4 text ih =>
      obtain ⟨inner, hinner, rfl⟩ := Option.map_eq_some_iff.mp hread
      rw [List.cons_append, List.cons_append, readLiteral, ih hinner]
      rfl
  | case5 c text hquote hbackslashes hquoted ih =>
      obtain ⟨inner, hinner, rfl⟩ := Option.map_eq_some_iff.mp hread
      -- A literal that could be read does not end with this character.
      obtain ⟨next, others, rfl⟩ : ∃ next others, text = next :: others := by
        cases text with
        | nil => cases hinner
        | cons next others => exact ⟨next, others, rfl⟩
      rw [List.cons_append, readLiteral, ih hinner]
      · rfl
      · exact hquote
      · intro after hc heq
        exact hbackslashes others hc (by rw [(List.cons.inj heq).1])
      · intro after hc heq
        exact hquoted others hc (by rw [(List.cons.inj heq).1])

/-! ### Emitted lines -/

/-- A line with a string literal between `opening` and `closing`, which says `content`. -/
def Quotes (line opening content closing : String) : Prop :=
  ∃ literal, line.toList = opening.toList ++ '"' :: literal ∧
    readLiteral literal = some ⟨content.toList, closing.toList⟩

variable {suffix : String} {spec : BindingSpec} {field : FieldBinding}

theorem quotes_testLine (field : FieldBinding) :
    Quotes (testLine field) "    if (bundle.containsKey(" field.key ")) \x7b" := by
  refine ⟨_, ?_, readLiteral_escape _ _⟩
  unfold testLine
  generalize escape field.key = key
  simp

theorem quotes_readLine (field : FieldBinding) :
    Quotes (readLine field)
      ("      target." ++ field.name ++ " = " ++ cast field ++ "bundle." ++ field.kind.getter ++ "(")
      field.key ");" := by
  refine ⟨_, ?_, readLiteral_escape _ _⟩
  unfold readLine
  generalize escape field.key = key
  simp

theorem quotes_writeLine (field : FieldBinding) :
    Quotes (writeLine field) ("    bundle." ++ field.kind.setter ++ "(") field.key
      (", target." ++ field.name ++ ");") := by
  refine ⟨_, ?_, readLiteral_escape _ _⟩
  unfold writeLine
  generalize escape field.key = key
  simp

theorem toList_failureLine (field : FieldBinding) :
    (failureLine field).toList = "      throw new IllegalStateException(".toList ++ '"' ::
      ("Missing required value for key '".toList ++ ((escape field.key).toList ++
        ("' (".toList ++ (field.name.toList ++ ')' :: '"' :: ");".toList)))) := by
  unfold failureLine
  generalize escape field.key = key
  simp

theorem readLiteral_failure (key : String) (text : List Char) :
    readLiteral ("Missing required value for key '".toList ++ ((escape key).toList ++
        ("' (".toList ++ text))) =
      (readLiteral text).map
        (Literal.prepend ("Missing required value for key '" ++ key ++ "' (").toList) := by
  have hopening : Free escapes "Missing required value for key '" := by decide
  have hname : Free escapes "' (" := by decide
  rw [readLiteral_append_of_free hopening, readLiteral_escape_append,
    readLiteral_append_of_free hname, Option.map_map, Option.map_map,
    Literal.prepend_comp_prepend, Literal.prepend_comp_prepend, String.toList_append,
    String.toList_append, List.append_assoc]

/-- The text of the exception carries the key whatever the name of the field is. -/
theorem exists_quotes_failureLine (field : FieldBinding) :
    ∃ said closing, Quotes (failureLine field) "      throw new IllegalStateException("
      ("Missing required value for key '" ++ field.key ++ "' (" ++ said) closing := by
  obtain ⟨literal, hliteral⟩ := exists_readLiteral field.name.toList ");".toList
  refine ⟨String.ofList literal.content, String.ofList literal.rest, _, toList_failureLine field, ?_⟩
  rw [readLiteral_failure, hliteral, Option.map_some]
  simp only [Literal.prepend, String.toList_append, String.toList_ofList]

/-- The text of the exception for a field whose value is missing. -/
def failureText (field : FieldBinding) : String :=
  "Missing required value for key '" ++ field.key ++ "' (" ++ (field.name ++ ")")

theorem toList_append_paren (front name : String) :
    (front ++ (name ++ ")")).toList = front.toList ++ (name.toList ++ [')']) := by
  simp

theorem quotes_failureLine (hname : Free escapes field.name) :
    Quotes (failureLine field) "      throw new IllegalStateException(" (failureText field) ");" := by
  have hclosed : readLiteral (')' :: '"' :: ");".toList) = some ⟨[')'], ");".toList⟩ := rfl
  have htext : (failureText field).toList =
      ("Missing required value for key '" ++ field.key ++ "' (").toList ++ (field.name.toList ++ [')']) :=
    toList_append_paren _ _
  refine ⟨_, toList_failureLine field, ?_⟩
  rw [readLiteral_failure, readLiteral_append_of_free hname, hclosed, htext]
  rfl

/-! ### All literals of a text -/

theorem length_rest_lt {text : List Char} {literal : Literal} (hread : readLiteral text = some literal) :
    literal.rest.length < text.length := by
  fun_induction readLiteral text generalizing literal with
  | case1 => cases hread
  | case2 text =>
      cases hread
      exact Nat.lt_succ_self _
  | case3 text ih | case4 text ih =>
      obtain ⟨inner, hinner, rfl⟩ := Option.map_eq_some_iff.mp hread
      have hshorter := ih hinner
      exact Nat.lt_succ_of_lt (Nat.lt_succ_of_lt hshorter)
  | case5 c text _ _ _ ih =>
      obtain ⟨inner, hinner, rfl⟩ := Option.map_eq_some_iff.mp hread
      have hshorter := ih hinner
      exact Nat.lt_succ_of_lt hshorter

/-- What the string literals of a text say, in their order. Comments last to the end of their line and are
passed over. -/
def literals (text : List Char) : List (List Char) :=
  match text with
  | [] => []
  | '/' :: '/' :: text => literals (text.dropWhile (· ∉ lineEnds))
  | '"' :: text =>
      match _hread : readLiteral text with
      | some literal => literal.content :: literals literal.rest
      | none => []
  | _ :: text => literals text
termination_by text.length
decreasing_by
  · exact Nat.lt_succ_of_le (Nat.le_succ_of_le (List.dropWhile_suffix _).length_le)
  · exact Nat.lt_succ_of_lt (length_rest_lt _hread)
  · exact Nat.lt_succ_self _

/-- The characters that comments and literals begin or end with, or that escape another. -/
def marks : List Char :=
  ['/', '\\', '"', '\n', '\r']

variable {code text rest : List Char} {line opening content closing : String} {contents : List String}

theorem literals_cons_of_ne {c : Char} (hslash : c ≠ '/') (hquote : c ≠ '"') (text : List Char) :
    literals (c :: text) = literals text := by
  rw [literals]
  · exact fun _ heq => absurd heq hslash
  · exact hquote

theorem literals_append_of_free (hcode : ∀ c ∈ code, c ∉ marks) :
    literals (code ++ rest) = literals rest := by
  induction code with
  | nil => rfl
  | cons c code ih =>
      obtain ⟨hc, hothers⟩ := List.forall_mem_cons.mp hcode
      have hslash : c ≠ '/' := by
        rintro rfl
        exact hc (by decide)
      have hquote : c ≠ '"' := by
        rintro rfl
        exact hc (by decide)
      rw [List.cons_append, literals_cons_of_ne hslash hquote, ih hothers]

theorem literals_quote {literal : Literal} (hread : readLiteral text = some literal) :
    literals ('"' :: text) = literal.content :: literals literal.rest := by
  rw [literals]
  split
  · next other hother =>
      cases hread.symm.trans hother
      rfl
  · next hnone =>
      rw [hread] at hnone
      cases hnone

theorem literals_comment (htext : ∀ c ∈ text, c ∉ lineEnds) :
    literals ('/' :: '/' :: (text ++ '\n' :: rest)) = literals rest := by
  have hdrop : (text ++ '\n' :: rest).dropWhile (· ∉ lineEnds) = '\n' :: rest := by
    rw [List.dropWhile_append_of_pos fun c hmem => decide_eq_true (htext c hmem)]
    rfl
  rw [literals, hdrop, literals_cons_of_ne (by decide) (by decide)]

/-! ### The literals of lines -/

/-- The text of the lines has these literals, whatever stands behind. -/
def Says (lines : List String) (contents : List String) : Prop :=
  ∀ rest, literals (lines.flatMap (fun line => line.toList ++ ['\n']) ++ rest) =
    contents.map String.toList ++ literals rest

theorem says_nil : Says [] [] :=
  fun _ => rfl

theorem Says.append {first second : List String} {contents others : List String}
    (hfirst : Says first contents) (hsecond : Says second others) :
    Says (first ++ second) (contents ++ others) := by
  intro rest
  rw [List.flatMap_append, List.append_assoc, hfirst, hsecond, List.map_append, List.append_assoc]

theorem says_flatMap {α : Type} {items : List α} {write contents : α → List String}
    (hitems : ∀ item ∈ items, Says (write item) (contents item)) :
    Says (items.flatMap write) (items.flatMap contents) := by
  induction items with
  | nil => exact says_nil
  | cons item items ih =>
      obtain ⟨hitem, hitems⟩ := List.forall_mem_cons.mp hitems
      exact hitem.append (ih hitems)

theorem says_singleton_iff :
    Says [line] contents ↔
      ∀ rest, literals (line.toList ++ '\n' :: rest) = contents.map String.toList ++ literals rest := by
  simp only [Says, List.flatMap_singleton, List.append_assoc, List.singleton_append]

theorem says_of_free (hline : Free marks line) : Says [line] [] := by
  refine says_singleton_iff.mpr fun rest => ?_
  rw [literals_append_of_free hline, literals_cons_of_ne (by decide) (by decide)]
  rfl

theorem says_of_quotes (hquotes : Quotes line opening content closing) (hopening : Free marks opening)
    (hclosing : Free marks closing) : Says [line] [content] := by
  refine says_singleton_iff.mpr fun rest => ?_
  obtain ⟨literal, hline, hread⟩ := hquotes
  rw [hline, List.append_assoc, literals_append_of_free hopening, List.cons_append,
    literals_quote (readLiteral_append hread _), literals_append_of_free hclosing,
    literals_cons_of_ne (by decide) (by decide)]
  rfl

theorem says_of_comment {comment : String}
    (hline : line.toList = opening.toList ++ '/' :: '/' :: comment.toList) (hopening : Free marks opening)
    (hcomment : Free lineEnds comment) : Says [line] [] := by
  refine says_singleton_iff.mpr fun rest => ?_
  rw [hline, List.append_assoc, literals_append_of_free hopening]
  exact literals_comment hcomment

theorem says_commentLine (hname : Free marks field.name)
    (hdescription : '\r' ∉ field.description.toList) : Says [commentLine field] [] := by
  have hline : (commentLine field).toList = "    ".toList ++
      '/' :: '/' :: (" " ++ field.name ++ ": " ++ commentText field.description).toList := by
    unfold commentLine
    generalize commentText field.description = text
    simp
  refine says_of_comment hline (by decide) ?_
  simp only [free_append_iff]
  exact ⟨⟨⟨by decide, hname.mono (by decide)⟩, by decide⟩, free_commentText hdescription⟩

/-! ### The literals of a class -/

theorem free_name (kind : Kind) : Free marks kind.name := by
  cases kind <;> decide

theorem free_cast (htype : Free marks field.type.render) : Free marks (cast field) := by
  unfold Java.cast
  split
  · simp only [free_append_iff]
    exact ⟨⟨by decide, htype⟩, by decide⟩
  · decide

theorem says_testLine (field : FieldBinding) : Says [testLine field] [field.key] :=
  says_of_quotes (quotes_testLine field) (by decide) (by decide)

theorem says_readLine (hname : Free marks field.name) (htype : Free marks field.type.render) :
    Says [readLine field] [field.key] := by
  refine says_of_quotes (quotes_readLine field) ?_ (by decide)
  simp only [Kind.getter, free_append_iff]
  exact ⟨⟨⟨⟨⟨⟨by decide, hname⟩, by decide⟩, free_cast htype⟩,
    by decide⟩, by decide, free_name _⟩, by decide⟩

theorem says_failureLine (hname : Free marks field.name) :
    Says [failureLine field] [failureText field] :=
  says_of_quotes (quotes_failureLine (hname.mono (by decide))) (by decide) (by decide)

theorem says_writeLine (hname : Free marks field.name) : Says [writeLine field] [field.key] := by
  refine says_of_quotes (quotes_writeLine field) ?_ ?_
  · simp only [Kind.setter, free_append_iff]
    exact ⟨⟨by decide, by decide, free_name _⟩, by decide⟩
  · simp only [free_append_iff]
    exact ⟨⟨by decide, hname⟩, by decide⟩

/-- The literals of a field's part of the reading method. -/
def readContents (field : FieldBinding) : List String :=
  [field.key, field.key] ++ if field.required then [failureText field] else []

theorem says_readLines (hname : Free marks field.name) (htype : Free marks field.type.render)
    (hdescription : '\r' ∉ field.description.toList) :
    Says (readLines field) (readContents field) := by
  have hcomment : Says (if field.description.isEmpty then [] else [commentLine field]) [] := by
    split
    · exact says_nil
    · exact says_commentLine hname hdescription
  have hfailure : Says (if field.required then ["    \x7d else \x7b", failureLine field] else [])
      (if field.required then [failureText field] else []) := by
    split
    · have helse : Says ["    \x7d else \x7b"] [] := says_of_free (by decide)
      exact helse.append (says_failureLine hname)
    · exact says_nil
  have hread : Says [testLine field, readLine field] [field.key, field.key] :=
    (says_testLine field).append (says_readLine hname htype)
  have hclosed : Says ["    \x7d"] [] := says_of_free (by decide)
  have hall := ((hcomment.append hread).append hfailure).append hclosed
  rwa [List.nil_append, List.append_nil] at hall

theorem says_methodLines {name : String} {body contents : List String}
    (hnames : NamesFree marks suffix spec) (hname : Free marks name) (hbody : Says body contents) :
    Says (methodLines name suffix spec body) contents := by
  have hsignature : Says ["  public static void " ++ name ++ "(" ++ spec.classPath ++ " target, " ++
      container ++ " bundle) \x7b"] [] := by
    refine says_of_free ?_
    simp only [free_append_iff]
    exact ⟨⟨⟨⟨⟨⟨by decide, hname⟩, by decide⟩, hnames.host_free.classPath⟩,
      by decide⟩, by decide⟩, by decide⟩
  have hparent : Says (spec.parent.toList.map fun parent =>
      "    " ++ binderName suffix parent.host ++ "." ++ name ++ "(target, bundle);") [] := by
    cases hspec : spec.parent with
    | none => exact says_nil
    | some parent =>
        refine says_of_free ?_
        have hbinder :=
          (hnames.parent_free parent hspec).binderName hnames.suffix_free (by decide) (by decide)
        simp only [free_append_iff]
        exact ⟨⟨⟨⟨by decide, hbinder⟩, by decide⟩, hname⟩,
          by decide⟩
  have hclosed : Says ["  \x7d"] [] := says_of_free (by decide)
  have hall := ((hsignature.append hparent).append hbody).append hclosed
  rwa [List.nil_append, List.nil_append, List.append_nil] at hall

theorem says_lines (hnames : NamesFree marks suffix spec)
    (hdescriptions : ∀ field ∈ spec.fields, '\r' ∉ field.description.toList) :
    Says (lines suffix spec)
      (spec.fields.flatMap readContents ++ spec.fields.map FieldBinding.key) := by
  have hheader : Says ["// Generated by bundlewire. Do not modify."] [] :=
    @says_of_comment _ "" " Generated by bundlewire. Do not modify." rfl (by decide) (by decide)
  have hempty : Says [""] [] := says_of_free (by decide)
  have hpackage : Says (if spec.package.isEmpty then [] else ["package " ++ spec.package ++ ";", ""]) [] := by
    split
    · exact says_nil
    · have hline : Says ["package " ++ spec.package ++ ";"] [] := by
        refine says_of_free ?_
        simp only [free_append_iff]
        exact ⟨⟨by decide, hnames.host_free.package⟩, by decide⟩
      exact hline.append hempty
  have hclass : Says ["import " ++ TypeRef.bundle ++ ";", "",
      "public class " ++ binderSimpleName suffix spec.host ++ " \x7b"] [] := by
    have himport : Says ["import " ++ TypeRef.bundle ++ ";"] [] := says_of_free (by decide)
    have hline : Says ["public class " ++ binderSimpleName suffix spec.host ++ " \x7b"] [] := by
      refine says_of_free ?_
      have hbinder := hnames.host_free.binderSimpleName hnames.suffix_free (by decide)
      simp only [free_append_iff]
      exact ⟨⟨by decide, hbinder⟩, by decide⟩
    exact himport.append (hempty.append hline)
  have hreads : Says (spec.fields.flatMap readLines) (spec.fields.flatMap readContents) :=
    says_flatMap fun field hfield => says_readLines (hnames.name_free field hfield)
      (hnames.type_free field hfield) (hdescriptions field hfield)
  have hwrites : Says (spec.fields.map writeLine) (spec.fields.map FieldBinding.key) := by
    rw [List.map_eq_flatMap, List.map_eq_flatMap]
    exact says_flatMap fun field hfield => says_writeLine (hnames.name_free field hfield)
  have hbind := says_methodLines hnames (show Free marks "bind" by decide) hreads
  have hpack := says_methodLines hnames (show Free marks "pack" by decide) hwrites
  have hclosed : Says ["\x7d"] [] := says_of_free (by decide)
  have hall :=
    (((((hheader.append hpackage).append hclass).append hbind).append hempty).append hpack).append hclosed
  simp only [List.nil_append, List.append_nil] at hall
  exact hall

/-! ### The keys of a class -/

/-- Four lines of a class are about a field's key, and in each of them the key is what a literal says. The
text of the exception goes on with the name of the field, which is not escaped. -/
structure CarriesKey (reading writing : List String) (field : FieldBinding) : Prop where
  test : ∃ line ∈ reading, Quotes line "    if (bundle.containsKey(" field.key ")) \x7b"
  read : ∃ line ∈ reading, Quotes line
    ("      target." ++ field.name ++ " = " ++ cast field ++ "bundle." ++ field.kind.getter ++ "(")
    field.key ");"
  failure : field.required → ∃ line ∈ reading, ∃ said closing,
    Quotes line "      throw new IllegalStateException("
      ("Missing required value for key '" ++ field.key ++ "' (" ++ said) closing
  write : ∃ line ∈ writing, Quotes line ("    bundle." ++ field.kind.setter ++ "(") field.key
    (", target." ++ field.name ++ ");")

/-- The method that fills a target. -/
def bindLines (suffix : String) (spec : BindingSpec) : List String :=
  methodLines "bind" suffix spec (spec.fields.flatMap readLines)

/-- The method that fills a container. -/
def packLines (suffix : String) (spec : BindingSpec) : List String :=
  methodLines "pack" suffix spec (spec.fields.map writeLine)

theorem bindLines_infix_lines (suffix : String) (spec : BindingSpec) :
    bindLines suffix spec <:+: lines suffix spec := by
  have hbehind : ∀ front back pack closed : List String, front <+: front ++ back ++ pack ++ closed :=
    fun front back pack closed =>
      ((List.prefix_append front back).trans (List.prefix_append _ pack)).trans
        (List.prefix_append _ closed)
  exact (List.suffix_append _ _).isInfix.trans (hbehind _ _ _ _).isInfix

theorem packLines_infix_lines (suffix : String) (spec : BindingSpec) :
    packLines suffix spec <:+: lines suffix spec :=
  ⟨_, ["\x7d"], rfl⟩

theorem mem_methodLines {name line : String} {body : List String} (hline : line ∈ body) :
    line ∈ methodLines name suffix spec body :=
  List.mem_append_left _ (List.mem_append_right _ hline)

theorem mem_bindLines {line : String} (hfield : field ∈ spec.fields) (hline : line ∈ readLines field) :
    line ∈ bindLines suffix spec :=
  mem_methodLines (List.mem_flatMap_of_mem hfield hline)

theorem carriesKey (hfield : field ∈ spec.fields) :
    CarriesKey (bindLines suffix spec) (packLines suffix spec) field where
  test := ⟨testLine field, mem_bindLines hfield (by simp [readLines]), quotes_testLine field⟩
  read := ⟨readLine field, mem_bindLines hfield (by simp [readLines]), quotes_readLine field⟩
  failure := fun hrequired =>
    ⟨failureLine field, mem_bindLines hfield (by simp [readLines, hrequired]),
      exists_quotes_failureLine field⟩
  write := ⟨writeLine field, mem_methodLines (List.mem_map_of_mem hfield), quotes_writeLine field⟩

/-- **A key's literal closes where the emitter closes it, and says the key.** So all that a class does
with a field it does under the field's own key, and two keys have no literal in common. Where neither
names nor types have a mark in them and no description has a return, the class has no other literals. -/
theorem key_literals_close :
    (∀ (key : String) (rest : List Char),
      readLiteral ((escape key).toList ++ '"' :: rest) = some ⟨key.toList, rest⟩) ∧
    (∀ (key other : String) (rest behind : List Char),
      (escape key).toList ++ '"' :: rest = (escape other).toList ++ '"' :: behind →
        key = other ∧ rest = behind) ∧
    (∀ (suffix : String) (spec : BindingSpec),
      bindLines suffix spec <:+: lines suffix spec ∧ packLines suffix spec <:+: lines suffix spec ∧
        ∀ field ∈ spec.fields, CarriesKey (bindLines suffix spec) (packLines suffix spec) field) ∧
    ∀ (suffix : String) (spec : BindingSpec), NamesFree marks suffix spec →
      (∀ field ∈ spec.fields, '\r' ∉ field.description.toList) →
        literals (generate suffix spec).source.toList =
          (spec.fields.flatMap readContents ++ spec.fields.map FieldBinding.key).map String.toList := by
  refine ⟨readLiteral_escape, fun _ _ _ _ => eq_of_escape_quote_eq, fun suffix spec => ?_, ?_⟩
  · exact ⟨bindLines_infix_lines suffix spec, packLines_infix_lines suffix spec,
      fun _ hfield => carriesKey hfield⟩
  · intro suffix spec hnames hdescriptions
    have hlines := says_lines hnames hdescriptions []
    rwa [List.append_nil, literals, List.append_nil, ← toList_source] at hlines

/-- A class with one required field, whose key has a quote and ends with a backslash. -/
def quotedKeySpec : BindingSpec :=
  ⟨"app.Login", [⟨"user", .string, "a\"b\\", .declared "java.lang.String" [], true, "who"⟩], none⟩

theorem quotedKey_literals :
    literals (generate defaultSuffix quotedKeySpec).source.toList =
      ["a\"b\\".toList, "a\"b\\".toList, "Missing required value for key 'a\"b\\' (user)".toList,
        "a\"b\\".toList] := by
  have hnames : NamesFree marks defaultSuffix quotedKeySpec :=
    { suffix_free := by decide
      host_free := by decide
      parent_free := by
        intro parent hparent
        cases hparent
      name_free := by decide
      type_free := by decide }
  exact key_literals_close.2.2.2 defaultSuffix quotedKeySpec hnames (by decide)

end BundleBinding.Java
