import BundleBinding.Text.Characters
import BundleBinding.Yaml.Cursor

/-!
Scalars as they are written: plain words, quoted texts, and blocks of lines. Each reader starts
behind the indicator that announces the scalar and answers with its text and what lies behind it.
-/

namespace BundleBinding.Yaml

open Text (hexDigit? spelledCode?)

/-- The text of a scalar, and the cursor behind it. -/
structure Written where
  text : List Char
  cursor : Cursor
  deriving Repr

namespace Written

def precededBy (written : Written) (text : List Char) : Written :=
  { written with text := text ++ written.text }

end Written

/-! ### Plain scalars -/

def isFlowIndicator (c : Char) : Bool :=
  c == ',' || c == '[' || c == ']' || c == '{' || c == '}'

/-- The length of the plain word ahead. A colon with a gap behind it ends the word, and within
brackets so do the characters that structure collections. A colon right before one of those is
refused. -/
def plainWidth (inFlow : Bool) : List Char → Option Nat
  | [] => some 0
  | c :: rest =>
      if isBlank c || isBreak c then
        some 0
      else if inFlow && c == ':' && rest.head?.any fun d => isFlowIndicator d || d == '?' then
        none
      else if c == ':' && isGapNext rest then
        some 0
      else if inFlow && isFlowIndicator c then
        some 0
      else
        (plainWidth inFlow rest).map (· + 1)

/-- A plain scalar, and whether a line ended behind its last word. -/
structure PlainScalar where
  written : Written
  crossedLine : Bool
  deriving Repr

/-- Reads plain words with the gaps between them. In block context a word that is indented less than
`indent` is no part of the scalar. -/
def readPlain (inFlow : Bool) (indent : Nat) (cursor : Cursor) : Option PlainScalar := do
  if cursor.isAtDocumentMark || cursor.rest.head? == some '#' then
    return ⟨⟨[], cursor⟩, false⟩
  let width ← plainWidth inFlow cursor.rest
  let word := cursor.rest.take width
  match _h : (cursor.forward width).readGap indent (.blanks []) with
  | none => none
  | some (gap, next) =>
      if _hgap : !gap.isEmpty ∧ (inFlow ∨ indent ≤ next.column) then
        let following ← readPlain inFlow indent next
        if following.written.text.isEmpty then
          return ⟨⟨word, following.written.cursor⟩, gap.crossesLines⟩
        else
          return ⟨following.written.precededBy (word ++ gap.text), following.crossedLine⟩
      else
        return ⟨⟨word, next⟩, gap.crossesLines⟩
termination_by cursor.rest.length
decreasing_by
  exact Nat.lt_of_lt_of_le (Cursor.length_readGap_lt_of_isEmpty _hgap.1 _h)
    (Cursor.length_forward_le cursor width)

/-! ### Quoted scalars -/

/-- The character that an escape stands for, and the length of the escape behind the backslash. -/
def escape? : List Char → Option (Char × Nat)
  | [] => none
  | c :: rest =>
      match c with
      | '0' => some ('\x00', 1)
      | 'a' => some ('\x07', 1)
      | 'b' => some ('\x08', 1)
      | 't' => some ('\t', 1)
      | '\t' => some ('\t', 1)
      | 'n' => some ('\n', 1)
      | 'v' => some ('\x0b', 1)
      | 'f' => some ('\x0c', 1)
      | 'r' => some ('\r', 1)
      | 'e' => some ('\x1b', 1)
      | ' ' => some (' ', 1)
      | '"' => some ('"', 1)
      | '/' => some ('/', 1)
      | '\\' => some ('\\', 1)
      | 'N' => some ('\u0085', 1)
      | '_' => some ('\u00a0', 1)
      | 'L' => some ('\u2028', 1)
      | 'P' => some ('\u2029', 1)
      | 'x' => (spelledCode? 2 rest).map (·, 3)
      | 'u' => (spelledCode? 4 rest).map (·, 5)
      | 'U' => (spelledCode? 8 rest).map (·, 9)
      | _ => none

/-- Reads a quoted scalar from behind its opening quote. A single quote within single quotes is
written twice; double quotes know escapes. -/
def readQuoted (quote : Char) (cursor : Cursor) : Option Written := do
  match _h : cursor.rest with
  | [] => none
  | c :: rest =>
      if c == quote then
        if c == '\'' && rest.head? == some '\'' then
          let following ← readQuoted quote (cursor.forward 2)
          return following.precededBy [c]
        else
          return ⟨[], cursor.forward 1⟩
      else if quote == '"' && c == '\\' then
        match _hrest : rest with
        | d :: _ =>
            if isBreak d then
              match _hgap : (cursor.forward 1).nextLine.readGap 0 (.lines true []) with
              | none => none
              | some (gap, next) =>
                  if next.isAtDocumentMark then none
                  let following ← readQuoted quote next
                  return following.precededBy gap.text
            else
              let (escaped, width) ← escape? rest
              let following ← readQuoted quote (cursor.forward (width + 1))
              return following.precededBy [escaped]
        | [] => none
      else if _hblank : isBlank c || isBreak c then
        match _hgap : cursor.readGap 0 (.blanks []) with
        | none => none
        | some (gap, next) =>
            if next.isAtDocumentMark then none
            let following ← readQuoted quote next
            return following.precededBy gap.text
      else
        let following ← readQuoted quote (cursor.forward 1)
        return following.precededBy [c]
termination_by cursor.rest.length
decreasing_by
  · exact Cursor.length_forward_lt _h 1
  · exact Nat.lt_of_le_of_lt (Cursor.length_readGap_le _hgap)
      (Nat.lt_of_le_of_lt (Cursor.length_nextLine_le _) (Cursor.length_forward_lt _h 0))
  · exact Cursor.length_forward_lt _h _
  · exact Cursor.length_readGap_lt _h _hblank _hgap
  · exact Cursor.length_forward_lt _h 0

/-! ### Block scalars -/

/-- What becomes of the line ends behind the last line. -/
inductive Chomping where
  | strip
  | clip
  | keep
  deriving Repr, DecidableEq

/-- The signs behind a block scalar's indicator: chomping, and how far its lines are indented if
that is written down. -/
structure BlockHeader where
  chomping : Chomping
  increment : Option Nat
  deriving Repr

def chomping? (c : Char) : Option Chomping :=
  if c == '+' then some .keep else if c == '-' then some .strip else none

/-- The header at the front of a text, and its length. An increment of zero is refused. -/
def readHeader (text : List Char) : Option (BlockHeader × Nat) :=
  let increment? (c : Char) : Option Nat := if c.isDigit then hexDigit? c else none
  let checked (header : BlockHeader) (width : Nat) : Option (BlockHeader × Nat) :=
    if header.increment == some 0 then none else some (header, width)
  match text with
  | [] => some (⟨.clip, none⟩, 0)
  | c :: rest =>
      match chomping? c, increment? c with
      | some chomping, _ =>
          match rest.head?.bind increment? with
          | some increment => checked ⟨chomping, some increment⟩ 2
          | none => some (⟨chomping, none⟩, 1)
      | none, some increment =>
          match rest.head?.bind chomping? with
          | some chomping => checked ⟨chomping, some increment⟩ 2
          | none => checked ⟨.clip, some increment⟩ 1
      | none, none => some (⟨.clip, none⟩, 0)

/-- Blank lines in front of a line of a block. -/
structure BlankLines where
  breaks : List Char
  /-- The furthest column that was reached. -/
  deepest : Nat
  cursor : Cursor
  deriving Repr

/-- Passes blank lines and the indentation of the line behind them, which is as deep as it goes if
none is given. A tab is no indentation. -/
def readBlankLines (indent : Option Nat) (cursor : Cursor) : Option BlankLines := do
  let passed := cursor.skipSpaces indent
  match _h : passed.rest with
  | [] => return ⟨[], passed.column, passed⟩
  | c :: _ =>
      if c == '\t' && indent.all fun indent => passed.column < indent then
        none
      else if isBreak c then
        let following ← readBlankLines indent passed.nextLine
        return { following with
          breaks := breakText c :: following.breaks
          deepest := max passed.column following.deepest }
      else
        return ⟨[], passed.column, passed⟩
termination_by cursor.rest.length
decreasing_by
  exact Nat.lt_of_lt_of_le (Cursor.length_nextLine_lt _h) (Cursor.length_skipSpaces_le _ _)

theorem length_readBlankLines_le {indent : Option Nat} {cursor : Cursor} {blank : BlankLines}
    (h : readBlankLines indent cursor = some blank) :
    blank.cursor.rest.length ≤ cursor.rest.length := by
  revert blank
  fun_induction readBlankLines indent cursor with
  | case1 =>
      intro blank h
      cases h
      exact Cursor.length_skipSpaces_le _ _
  | case2 =>
      intro blank h
      cases h
  | case3 =>
      next ih =>
        intro blank h
        simp only [Option.pure_def, Option.bind_eq_bind, Option.bind_eq_some_iff,
          Option.some.injEq] at h
        obtain ⟨following, hfollowing, rfl⟩ := h
        have hfurther := ih hfollowing
        exact Nat.le_trans hfurther
          (Nat.le_trans (Cursor.length_nextLine_le _) (Cursor.length_skipSpaces_le _ _))
  | case4 =>
      intro blank h
      cases h
      exact Cursor.length_skipSpaces_le _ _

/-- The lines of a block that are indented by `indent`. `ended` is the line end before the current
line, `skipped` are the blank lines behind it. In a folded block a single line end between two lines
that begin with no blank becomes a space. -/
def readBlockLines (literal : Bool) (chomping : Chomping) (indent : Nat)
    (ended skipped : List Char) (afterBlank : Bool) (cursor : Cursor) : Option Written := do
  match _h : cursor.rest with
  | c :: _ =>
      if cursor.column = indent then
        let folds := !literal && ended == ['\n'] && !afterBlank && !isBlank c
        let joint :=
          if folds then (if skipped.isEmpty then [' '] else skipped) else ended ++ skipped
        let line := cursor.rest.takeWhile fun c => !isBreak c
        let behind := cursor.forward line.length
        match _hbehind : behind.rest with
        | [] => return ⟨joint ++ line, behind⟩
        | d :: _ =>
            match _hblank : readBlankLines (some indent) behind.nextLine with
            | none => none
            | some blank =>
                let following ← readBlockLines literal chomping indent [breakText d] blank.breaks
                  (isBlank c) blank.cursor
                return following.precededBy (joint ++ line)
      else
        return ⟨trailing, cursor⟩
  | [] => return ⟨trailing, cursor⟩
termination_by cursor.rest.length
decreasing_by
  exact Nat.lt_of_le_of_lt (length_readBlankLines_le _hblank)
    (Nat.lt_of_lt_of_le (Cursor.length_nextLine_lt _hbehind) (Cursor.length_forward_le _ _))
where
  trailing : List Char :=
    match chomping with
    | .strip => []
    | .clip => ended
    | .keep => ended ++ skipped

/-- Reads a block scalar from behind its indicator. `parent` is the indentation of what encloses
it; lines without a stated indentation are indented as the first of them is, but further than what
encloses them. -/
def readBlock (literal : Bool) (parent : Option Nat) (cursor : Cursor) : Option Written := do
  let (header, width) ← readHeader cursor.rest
  let start ← (cursor.forward width).skipLineRest?
  let indent := header.increment.map (parent.getD 0 + ·)
  let blank ← readBlankLines indent start
  let least := max 1 (match parent with
    | some parent => parent + 1
    | none => 0)
  readBlockLines literal header.chomping (indent.getD (max blank.deepest least)) [] blank.breaks
    false blank.cursor

end BundleBinding.Yaml
