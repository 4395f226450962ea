/-!
Places in a YAML text. A cursor holds the text ahead and knows its line and column, because
indentation and line ends carry meaning.
-/

namespace BundleBinding.Yaml

def isBlank (c : Char) : Bool :=
  c == ' ' || c == '\t'

def isBreak (c : Char) : Bool :=
  c == '\n' || c == '\r' || c == '\u0085' || c == '\u2028' || c == '\u2029'

/-- What a line end adds to a text: a line feed, but the line and paragraph separators stay. -/
def breakText (c : Char) : Char :=
  if c == '\u2028' || c == '\u2029' then c else '\n'

/-- Does a blank, a line end or the end of the text come next? -/
def isGapNext : List Char → Bool
  | [] => true
  | c :: _ => isBlank c || isBreak c

structure Cursor where
  rest : List Char
  line : Nat
  column : Nat
  index : Nat
  deriving Repr

namespace Cursor

def ofText (text : List Char) : Cursor :=
  ⟨text, 0, 0, 0⟩

def forward (cursor : Cursor) (count : Nat) : Cursor :=
  { cursor with
    rest := cursor.rest.drop count
    column := cursor.column + count
    index := cursor.index + count }

theorem length_forward_le (cursor : Cursor) (count : Nat) :
    (cursor.forward count).rest.length ≤ cursor.rest.length := by
  simp [forward]

theorem length_forward_lt {cursor : Cursor} {c : Char} {rest : List Char}
    (h : cursor.rest = c :: rest) (count : Nat) :
    (cursor.forward (count + 1)).rest.length < cursor.rest.length := by
  simp only [forward, h, List.length_drop, List.length_cons]
  omega

/-- How many characters the line end at the front of a text takes: a carriage return and the line
feed behind it are one line end. -/
def breakWidth : List Char → Nat
  | '\r' :: '\n' :: _ => 2
  | _ => 1

theorem breakWidth_pos (text : List Char) : 0 < breakWidth text := by
  unfold breakWidth
  split <;> decide

def nextLine (cursor : Cursor) : Cursor :=
  let width := breakWidth cursor.rest
  ⟨cursor.rest.drop width, cursor.line + 1, 0, cursor.index + width⟩

theorem length_nextLine_le (cursor : Cursor) :
    cursor.nextLine.rest.length ≤ cursor.rest.length := by
  simp [nextLine]

theorem length_nextLine_lt {cursor : Cursor} {c : Char} {rest : List Char}
    (h : cursor.rest = c :: rest) : cursor.nextLine.rest.length < cursor.rest.length := by
  have := breakWidth_pos cursor.rest
  simp only [nextLine, List.length_drop]
  simp only [h, List.length_cons] at this ⊢
  omega

def skipBlanks (cursor : Cursor) : Cursor :=
  cursor.forward (cursor.rest.takeWhile isBlank).length

def lineWidth (cursor : Cursor) : Nat :=
  (cursor.rest.takeWhile fun c => !isBreak c).length

/-- Passes spaces, up to the column `indent` if one is given. -/
def skipSpaces (indent : Option Nat) (cursor : Cursor) : Cursor :=
  let spaces := (cursor.rest.takeWhile (· == ' ')).length
  cursor.forward (match indent with
    | some indent => min spaces (indent - cursor.column)
    | none => spaces)

theorem length_skipSpaces_le (indent : Option Nat) (cursor : Cursor) :
    (cursor.skipSpaces indent).rest.length ≤ cursor.rest.length := by
  simp [skipSpaces, forward]

def skipComment (cursor : Cursor) : Cursor :=
  if cursor.rest.head? == some '#' then cursor.forward cursor.lineWidth else cursor

/-- Blanks and a comment, and then the line has to end. -/
def skipLineRest? (cursor : Cursor) : Option Cursor :=
  let cursor := cursor.skipBlanks.skipComment
  match cursor.rest with
  | [] => some cursor
  | c :: _ => if isBreak c then some cursor.nextLine else none

/-- Does the line begin with the mark of a document's start or end? -/
def isAtDocumentMark (cursor : Cursor) : Bool :=
  cursor.column == 0 &&
    match cursor.rest with
    | '-' :: '-' :: '-' :: rest => isGapNext rest
    | '.' :: '.' :: '.' :: rest => isGapNext rest
    | _ => false

end Cursor

/-- White space between two words of a scalar: blanks of one line, or line ends with the blanks
around them dropped. A line end that is escaped leaves nothing of itself. -/
inductive Gap where
  | blanks (text : List Char)
  | lines (escaped : Bool) (breaks : List Char)
  deriving Repr

namespace Gap

def isEmpty : Gap → Bool
  | blanks [] => true
  | _ => false

def crossesLines : Gap → Bool
  | blanks _ => false
  | lines _ _ => true

def addBlank (c : Char) : Gap → Gap
  | blanks text => blanks (text ++ [c])
  | lines escaped breaks => lines escaped breaks

def addBreak (c : Char) : Gap → Gap
  | blanks _ => lines false [c]
  | lines escaped breaks => lines escaped (breaks ++ [c])

/-- What the gap adds to the scalar: one line end is folded into a space, of several the first is
dropped. -/
def text : Gap → List Char
  | blanks text => text
  | lines false ['\n'] => [' ']
  | lines false ('\n' :: breaks) => breaks
  | lines _ breaks => breaks

end Gap

namespace Cursor

/-- Reads on to the next word. Tabs that indent a line up to the column `indent` are refused. -/
def readGap (indent : Nat) (gap : Gap) (cursor : Cursor) : Option (Gap × Cursor) :=
  match _h : cursor.rest with
  | [] => some (gap, cursor)
  | c :: _ =>
      if isBreak c then
        readGap indent (gap.addBreak (breakText c)) cursor.nextLine
      else if c == '\t' && gap.crossesLines && cursor.column < indent then
        none
      else if isBlank c then
        readGap indent (gap.addBlank c) (cursor.forward 1)
      else
        some (gap, cursor)
termination_by cursor.rest.length
decreasing_by
  · exact length_nextLine_lt _h
  · exact length_forward_lt _h 0

theorem length_readGap_le {indent : Nat} {gap gap' : Gap} {cursor next : Cursor}
    (h : cursor.readGap indent gap = some (gap', next)) :
    next.rest.length ≤ cursor.rest.length := by
  fun_induction readGap indent gap cursor with
  | case1 => cases h; exact Nat.le_refl _
  | case2 gap cursor c rest hrest _ ih =>
      exact Nat.le_trans (ih h) (Nat.le_of_lt (length_nextLine_lt hrest))
  | case3 => cases h
  | case4 gap cursor c rest hrest _ _ _ ih =>
      exact Nat.le_trans (ih h) (Nat.le_of_lt (length_forward_lt hrest 0))
  | case5 => cases h; exact Nat.le_refl _

/-- A gap that begins with a blank or a line end is passed. -/
theorem length_readGap_lt {indent : Nat} {gap gap' : Gap} {cursor next : Cursor} {c : Char}
    {rest : List Char} (hrest : cursor.rest = c :: rest) (hc : isBlank c || isBreak c)
    (h : cursor.readGap indent gap = some (gap', next)) :
    next.rest.length < cursor.rest.length := by
  unfold readGap at h
  split at h
  · simp_all
  · next d _ hrest' =>
      obtain ⟨rfl, rfl⟩ := List.cons.inj (hrest.symm.trans hrest')
      split at h
      · exact Nat.lt_of_le_of_lt (length_readGap_le h) (length_nextLine_lt hrest)
      · split at h
        · cases h
        · split at h
          · exact Nat.lt_of_le_of_lt (length_readGap_le h) (length_forward_lt hrest 0)
          · simp_all

theorem length_readGap_lt_of_isEmpty {indent : Nat} {gap : Gap} {cursor next : Cursor}
    (hgap : !gap.isEmpty) (h : cursor.readGap indent (.blanks []) = some (gap, next)) :
    next.rest.length < cursor.rest.length := by
  match hrest : cursor.rest with
  | [] =>
      unfold readGap at h
      split at h
      · cases h
        simp [Gap.isEmpty] at hgap
      · simp_all
  | c :: rest =>
      by_cases hc : isBlank c || isBreak c
      · exact hrest ▸ length_readGap_lt hrest hc h
      · unfold readGap at h
        split at h
        · simp_all
        · next d _ hrest' =>
            obtain ⟨rfl, rfl⟩ := List.cons.inj (hrest.symm.trans hrest')
            have hempty : (Gap.blanks []).isEmpty = true := rfl
            simp only [Bool.or_eq_true, not_or] at hc
            simp only [hc, Gap.crossesLines] at h
            simp at h
            rw [← h.1] at hgap
            simp [hempty] at hgap

end Cursor

end BundleBinding.Yaml
