import BundleBinding.Yaml.Tag

/-!
From texts to tokens. Most tokens are read off the text; those that structure block collections
follow from indentation, and a key is known only by the colon behind it: tokens are held back as
long as a colon could still make a key of them.
-/

namespace BundleBinding.Yaml

/-- A place where a mapping key may have begun. It is a key if a colon follows on the same line. -/
structure KeyStart where
  /-- Nothing but a key can stand there. -/
  required : Bool
  /-- The number of the token that would begin the key. -/
  number : Nat
  line : Nat
  column : Nat
  index : Nat
  deriving Repr

namespace KeyStart

/-- Is the place too far back? Keys end on their line, and within 1024 characters. -/
def isStale (start : KeyStart) (cursor : Cursor) : Bool :=
  start.line < cursor.line || start.index + 1024 < cursor.index

end KeyStart

structure Lexer where
  cursor : Cursor
  /-- Tokens that are held back. -/
  pending : List Token
  /-- How many tokens have been given out. -/
  released : Nat
  /-- The columns of the open block collections, innermost first. -/
  indents : List Nat
  keyStart : Option KeyStart
  /-- The key starts outside of each open bracket or brace, innermost first. -/
  outerKeyStarts : List (Option KeyStart)
  keyAllowed : Bool
  deriving Repr

namespace Lexer

def ofText (text : List Char) : Lexer :=
  ⟨Cursor.ofText text, [.streamStart], 0, [], none, [], true⟩

def inFlow (lexer : Lexer) : Bool :=
  !lexer.outerKeyStarts.isEmpty

def push (lexer : Lexer) (token : Token) : Lexer :=
  { lexer with pending := lexer.pending ++ [token] }

/-! ### Keys and indentation -/

def dropKeyStart (lexer : Lexer) : Option Lexer :=
  match lexer.keyStart with
  | some start => if start.required then none else some { lexer with keyStart := none }
  | none => some lexer

/-- Notes that a key may begin at the cursor. -/
def saveKeyStart (lexer : Lexer) : Option Lexer := do
  if lexer.keyAllowed then
    let cursor := lexer.cursor
    let required := !lexer.inFlow && lexer.indents.head? == some cursor.column
    let number := lexer.released + lexer.pending.length
    let lexer ← lexer.dropKeyStart
    return { lexer with
      keyStart := some ⟨required, number, cursor.line, cursor.column, cursor.index⟩ }
  else
    return lexer

def dropStale (lexer : Lexer) : Option Lexer :=
  let isStale (start : Option KeyStart) : Bool := start.any (·.isStale lexer.cursor)
  let fresh (start : Option KeyStart) : Option KeyStart := if isStale start then none else start
  let starts := lexer.keyStart :: lexer.outerKeyStarts
  if starts.any fun start => isStale start && start.any KeyStart.required then
    none
  else
    some { lexer with
      keyStart := fresh lexer.keyStart
      outerKeyStarts := lexer.outerKeyStarts.map fresh }

/-- Ends the block collections that are indented further than the column, or all. -/
def unindent (column : Option Nat) (lexer : Lexer) : Lexer :=
  if lexer.inFlow then
    lexer
  else
    let closed := lexer.indents.takeWhile fun indent => column.all (· < indent)
    { lexer with
      indents := lexer.indents.drop closed.length
      pending := lexer.pending ++ closed.map fun _ => .blockEnd }

/-- Begins a block collection at a column, if it is indented further than those that are open. The
token goes to the given place among those held back. -/
def indentTo (column : Nat) (token : Token) (place : Nat) (lexer : Lexer) : Lexer :=
  if !lexer.inFlow && lexer.indents.head?.all (· < column) then
    { lexer with
      indents := column :: lexer.indents
      pending := lexer.pending.insertIdx place token }
  else
    lexer

/-- Passes white space and comments. On a new line of a block a key may begin; a tab is no
indentation there. -/
def skipGap (inFlow : Bool) (keyAllowed : Bool) (cursor : Cursor) : Cursor × Bool :=
  match _h : cursor.rest with
  | [] => (cursor, keyAllowed)
  | c :: _ =>
      if isBreak c then
        skipGap inFlow (keyAllowed || !inFlow) cursor.nextLine
      else if c == ' ' || (c == '\t' && (inFlow || !keyAllowed)) ||
          (c == '\ufeff' && cursor.column == 0) then
        skipGap inFlow keyAllowed (cursor.forward 1)
      else if c == '#' then
        skipGap inFlow keyAllowed (cursor.forward (cursor.lineWidth - 1 + 1))
      else
        (cursor, keyAllowed)
termination_by cursor.rest.length
decreasing_by
  · exact Cursor.length_nextLine_lt _h
  · exact Cursor.length_forward_lt _h 0
  · exact Cursor.length_forward_lt _h _

/-- Goes to the next token, ending what its indentation ends. -/
def toToken (lexer : Lexer) : Option Lexer := do
  let (cursor, keyAllowed) := skipGap lexer.inFlow lexer.keyAllowed lexer.cursor
  let lexer ← { lexer with cursor, keyAllowed }.dropStale
  return lexer.unindent (some cursor.column)

/-! ### Tokens -/

/-- Takes a token that occupies some characters, behind which a key may begin or not. -/
def take (token : Token) (width : Nat) (keyAllowed : Bool) (lexer : Lexer) : Lexer :=
  { lexer with cursor := lexer.cursor.forward width, keyAllowed }.push token

def openFlow (token : Token) (lexer : Lexer) : Option Lexer := do
  let lexer ← lexer.saveKeyStart
  let lexer := { lexer with
    keyStart := none
    outerKeyStarts := lexer.keyStart :: lexer.outerKeyStarts }
  return lexer.take token 1 true

def closeFlow (token : Token) (lexer : Lexer) : Option Lexer := do
  let lexer ← lexer.dropKeyStart
  let lexer :=
    match lexer.outerKeyStarts with
    | start :: outer => { lexer with keyStart := start, outerKeyStarts := outer }
    | [] => lexer
  return lexer.take token 1 false

/-- A dash, a question mark or a colon that stands for itself begins a block collection at its
column. In block context it has to stand where a key may. -/
def openBlock (token : Token) (lexer : Lexer) : Option Lexer :=
  if lexer.inFlow then
    some lexer
  else if lexer.keyAllowed then
    some (lexer.indentTo lexer.cursor.column token lexer.pending.length)
  else
    none

def readDash (lexer : Lexer) : Option Lexer := do
  let lexer ← (← lexer.openBlock .blockSequence).dropKeyStart
  return lexer.take .dash 1 true

def readKey (lexer : Lexer) : Option Lexer := do
  let lexer ← (← lexer.openBlock .blockMapping).dropKeyStart
  return lexer.take .key 1 (!lexer.inFlow)

/-- A colon makes a key of what began where a key may begin; without that its key is empty. -/
def readColon (lexer : Lexer) : Option Lexer :=
  match lexer.keyStart with
  | some start =>
      let place := start.number - lexer.released
      let keyed := { lexer with
        keyStart := none
        pending := lexer.pending.insertIdx place .key }
      some ((keyed.indentTo start.column .blockMapping place).take .value 1 false)
  | none => do
      let lexer ← lexer.openBlock .blockMapping
      return lexer.take .value 1 (!lexer.inFlow)

def readAtom (read : Cursor → Option (Token × Cursor)) (lexer : Lexer) : Option Lexer := do
  let lexer ← lexer.saveKeyStart
  let (token, cursor) ← read lexer.cursor
  return { lexer with cursor, keyAllowed := false }.push token

def readPlainScalar (lexer : Lexer) : Option Lexer := do
  let lexer ← lexer.saveKeyStart
  let indent :=
    match lexer.indents with
    | indent :: _ => indent + 1
    | [] => 0
  let scalar ← readPlain lexer.inFlow indent lexer.cursor
  return { lexer with cursor := scalar.written.cursor, keyAllowed := scalar.crossedLine }.push
    (.scalar (String.ofList scalar.written.text) true)

def readBlockScalar (literal : Bool) (lexer : Lexer) : Option Lexer := do
  let lexer ← lexer.dropKeyStart
  let written ← readBlock literal lexer.indents.head? (lexer.cursor.forward 1)
  return { lexer with cursor := written.cursor, keyAllowed := true }.push
    (.scalar (String.ofList written.text) false)

/-- A directive or document mark ends everything that is open in blocks. -/
def readAtMargin (read : Cursor → Option (Token × Cursor)) (lexer : Lexer) : Option Lexer := do
  let lexer ← (lexer.unindent none).dropKeyStart
  let (token, cursor) ← read lexer.cursor
  return { lexer with cursor, keyAllowed := false }.push token

def startsPlain (inFlow : Bool) (c : Char) (rest : List Char) : Bool :=
  !(isBlank c || isBreak c || "-?:,[]\x7b\x7d#&*!|>'\"%@".contains c || c == '\x60') ||
    (c == '-' && !rest.head?.any isBlank) ||
    (!inFlow && (c == '?' || c == ':') && !isGapNext rest)

def read (lexer : Lexer) : Option Lexer :=
  let cursor := lexer.cursor
  match cursor.rest with
  | [] => none
  | c :: rest =>
      let stands := lexer.inFlow || isGapNext rest
      if c == '%' && cursor.column == 0 then
        lexer.readAtMargin readDirective
      else if cursor.isAtDocumentMark then
        lexer.readAtMargin fun cursor =>
          some (if c == '-' then .documentStart else .documentEnd, cursor.forward 3)
      else if c == '-' && isGapNext rest then lexer.readDash
      else if c == '?' && stands then lexer.readKey
      else if c == ':' && stands then lexer.readColon
      else if (c == '|' || c == '>') && !lexer.inFlow then lexer.readBlockScalar (c == '|')
      else if startsPlain lexer.inFlow c rest then lexer.readPlainScalar
      else
        match c with
        | '[' => lexer.openFlow .openBracket
        | '{' => lexer.openFlow .openBrace
        | ']' => lexer.closeFlow .closeBracket
        | '}' => lexer.closeFlow .closeBrace
        | ',' => lexer.dropKeyStart.map (take .comma 1 true)
        | '*' => lexer.readAtom fun cursor =>
            (readAnchorName cursor).map fun (name, next) => (.alias name, next)
        | '&' => lexer.readAtom fun cursor =>
            (readAnchorName cursor).map fun (name, next) => (.anchor name, next)
        | '!' => lexer.readAtom (readTag lexer.inFlow)
        | '\'' => lexer.readAtom readQuotedScalar
        | '"' => lexer.readAtom readQuotedScalar
        | _ => none
where
  readQuotedScalar (cursor : Cursor) : Option (Token × Cursor) := do
    let quote ← cursor.rest.head?
    let written ← readQuoted quote (cursor.forward 1)
    return (.scalar (String.ofList written.text) false, written.cursor)

/-- Gives out the tokens that no colon can make a key of any more. -/
def release (lexer : Lexer) : Option (List Token × Lexer) := do
  let lexer ← lexer.dropStale
  let starts := (lexer.keyStart :: lexer.outerKeyStarts).filterMap id
  let held := starts.foldl (fun held start => min held start.number)
    (lexer.released + lexer.pending.length)
  let count := held - lexer.released
  return (lexer.pending.take count, { lexer with
    pending := lexer.pending.drop count
    released := lexer.released + count })

/-- The tokens at the end of the text. -/
def finish (lexer : Lexer) : Option (List Token) := do
  let lexer ← (lexer.unindent none).dropKeyStart
  return (lexer.push .streamEnd).pending

end Lexer

namespace Lexer

/-- The tokens ahead, up to where the text of the given length cannot be read further. Each token
moves the cursor on. -/
def run (length : Nat) (lexer : Lexer) : List Token :=
  match lexer.toToken with
  | none => []
  | some lexer' =>
      if lexer'.cursor.rest.isEmpty then
        lexer'.finish.getD []
      else
        match lexer'.read.bind release with
        | none => []
        | some (tokens, next) =>
            if _h : lexer.cursor.index < next.cursor.index ∧ lexer.cursor.index < length then
              tokens ++ next.run length
            else
              tokens
termination_by length - lexer.cursor.index

end Lexer

/-- Characters that may stand in a text at all. -/
def isPrintable (c : Char) : Bool :=
  let code := c.toNat
  code == 0x09 || code == 0x0a || code == 0x0d || (0x20 ≤ code && code ≤ 0x7e) || code == 0x85 ||
    (0xa0 ≤ code && code ≤ 0xd7ff) || (0xe000 ≤ code && code ≤ 0xfffd) || 0x10000 ≤ code

/-- The tokens of a text; if it can be read to its end, the last of them says so. A byte order mark
at its start is no part of it, and with a character that cannot stand in it nothing of it is
read. -/
def tokensOf (text : String) : List Token :=
  let characters :=
    match text.toList with
    | '\ufeff' :: rest => rest
    | characters => characters
  if characters.all isPrintable then (Lexer.ofText characters).run characters.length else []

end BundleBinding.Yaml
