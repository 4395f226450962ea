import BundleBinding.Text.Characters

/-!
Texts in TOML: white space, comments, and the four kinds of strings. A reader answers with what it
has read and the text behind it.
-/

namespace BundleBinding.Toml

open Text (spelledCode?)

/-- Reads something from the front of a text. -/
abbrev Reader (α : Type) := List Char → Option (α × List Char)

/-! ### White space and comments -/

def isBlank (c : Char) : Bool :=
  c == ' ' || c == '\t'

def skipBlanks (text : List Char) : List Char :=
  text.dropWhile isBlank

/-- Characters that strings and comments may hold: no controls except the tab. -/
def isTextCharacter (c : Char) : Bool :=
  c == '\t' || (0x20 ≤ c.toNat && c.toNat ≠ 0x7f)

/-- The text behind the line end that comes first. -/
def afterBreak? : List Char → Option (List Char)
  | '\n' :: rest => some rest
  | '\r' :: '\n' :: rest => some rest
  | _ => none

def skipSpace : List Char → List Char
  | ' ' :: rest => skipSpace rest
  | '\t' :: rest => skipSpace rest
  | '\n' :: rest => skipSpace rest
  | '\r' :: '\n' :: rest => skipSpace rest
  | text => text

def skipComment : List Char → List Char
  | '#' :: rest => rest.dropWhile isTextCharacter
  | text => text

/-- Passes what may stand behind an item on its line; the line has to end then. -/
def endLine? (text : List Char) : Option (List Char) :=
  match skipComment (skipBlanks text) with
  | [] => some []
  | rest => afterBreak? rest

/-- Passes blanks, line ends, and comments that end with their line. -/
def skipLines (text : List Char) : Option (List Char) :=
  match _h : skipSpace text with
  | '#' :: rest =>
      match _hbreak : afterBreak? (rest.dropWhile isTextCharacter) with
      | some behind => if _hrest : behind.length < text.length then skipLines behind else none
      | none => none
  | rest => some rest
termination_by text.length

/-! ### Strings -/

/-- The character that an escape stands for, and the length of the escape behind the backslash. -/
def escape? : List Char → Option (Char × Nat)
  | 'b' :: _ => some ('\x08', 1)
  | 't' :: _ => some ('\t', 1)
  | 'n' :: _ => some ('\n', 1)
  | 'f' :: _ => some ('\x0c', 1)
  | 'r' :: _ => some ('\r', 1)
  | '"' :: _ => some ('"', 1)
  | '\\' :: _ => some ('\\', 1)
  | 'u' :: rest => (spelledCode? 4 rest).map (·, 5)
  | 'U' :: rest => (spelledCode? 8 rest).map (·, 9)
  | _ => none

/-- Reads a string on one line up to its closing quote. Within single quotes a backslash is a
character like others. -/
def readLine (quote : Char) (text : List Char) : Option (List Char × List Char) := do
  match text with
  | [] => none
  | c :: rest =>
      if c == quote then
        return ([], rest)
      else if c == '\\' && quote == '"' then
        let (character, width) ← escape? rest
        let (following, behind) ← readLine quote (rest.drop width)
        return (character :: following, behind)
      else if isTextCharacter c then
        let (following, behind) ← readLine quote rest
        return (c :: following, behind)
      else
        none
termination_by text.length
decreasing_by
  · simp only [List.length_drop, List.length_cons]; omega
  · simp

/-- What follows a backslash at the end of a line: the next text that is no white space. -/
def continuation? (text : List Char) : Option (List Char) :=
  (afterBreak? (skipBlanks text)).map skipSpace

/-- Reads a string of several lines up to its three closing quotes. One or two quotes may stand
anywhere in it, also right before the closing ones. -/
def readParagraph (quote : Char) (text : List Char) : Option (List Char × List Char) := do
  match text with
  | [] => none
  | c :: rest =>
      if c == quote then
        let quotes := (text.takeWhile (· == quote)).length
        if 3 ≤ quotes then
          let kept := min (quotes - 3) 2
          return (List.replicate kept quote, text.drop (kept + 3))
        else
          let (following, behind) ← readParagraph quote rest
          return (c :: following, behind)
      else if c == '\\' && quote == '"' then
        match continuation? rest with
        | some next =>
            if _h : next.length ≤ rest.length then readParagraph quote next else none
        | none =>
            let (character, width) ← escape? rest
            let (following, behind) ← readParagraph quote (rest.drop width)
            return (character :: following, behind)
      else
        match afterBreak? text with
        | some next =>
            if _h : next.length ≤ rest.length then
              let (following, behind) ← readParagraph quote next
              return ('\n' :: following, behind)
            else
              none
        | none =>
            if isTextCharacter c then
              let (following, behind) ← readParagraph quote rest
              return (c :: following, behind)
            else
              none
termination_by text.length
decreasing_by
  · simp
  · exact Nat.lt_succ_of_le _h
  · simp only [List.length_drop, List.length_cons]; omega
  · exact Nat.lt_succ_of_le _h
  · simp

/-- Reads a string from its opening quote. A line end right behind three quotes is no part of it. -/
def readString : Reader String
  | '"' :: '"' :: '"' :: rest => textOf (readParagraph '"' ((afterBreak? rest).getD rest))
  | '\'' :: '\'' :: '\'' :: rest => textOf (readParagraph '\'' ((afterBreak? rest).getD rest))
  | '"' :: rest => textOf (readLine '"' rest)
  | '\'' :: rest => textOf (readLine '\'' rest)
  | _ => none
where
  textOf (result : Option (List Char × List Char)) : Option (String × List Char) :=
    result.map fun (characters, behind) => (String.ofList characters, behind)

/-! ### Keys -/

def isBareCharacter (c : Char) : Bool :=
  c.isAlphanum || c == '_' || c == '-'

def readKeyPart : Reader String
  | '"' :: rest => (readLine '"' rest).map fun (part, behind) => (String.ofList part, behind)
  | '\'' :: rest => (readLine '\'' rest).map fun (part, behind) => (String.ofList part, behind)
  | text =>
      let part := text.takeWhile isBareCharacter
      if part.isEmpty then none else some (String.ofList part, text.drop part.length)

/-- Reads the parts of a key, which are joined by periods with blanks around them. -/
def readKeyParts (text : List Char) : Option (List String × List Char) := do
  let (part, behind) ← readKeyPart (skipBlanks text)
  match skipBlanks behind with
  | '.' :: next =>
      if _h : next.length < text.length then
        let (others, behind) ← readKeyParts next
        return (part :: others, behind)
      else
        none
  | rest => return ([part], rest)
termination_by text.length

/-- Nothing may be nested 80 deep. -/
def depthLimit : Nat :=
  80

def readKey : Reader (List String) := fun text => do
  let (parts, behind) ← readKeyParts text
  if depthLimit ≤ parts.length then none else some (parts, behind)

end BundleBinding.Toml
