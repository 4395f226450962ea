import BundleBinding.Yaml.Scalar
import BundleBinding.Yaml.Token

/-!
Tags, anchors and directives as they are written. Each reader starts at the indicator and answers
with a token and the cursor behind it.
-/

namespace BundleBinding.Yaml

open Text (hexDigit?)

def isWord (c : Char) : Bool :=
  c.isAlphanum || c == '_' || c == '-'

/-- Characters of a resource name. Within angle brackets and in directives the ones that separate
items are allowed too. -/
def isUriCharacter (separators : Bool) (c : Char) : Bool :=
  isWord c || ";/?:@&=+$.!~*'()".contains c || (separators && ",[]".contains c)

def octet? : List Char → Option Nat
  | '%' :: high :: low :: _ => do
      return 16 * (← hexDigit? high) + (← hexDigit? low)
  | _ => none

/-- How many octets the character takes that begins with the given one. -/
def octetCount? (first : Nat) : Option Nat :=
  if first < 0x80 then some 1
  else if first / 32 = 6 then some 2
  else if first / 16 = 14 then some 3
  else if first / 8 = 30 then some 4
  else none

/-- A character spelled by octets with percent signs, and the length of that spelling. -/
def spelledCharacter? (text : List Char) : Option (Char × Nat) := do
  let first ← octet? text
  let count ← octetCount? first
  let further ← (List.range (count - 1)).mapM fun place => octet? (text.drop (3 * (place + 1)))
  if further.any fun octet => octet / 64 ≠ 2 then none
  let start := if count = 1 then first else first % Nat.pow 2 (7 - count)
  let code := further.foldl (fun code octet => 64 * code + octet % 64) start
  return (Char.ofNat code, 3 * count)

/-- A resource name and the length of its spelling. -/
def readUri (separators : Bool) (text : List Char) : Option (List Char × Nat) := do
  match text with
  | [] => return ([], 0)
  | c :: rest =>
      if c == '%' then
        let (decoded, width) ← spelledCharacter? text
        let (uri, behind) ← readUri separators (rest.drop (width - 1))
        return (decoded :: uri, behind + width)
      else if isUriCharacter separators c then
        let (uri, behind) ← readUri separators rest
        return (c :: uri, behind + 1)
      else
        return ([], 0)
termination_by text.length
decreasing_by
  · simp only [List.length_drop, List.length_cons]; omega
  · simp

/-- A tag handle: an exclamation mark, then perhaps a word, then perhaps another mark. -/
def handle? : List Char → Option (List Char)
  | '!' :: rest =>
      let word := rest.takeWhile isWord
      let closing := (rest.drop word.length).takeWhile (· == '!')
      some ('!' :: word ++ closing.take 1)
  | _ => none

/-- A handle that names a prefix, as opposed to a mark that is followed by the tag itself. -/
def isNamedHandle (handle : List Char) : Bool :=
  2 ≤ handle.length && handle.getLast? == some '!'

def readTagBody (cursor : Cursor) : Option (Token × Cursor) := do
  match cursor.rest with
  | '!' :: '<' :: rest =>
      let (uri, width) ← readUri true rest
      if width = 0 || (rest.drop width).head? != some '>' then none
      return (.tag "" (String.ofList uri), cursor.forward (width + 3))
  | text =>
      let handle ← handle? text
      let behind := cursor.forward handle.length
      let (uri, width) ← readUri false behind.rest
      let next := behind.forward width
      if isNamedHandle handle then
        if width = 0 then none
        return (.tag (String.ofList handle) (String.ofList uri), next)
      else
        let suffix := handle.tail ++ uri
        return (if suffix.isEmpty then .tag "" "!" else .tag "!" (String.ofList suffix), next)

/-- Reads a tag. A gap has to follow, or a comma within brackets. -/
def readTag (inFlow : Bool) (cursor : Cursor) : Option (Token × Cursor) := do
  let (token, next) ← readTagBody cursor
  if isGapNext next.rest || (inFlow && next.rest.head? == some ',') then
    return (token, next)
  else
    none

/-- Reads the name of an anchor or alias, whose indicator is at the cursor. -/
def readAnchorName (cursor : Cursor) : Option (String × Cursor) :=
  let name := (cursor.rest.drop 1).takeWhile isWord
  let next := cursor.forward (name.length + 1)
  let ends :=
    isGapNext next.rest ||
      next.rest.head?.any fun c => "?:,]\x7d%@".contains c || c == '\x60'
  if name.isEmpty || !ends then none else some (String.ofList name, next)

/-- Reads a decimal number of at most nine digits. -/
def readVersionNumber (cursor : Cursor) : Option (Nat × Cursor) :=
  let digits := cursor.rest.takeWhile Char.isDigit
  if digits.isEmpty || 9 < digits.length then none
  else
    let value := digits.foldl (fun value digit => 10 * value + (digit.toNat - '0'.toNat)) 0
    some (value, cursor.forward digits.length)

def readVersion (cursor : Cursor) : Option (Token × Cursor) := do
  let (major, behind) ← readVersionNumber cursor.skipBlanks
  if behind.rest.head? != some '.' then none
  let (minor, next) ← readVersionNumber (behind.forward 1)
  return (.version major minor, next)

def readTagHandle (cursor : Cursor) : Option (Token × Cursor) := do
  let start := cursor.skipBlanks
  let handle ← handle? start.rest
  if handle.length ≠ 1 && !isNamedHandle handle then none
  let behind := start.forward handle.length
  if !behind.rest.head?.any isBlank then none
  let expansion := behind.skipBlanks
  let (uri, width) ← readUri true expansion.rest
  let next := expansion.forward width
  if width = 0 || !isGapNext next.rest then none
  return (.tagHandle (String.ofList handle) (String.ofList uri), next)

/-- Reads a directive with the line that it is on. -/
def readDirective (cursor : Cursor) : Option (Token × Cursor) := do
  let name := (cursor.rest.drop 1).takeWhile isWord
  let behind := cursor.forward (name.length + 1)
  if !isGapNext behind.rest then none
  let (token, next) ←
    match String.ofList name with
    | "YAML" => readVersion behind
    | "TAG" => readTagHandle behind
    | _ => none
  return (token, ← next.skipLineRest?)

end BundleBinding.Yaml
