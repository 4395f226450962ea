import BundleBinding.Json.Number
import BundleBinding.Text.Characters
import BundleBinding.Text.Parsed

/-!
Reading JSON texts. Values may be nested 127 deep; control characters may not stand in strings, and
escaped surrogates come in pairs.
-/

namespace BundleBinding.Json

open Text (Parsed after? hexValue? length_of_after?)

def isBlank (c : Char) : Bool :=
  c == ' ' || c == '\n' || c == '\t' || c == '\r'

def skipBlank (text : List Char) : List Char :=
  text.dropWhile isBlank

theorem length_skipBlank_le (text : List Char) : (skipBlank text).length ≤ text.length :=
  (List.dropWhile_suffix isBlank).length_le

theorem length_lt_of_skipBlank {c : Char} {text rest : List Char} (h : skipBlank text = c :: rest) :
    rest.length < text.length := by
  have hle := length_skipBlank_le text
  rwa [h, List.length_cons] at hle

/-- The character that a letter denotes behind a backslash. -/
def unescaped? : Char → Option Char
  | '"' => some '"'
  | '\\' => some '\\'
  | '/' => some '/'
  | 'b' => some '\x08'
  | 'f' => some '\x0c'
  | 'n' => some '\n'
  | 'r' => some '\r'
  | 't' => some '\t'
  | _ => none

/-- The character of an escaped code point, with the text behind it; a leading surrogate joins with
the trailing one that must follow. -/
def readCodePoint (text : List Char) : Option (Parsed Char text) :=
  match text with
  | a :: b :: c :: d :: rest =>
      match hexValue? [a, b, c, d] with
      | none => none
      | some unit =>
          if unit < 0xD800 ∨ 0xDFFF < unit then
            some ⟨Char.ofNat unit, rest, by simp; omega⟩
          else if 0xDC00 ≤ unit then none
          else
            match rest with
            | '\\' :: 'u' :: e :: f :: g :: h :: rest =>
                match hexValue? [e, f, g, h] with
                | none => none
                | some trailing =>
                    if 0xDC00 ≤ trailing ∧ trailing ≤ 0xDFFF then
                      let point := 0x10000 + (unit - 0xD800) * 0x400 + (trailing - 0xDC00)
                      some ⟨Char.ofNat point, rest, by simp; omega⟩
                    else none
            | _ => none
  | _ => none

def readCharacters (text : List Char) : Option (Parsed (List Char) text) :=
  match text with
  | [] => none
  | '"' :: rest => some ⟨[], rest, by simp⟩
  | '\\' :: 'u' :: rest => do
      let point ← readCodePoint rest
      have := point.shorter
      let others ← readCharacters point.rest
      have := others.shorter
      some ⟨point.value :: others.value, others.rest, by simp; omega⟩
  | '\\' :: letter :: rest => do
      let c ← unescaped? letter
      let others ← readCharacters rest
      have := others.shorter
      some ⟨c :: others.value, others.rest, by simp; omega⟩
  | c :: rest =>
      if c = '\\' ∨ c.toNat < 0x20 then none
      else do
        let others ← readCharacters rest
        have := others.shorter
        some ⟨c :: others.value, others.rest, by simp; omega⟩
termination_by text.length
decreasing_by all_goals simp <;> omega

def readNumber (text : List Char) : Option (Parsed Json text) :=
  match h : Numeral.scan text with
  | .error _ => none
  | .ok (numeral, rest) =>
      numeral.value?.map fun value => ⟨number value, rest, Numeral.length_scan_lt h⟩

def readWord (word : String) (value : Json) (text : List Char) : Option (Parsed Json text) :=
  match h : after? word.toList text with
  | some rest =>
      if hword : 0 < word.toList.length then
        some ⟨value, rest, by have := length_of_after? h; omega⟩
      else none
  | none => none

mutual

/-- Reads a value; `depth` more levels of brackets may be opened. -/
def readValue (depth : Nat) (text : List Char) : Option (Parsed Json text) :=
  have hblank := length_skipBlank_le text
  match h : skipBlank text with
  | '"' :: rest => do
      have hrest : rest.length < text.length := length_lt_of_skipBlank h
      let characters ← readCharacters rest
      some ((characters.map fun value => string (String.ofList value)).within (Nat.le_of_lt hrest))
  | '[' :: rest =>
      have hrest : rest.length < text.length := length_lt_of_skipBlank h
      match depth with
      | 0 => none
      | depth + 1 =>
          match hclose : skipBlank rest with
          | ']' :: rest =>
              some ⟨array [], rest, Nat.lt_trans (length_lt_of_skipBlank hclose) hrest⟩
          | _ => do
              let items ← readItems depth rest
              some ((items.map array).within (Nat.le_of_lt hrest))
  | '\x7b' :: rest =>
      have hrest : rest.length < text.length := length_lt_of_skipBlank h
      match depth with
      | 0 => none
      | depth + 1 =>
          match hclose : skipBlank rest with
          | '\x7d' :: rest =>
              some ⟨object [], rest, Nat.lt_trans (length_lt_of_skipBlank hclose) hrest⟩
          | _ => do
              let members ← readMembers depth rest
              some ((members.map ofMembers).within (Nat.le_of_lt hrest))
  | body =>
      have hbody : body.length ≤ text.length := h ▸ hblank
      let result :=
        (readWord "null" null body).orElse fun _ =>
          (readWord "true" (bool true) body).orElse fun _ =>
            (readWord "false" (bool false) body).orElse fun _ => readNumber body
      result.map fun parsed => parsed.within hbody
termination_by (text.length, 0)

def readItems (depth : Nat) (text : List Char) : Option (Parsed (List Json) text) := do
  let first ← readValue depth text
  match h : skipBlank first.rest with
  | ',' :: rest =>
      have hrest : rest.length < text.length :=
        Nat.lt_trans (length_lt_of_skipBlank h) first.shorter
      let others ← readItems depth rest
      some ((others.map (first.value :: ·)).within (Nat.le_of_lt hrest))
  | ']' :: rest =>
      some ⟨[first.value], rest, Nat.lt_trans (length_lt_of_skipBlank h) first.shorter⟩
  | _ => none
termination_by (text.length, 1)

/-- Reads the members of an object up to the closing brace, in the order in which they stand. -/
def readMembers (depth : Nat) (text : List Char) : Option (Parsed (List (String × Json)) text) :=
  match h : skipBlank text with
  | '"' :: rest => do
      have hrest : rest.length < text.length := length_lt_of_skipBlank h
      let name ← readCharacters rest
      have hname := Nat.lt_trans name.shorter hrest
      match h : skipBlank name.rest with
      | ':' :: body =>
          have hbody : body.length < text.length := Nat.lt_trans (length_lt_of_skipBlank h) hname
          let value ← readValue depth body
          have hvalue := Nat.lt_trans value.shorter hbody
          let member := (String.ofList name.value, value.value)
          match h : skipBlank value.rest with
          | ',' :: rest =>
              have hrest : rest.length < text.length :=
                Nat.lt_trans (length_lt_of_skipBlank h) hvalue
              let others ← readMembers depth rest
              some ((others.map (member :: ·)).within (Nat.le_of_lt hrest))
          | '\x7d' :: rest =>
              some ⟨[member], rest, Nat.lt_trans (length_lt_of_skipBlank h) hvalue⟩
          | _ => none
      | _ => none
  | _ => none
termination_by (text.length, 0)

end

def parse? (text : String) : Option Json := do
  let parsed ← readValue 127 text.toList
  if (skipBlank parsed.rest).isEmpty then some parsed.value else none

end BundleBinding.Json
