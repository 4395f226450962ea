import BundleBinding.Toml.Text

/-!
Writing strings in TOML: in the first of several forms that shows the text as it is, or else with
escapes.
-/

namespace BundleBinding.Toml

def longestRun (c : Char) (text : List Char) : Nat :=
  (text.foldl (fun (run, longest) d =>
    if d == c then (run + 1, max longest (run + 1)) else (0, longest)) (0, 0)).2

/-- A control character that strings show by an escape only. Tabs and line feeds have a say of their
own. -/
def needsEscape (c : Char) : Bool :=
  (c.toNat ≤ 0x1f && c != '\t' && c != '\n') || c.toNat == 0x7f

def codeDigits (c : Char) : List Char :=
  let digits := (Nat.toDigits 16 c.toNat).map Char.toUpper
  List.replicate (4 - digits.length) '0' ++ digits

def escaped (paragraph : Bool) (c : Char) : List Char :=
  match c with
  | '\x08' => ['\\', 'b']
  | '\t' => ['\\', 't']
  | '\n' => if paragraph then [c] else ['\\', 'n']
  | '\x0c' => ['\\', 'f']
  | '\r' => ['\\', 'r']
  | '\\' => ['\\', '\\']
  | _ => if needsEscape c then '\\' :: 'u' :: codeDigits c else [c]

/-- The text between double quotes. Of a run of quotes as many are shown as `shown` allows; `run` is
the number of those just before. -/
def escapedText (paragraph : Bool) (shown : Nat) (run : Nat) : List Char → List Char
  | [] => []
  | '"' :: rest =>
      if run < shown then '"' :: escapedText paragraph shown (run + 1) rest
      else '\\' :: '"' :: escapedText paragraph shown 0 rest
  | c :: rest => escaped paragraph c ++ escapedText paragraph shown 0 rest

/-- A string as it is written: on one line if it has none of its own, without escapes if it has no
controls, and in double quotes unless it has some itself or backslashes. -/
def renderString (text : String) : String :=
  let characters := text.toList
  let controls := characters.any needsEscape
  let backslashes := characters.contains '\\'
  let lines := characters.contains '\n'
  let doubles := longestRun '"' characters
  let singles := longestRun '\'' characters
  let begun := if lines then "\n" else ""
  let line := "\"" ++ String.ofList (escapedText false 0 0 characters) ++ "\""
  let paragraph := "\"\"\"" ++ begun ++ String.ofList (escapedText true 2 0 characters) ++ "\"\"\""
  if !controls && !backslashes && doubles == 0 && !lines then line
  else if !controls && singles == 0 && !lines then "'" ++ text ++ "'"
  else if !controls && !backslashes && doubles ≤ 2 then paragraph
  else if !controls && singles ≤ 2 then "'''" ++ begun ++ text ++ "'''"
  else if lines then paragraph
  else line

/-- A list of strings: several are written one on a line. -/
def renderStrings : List String → String
  | [] => "[]"
  | [item] => "[" ++ renderString item ++ "]"
  | items =>
      let lines := items.map fun item => "    " ++ renderString item ++ ",\n"
      "[\n" ++ String.join lines ++ "]"

end BundleBinding.Toml
