import BundleBinding.Json.Basic
import BundleBinding.Number.Shortest

/-!
Written JSON: a compact form without blanks, and a form with one item a line, indented by two.
-/

namespace BundleBinding

namespace JsonNumber

def render : JsonNumber → String
  | integer value => toString value
  | float value => value.render

end JsonNumber

namespace Json

def escaped (c : Char) : List Char :=
  match c with
  | '"' => ['\\', '"']
  | '\\' => ['\\', '\\']
  | '\x08' => ['\\', 'b']
  | '\t' => ['\\', 't']
  | '\n' => ['\\', 'n']
  | '\x0c' => ['\\', 'f']
  | '\r' => ['\\', 'r']
  | c =>
      if c.toNat < 0x20 then
        ['\\', 'u', '0', '0', Nat.digitChar (c.toNat / 16), Nat.digitChar (c.toNat % 16)]
      else [c]

def renderString (text : String) : String :=
  String.ofList ('"' :: text.toList.flatMap escaped ++ ['"'])

mutual

def render : Json → String
  | null => "null"
  | bool value => if value then "true" else "false"
  | number value => value.render
  | string value => renderString value
  | array items => "[" ++ ",".intercalate (renderItems items) ++ "]"
  | object members => "\x7b" ++ ",".intercalate (renderMembers members) ++ "\x7d"

def renderItems : List Json → List String
  | [] => []
  | item :: items => render item :: renderItems items

def renderMembers : List (String × Json) → List String
  | [] => []
  | (name, value) :: members => (renderString name ++ ":" ++ render value) :: renderMembers members

end

/-- Lines between brackets, each ended by a comma but the last. -/
def renderBlock (opening closing indent : String) (lines : List String) : String :=
  if lines.isEmpty then opening ++ closing
  else
    let inner := indent ++ "  "
    opening ++ "\n" ++ ",\n".intercalate (lines.map (inner ++ ·)) ++ "\n" ++ indent ++ closing

mutual

/-- The form with one item or member a line, `indent` standing before the line of the value. -/
def renderIndented (indent : String) : Json → String
  | array items => renderBlock "[" "]" indent (indentItems (indent ++ "  ") items)
  | object members => renderBlock "\x7b" "\x7d" indent (indentMembers (indent ++ "  ") members)
  | other => render other

def indentItems (indent : String) : List Json → List String
  | [] => []
  | item :: items => renderIndented indent item :: indentItems indent items

def indentMembers (indent : String) : List (String × Json) → List String
  | [] => []
  | (name, value) :: members =>
      (renderString name ++ ": " ++ renderIndented indent value) :: indentMembers indent members

end

end Json

end BundleBinding
