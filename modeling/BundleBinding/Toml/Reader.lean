import BundleBinding.Toml.Basic
import BundleBinding.Toml.Number

/-!
Reading TOML texts: values, and documents line by line.
-/

namespace BundleBinding.Toml

/-- The last part of a key, and the parts before it. -/
def splitKey? (parts : List String) : Option (List String × String) :=
  parts.getLast?.map fun key => (parts.dropLast, key)

/-- Reads the items of an array up to its closing bracket. Items may stand on lines of their own,
and a comma may follow the last. -/
def readItems (value : Reader Item) (text : List Char) : Option (List Item × List Char) := do
  match ← skipLines text with
  | ']' :: rest => return ([], rest)
  | start =>
      let (item, behind) ← value start
      match ← skipLines behind with
      | ']' :: rest => return ([item], rest)
      | ',' :: next =>
          if _h : next.length < text.length then
            let (items, rest) ← readItems value next
            return (item :: items, rest)
          else
            none
      | _ => none
termination_by text.length

def readPair (value : Reader Item) : Reader ((List String × String) × Item) := fun text => do
  let (parts, behind) ← readKey text
  let key ← splitKey? parts
  let (value, rest) ← value (skipBlanks (← after? '=' behind))
  return ((key, value), rest)

/-- Reads the pairs of an inline table up to its closing brace, all on one line. -/
def readPairs (value : Reader Item) (entries : Entries) (text : List Char) :
    Option (Entries × List Char) := do
  let (((path, key), item), behind) ← readPair value text
  let entries ← entries.addPath path key item .inlined
  match skipBlanks behind with
  | '\x7d' :: rest => return (entries, rest)
  | ',' :: next => if _h : next.length < text.length then readPairs value entries next else none
  | _ => none
termination_by text.length

/-- Reads a value in which nothing is nested. -/
def readPlain : Reader Item := fun text =>
  match text with
  | '"' :: _ | '\'' :: _ => (readString text).map fun (value, rest) => (.string value, rest)
  | 't' :: 'r' :: 'u' :: 'e' :: rest => some (.boolean true, rest)
  | 'f' :: 'a' :: 'l' :: 's' :: 'e' :: rest => some (.boolean false, rest)
  | _ =>
      match afterMoment? text with
      | some rest => some (.moment, rest)
      | none => ((afterFloat? text).orElse fun _ => afterInteger? text).map (.number, ·)

/-- Reads a value in which arrays and tables are nested no deeper than `depth`. -/
def readValue : (depth : Nat) → Reader Item
  | 0 => fun text =>
      if text.head?.any fun c => c == '[' || c == '\x7b' then none else readPlain text
  | depth + 1 => fun text =>
      match text with
      | '[' :: rest =>
          (readItems (readValue depth) rest).map fun (items, rest) => (.array items, rest)
      | '\x7b' :: rest =>
          match skipBlanks rest with
          | '\x7d' :: rest => some (.table .inlined [], rest)
          | _ => (readPairs (readValue depth) [] rest).map fun (entries, rest) =>
              (.table .inlined entries, rest)
      | _ => readPlain text

/-- A document under construction: the last header, and the tables so far. -/
structure Draft where
  header : List String
  root : Entries

/-- Reads a line that is not blank: a header, a doubled header, or a pair. A value may go on over
several lines. -/
def readStatement (draft : Draft) (text : List Char) : Option (Draft × List Char) := do
  match text with
  | '[' :: '[' :: rest =>
      let (parts, behind) ← readKey rest
      let (path, key) ← splitKey? parts
      let rest ← endLine? (← after? ']' (← after? ']' behind))
      return (⟨parts, ← draft.root.openElement path key⟩, rest)
  | '[' :: rest =>
      let (parts, behind) ← readKey rest
      let (path, key) ← splitKey? parts
      let rest ← endLine? (← after? ']' behind)
      return (⟨parts, ← draft.root.openTable path key⟩, rest)
  | _ =>
      let (((path, key), value), behind) ← readPair (readValue (depthLimit - 1)) text
      let rest ← endLine? behind
      return ({ draft with root := ← draft.root.addBelow draft.header path key value }, rest)

def readDocument (draft : Draft) (text : List Char) : Option Entries := do
  let start := skipBlanks text
  if start.isEmpty then
    return draft.root
  else
    let (draft, rest) ←
      match endLine? start with
      | some rest => some (draft, rest)
      | none => readStatement draft start
    if _h : rest.length < text.length then readDocument draft rest else none
termination_by text.length

/-- The entries of a text. A byte order mark at its start is no part of it. -/
def parse? (text : String) : Option Entries :=
  let characters :=
    match text.toList with
    | '\ufeff' :: rest => rest
    | characters => characters
  readDocument ⟨[], []⟩ characters

end BundleBinding.Toml
