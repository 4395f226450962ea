import BundleBinding.Text.Alphanumeric
import BundleBinding.Text.Characters
import BundleBinding.Text.Parsed
import BundleBinding.Type.Basic

/-!
Reading written types. Blanks may stand before, between and behind the tokens; a name is the longest
run of name characters; `extends` and `super` are recognised as the beginning of the text behind
`?`.
-/

namespace BundleBinding

inductive TypeSyntaxError where
  | trailing (rest : String)
  | bareWildcard
  | superBound
  /-- No name where one must begin; the offset counts UTF-8 bytes from the beginning of the text. -/
  | nameExpected (offset : Nat)
  | malformedName (name : String)
  | argumentsUnclosed
  deriving Repr, DecidableEq

namespace TypeSyntaxError

def reason : TypeSyntaxError → String
  | trailing rest => "unexpected '" ++ rest ++ "'"
  | bareWildcard => "wildcards are only allowed inside type arguments"
  | superBound => "'? super' bounds are not supported"
  | nameExpected offset => "expected a type name at offset " ++ toString offset
  | malformedName name => "malformed name '" ++ name ++ "'"
  | argumentsUnclosed => "expected ',' or '>' in type arguments"

end TypeSyntaxError

namespace TypeRef

open Text (Parsed after? length_of_after? length_lt_of_skipBlank)

def isNameCharacter (c : Char) : Bool :=
  Text.isAlphanumeric c || c == '_' || c == '$' || c == '.'

/-- Periods stand alone and inside a name only. -/
def periodsInside : List Char → Bool
  | [] => true
  | ['.'] => false
  | '.' :: '.' :: _ => false
  | _ :: rest => periodsInside rest

def isWellFormedName (name : List Char) : Bool :=
  name.head? != some '.' && periodsInside name

/-- A written name and the text behind it. Here and below, `size` is the size of the whole text in
bytes, from which the offset of an error follows. -/
def parseName (size : Nat) (text : List Char) : Except TypeSyntaxError (Parsed String text) :=
  let name := text.takeWhile isNameCharacter
  if h : name = [] then
    throw (.nameExpected (size - (String.ofList text).utf8ByteSize))
  else if !isWellFormedName name then
    throw (.malformedName (String.ofList name))
  else
    pure ⟨String.ofList name, text.dropWhile isNameCharacter, by
      have hsplit := congrArg List.length (@List.takeWhile_append_dropWhile _ isNameCharacter text)
      have hpos := List.length_pos_iff.mpr h
      simp only [List.length_append] at hsplit
      simp only [name] at hpos
      omega⟩

theorem length_lt_of_after?_skipBlank {c : Char} {word text rest : List Char}
    (h : after? (c :: word) (Text.skipBlank text) = some rest) : rest.length < text.length := by
  have hword := length_of_after? h
  have hblank := Text.skipBlank_length_le text
  rw [List.length_cons] at hword
  omega

/-- Takes the pairs of brackets behind a type, each making it an array. -/
def parseBrackets (type : TypeRef) (text : List Char) : TypeRef × List Char :=
  match h : after? ['[', ']'] (Text.skipBlank text) with
  | some rest =>
      have : rest.length < text.length := length_lt_of_after?_skipBlank h
      parseBrackets (.array type) rest
  | none => (type, Text.skipBlank text)
termination_by text.length

theorem parseBrackets_length_le (type : TypeRef) (text : List Char) :
    (parseBrackets type text).2.length ≤ text.length := by
  fun_induction parseBrackets type text with
  | case1 type text rest h _ ih =>
      exact Nat.le_trans ih (Nat.le_of_lt (length_lt_of_after?_skipBlank h))
  | case2 type text h => exact Text.skipBlank_length_le text

def withBrackets {text : List Char} (type : TypeRef) (rest : List Char)
    (h : rest.length < text.length) : Parsed TypeRef text :=
  let result := parseBrackets type rest
  ⟨result.1, result.2, Nat.lt_of_le_of_lt (parseBrackets_length_le type rest) h⟩

mutual

/-- Reads a type or wildcard from the front of a text. -/
def parseType (size : Nat) (text : List Char) : Except TypeSyntaxError (Parsed TypeRef text) :=
  have hblank := Text.skipBlank_length_le text
  match h : Text.skipBlank text with
  | '?' :: rest =>
      have hrest : rest.length < text.length := length_lt_of_skipBlank h
      if (after? "super".toList (Text.skipBlank rest)).isSome then
        throw .superBound
      else
        match hextends : after? "extends".toList (Text.skipBlank rest) with
        | some boundText => do
            have hbound : boundText.length < text.length :=
              Nat.lt_trans (length_lt_of_after?_skipBlank hextends) hrest
            let bound ← parseType size boundText
            pure ⟨.extending bound.value, bound.rest, Nat.lt_trans bound.shorter hbound⟩
        | none => pure ⟨.anything, rest, hrest⟩
  | body => do
      have hbody : body.length ≤ text.length := h ▸ hblank
      let name ← parseName size body
      have hname : name.rest.length < text.length := Nat.lt_of_lt_of_le name.shorter hbody
      match Primitive.ofKeyword? name.value with
      | some base => pure (withBrackets (.primitive base) name.rest hname)
      | none =>
          match hangle : Text.skipBlank name.rest with
          | '<' :: inner =>
              have hlt : inner.length < text.length :=
                Nat.lt_trans (length_lt_of_skipBlank hangle) hname
              let arguments ← parseArguments size inner
              have hrest := Nat.lt_trans arguments.shorter hlt
              pure (withBrackets (.declared name.value arguments.value) arguments.rest hrest)
          | _ => pure (withBrackets (.declared name.value []) name.rest hname)
termination_by (text.length, 0)

/-- Reads type arguments up to and including the closing angle bracket. -/
def parseArguments (size : Nat) (text : List Char) :
    Except TypeSyntaxError (Parsed (List TypeRef) text) := do
  let first ← parseType size text
  match h : Text.skipBlank first.rest with
  | ',' :: rest =>
      have hrest : rest.length < text.length :=
        Nat.lt_trans (length_lt_of_skipBlank h) first.shorter
      let others ← parseArguments size rest
      pure ⟨first.value :: others.value, others.rest, Nat.lt_trans others.shorter hrest⟩
  | '>' :: rest =>
      pure ⟨[first.value], rest, Nat.lt_trans (length_lt_of_skipBlank h) first.shorter⟩
  | _ => throw .argumentsUnclosed
termination_by (text.length, 1)

end

def parse (text : String) : Except TypeSyntaxError TypeRef := do
  let parsed ← parseType text.utf8ByteSize text.toList
  match Text.skipBlank parsed.rest with
  | [] => if parsed.value.isWildcard then throw .bareWildcard else pure parsed.value
  | rest => throw (.trailing (String.ofList rest))

end TypeRef

end BundleBinding
