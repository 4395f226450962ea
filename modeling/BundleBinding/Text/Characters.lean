/-!
Characters by their code points: sets given by closed ranges, as the property tables of Unicode list
them; white space; and hexadecimal digits.
-/

namespace BundleBinding.Text

/-- Closed ranges of code points, ascending and apart. -/
abbrev CodePoints := List (Nat × Nat)

namespace CodePoints

def contains (ranges : CodePoints) (point : Nat) : Bool :=
  ranges.any fun range => range.1 ≤ point && point ≤ range.2

/-- Membership in ranges of which only every second code point, counted from the first, is meant. -/
def containsAlternate (ranges : CodePoints) (point : Nat) : Bool :=
  ranges.any fun range => range.1 ≤ point && point ≤ range.2 && (point - range.1) % 2 == 0

theorem contains_iff {ranges : CodePoints} {point : Nat} :
    ranges.contains point = true ↔ ∃ range ∈ ranges, range.1 ≤ point ∧ point ≤ range.2 := by
  simp [contains]

end CodePoints

/-! ### White space

The property White_Space of Unicode: 25 characters. -/

def blankRanges : CodePoints :=
  [(0x09, 0x0D), (0x20, 0x20), (0x85, 0x85), (0xA0, 0xA0), (0x1680, 0x1680), (0x2000, 0x200A),
   (0x2028, 0x2029), (0x202F, 0x202F), (0x205F, 0x205F), (0x3000, 0x3000)]

def isBlank (c : Char) : Bool :=
  blankRanges.contains c.toNat

def skipBlank (text : List Char) : List Char :=
  text.dropWhile isBlank

theorem skipBlank_length_le (text : List Char) : (skipBlank text).length ≤ text.length :=
  (List.dropWhile_suffix isBlank).length_le

theorem length_lt_of_skipBlank {c : Char} {text rest : List Char} (h : skipBlank text = c :: rest) :
    rest.length < text.length := by
  have hle := skipBlank_length_le text
  rwa [h, List.length_cons] at hle

/-! ### Hexadecimal digits -/

def hexDigit? (c : Char) : Option Nat :=
  if '0' ≤ c ∧ c ≤ '9' then some (c.toNat - '0'.toNat)
  else if 'a' ≤ c ∧ c ≤ 'f' then some (c.toNat - 'a'.toNat + 10)
  else if 'A' ≤ c ∧ c ≤ 'F' then some (c.toNat - 'A'.toNat + 10)
  else none

def hexValue? (digits : List Char) : Option Nat :=
  digits.foldlM (fun value c => (hexDigit? c).map (16 * value + ·)) 0

/-- The character whose code the given number of digits at the front of a text spells. -/
def spelledCode? (digits : Nat) (text : List Char) : Option Char := do
  let code ← hexValue? (text.take digits)
  if text.length < digits then none
  else if code.isValidChar then some (Char.ofNat code)
  else none

end BundleBinding.Text
