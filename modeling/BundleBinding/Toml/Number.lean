import BundleBinding.Toml.Text

/-!
Numbers and times in TOML. No setting takes one, so they are only checked: each reader answers with
the text behind the number or time.
-/

namespace BundleBinding.Toml

/-- Digits, with single underscores between them left out. -/
def readDigits (isDigit : Char → Bool) (text : List Char) : Option (List Char × List Char) := do
  match text with
  | [] => none
  | c :: rest =>
      if !isDigit c then
        none
      else if rest.head? == some '_' then
        let (digits, behind) ← readDigits isDigit (rest.drop 1)
        return (c :: digits, behind)
      else if rest.head?.any isDigit then
        let (digits, behind) ← readDigits isDigit rest
        return (c :: digits, behind)
      else
        return ([c], rest)
termination_by text.length
decreasing_by
  · simp only [List.length_drop, List.length_cons]; omega
  · simp

/-- A decimal number without superfluous zeros in front. -/
def readDecimal : List Char → Option (List Char × List Char)
  | '0' :: rest => some (['0'], rest)
  | text => readDigits Char.isDigit text

/-- Is there a minus sign? And the text behind the sign. -/
def readSign : List Char → Bool × List Char
  | '+' :: rest => (false, rest)
  | '-' :: rest => (true, rest)
  | text => (false, text)

def valueOf (radix : Nat) (digits : List Char) : Nat :=
  digits.foldl (fun value digit => radix * value + (Text.hexDigit? digit).getD 0) 0

def isDigitBelow (radix : Nat) (c : Char) : Bool :=
  (Text.hexDigit? c).any (· < radix)

/-- An integer that 64 bits hold. Another radix than ten is announced, and has no sign. -/
def afterInteger? (text : List Char) : Option (List Char) := do
  let unsigned (radix : Nat) (text : List Char) : Option (List Char) := do
    let (digits, rest) ← readDigits (isDigitBelow radix) text
    if valueOf radix digits < Nat.pow 2 63 then some rest else none
  match text with
  | '0' :: 'x' :: rest => unsigned 16 rest
  | '0' :: 'o' :: rest => unsigned 8 rest
  | '0' :: 'b' :: rest => unsigned 2 rest
  | _ =>
      let (negative, body) := readSign text
      let (digits, rest) ← readDecimal body
      if valueOf 10 digits < Nat.pow 2 63 + (if negative then 1 else 0) then some rest else none

/-- Does `digits · 10 ^ scale` round to no finite number of double precision? -/
def overflows (digits : List Char) (scale : Int) : Bool :=
  let significant := digits.dropWhile (· == '0')
  let magnitude := significant.length + scale
  let limit := Nat.pow 2 1024 - Nat.pow 2 970
  if significant.isEmpty || magnitude < 300 then false
  else if 320 < magnitude then true
  else if 0 ≤ scale then decide (limit ≤ valueOf 10 significant * Nat.pow 10 scale.toNat)
  else decide (limit * Nat.pow 10 (-scale).toNat ≤ valueOf 10 significant)

def readExponent : List Char → Option (Int × List Char)
  | 'e' :: rest => exponent rest
  | 'E' :: rest => exponent rest
  | _ => none
where
  exponent (text : List Char) : Option (Int × List Char) := do
    let (negative, body) := readSign text
    let (digits, rest) ← readDigits Char.isDigit body
    let value : Int := valueOf 10 digits
    return (if negative then -value else value, rest)

/-- A number with a fraction or an exponent, or one of the numbers that are written as words.
Positive numbers must be finite. -/
def afterFloat? (text : List Char) : Option (List Char) := do
  let (negative, body) := readSign text
  match body with
  | 'i' :: 'n' :: 'f' :: rest => return rest
  | 'n' :: 'a' :: 'n' :: rest => return rest
  | _ =>
      let (whole, behind) ← readDecimal body
      let (fraction, exponent, rest) ←
        match behind with
        | '.' :: behind => do
            let (fraction, rest) ← readDigits Char.isDigit behind
            match rest with
            | 'e' :: _ | 'E' :: _ =>
                let (exponent, rest) ← readExponent rest
                pure (fraction, exponent, rest)
            | _ => pure (fraction, 0, rest)
        | _ => do
            let (exponent, rest) ← readExponent behind
            pure ([], exponent, rest)
      if !negative && overflows (whole ++ fraction) (exponent - fraction.length) then none
      else return rest

/-! ### Times -/

def readFixed (width : Nat) (text : List Char) : Option (Nat × List Char) :=
  let digits := text.take width
  if digits.length = width && digits.all Char.isDigit then
    some (valueOf 10 digits, text.drop width)
  else none

def readWithin (low high : Nat) (text : List Char) : Option (Nat × List Char) := do
  let (value, rest) ← readFixed 2 text
  if low ≤ value && value ≤ high then some (value, rest) else none

def after? (mark : Char) : List Char → Option (List Char)
  | c :: rest => if c == mark then some rest else none
  | [] => none

def daysOfMonth (year month : Nat) : Nat :=
  if month = 2 then
    if year % 4 = 0 ∧ (year % 100 ≠ 0 ∨ year % 400 = 0) then 29 else 28
  else if month ∈ [4, 6, 9, 11] then 30
  else 31

def afterDate? (text : List Char) : Option (List Char) := do
  let (year, rest) ← readFixed 4 text
  let (month, rest) ← readWithin 1 12 (← after? '-' rest)
  let (_, rest) ← readWithin 1 (daysOfMonth year month) (← after? '-' rest)
  return rest

/-- The time of a day, with a leap second perhaps and fractions of seconds. -/
def afterTime? (text : List Char) : Option (List Char) := do
  let (_, rest) ← readWithin 0 23 text
  let (_, rest) ← readWithin 0 59 (← after? ':' rest)
  let (_, rest) ← readWithin 0 60 (← after? ':' rest)
  match rest with
  | '.' :: d :: fraction => return if d.isDigit then fraction.dropWhile Char.isDigit else rest
  | _ => return rest

/-- Passes a time zone, if one is given. -/
def afterOffset? (text : List Char) : Option (List Char) := do
  match text with
  | 'Z' :: rest | 'z' :: rest => return rest
  | '+' :: rest | '-' :: rest =>
      let (_, rest) ← readWithin 0 23 rest
      let (_, rest) ← readWithin 0 59 (← after? ':' rest)
      return rest
  | _ => return text

/-- A date with or without the time of the day, or such a time alone. -/
def afterMoment? (text : List Char) : Option (List Char) :=
  match afterDate? text with
  | some rest =>
      match rest with
      | c :: behind =>
          if c == 'T' || c == 't' || c == ' ' then
            match afterTime? behind with
            | some behind => afterOffset? behind
            | none => some rest
          else some rest
      | [] => some rest
  | none => afterTime? text

end BundleBinding.Toml
