import BundleBinding.Json.Basic

/-!
Numerals of JSON. A numeral without fraction and exponent is an integer while 64 bits hold it. Any
other is a floating-point number: its significand, cut to 64 bits, is rounded to a number, which is
then multiplied or divided by a rounded power of ten.
-/

namespace BundleBinding

structure Numeral where
  negative : Bool
  whole : List Char
  /-- The digits behind the point, if there is one. -/
  fraction : Option (List Char)
  /-- Sign and digits of the exponent, if there is one. -/
  exponent : Option (Bool × List Char)
  deriving Repr

/-- Why a text does not begin with a numeral; `count` characters were read before that showed. -/
inductive NumeralError where
  | ended (count : Nat)
  | invalid (count : Nat)
  deriving Repr, DecidableEq

namespace Numeral

def digitsOf (text : List Char) : List Char × List Char :=
  (text.takeWhile Char.isDigit, text.dropWhile Char.isDigit)

/-- The part of a numeral behind the sign: no digit may follow a leading zero. -/
def scanWhole (count : Nat) (text : List Char) : Except NumeralError (List Char × List Char) :=
  match text with
  | [] => throw (.ended count)
  | '0' :: rest =>
      match rest with
      | c :: _ => if c.isDigit then throw (.invalid (count + 2)) else pure (['0'], rest)
      | [] => pure (['0'], rest)
  | c :: _ => if c.isDigit then pure (digitsOf text) else throw (.invalid (count + 1))

def scanFraction (count : Nat) (text : List Char) :
    Except NumeralError (Option (List Char) × List Char) :=
  match text with
  | '.' :: rest =>
      match digitsOf rest with
      | ([], []) => throw (.ended (count + 1))
      | ([], _) => throw (.invalid (count + 2))
      | (digits, rest) => pure (some digits, rest)
  | _ => pure (none, text)

def scanExponent (count : Nat) (text : List Char) :
    Except NumeralError (Option (Bool × List Char) × List Char) :=
  match text with
  | c :: rest =>
      if c = 'e' ∨ c = 'E' then
        let (negative, signs, rest) :=
          match rest with
          | '+' :: rest => (false, 1, rest)
          | '-' :: rest => (true, 1, rest)
          | _ => (false, 0, rest)
        match digitsOf rest with
        | ([], []) => throw (.ended (count + 1 + signs))
        | ([], _) => throw (.invalid (count + 2 + signs))
        | (digits, rest) => pure (some (negative, digits), rest)
      else pure (none, text)
  | [] => pure (none, text)

def scan (text : List Char) : Except NumeralError (Numeral × List Char) := do
  let (negative, body) :=
    match text with
    | '-' :: rest => (true, rest)
    | _ => (false, text)
  let (whole, rest) ← scanWhole (text.length - body.length) body
  let (fraction, rest) ← scanFraction (text.length - rest.length) rest
  let (exponent, rest) ← scanExponent (text.length - rest.length) rest
  pure (⟨negative, whole, fraction, exponent⟩, rest)

theorem length_digitsOf_snd_le (text : List Char) : (digitsOf text).2.length ≤ text.length :=
  (List.dropWhile_suffix Char.isDigit).length_le

theorem length_scanWhole_lt {count : Nat} {text : List Char} {result : List Char × List Char}
    (h : scanWhole count text = .ok result) : result.2.length < text.length := by
  unfold scanWhole at h
  split at h
  · cases h
  · split at h
    · split at h <;> cases h
      simp
    · cases h
      simp
  · next c rest _ =>
      split at h
      · next hdigit =>
          cases h
          have := (List.dropWhile_suffix (l := rest) Char.isDigit).length_le
          simp only [digitsOf, List.dropWhile_cons, hdigit, List.length_cons, if_true]
          omega
      · cases h

theorem length_scanFraction_le {count : Nat} {text : List Char}
    {result : Option (List Char) × List Char} (h : scanFraction count text = .ok result) :
    result.2.length ≤ text.length := by
  unfold scanFraction at h
  split at h
  · next rest =>
      have hle := length_digitsOf_snd_le rest
      split at h
      · cases h
      · cases h
      · next digits tail hdigits =>
          cases h
          rw [hdigits] at hle
          simp only [List.length_cons] at *
          omega
  · cases h
    simp

theorem length_scanExponent_le {count : Nat} {text : List Char}
    {result : Option (Bool × List Char) × List Char} (h : scanExponent count text = .ok result) :
    result.2.length ≤ text.length := by
  unfold scanExponent at h
  split at h
  · next c rest =>
      split at h
      · split at h
        next negative signs body hbody =>
          have hrest : body.length ≤ rest.length := by
            split at hbody <;> simp_all
          have hle := length_digitsOf_snd_le body
          split at h
          · cases h
          · cases h
          · next digits tail hdigits =>
              cases h
              rw [hdigits] at hle
              simp only [List.length_cons] at *
              omega
      · cases h
        simp
  · cases h
    simp

theorem length_scan_lt {text : List Char} {result : Numeral × List Char}
    (h : scan text = .ok result) : result.2.length < text.length := by
  unfold scan at h
  split at h
  next negative body hbody =>
    have hlength : body.length ≤ text.length := by
      split at hbody <;> simp_all
    simp only [bind, Except.bind] at h
    split at h
    · cases h
    next hwhole =>
    split at h
    · cases h
    next hfraction =>
    split at h
    · cases h
    next hexponent =>
    cases h
    have := length_scanWhole_lt hwhole
    have := length_scanFraction_le hfraction
    have := length_scanExponent_le hexponent
    simp only at *
    omega

def digitValue (c : Char) : Nat :=
  c.toNat - '0'.toNat

def valueOf (digits : List Char) : Nat :=
  digits.foldl (fun value c => 10 * value + digitValue c) 0

/-- The value of the longest run of leading digits that 64 bits hold, continuing from `value`, and
the number of digits behind that run. -/
def cut (value : Nat) : List Char → Nat × Nat
  | [] => (value, 0)
  | c :: digits =>
      let next := 10 * value + digitValue c
      if next < Nat.pow 2 64 then cut next digits else (value, digits.length + 1)

/-- The number `significand * 10 ^ exponent`; none beyond the range. Powers of ten below the range
of numbers are divided out in steps. -/
def scaled? (steps : Nat) (number : Double) (exponent : Int) : Option Double :=
  if exponent.natAbs ≤ 308 then
    let power := Double.powerOfTen exponent.natAbs
    if 0 ≤ exponent then
      let product := number.mulPositive power
      if product.isFinite then some product else none
    else some (number.divPositive power)
  else if number.isZero then some number
  else if 0 ≤ exponent then none
  else
    match steps with
    | 0 => some number
    | steps + 1 => scaled? steps (number.divPositive (Double.powerOfTen 308)) (exponent + 308)

/-- The floating-point value; none beyond the range. -/
def float? (numeral : Numeral) : Option Double :=
  let (leading, dropped) := cut 0 numeral.whole
  let fraction := numeral.fraction.getD []
  let (significand, unread) := cut leading fraction
  let places : Int := dropped - ((fraction.length - unread : Nat) : Int)
  let (negativeExponent, digits) := numeral.exponent.getD (false, [])
  let size := valueOf digits
  let start := Double.ofInt significand
  let magnitude? :=
    if size < Nat.pow 2 31 then
      let exponent : Int := if negativeExponent then places - size else places + size
      scaled? 4 start exponent
    else if significand = 0 ∨ negativeExponent then some (Double.ofInt 0)
    else none
  magnitude?.map (Double.withSign numeral.negative)

/-- The value of a numeral; none beyond the range. A negative zero is a floating-point number. -/
def value? (numeral : Numeral) : Option JsonNumber :=
  match numeral.fraction, numeral.exponent with
  | none, none =>
      let size := valueOf numeral.whole
      if numeral.negative then
        if 0 < size ∧ size ≤ Nat.pow 2 63 then some (.integer (-size))
        else numeral.float?.map .float
      else if size < Nat.pow 2 64 then some (.integer size)
      else numeral.float?.map .float
  | _, _ => numeral.float?.map .float

end Numeral

end BundleBinding
