/-!
Results of reading from the front of a text. They carry the proof that something was consumed, by
which recursive readers end.
-/

namespace BundleBinding.Text

/-- A value read from the front of a text, with the shorter text behind it. -/
structure Parsed (α : Type) (text : List Char) where
  value : α
  rest : List Char
  shorter : rest.length < text.length

namespace Parsed

variable {α β : Type}

def map {text : List Char} (f : α → β) (parsed : Parsed α text) : Parsed β text :=
  ⟨f parsed.value, parsed.rest, parsed.shorter⟩

/-- A result read behind the beginning of a longer text. -/
def within {inner outer : List Char} (parsed : Parsed α inner) (h : inner.length ≤ outer.length) :
    Parsed α outer :=
  ⟨parsed.value, parsed.rest, Nat.lt_of_lt_of_le parsed.shorter h⟩

end Parsed

/-- What remains of a text that begins with the given word. -/
def after? : (word text : List Char) → Option (List Char)
  | [], text => some text
  | _ :: _, [] => none
  | c :: word, d :: text => if c == d then after? word text else none

theorem length_of_after? {word text rest : List Char} (h : after? word text = some rest) :
    rest.length + word.length = text.length := by
  fun_induction after? word text with
  | case1 text => simp_all
  | case2 => simp at h
  | case3 c word d text _ ih => simp [← ih h]; omega
  | case4 => simp at h

end BundleBinding.Text
