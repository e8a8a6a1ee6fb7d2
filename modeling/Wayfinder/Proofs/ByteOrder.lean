/-
This file proves that texts are ordered like their bytes. In UTF-8 a character is a first byte and
some bytes that continue it. A longer form has a greater first byte; in two forms of one length the
bytes are the digits of the codes in base 64, the high ones first. So the bytes of two different
characters differ before either of them ends, and in the direction of the characters; and the bytes
of two texts are compared as the texts are.
-/
import Mathlib.Algebra.Group.Nat.Defs
import Wayfinder.Proofs.Framing

namespace Wayfinder.Text

/-! ### One character as a number in base 64 -/

/-- How many bytes follow the first one in the form of a code. -/
def followers (code : Nat) : Nat :=
  if code ≤ 0x7f then 0 else if code ≤ 0x7ff then 1 else if code ≤ 0xffff then 2 else 3

/-- The mark of the first byte, by the number of bytes that follow it. -/
def mark : Nat → Nat
  | 0 => 0
  | 1 => 0xc0
  | 2 => 0xe0
  | _ => 0xf0

/-- The first byte of a code, as a number: the highest digit and the mark. -/
def lead (code : Nat) : Nat :=
  code / 64 ^ followers code + mark (followers code)

/-- The bytes for the last digits of a code in base 64, the high ones first. -/
def continuation : Nat → Nat → List UInt8
  | 0, _ => []
  | count + 1, code => UInt8.ofNat (code / 64 ^ count % 64 + 128) :: continuation count code

/-- The four lengths of a form, each with the codes that have it and their first byte. -/
theorem followers_cases (code : Nat) :
    code ≤ 0x7f ∧ followers code = 0 ∧ lead code = code ∨
      0x7f < code ∧ code ≤ 0x7ff ∧ followers code = 1 ∧ lead code = code / 64 + 0xc0 ∨
      0x7ff < code ∧ code ≤ 0xffff ∧ followers code = 2 ∧ lead code = code / 4096 + 0xe0 ∨
      0xffff < code ∧ followers code = 3 ∧ lead code = code / 262144 + 0xf0 := by
  unfold lead followers
  repeat' split
  all_goals simp only [mark, true_and]; omega

theorem toNat_lt (character : Char) : character.toNat < 0x110000 := by
  rcases character.valid with low | ⟨_, high⟩
  · exact Nat.lt_trans low (by decide)
  · exact high

/-- The form of a character is its first byte and the bytes for the digits below. -/
theorem utf8EncodeChar_eq (character : Char) :
    String.utf8EncodeChar character =
      UInt8.ofNat (lead character.toNat) ::
        continuation (followers character.toNat) character.toNat := by
  have bound := toNat_lt character
  unfold String.utf8EncodeChar lead followers
  simp only [Char.toNat_val]
  split
  · simp [mark, continuation]
  split
  · have digit : character.toNat / 64 % 32 = character.toNat / 64 := by omega
    simp [mark, continuation, digit]
  split
  · have digit : character.toNat / 4096 % 16 = character.toNat / 4096 := by omega
    simp [mark, continuation, digit]
  · have digit : character.toNat / 262144 % 8 = character.toNat / 262144 := by omega
    simp [mark, continuation, digit]

/-! ### The order of two characters -/

/-- The greater code has no shorter form. -/
theorem followers_le_of_lt {low high : Nat} (before : low < high) :
    followers low ≤ followers high := by
  have lowForm := followers_cases low
  have highForm := followers_cases high
  omega

/-- The longer form has the greater first byte. -/
theorem lead_lt_of_followers_lt {low high : Nat} (shorter : followers low < followers high) :
    lead low < lead high := by
  have lowForm := followers_cases low
  have highForm := followers_cases high
  omega

theorem lead_lt {code : Nat} (bound : code < 0x110000) : lead code < 256 := by
  have form := followers_cases code
  omega

/-- Two lists of bytes are ordered like their first bytes, or like what follows the same one. -/
theorem lex_ofNat_cons {low high : Nat} (byte : high < 256) {rest others : List UInt8}
    (before : low < high ∨ low = high ∧ List.Lex (· < ·) rest others) :
    List.Lex (· < ·) (UInt8.ofNat low :: rest) (UInt8.ofNat high :: others) := by
  rcases before with less | ⟨rfl, later⟩
  · refine .rel ?_
    rw [UInt8.lt_iff_toNat_lt, UInt8.toNat_ofNat_of_lt' byte,
      UInt8.toNat_ofNat_of_lt' (Nat.lt_trans less byte)]
    exact less
  · exact .cons later

/-- The smaller of two numbers has the smaller quotient, or the same one and the smaller rest. -/
theorem div_lt_or_mod_lt (base : Nat) {low high : Nat} (before : low < high) :
    low / base < high / base ∨ low / base = high / base ∧ low % base < high % base := by
  rcases Nat.lt_or_eq_of_le (Nat.div_le_div_right (Nat.le_of_lt before)) with less | same
  · exact Or.inl less
  · refine Or.inr ⟨same, ?_⟩
    have lowParts := Nat.div_add_mod low base
    have highParts := Nat.div_add_mod high base
    rw [same] at lowParts
    omega

/-- The bytes for as many last digits are ordered like the numbers that the digits make. -/
theorem continuation_lex (count : Nat) {low high : Nat}
    (before : low % 64 ^ count < high % 64 ^ count) (front back : List UInt8) :
    List.Lex (· < ·) (continuation count low ++ front) (continuation count high ++ back) := by
  induction count with
  | zero => omega
  | succ count inductionHypothesis =>
    rw [Nat.pow_succ] at before
    have parts := div_lt_or_mod_lt (64 ^ count) before
    rw [Nat.mod_mul_right_div_self, Nat.mod_mul_right_div_self, Nat.mod_mul_right_mod,
      Nat.mod_mul_right_mod] at parts
    refine lex_ofNat_cons (by omega) ?_
    rcases parts with less | ⟨same, rest⟩
    · exact Or.inl (Nat.add_lt_add_right less 128)
    · exact Or.inr ⟨congrArg (· + 128) same, inductionHypothesis rest⟩

/-- The bytes of the lower of two characters come first, whatever follows the two. -/
theorem utf8EncodeChar_lex {first second : Char} (before : first < second)
    (front back : List UInt8) :
    List.Lex (· < ·) (String.utf8EncodeChar first ++ front)
      (String.utf8EncodeChar second ++ back) := by
  have codes : first.toNat < second.toNat := before
  rw [utf8EncodeChar_eq, utf8EncodeChar_eq, List.cons_append, List.cons_append]
  refine lex_ofNat_cons (lead_lt (toNat_lt second)) ?_
  rcases Nat.lt_or_eq_of_le (followers_le_of_lt codes) with shorter | same
  · exact Or.inl (lead_lt_of_followers_lt shorter)
  · rw [lead, lead, same]
    rcases div_lt_or_mod_lt (64 ^ followers second.toNat) codes with less | ⟨sameLead, rest⟩
    · exact Or.inl (Nat.add_lt_add_right less _)
    · exact Or.inr ⟨congrArg (· + _) sameLead, continuation_lex _ rest front back⟩

/-! ### The order of two texts -/

/-- Characters are ordered like their bytes: up to the first two that differ the bytes are the same,
and there those of the lower one come first, whatever follows. -/
theorem flatMap_utf8EncodeChar_lex {first second : List Char}
    (before : List.Lex (· < ·) first second) :
    List.Lex (· < ·) (first.flatMap String.utf8EncodeChar)
      (second.flatMap String.utf8EncodeChar) := by
  induction before with
  | @nil character rest =>
    rw [List.flatMap_cons, utf8EncodeChar_eq, List.cons_append]
    exact .nil
  | rel less => exact utf8EncodeChar_lex less _ _
  | cons _ inductionHypothesis => exact List.append_left_lt inductionHypothesis

theorem bytes_lex_of_lt {first second : String} (before : first < second) :
    List.Lex (· < ·) (bytes first) (bytes second) := by
  rw [bytes_eq_flatMap, bytes_eq_flatMap]
  exact flatMap_utf8EncodeChar_lex before

/-- The bytes of two texts are ordered like the texts. -/
theorem bytes_lex_iff (first second : String) :
    List.Lex (· < ·) (bytes first) (bytes second) ↔ first < second := by
  refine ⟨fun before => Decidable.byContradiction fun notBefore => ?_, bytes_lex_of_lt⟩
  by_cases same : first = second
  · subst same
    exact List.lt_irrefl _ before
  · have after : second < first := Decidable.byContradiction fun notAfter => same
      (String.le_antisymm (String.not_lt.1 notAfter) (String.not_lt.1 notBefore))
    exact List.lt_asymm before (bytes_lex_of_lt after)

end Wayfinder.Text
