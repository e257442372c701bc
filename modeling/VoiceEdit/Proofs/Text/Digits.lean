import Mathlib.Algebra.GroupWithZero.Nat
import VoiceEdit.Substitution

/-!
# Values of digits

* `digitsValue_append`: the value of digits written one after the other.
* `toNat_of_isDigit`, `digit_eq_iff`, `forall_digits`: a digit and its value.
* `Writes`, `writes_ofNat`: every number is written in decimal digits.
* `isTens_iff`, `isUnit_iff`: what the two tests say of digits.
-/
namespace VoiceEdit

namespace Text

theorem digitsValue_cons (n : Nat) (c : Char) (rest : Text) :
    digitsValue n (c :: rest) = digitsValue (10 * n + (c.toNat - '0'.toNat)) rest := by
  simp only [digitsValue, List.foldl_cons]

/-- The value of digits read after others. -/
theorem digitsValue_eq (n : Nat) (t : Text) :
    digitsValue n t = n * 10 ^ t.length + digitsValue 0 t := by
  induction t generalizing n with
  | nil => simp [digitsValue]
  | cons c rest ih =>
    have hzero := ih (c.toNat - '0'.toNat)
    have hsucc := ih (10 * n + (c.toNat - '0'.toNat))
    rw [digitsValue_cons, digitsValue_cons, Nat.mul_zero, Nat.zero_add, hzero, hsucc, Nat.add_mul,
      List.length_cons, Nat.pow_succ, Nat.mul_comm 10 n, Nat.mul_assoc, Nat.mul_comm 10, Nat.add_assoc]

theorem digitsValue_append (a b : Text) :
    digitsValue 0 (a ++ b) = digitsValue 0 a * 10 ^ b.length + digitsValue 0 b := by
  rw [← digitsValue_eq, digitsValue, digitsValue, digitsValue, List.foldl_append]

@[simp] theorem digitsValue_nil (n : Nat) : digitsValue n [] = n := rfl

theorem digitsValue_singleton (c : Char) : digitsValue 0 [c] = c.toNat - '0'.toNat := by
  simp [digitsValue]

/-- A row of digits, possibly empty. -/
def IsDigits (t : Text) : Prop := ∀ c ∈ t, c.isDigit = true

instance (t : Text) : Decidable (IsDigits t) :=
  decidable_of_iff (t.all Char.isDigit = true) List.all_eq_true

theorem isDigits_append {a b : Text} : IsDigits (a ++ b) ↔ IsDigits a ∧ IsDigits b := by
  simp only [IsDigits, List.mem_append]
  constructor
  · exact fun h => ⟨fun c hc => h c (.inl hc), fun c hc => h c (.inr hc)⟩
  · rintro ⟨ha, hb⟩ c (hc | hc)
    · exact ha c hc
    · exact hb c hc

theorem isDecimal_iff {t : Text} : isDecimal t = true ↔ t ≠ [] ∧ IsDigits t := by
  simp [isDecimal, IsDigits]

theorem isDigits_ofNat (n : Nat) : IsDigits (ofNat n) :=
  fun _ => Nat.isDigit_of_mem_toDigits (by decide) (by decide)

theorem isDecimal_ofNat (n : Nat) : isDecimal (ofNat n) = true :=
  isDecimal_iff.2 ⟨Nat.toDigits_ne_nil, isDigits_ofNat n⟩

/-! ## One digit -/

/-- The code of a digit is its value further than that of `0`. -/
theorem toNat_of_isDigit {c : Char} (h : c.isDigit = true) :
    c.toNat = '0'.toNat + digitsValue 0 [c] ∧ digitsValue 0 [c] ≤ 9 := by
  have hzero : '0'.toNat = 48 := rfl
  simp only [Char.isDigit, Bool.and_eq_true, decide_eq_true_eq] at h
  have hlow : 48 ≤ c.toNat := h.1
  have hhigh : c.toNat ≤ 57 := h.2
  rw [digitsValue_singleton]
  omega

/-- Digits of one value are one digit. -/
theorem digit_eq_iff {c c' : Char} (h : c.isDigit = true) (h' : c'.isDigit = true) :
    c = c' ↔ digitsValue 0 [c] = digitsValue 0 [c'] := by
  have hc := toNat_of_isDigit h
  have hc' := toNat_of_isDigit h'
  rw [← Char.toNat_inj]
  omega

theorem digitsValue_zero : digitsValue 0 ['0'] = 0 := by decide

theorem digitsValue_one : digitsValue 0 ['1'] = 1 := by decide

theorem isDecimal_singleton {c : Char} (h : c.isDigit = true) : isDecimal [c] = true := by
  simp [isDecimal, h]

theorem digitChar_of_isDigit {c : Char} (h : c.isDigit = true) :
    Nat.digitChar (digitsValue 0 [c]) = c := by
  have hc := toNat_of_isDigit h
  have hzero : '0'.toNat = 48 := rfl
  apply Char.toNat_inj.1
  rw [Nat.toNat_digitChar_of_lt_ten (by omega)]
  omega

/-- What holds of the ten digits holds of every digit. -/
theorem forall_digits {P : Char → Prop} (h : ∀ k < 10, P (Nat.digitChar k)) {c : Char}
    (hc : c.isDigit = true) : P c := by
  have hvalue := (toNat_of_isDigit hc).2
  rw [← digitChar_of_isDigit hc]
  exact h _ (by omega)

theorem digitsValue_digitChar : ∀ k < 10, digitsValue 0 [Nat.digitChar k] = k := by decide

/-- A number in decimal digits has its value. -/
theorem digitsValue_ofNat (n : Nat) : digitsValue 0 (ofNat n) = n := by
  induction n using Nat.strongRecOn with
  | ind n ih =>
    by_cases hn : n < 10
    · rw [ofNat, Nat.toDigits_of_lt_base hn, digitsValue_digitChar n hn]
    · have hdigit : n % 10 < 10 := Nat.mod_lt n (by omega)
      have hsplit : ofNat n = ofNat (n / 10) ++ [Nat.digitChar (n % 10)] := by
        have happend := Nat.toDigits_append_toDigits (b := 10) (n := n / 10) (d := n % 10)
          (by omega) (by omega) hdigit
        rw [Nat.div_add_mod, Nat.toDigits_of_lt_base hdigit] at happend
        exact happend.symm
      have hrest := ih (n / 10) (by omega)
      rw [hsplit, digitsValue_append, hrest, digitsValue_digitChar _ hdigit]
      simp only [List.length_singleton]
      omega

/-- Digits write a number, with zeros in front of it or not. -/
structure Writes (digits : Text) (n : Nat) : Prop where
  decimal : isDecimal digits = true
  value : digitsValue 0 digits = n

theorem writes_ofNat (n : Nat) : (ofNat n).Writes n := ⟨isDecimal_ofNat n, digitsValue_ofNat n⟩

theorem digitsValue_le_maxWord {t : Text} (h : digitsValue 0 t ≤ 90) : digitsValue 0 t ≤ maxWord :=
  Nat.le_trans h (by decide)

end Text

namespace Substitution

open Text

variable {d : Text}

theorem isTens_iff (h : isDecimal d = true) : isTens d = true ↔
    20 ≤ digitsValue 0 d ∧ digitsValue 0 d ≤ 90 ∧ digitsValue 0 d % 10 = 0 := by
  have hword := digitsValue_le_maxWord (t := d)
  unfold isTens decimal?
  rw [h, Bool.true_and]
  by_cases hmax : digitsValue 0 d ≤ maxWord
  · simp [hmax, and_assoc]
  · simp only [hmax, decide_false, Bool.false_eq_true, if_false, false_iff]
    exact fun hd => hmax (hword hd.2.1)

theorem isUnit_iff (h : isDecimal d = true) : isUnit d = true ↔
    1 ≤ digitsValue 0 d ∧ digitsValue 0 d ≤ 9 := by
  have hword := digitsValue_le_maxWord (t := d)
  unfold isUnit decimal?
  rw [h, Bool.true_and]
  by_cases hmax : digitsValue 0 d ≤ maxWord
  · simp [hmax]
  · simp only [hmax, decide_false, Bool.false_eq_true, if_false, false_iff]
    exact fun hd => hmax (hword (by omega))

end Substitution

end VoiceEdit
