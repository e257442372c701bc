import VoiceEdit.Text.Basic

/-!
# Fractions with a fixed number of places

* `roundHalfEven`: a quotient rounded to the nearest integer, a half going to the
  even neighbour.
* `fixed`: a fraction written with a fixed number of decimal places.
* `fractionOf`: the exact value of a finite number that is not negative.
-/
namespace VoiceEdit.Decimal

/-- A quotient rounded to the nearest integer; a half goes to the even one. -/
def roundHalfEven (num den : Nat) : Nat :=
  let q := num / den
  let twice := 2 * (num % den)
  if den < twice ∨ (twice = den ∧ q % 2 = 1) then q + 1 else q

/-- A fraction with a fixed number of decimal places, at least one. -/
def fixed (places num den : Nat) : Text :=
  let unit := Nat.pow 10 places
  let scaled := roundHalfEven (num * unit) den
  let digits := Text.ofNat (scaled % unit)
  Text.ofNat (scaled / unit) ++ ['.'] ++
    List.replicate (places - digits.length) '0' ++ digits

/-- The numerator and denominator of a finite number that is not negative. -/
def fractionOf (x : Float) : Nat × Nat :=
  let bits := x.toBits.toNat
  let exponent := bits / Nat.pow 2 52 % Nat.pow 2 11
  let mantissa := bits % Nat.pow 2 52
  if exponent = 0 then (mantissa, Nat.pow 2 1074)
  else if exponent < 1075 then (mantissa + Nat.pow 2 52, Nat.pow 2 (1075 - exponent))
  else ((mantissa + Nat.pow 2 52) * Nat.pow 2 (exponent - 1075), 1)

end VoiceEdit.Decimal
