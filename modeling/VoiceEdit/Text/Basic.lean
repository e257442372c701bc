/-!
# Texts

A text is the list of its characters (Unicode scalar values), the unit in which
columns, lengths and distances are counted everywhere in this library.

* `splitAll` / `joinLines`: lines are cut at line feeds and joined by them
  (`joinLines_splitLines`).
* `terminatedLines`: the lines of a text whose last line feed ends a line
  instead of beginning an empty one.
* `dropEndWhile`, `decimal?`, `ofNat`: trimming at the end, and numbers in
  decimal digits.
-/
namespace VoiceEdit

/-- A text: the list of its characters. -/
abbrev Text := List Char

instance : Coe String Text := ⟨String.toList⟩

namespace Text

/-! ## Cutting and joining -/

/-- Put a character in front of the first of some texts. -/
def consHead (c : Char) : List Text → List Text
  | [] => [[c]]
  | t :: rest => (c :: t) :: rest

/-- The stretches of a text between occurrences of a separator, at least one. -/
def splitAll (sep : Char) : Text → List Text
  | [] => [[]]
  | c :: rest => if c = sep then [] :: splitAll sep rest else consHead c (splitAll sep rest)

theorem splitAll_ne_nil (sep : Char) (t : Text) : splitAll sep t ≠ [] := by
  induction t with
  | nil => simp [splitAll]
  | cons c rest ih =>
    simp only [splitAll]
    split
    · simp
    · cases h : splitAll sep rest <;> simp [consHead]

/-- The lines of a text; a final line feed begins an empty last line. -/
def splitLines (t : Text) : List Text := splitAll '\n' t

/-- Lines joined by line feeds. -/
def joinLines (lines : List Text) : Text := List.intercalate ['\n'] lines

/-- The stretches between a separator, joined by it, are the text. -/
theorem intercalate_splitAll (sep : Char) (t : Text) :
    List.intercalate [sep] (splitAll sep t) = t := by
  induction t with
  | nil => rfl
  | cons c rest ih =>
    obtain ⟨head, tail, h⟩ : ∃ head tail, splitAll sep rest = head :: tail :=
      List.exists_cons_of_ne_nil (splitAll_ne_nil sep rest)
    rw [h] at ih
    by_cases hc : c = sep
    · simpa [splitAll, hc, h, List.intercalate] using ih
    · cases tail <;> simp_all [splitAll, consHead, List.intercalate]

/-- A text is its lines, joined. -/
theorem joinLines_splitLines (t : Text) : joinLines (splitLines t) = t :=
  intercalate_splitAll '\n' t

/-- Texts joined by single spaces. -/
def joinWords (words : List Text) : Text := List.intercalate [' '] words

/-- A text without one final carriage return. -/
def dropCarriageReturn (t : Text) : Text :=
  if t.getLast? = some '\r' then t.dropLast else t

/-- Lines ended by a line feed, or by a carriage return and a line feed; text
after the last of them is a line of its own unless it is empty. -/
def terminatedLines (t : Text) : List Text :=
  let pieces := splitLines t
  let rest := pieces.getLast?.getD []
  pieces.dropLast.map dropCarriageReturn ++ if rest.isEmpty then [] else [rest]

/-- A text without the longest ending whose characters satisfy `p`. -/
def dropEndWhile (p : Char → Bool) (t : Text) : Text := (t.reverse.dropWhile p).reverse

/-! ## Numbers -/

/-- A number in decimal digits, without leading zeros. -/
def ofNat (n : Nat) : Text := Nat.toDigits 10 n

/-- The value of a row of decimal digits, read after the value `n`. -/
def digitsValue (n : Nat) (digits : Text) : Nat :=
  digits.foldl (fun n c => 10 * n + (c.toNat - '0'.toNat)) n

/-- Whether a text is a non-empty row of the digits `0` to `9`. -/
def isDecimal (t : Text) : Bool := !t.isEmpty && t.all Char.isDigit

/-- The largest number that a spoken or configured count can name. -/
def maxWord : Nat := Nat.pow 2 64 - 1

/-- The value of a row of decimal digits of at most `maxWord`. -/
def decimal? (t : Text) : Option Nat :=
  if isDecimal t && digitsValue 0 t ≤ maxWord then some (digitsValue 0 t) else none

end Text

end VoiceEdit
