import VoiceEdit.Text.Basic

/-!
# Edit distance

* `editDistance a b`: the least number of insertions, deletions and replacements
  of single characters that turn `a` into `b`, computed row by row.
* `isCloseTo expected heard`: the distance is at most a third of the length of
  what was expected, and one error is always forgiven.
-/
namespace VoiceEdit.Text

/-- The cells of a row after its first one: `diagonal` is the cell above the
cell to the left, `left` the cell to the left, `above` the rest of the row above. -/
def rowAfter (c : Char) (diagonal left : Nat) : Text → List Nat → List Nat
  | d :: rest, up :: above =>
    let here := if c = d then diagonal else 1 + min diagonal (min left up)
    here :: rowAfter c up here rest above
  | _, _ => []

/-- The distances of the beginnings of `b` from a text that grew by `c`, given
those before it grew. -/
def nextRow (c : Char) (b : Text) : List Nat → List Nat
  | [] => []
  | first :: above => (first + 1) :: rowAfter c first (first + 1) b above

/-- The least number of single-character edits that turn `a` into `b`. -/
def editDistance (a b : Text) : Nat :=
  (a.foldl (fun row c => nextRow c b row) (List.range (b.length + 1))).getLast?.getD 0

/-- Whether `heard` differs from `expected` by at most a third of its length,
one error being always forgiven. -/
def isCloseTo (expected heard : Text) : Bool :=
  expected == heard || editDistance expected heard ≤ max (expected.length / 3) 1

end VoiceEdit.Text
