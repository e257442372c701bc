import Mathlib.Data.List.Induction
import VoiceEdit.EditDistance

/-!
# What the edit distance measures

The distance of two texts is computed row by row, one row for every beginning of the first
text. It is the least number of single characters that have to be put in, taken out or
replaced, one after the other and at any places, to make the second text of the first.

* `editDistance_concat`: the last cell of a row, by its three neighbours.
* `Edit`, `Edits`: one edit, and a number of edits one after the other.
* `editDistance_le_of_edit`: one edit changes a distance by one at most.
* `editDistance_le_iff`: a distance is at most a number if so many edits suffice.
-/
namespace VoiceEdit.Text

/-! ## Rows -/

/-- The row of a text: its distances from the beginnings of `b`, of which the last is all
of `b`. -/
def distanceRow (a b : Text) : List Nat :=
  a.foldl (fun row c => nextRow c b row) (List.range (b.length + 1))

theorem editDistance_eq (a b : Text) : editDistance a b = (distanceRow a b).getLast?.getD 0 := rfl

theorem distanceRow_concat (a b : Text) (c : Char) :
    distanceRow (a ++ [c]) b = nextRow c b (distanceRow a b) := by
  rw [distanceRow, List.foldl_append]
  rfl

theorem length_rowAfter (c : Char) (diagonal left : Nat) {b : Text} {above : List Nat}
    (h : above.length = b.length) : (rowAfter c diagonal left b above).length = b.length := by
  induction b generalizing diagonal left above with
  | nil => cases above <;> rfl
  | cons d rest ih =>
    obtain ⟨up, above, rfl⟩ := List.exists_cons_of_length_eq_add_one h
    simp only [List.length_cons, Nat.add_right_cancel_iff] at h
    simp only [rowAfter, List.length_cons, ih _ _ h]

theorem length_nextRow {c : Char} {b : Text} {row : List Nat} (h : row.length = b.length + 1) :
    (nextRow c b row).length = b.length + 1 := by
  obtain ⟨first, above, rfl⟩ := List.exists_cons_of_length_eq_add_one h
  simp only [List.length_cons, Nat.add_right_cancel_iff] at h
  simp only [nextRow, List.length_cons, length_rowAfter c _ _ h]

theorem length_distanceRow (a b : Text) : (distanceRow a b).length = b.length + 1 := by
  induction a using List.reverseRecOn with
  | nil => exact List.length_range
  | append_singleton a c ih =>
    rw [distanceRow_concat]
    exact length_nextRow ih

/-- The cell at the end of a row that is one longer: the cell above it is `up`, and `diagonal`
and `left` are the rows before it, up to the cells beside it. -/
def cellAfter (c d : Char) (diagonal left : List Nat) (up : Nat) : Nat :=
  if c = d then diagonal.getLast?.getD 0
  else 1 + min (diagonal.getLast?.getD 0) (min (left.getLast?.getD 0) up)

theorem rowAfter_concat (c d : Char) (diagonal left up : Nat) {b : Text} {above : List Nat}
    (h : above.length = b.length) :
    rowAfter c diagonal left (b ++ [d]) (above ++ [up]) = rowAfter c diagonal left b above ++
      [cellAfter c d (diagonal :: above) (left :: rowAfter c diagonal left b above) up] := by
  induction b generalizing diagonal left above with
  | nil =>
    obtain rfl := List.eq_nil_of_length_eq_zero h
    rfl
  | cons e rest ih =>
    obtain ⟨next, above, rfl⟩ := List.exists_cons_of_length_eq_add_one h
    simp only [List.length_cons, Nat.add_right_cancel_iff] at h
    simp only [List.cons_append, rowAfter, ih _ _ h]
    rfl

theorem nextRow_concat (c d : Char) (up : Nat) {b : Text} {row : List Nat}
    (h : row.length = b.length + 1) :
    nextRow c (b ++ [d]) (row ++ [up]) =
      nextRow c b row ++ [cellAfter c d row (nextRow c b row) up] := by
  obtain ⟨first, above, rfl⟩ := List.exists_cons_of_length_eq_add_one h
  simp only [List.length_cons, Nat.add_right_cancel_iff] at h
  simp only [List.cons_append, nextRow, rowAfter_concat c d _ _ up h]

/-- A row of a longer text goes on where that of a shorter one ends. -/
theorem distanceRow_append (a b : Text) (d : Char) :
    distanceRow a (b ++ [d]) = distanceRow a b ++ [editDistance a (b ++ [d])] := by
  obtain ⟨up, hrow⟩ : ∃ up, distanceRow a (b ++ [d]) = distanceRow a b ++ [up] := by
    induction a using List.reverseRecOn with
    | nil =>
      refine ⟨b.length + 1, ?_⟩
      rw [distanceRow, List.length_append, List.length_singleton]
      exact List.range_succ
    | append_singleton a c ih =>
      obtain ⟨up, hup⟩ := ih
      rw [distanceRow_concat, distanceRow_concat, hup, nextRow_concat c d up (length_distanceRow a b)]
      exact ⟨_, rfl⟩
  rw [editDistance_eq, hrow, List.getLast?_concat, Option.getD_some]

/-! ## Cells -/

variable {a b : Text} {c d : Char} {n : Nat}

@[simp] theorem editDistance_nil_left (b : Text) : editDistance [] b = b.length := by
  rw [editDistance_eq, distanceRow, List.foldl_nil, List.range_succ, List.getLast?_concat,
    Option.getD_some]

@[simp] theorem editDistance_nil_right (a : Text) : editDistance a [] = a.length := by
  have hrow : distanceRow a [] = [a.length] := by
    induction a using List.reverseRecOn with
    | nil => rfl
    | append_singleton a c ih =>
      rw [distanceRow_concat, ih, List.length_append]
      rfl
  rw [editDistance_eq, hrow]
  rfl

/-- The distance of two texts that are not empty, by those of texts that are shorter by their
last characters. -/
theorem editDistance_concat (a b : Text) (c d : Char) :
    editDistance (a ++ [c]) (b ++ [d]) =
      if c = d then editDistance a b
      else 1 + min (editDistance a b) (min (editDistance (a ++ [c]) b) (editDistance a (b ++ [d]))) := by
  have hrow := distanceRow_concat a (b ++ [d]) c
  rw [distanceRow_append a, nextRow_concat c d _ (length_distanceRow a b)] at hrow
  rw [editDistance_eq, hrow, List.getLast?_concat, Option.getD_some, cellAfter,
    ← distanceRow_concat]
  rfl

theorem editDistance_comm (a b : Text) : editDistance a b = editDistance b a := by
  induction a using List.reverseRecOn generalizing b with
  | nil => simp
  | append_singleton a c iha =>
    induction b using List.reverseRecOn with
    | nil => simp
    | append_singleton b d ihb =>
      rw [editDistance_concat, editDistance_concat, iha b, ihb, iha (b ++ [d])]
      by_cases hcd : c = d
      · rw [if_pos hcd, if_pos hcd.symm]
      · rw [if_neg hcd, if_neg (Ne.symm hcd)]
        omega

/-! ## Neighbours -/

/-- Whatever they are compared with, one text is further away than another by one at most. -/
def Near (a b : Text) : Prop := ∀ e, editDistance a e ≤ editDistance b e + 1

/-- A text that is longer by a character is further away by one at most, if to leave out the
last character of what it is compared with brings it nearer by one at most. -/
theorem near_concat_of (h : ∀ e d, editDistance a e ≤ editDistance a (e ++ [d]) + 1) (c : Char) :
    Near (a ++ [c]) a := by
  intro e
  induction e using List.reverseRecOn with
  | nil => simp
  | append_singleton e d _ =>
    have hshorter := h e d
    rw [editDistance_concat]
    split
    · exact hshorter
    · omega

theorem editDistance_le_concat_right (a e : Text) (d : Char) :
    editDistance a e ≤ editDistance a (e ++ [d]) + 1 := by
  induction a using List.reverseRecOn generalizing e d with
  | nil =>
    rw [editDistance_nil_left, editDistance_nil_left, List.length_append]
    omega
  | append_singleton a c ih =>
    have hnear := near_concat_of ih c e
    have hshorter := ih e d
    rw [editDistance_concat]
    split
    · exact hnear
    · omega

theorem near_concat (a : Text) (c : Char) : Near (a ++ [c]) a :=
  near_concat_of (editDistance_le_concat_right a) c

theorem concat_near (a : Text) (c : Char) : Near a (a ++ [c]) := by
  intro e
  rw [editDistance_comm a, editDistance_comm (a ++ [c])]
  exact editDistance_le_concat_right e a c

theorem near_replace (a : Text) (c d : Char) : Near (a ++ [c]) (a ++ [d]) := by
  intro e
  induction e using List.reverseRecOn with
  | nil => simp
  | append_singleton e f ih =>
    have hlonger := concat_near a d e
    have hshorter := editDistance_le_concat_right a e f
    rw [editDistance_concat, editDistance_concat]
    split
    · split <;> omega
    · split <;> omega

/-- Texts that are near to each other stay so with one more character. -/
theorem Near.concat (h : Near a b) (c : Char) : Near (a ++ [c]) (b ++ [c]) := by
  intro e
  have hhere := h e
  induction e using List.reverseRecOn with
  | nil =>
    rw [editDistance_nil_right, editDistance_nil_right] at hhere
    rw [editDistance_nil_right, editDistance_nil_right, List.length_append, List.length_append]
    omega
  | append_singleton e d ih =>
    have hbefore := ih (h e)
    have hshorter := h e
    rw [editDistance_concat, editDistance_concat]
    split
    · exact hshorter
    · omega

theorem Near.append (h : Near a b) (e : Text) : Near (a ++ e) (b ++ e) := by
  induction e using List.reverseRecOn with
  | nil => simpa using h
  | append_singleton e c ih =>
    rw [← List.append_assoc, ← List.append_assoc]
    exact ih.concat c

/-! ## Edits -/

/-- One character of a text is put in, taken out or replaced by another. -/
inductive Edit : Text → Text → Prop
  | insert (front back : Text) (c : Char) : Edit (front ++ back) (front ++ c :: back)
  | remove (front back : Text) (c : Char) : Edit (front ++ c :: back) (front ++ back)
  | replace (front back : Text) (c d : Char) : Edit (front ++ c :: back) (front ++ d :: back)

/-- One text becomes another by a number of edits, one after the other. -/
inductive Edits : Nat → Text → Text → Prop
  | none (a : Text) : Edits 0 a a
  | one {n : Nat} {a b e : Text} (first : Edit a b) (others : Edits n b e) : Edits (n + 1) a e

theorem near_of_edit (h : Edit a b) : Near a b := by
  cases h with
  | insert front back c =>
    have hfront := (concat_near front c).append back
    rwa [List.append_assoc] at hfront
  | remove front back c =>
    have hfront := (near_concat front c).append back
    rwa [List.append_assoc] at hfront
  | replace front back c d =>
    have hfront := (near_replace front c d).append back
    rwa [List.append_assoc, List.append_assoc] at hfront

theorem editDistance_self (a : Text) : editDistance a a = 0 := by
  induction a using List.reverseRecOn with
  | nil => rfl
  | append_singleton a c ih => rw [editDistance_concat, if_pos rfl, ih]

theorem editDistance_le_of_edits (h : Edits n a b) : editDistance a b ≤ n := by
  induction h with
  | none a => exact Nat.le_of_eq (editDistance_self a)
  | @one n a b e first others ih =>
    have hnear := near_of_edit first e
    omega

theorem Edit.append (h : Edit a b) (e : Text) : Edit (a ++ e) (b ++ e) := by
  cases h with
  | insert front back c =>
    rw [List.append_assoc, List.append_assoc]
    exact .insert front (back ++ e) c
  | remove front back c =>
    rw [List.append_assoc, List.append_assoc]
    exact .remove front (back ++ e) c
  | replace front back c d =>
    rw [List.append_assoc, List.append_assoc]
    exact .replace front (back ++ e) c d

theorem Edits.append (h : Edits n a b) (e : Text) : Edits n (a ++ e) (b ++ e) := by
  induction h with
  | none a => exact .none (a ++ e)
  | one first _ ih => exact .one (first.append e) ih

theorem edit_concat (a : Text) (c : Char) : Edit a (a ++ [c]) := by
  have h := Edit.insert a [] c
  rwa [List.append_nil] at h

theorem edit_dropLast (a : Text) (c : Char) : Edit (a ++ [c]) a := by
  have h := Edit.remove a [] c
  rwa [List.append_nil] at h

/-- So many edits as the distance says suffice. -/
theorem edits_editDistance (a b : Text) : Edits (editDistance a b) a b := by
  induction a using List.reverseRecOn generalizing b with
  | nil =>
    -- the characters of `b` are put in one by one
    induction b using List.reverseRecOn with
    | nil => exact .none []
    | append_singleton b d ih =>
      rw [editDistance_nil_left] at ih
      rw [editDistance_nil_left, List.length_append]
      exact .one (edit_concat [] d) (ih.append [d])
  | append_singleton a c iha =>
    induction b using List.reverseRecOn with
    | nil =>
      have hrest := iha []
      rw [editDistance_nil_right] at hrest
      rw [editDistance_nil_right, List.length_append]
      exact .one (edit_dropLast a c) hrest
    | append_singleton b d ihb =>
      rw [editDistance_concat]
      split
      · rename_i hcd
        rw [hcd]
        exact (iha b).append [d]
      · rename_i hcd
        -- the least of three numbers is one of them
        rcases Nat.le_total (editDistance a b)
          (min (editDistance (a ++ [c]) b) (editDistance a (b ++ [d]))) with hle | hle
        · rw [Nat.min_eq_left hle, Nat.add_comm]
          exact .one (.replace a [] c d) ((iha b).append [d])
        · rw [Nat.min_eq_right hle]
          rcases Nat.le_total (editDistance (a ++ [c]) b) (editDistance a (b ++ [d])) with hle' | hle'
          · rw [Nat.min_eq_left hle', Nat.add_comm]
            exact .one (edit_concat (a ++ [c]) d) (ihb.append [d])
          · rw [Nat.min_eq_right hle', Nat.add_comm]
            exact .one (edit_dropLast a c) (iha (b ++ [d]))

/-- A distance is at most a number if and only if so many edits suffice, or fewer. -/
theorem editDistance_le_iff : editDistance a b ≤ n ↔ ∃ m ≤ n, Edits m a b :=
  ⟨fun h => ⟨_, h, edits_editDistance a b⟩,
    fun ⟨_, hm, hedits⟩ => Nat.le_trans (editDistance_le_of_edits hedits) hm⟩

end VoiceEdit.Text
