import Mathlib.Algebra.GroupWithZero.Nat
import VoiceEdit.Buffer.Edit

/-!
# Rows of lines

A row of lines is what a text is cut into: at least one line, no line feed in
any of them. Cutting and joining are inverse on rows (`splitLines_joinLines`),
so a text and its row of lines say the same.

* `joinLines_append_cons`: a row may be cut inside any of its lines, and the
  texts of the two parts follow each other.
* `joinLines_surround`: putting lines in at such a cut puts in their text.
* `surround_eq_append`: the line where the lines put in end.
-/
namespace VoiceEdit.Text

/-! ## Joining -/

@[simp] theorem joinLines_singleton (l : Text) : joinLines [l] = l :=
  List.intercalate_singleton

@[simp] theorem joinLines_cons_cons (l m : Text) (ls : List Text) :
    joinLines (l :: m :: ls) = l ++ '\n' :: joinLines (m :: ls) := by
  simp [joinLines, List.intercalate]

/-- A row cut inside a line. -/
theorem joinLines_append_cons (ls ms : List Text) (l m : Text) :
    joinLines (ls ++ (l ++ m) :: ms) = joinLines (ls ++ [l]) ++ joinLines (m :: ms) := by
  induction ls with
  | nil => cases ms <;> simp
  | cons k ks ih =>
    cases ks with
    | nil => cases ms <;> simp
    | cons k' ks => simpa using ih

/-- A row cut behind a line. -/
theorem joinLines_append_singleton (ls : List Text) (l m : Text) :
    joinLines (ls ++ [l ++ m]) = joinLines (ls ++ [l]) ++ m := by
  simpa using joinLines_append_cons ls [] l m

theorem length_joinLines_append (ls : List Text) (l : Text) :
    (joinLines (ls ++ [l])).length = (ls.map fun k => k.length + 1).sum + l.length := by
  induction ls with
  | nil => simp
  | cons k ks ih =>
    have h : joinLines (k :: (ks ++ [l])) = k ++ '\n' :: joinLines (ks ++ [l]) := by
      cases ks <;> simp
    simp [h, ih]
    omega

/-! ## Cutting -/

/-- At least one line, and no line feed in any. -/
def IsRow (ls : List Text) : Prop := ls ≠ [] ∧ ∀ l ∈ ls, '\n' ∉ l

theorem not_mem_of_mem_consHead {c sep : Char} (hc : c ≠ sep) {ls : List Text}
    (h : ∀ l ∈ ls, sep ∉ l) : ∀ l ∈ consHead c ls, sep ∉ l := by
  intro l hl
  cases ls with
  | nil =>
    simp only [consHead, List.mem_singleton] at hl
    subst hl
    simpa using Ne.symm hc
  | cons k ks =>
    rcases List.mem_cons.1 hl with rfl | hl
    · simpa using ⟨Ne.symm hc, h k List.mem_cons_self⟩
    · exact h l (List.mem_cons_of_mem k hl)

theorem not_mem_of_mem_splitAll (sep : Char) (t : Text) : ∀ l ∈ splitAll sep t, sep ∉ l := by
  induction t with
  | nil => simp [splitAll]
  | cons c rest ih =>
    simp only [splitAll]
    split
    · simpa using ih
    · exact not_mem_of_mem_consHead ‹_› ih

/-- What a text is cut into is a row. -/
theorem isRow_splitLines (t : Text) : IsRow (splitLines t) :=
  ⟨splitAll_ne_nil '\n' t, not_mem_of_mem_splitAll '\n' t⟩

theorem splitAll_of_not_mem {sep : Char} {t : Text} (h : sep ∉ t) : splitAll sep t = [t] := by
  induction t with
  | nil => rfl
  | cons c rest ih =>
    have hc : c ≠ sep := fun e => h (e ▸ List.mem_cons_self)
    have hrest : sep ∉ rest := fun m => h (List.mem_cons_of_mem c m)
    simp [splitAll, hc, ih hrest, consHead]

theorem splitAll_append_cons {sep : Char} {t : Text} (h : sep ∉ t) (u : Text) :
    splitAll sep (t ++ sep :: u) = t :: splitAll sep u := by
  induction t with
  | nil => simp [splitAll]
  | cons c rest ih =>
    have hc : c ≠ sep := fun e => h (e ▸ List.mem_cons_self)
    have hrest : sep ∉ rest := fun m => h (List.mem_cons_of_mem c m)
    simp [splitAll, hc, ih hrest, consHead]

/-- Joined and cut again, a row is as it was. -/
theorem splitLines_joinLines {ls : List Text} (h : IsRow ls) : splitLines (joinLines ls) = ls := by
  obtain ⟨hne, hlf⟩ := h
  induction ls with
  | nil => exact absurd rfl hne
  | cons l ms ih =>
    have hl : '\n' ∉ l := hlf l List.mem_cons_self
    cases ms with
    | nil => simpa [splitLines] using splitAll_of_not_mem hl
    | cons m ms =>
      have hms := ih (by simp) fun k hk => hlf k (List.mem_cons_of_mem l hk)
      rw [joinLines_cons_cons, splitLines, splitAll_append_cons hl]
      exact congrArg (l :: ·) hms

/-! ## Putting lines in -/

/-- The text of a row with lines put in at a cut inside one of its lines. -/
theorem joinLines_surround (head tail : Text) {ps : List Text} (hps : ps ≠ []) (ls ms : List Text) :
    joinLines (ls ++ Buffer.surround head tail ps ++ ms) =
      joinLines (ls ++ [head]) ++ joinLines ps ++ joinLines (tail :: ms) := by
  induction ps generalizing ls head with
  | nil => exact absurd rfl hps
  | cons p rest ih =>
    cases rest with
    | nil =>
      have h := joinLines_append_cons ls ms (head ++ p) tail
      rw [joinLines_append_singleton] at h
      simpa [Buffer.surround] using h
    | cons q rest =>
      have hrow : ls ++ Buffer.surround head tail (p :: q :: rest) ++ ms =
          (ls ++ [head ++ p]) ++ Buffer.surround [] tail (q :: rest) ++ ms := by
        simp [Buffer.surround]
      have hfeed : joinLines (ls ++ [head ++ p] ++ [[]]) = joinLines (ls ++ [head]) ++ p ++ ['\n'] := by
        simpa using joinLines_append_cons ls [[]] head p
      rw [hrow, ih [] (by simp), hfeed]
      simp

/-- Lines put in at a cut end in the line that goes on with what was behind the
cut. -/
theorem surround_eq_append (head : Text) {ps : List Text} (hps : ps ≠ []) :
    ∃ ls l, ls.length + 1 = ps.length ∧
      l = (if ps.length = 1 then head else []) ++ ps.getLast?.getD [] ∧
      ∀ tail, Buffer.surround head tail ps = ls ++ [l ++ tail] := by
  induction ps generalizing head with
  | nil => exact absurd rfl hps
  | cons p rest ih =>
    cases rest with
    | nil => exact ⟨[], head ++ p, rfl, by simp, fun tail => by simp [Buffer.surround]⟩
    | cons q rest =>
      obtain ⟨ls, l, hlen, hl, h⟩ := ih [] (by simp)
      refine ⟨(head ++ p) :: ls, l, by simpa using hlen, ?_, fun tail => by simp [Buffer.surround, h]⟩
      simpa using hl

theorem not_mem_surround {head tail : Text} {ps : List Text} (hhead : '\n' ∉ head)
    (htail : '\n' ∉ tail) (hps : ∀ l ∈ ps, '\n' ∉ l) :
    ∀ l ∈ Buffer.surround head tail ps, '\n' ∉ l := by
  induction ps generalizing head with
  | nil => simp_all [Buffer.surround]
  | cons p rest ih =>
    cases rest with
    | nil => simp_all [Buffer.surround]
    | cons q rest =>
      have hnil : '\n' ∉ ([] : Text) := List.not_mem_nil
      have hrest := ih hnil fun l hl => hps l (List.mem_cons_of_mem p hl)
      intro l hl
      rcases List.mem_cons.1 hl with rfl | hl
      · simpa using ⟨hhead, hps p List.mem_cons_self⟩
      · exact hrest l hl

end VoiceEdit.Text
