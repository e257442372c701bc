import Mathlib.Logic.Function.Iterate
import VoiceEdit.Proofs.Buffer.FlatText

/-!
# Moving by characters

To the left and to the right the cursor moves along the text as one piece: a count of
characters is added to its offset or subtracted from it, no further than the ends of the text.

* `walk_eq_iterate`, `offset_walk`: repeated steps add up, also where they stop early.
* `PutsCaret`: a request that leaves nothing but a caret at the place of an offset.
* `putsCaret_right`, `putsCaret_left`: to both sides, by any count.
* `PutsCaret.again`: two movements in one direction are one, but for what is in view;
  `PutsCaret.again_inView`: that too, if the cursor was in view.
* `Reachable.steps_flat`: all of it after any run of calls.
-/
namespace VoiceEdit.Buffer

open Text Position

variable {b : Buffer} {p q : Position}

/-! ## Walks along the text -/

/-- A step that leads nowhere leads nowhere again, so stopping there makes no difference. -/
theorem walk_eq_iterate (step : Position → Position) (count : Nat) (p : Position) :
    walk step count p = step^[count] p := by
  induction count generalizing p with
  | zero => rfl
  | succ count ih =>
    unfold walk
    split
    · rename_i hstay
      exact (Function.iterate_fixed hstay (count + 1)).symm
    · rw [ih, Function.iterate_succ_apply]

/-- A walk does to the offset what its step does, as often as it is told. -/
theorem offset_walk {step : Position → Position} {f : Nat → Nat} {ls : List Text}
    (hrow : ∀ p, p.InRow ls → (step p).InRow ls)
    (hstep : ∀ p, p.InRow ls → (step p).offset ls = f (p.offset ls)) (count : Nat)
    (h : p.InRow ls) : (walk step count p).offset ls = f^[count] (p.offset ls) := by
  rw [walk_eq_iterate]
  induction count generalizing p with
  | zero => rfl
  | succ count ih =>
    rw [Function.iterate_succ_apply, Function.iterate_succ_apply, ih (hrow p h), hstep p h]

theorem iterate_right {length offset : Nat} (h : offset ≤ length) (count : Nat) :
    (fun o => min (o + 1) length)^[count] offset = min (offset + count) length := by
  induction count with
  | zero =>
    show offset = min offset length
    omega
  | succ count ih =>
    rw [Function.iterate_succ_apply', ih]
    omega

theorem iterate_left (offset count : Nat) : (fun o => o - 1)^[count] offset = offset - count := by
  induction count with
  | zero => rfl
  | succ count ih =>
    rw [Function.iterate_succ_apply', ih]
    omega

theorem offset_walk_right (h : p.InRow b.lines) (count : Nat) :
    (walk b.stepRight count p).offset b.lines = min (p.offset b.lines + count) b.text.length := by
  have hle : p.offset b.lines ≤ b.text.length := h.offset_le
  rw [← iterate_right hle]
  exact offset_walk (fun _ => inRow_stepRight) (fun _ => offset_stepRight) count h

theorem offset_walk_left (h : p.InRow b.lines) (count : Nat) :
    (walk b.stepLeft count p).offset b.lines = p.offset b.lines - count := by
  rw [← iterate_left]
  exact offset_walk (fun _ => inRow_stepLeft) (fun _ => offset_stepLeft) count h

/-! ## What is in view -/

/-- A line is in view. -/
def InView (b : Buffer) (n : Nat) : Prop := b.viewTop ≤ n ∧ n < b.viewTop + viewHeight

/-- Of all that has the line of a caret in view, the nearest is chosen. -/
theorem viewTop_placeCaret (b : Buffer) (p : Position) :
    (b.placeCaret p).viewTop = max (min b.viewTop p.line) (p.line + 1 - viewHeight) := by
  unfold placeCaret reveal viewHeight
  split
  · simp only at *
    omega
  · split
    · simp only at *
      omega
    · simp only at *
      omega

/-- A caret put at two places in turn is at the second. -/
theorem placeCaret_placeCaret (b : Buffer) (p q : Position) : (b.placeCaret p).placeCaret q =
    { b.placeCaret q with viewTop := ((b.placeCaret p).placeCaret q).viewTop } := by
  simp only [placeCaret]
  rw [reveal_eq, reveal_eq { b with selection := .caret q },
    reveal_eq { b with selection := .caret p }]

/-- On the way from a line in view, what is in view on the way makes no difference in the end. -/
theorem placeCaret_onTheWay {n : Nat} (hview : b.InView n)
    (hway : n ≤ p.line ∧ p.line ≤ q.line ∨ q.line ≤ p.line ∧ p.line ≤ n) :
    (b.placeCaret p).placeCaret q = b.placeCaret q := by
  obtain ⟨htop, hbottom⟩ := hview
  have hsame : ((b.placeCaret p).placeCaret q).viewTop = (b.placeCaret q).viewTop := by
    rw [viewTop_placeCaret, viewTop_placeCaret b q, viewTop_placeCaret b p]
    unfold viewHeight at *
    omega
  rw [placeCaret_placeCaret, hsame]

/-! ## Requests -/

/-- A granted request that leaves nothing but a caret at the place of an offset, in view. -/
def PutsCaret (b : Buffer) (granted : Except EditorError Unit × Buffer) (offset : Nat) : Prop :=
  ∃ p : Position, p.InRow b.lines ∧ p.offset b.lines = offset ∧ granted = (.ok (), b.placeCaret p)

theorem putsCaret_right (h : b.WellFormed) (hfocus : b.focused = true) (count : Nat) :
    PutsCaret b (editor (.moveBy .right count) b) (min (b.flat.active + count) b.text.length) := by
  rw [editor_focused hfocus]
  have hrow := inRow_walk (fun _ => inRow_stepRight) count h.active
  exact ⟨_, hrow, offset_walk_right h.active count, rfl⟩

theorem putsCaret_left (h : b.WellFormed) (hfocus : b.focused = true) (count : Nat) :
    PutsCaret b (editor (.moveBy .left count) b) (b.flat.active - count) := by
  rw [editor_focused hfocus]
  have hrow := inRow_walk (fun _ => inRow_stepLeft) count h.active
  exact ⟨_, hrow, offset_walk_left h.active count, rfl⟩

/-- The lines and the focus stay, and the cursor is at the offset. -/
theorem PutsCaret.kept {granted : Except EditorError Unit × Buffer} {offset : Nat}
    (h : PutsCaret b granted offset) : granted.2.lines = b.lines ∧
      granted.2.focused = b.focused ∧ granted.2.flat.active = offset := by
  obtain ⟨p, -, rfl, rfl⟩ := h
  refine ⟨placeCaret_lines b p, placeCaret_focused b p, ?_⟩
  rw [flat_placeCaret]

/-- An offset is that of one place only. -/
theorem PutsCaret.selection {granted : Except EditorError Unit × Buffer}
    (h : PutsCaret b granted (p.offset b.lines)) (hp : p.InRow b.lines) :
    granted.2.selection = .caret p := by
  obtain ⟨q, hq, hoffset, rfl⟩ := h
  rw [placeCaret_selection, hq.offset_inj hp hoffset]

/-- Two movements come to the same as one, but for what is in view, and in that too if the
cursor was in view. -/
structure SameMove (b : Buffer) (twice once : Except EditorError Unit × Buffer) : Prop where
  answer : twice.1 = once.1
  buffer : ∃ viewTop, twice.2 = { once.2 with viewTop }
  inView : b.InView b.selection.active.line → twice = once

theorem line_le_of_offset_le (hp : p.InRow b.lines) (h : q.offset b.lines ≤ p.offset b.lines) :
    q.line ≤ p.line := by
  by_contra hlt
  have := hp.offset_lt (Nat.not_le.1 hlt)
  omega

/-- A caret put somewhere on the way to where it is put next might as well be put there at once. -/
theorem PutsCaret.again {first second once : Except EditorError Unit × Buffer} {o o' : Nat}
    (hfirst : PutsCaret b first o) (hsecond : PutsCaret first.2 second o')
    (honce : PutsCaret b once o') (h : b.WellFormed)
    (hway : b.flat.active ≤ o ∧ o ≤ o' ∨ o' ≤ o ∧ o ≤ b.flat.active) : SameMove b second once := by
  obtain ⟨p, hp, rfl, rfl⟩ := hfirst
  obtain ⟨q, hq, rfl, rfl⟩ := hsecond
  obtain ⟨r, hr, hoffset, rfl⟩ := honce
  simp only [placeCaret_lines] at hq hoffset hway
  obtain rfl : r = q := hr.offset_inj hq hoffset
  refine ⟨rfl, ⟨_, placeCaret_placeCaret b p r⟩, ?_⟩
  intro hview
  have hlines : b.selection.active.line ≤ p.line ∧ p.line ≤ r.line ∨
      r.line ≤ p.line ∧ p.line ≤ b.selection.active.line := by
    rcases hway with ⟨hstart, hend⟩ | ⟨hend, hstart⟩
    · exact .inl ⟨line_le_of_offset_le hp hstart, line_le_of_offset_le hr hend⟩
    · exact .inr ⟨line_le_of_offset_le hp hend, line_le_of_offset_le h.active hstart⟩
  rw [placeCaret_onTheWay hview hlines]

/-- **Moving by characters.** After any run of calls a focused buffer has its cursor behind as
many characters as its offset says, and moves it to the right and to the left by adding to and
subtracting from that offset, no further than the ends of the text. Two movements in one
direction are one by the sum, and a movement to the right that does not meet the end of the text
is undone by one to the left. -/
theorem Reachable.steps_flat (h : Reachable b) (hfocus : b.focused = true) :
    b.text.take b.flat.active = b.selection.active.textBefore b.lines ∧
    b.flat.active ≤ b.text.length ∧
    (∀ count, PutsCaret b (editor (.moveBy .right count) b)
      (min (b.flat.active + count) b.text.length)) ∧
    (∀ count, PutsCaret b (editor (.moveBy .left count) b) (b.flat.active - count)) ∧
    (∀ direction ∈ [Direction.left, .right], ∀ m n, SameMove b
      (editor (.moveBy direction n) (editor (.moveBy direction m) b).2)
      (editor (.moveBy direction (m + n)) b)) ∧
    (∀ count, b.flat.active + count ≤ b.text.length →
      (editor (.moveBy .left count) (editor (.moveBy .right count) b).2).2.selection =
        .caret b.selection.active) := by
  have hwell := h.wellFormed
  have hle : b.flat.active ≤ b.text.length := hwell.active.offset_le
  have hright := putsCaret_right hwell hfocus
  have hleft := putsCaret_left hwell hfocus
  refine ⟨hwell.active.take_offset, hle, hright, hleft, ?_, ?_⟩
  · intro direction hdirection m n
    simp only [List.mem_cons, List.not_mem_nil, or_false] at hdirection
    rcases hdirection with rfl | rfl
    · obtain ⟨-, hfocused, hactive⟩ := (hleft m).kept
      have hsecond := putsCaret_left (h.call _).wellFormed (hfocused.trans hfocus) n
      rw [hactive, Nat.sub_sub] at hsecond
      exact (hleft m).again hsecond (hleft (m + n)) hwell (.inr ⟨by omega, by omega⟩)
    · obtain ⟨hlines, hfocused, hactive⟩ := (hright m).kept
      have hsecond := putsCaret_right (h.call _).wellFormed (hfocused.trans hfocus) n
      have hsum : min (min (b.flat.active + m) b.text.length + n) b.text.length =
          min (b.flat.active + (m + n)) b.text.length := by omega
      have htext : (editor (.moveBy .right m) b).2.text = b.text := congrArg joinLines hlines
      rw [hactive, htext, hsum] at hsecond
      exact (hright m).again hsecond (hright (m + n)) hwell (.inl ⟨by omega, by omega⟩)
  · intro count hcount
    obtain ⟨hlines, hfocused, hactive⟩ := (hright count).kept
    have hback := putsCaret_left (h.call _).wellFormed (hfocused.trans hfocus) count
    have hreturn : min (b.flat.active + count) b.text.length - count =
        b.selection.active.offset b.lines := by
      rw [Nat.min_eq_left hcount, Nat.add_sub_cancel]
      rfl
    rw [hactive, hreturn, ← hlines] at hback
    apply hback.selection
    rw [hlines]
    exact hwell.active

/-- From the first to the second of two lines and back, and further than the text goes. -/
theorem steps_flat_twoLines :
    ∃ b, Reachable b ∧ b.flat = ⟨"ab\ncd".toList, 1, 1, []⟩ ∧
      PutsCaret b (editor (.moveBy .right 3) b) 4 ∧
      PutsCaret b (editor (.moveBy .right (2 ^ 64 - 1)) b) 5 ∧
      (editor (.moveBy .left 3) (editor (.moveBy .right 3) b).2).2.selection = .caret ⟨0, 1⟩ := by
  have h := (Reachable.new "ab\ncd").call (.moveBy .right 1)
  obtain ⟨-, -, hright, -, -, hback⟩ := h.steps_flat (by decide +kernel)
  generalize hb : (editor (.moveBy .right 1) (ofText "ab\ncd")).2 = b at h hright hback
  have hflat : b.flat = ⟨"ab\ncd".toList, 1, 1, []⟩ := by
    rw [← hb]
    decide +kernel
  have hactive : b.flat.active = 1 := congrArg FlatText.active hflat
  have hlength : b.text.length = 5 := congrArg (fun f => f.text.length) hflat
  have hcursor : b.selection.active = ⟨0, 1⟩ := by
    rw [← hb]
    decide +kernel
  rw [hactive, hlength] at hright hback
  rw [hcursor] at hback
  exact ⟨b, h, hflat, hright 3, hright (2 ^ 64 - 1), hback 3 (by omega)⟩

end VoiceEdit.Buffer
