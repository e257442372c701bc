import VoiceEdit.Proofs.Command.DeclinedCounts
import VoiceEdit.Proofs.Command.Extending

/-!
# Absolute jumps

A jump to a line, to an end of a line or of the text, or to an end of what is in view reads the
cursor and the viewport, puts a caret and scrolls to it. From where it leads it leads nowhere
else, and nothing more is scrolled, even where the viewport was beyond the end of the text.

* `Buffer.placeCaret_again`, `Buffer.targetPosition_again`: a jump from where it has led.
* `Buffer.Repeats`: programs whose second run changes nothing and ends as the first one did;
  `Buffer.repeats_jump`: jumps are such.
* `AbsoluteWords`: the words of jumps; `AbsoluteWords.go_perm`, `AbsoluteWords.jumps`: in any order
  they do what a jump does.
* `Movement.go_again`: all of it together.
-/
namespace VoiceEdit

open Editor Program

/-! ## Jumps of a buffer -/

/-- A destination that leads nowhere else from where it is. -/
def Editor.IsSettled (target : Target) : Prop :=
  target ≠ .previousBlankLine ∧ target ≠ .nextBlankLine

instance (target : Target) : Decidable (IsSettled target) := inferInstanceAs (Decidable (_ ∧ _))

/-- A jump is to a line or to a settled destination. -/
inductive Editor.IsJump : EditorAction Unit → Prop
  | moveToLine (line : Nat) : IsJump (moveToLine line)
  | moveTo {target : Target} (h : IsSettled target) : IsJump (moveTo target)

namespace Buffer

variable {b : Buffer} {target : Target} {α β : Type}

/-- A caret that is put where it is scrolls no further. -/
theorem placeCaret_again (b : Buffer) (p : Position) :
    (b.placeCaret p).placeCaret p = b.placeCaret p := by
  have htop : ((b.placeCaret p).placeCaret p).viewTop = (b.placeCaret p).viewTop := by
    rw [viewTop_placeCaret, viewTop_placeCaret]
    omega
  rw [placeCaret_placeCaret, htop]

/-- A settled destination is where it was once it is gone to; so are the top and the bottom of the
viewport, wherever the viewport was. -/
theorem targetPosition_again (b : Buffer) (h : IsSettled target) :
    (b.moveTo target).targetPosition target = b.targetPosition target := by
  have hactive : (b.moveTo target).selection.active = b.targetPosition target := by
    rw [moveTo, placeCaret_selection]
    rfl
  have hlines : (b.moveTo target).lines = b.lines := placeCaret_lines _ _
  have hlast : (b.moveTo target).lastLine = b.lastLine := by rw [lastLine, hlines, lastLine]
  have hline : ∀ n, (b.moveTo target).line n = b.line n := fun n => by rw [line, hlines, line]
  have htop : (b.moveTo target).viewTop = _ := viewTop_placeCaret b (b.targetPosition target)
  cases target with
  | lineStart | lineEnd | lineFirstNonBlank | lineLastNonBlank =>
    simp only [targetPosition, lineLength, hactive, hline]
  | fileStart => rfl
  | fileEnd => simp only [targetPosition, endOfText, lineLength, hlast, hline]
  | viewPortTop =>
    simp only [targetPosition, hlast, viewHeight] at htop ⊢
    rw [htop]
    congr 1
    omega
  | viewPortBottom =>
    -- the bottom is the last line, or as far below the top as before
    simp only [targetPosition, hlast, viewHeight] at htop ⊢
    rw [htop]
    congr 1
    omega
  | previousBlankLine => exact absurd rfl h.1
  | nextBlankLine => exact absurd rfl h.2

theorem moveTo_again (b : Buffer) (h : IsSettled target) :
    (b.moveTo target).moveTo target = b.moveTo target := by
  rw [moveTo, targetPosition_again b h, moveTo, placeCaret_again]

/-- A program whose second run in a row changes nothing and ends as the first one did. -/
def Repeats (p : EditorProgram α) : Prop :=
  ∀ b : Buffer, b.focused = true →
    Program.run editor p (Program.run editor p b).2 = Program.run editor p b

theorem repeats_done (a : α) : Repeats (.done a : EditorProgram α) := fun _ _ => rfl

/-- What a program ends with may be put in other words. -/
theorem Repeats.map {p : EditorProgram α} (hp : Repeats p) (f : α → β) :
    Repeats (p.bind fun a => .done (f a)) := by
  intro b hfocus
  have hmap : ∀ b, Program.run editor (p.bind fun a => .done (f a)) b =
      (f (Program.run editor p b).1, (Program.run editor p b).2) := fun b => run_bind _ _ _ _
  rw [hmap, hmap, hp b hfocus]

/-- A jump puts a caret, or is refused because there is no such line. -/
theorem run_jump {jump : EditorAction Unit} (h : IsJump jump) (hfocus : b.focused = true) :
    (∃ p, Program.run editor (Outcome.ofAction jump) b = (.success, b.placeCaret p)) ∨
      Program.run editor (Outcome.ofAction jump) b = (.invalidArgument, b) := by
  rw [run_ofAction]
  cases h with
  | moveToLine n =>
    rw [run_moveToLine hfocus, moveToLine]
    by_cases hn : n < b.lines.length
    · rw [if_pos hn]
      exact .inl ⟨⟨n, 0⟩, rfl⟩
    · rw [if_neg hn]
      exact .inr rfl
  | @moveTo target _ =>
    rw [run_moveTo hfocus]
    exact .inl ⟨b.targetPosition target, rfl⟩

theorem repeats_jump {jump : EditorAction Unit} (h : IsJump jump) : Repeats jump.run := by
  intro b hfocus
  cases h with
  | moveToLine n =>
    rw [run_moveToLine hfocus]
    by_cases hn : n < b.lines.length
    · have hn' : n < (b.placeCaret ⟨n, 0⟩).lines.length := by rwa [placeCaret_lines]
      have hfocus' : (b.placeCaret ⟨n, 0⟩).focused = true := (placeCaret_focused b _).trans hfocus
      rw [moveToLine, if_pos hn, act, run_moveToLine hfocus', moveToLine, if_pos hn',
        placeCaret_again, act]
    · -- a line that is not there is refused, and nothing is changed
      rw [moveToLine, if_neg hn, act, run_moveToLine hfocus, moveToLine, if_neg hn, act]
  | @moveTo target h =>
    have hfocus' : (b.moveTo target).focused = true := (placeCaret_focused b _).trans hfocus
    rw [run_moveTo hfocus, run_moveTo hfocus', moveTo_again b h]

end Buffer

/-! ## Words for jumps -/

namespace Movement

open RuleTable

variable {b : Buffer} {tokens window : List Token}

/-- The words of a jump: a line number, by itself or with "line", or an end, by itself or of the
line, the file or what is in view. -/
inductive AbsoluteWords : List Token → Prop
  | number (n : Nat) : AbsoluteWords [.ofNumber n]
  | line (n : Nat) : AbsoluteWords [.line, .ofNumber n]
  | direction {direction : Direction} (h : direction ∈ [.start, .finish]) :
      AbsoluteWords [.ofCode .direction (code direction)]
  | object {object : EditorObject} {direction : Direction}
      (hobject : object ∈ [.line, .file, .viewPort]) (h : direction ∈ [.start, .finish]) :
      AbsoluteWords [.ofCode .objectNoun (code object), .ofCode .direction (code direction)]

/-- The order of the words is of no importance. -/
theorem AbsoluteWords.go_perm (h : AbsoluteWords window) (hperm : tokens.Perm window) :
    go tokens = go window := by
  have hsame : ∀ {a b : Token}, tokens.Perm [a, b] → table.Ranked [a, b] →
      go tokens = go [a, b] := by
    intro a b hperm hranked
    rw [go, go, carryOut, carryOut, resolve_pair hranked hperm rfl]
  have hnone : 0 ≤ 1 := Nat.zero_le 1
  cases h with
  | number n => rw [hperm.eq_singleton]
  | line n => exact hsame hperm ⟨(by decide : [TokenKind.objectNoun, .number].Nodup), hnone⟩
  | direction h => rw [hperm.eq_singleton]
  | object hobject h =>
    exact hsame hperm ⟨(by decide : [TokenKind.objectNoun, .direction].Nodup), hnone⟩

/-- A program that jumps, or turns its words down. -/
inductive Jumps : EditorProgram Outcome → Prop
  | invalid : Jumps (.done .invalidArgument)
  | jump {jump : EditorAction Unit} (h : IsJump jump) : Jumps (Outcome.ofAction jump)

theorem jumps_of_actsOnLine {p : Token → EditorProgram Outcome}
    (hp : ActsOnLine p Editor.moveToLine) (n : Nat) : Jumps (p (.ofNumber n)) := by
  cases n with
  | zero =>
    rw [hp.zero]
    exact .invalid
  | succ line =>
    rw [hp.line]
    exact .jump (.moveToLine line)

/-- A settled destination is asked for with one request. -/
theorem jumps_of_ask (target : Target) (h : IsSettled target)
    {next : Except EditorError Unit → EditorProgram Outcome}
    (hnext : ∀ r, next r = .done (.ofCall r)) : Jumps (.ask (.moveTo target) next) := by
  obtain rfl : next = fun r => .done (.ofCall r) := funext hnext
  exact .jump (.moveTo h)

theorem jumps_direction {direction : Direction} (h : direction ∈ [.start, .finish]) :
    Jumps (go [.ofCode .direction (code direction)]) := by
  simp only [List.mem_cons, List.not_mem_nil, or_false] at h
  rcases h with rfl | rfl
  · exact jumps_of_ask .lineStart (by decide) fun r => by cases r <;> rfl
  · exact jumps_of_ask .lineEnd (by decide) fun r => by cases r <;> rfl

theorem jumps_object {object : EditorObject} {direction : Direction}
    (hobject : object ∈ [.line, .file, .viewPort]) (h : direction ∈ [.start, .finish]) :
    Jumps (go [.ofCode .objectNoun (code object), .ofCode .direction (code direction)]) := by
  simp only [List.mem_cons, List.not_mem_nil, or_false] at hobject h
  rcases hobject with rfl | rfl | rfl <;> rcases h with rfl | rfl
  · exact jumps_of_ask .lineFirstNonBlank (by decide) fun r => by cases r <;> rfl
  · exact jumps_of_ask .lineLastNonBlank (by decide) fun r => by cases r <;> rfl
  · exact jumps_of_ask .fileStart (by decide) fun r => by cases r <;> rfl
  · exact jumps_of_ask .fileEnd (by decide) fun r => by cases r <;> rfl
  · exact jumps_of_ask .viewPortTop (by decide) fun r => by cases r <;> rfl
  · exact jumps_of_ask .viewPortBottom (by decide) fun r => by cases r <;> rfl

theorem AbsoluteWords.jumps (h : AbsoluteWords window) : Jumps (go window) := by
  cases h with
  | number n => exact jumps_of_actsOnLine actsOnLine_number n
  | line n => exact jumps_of_actsOnLine actsOnLine_line n
  | direction h => exact jumps_direction h
  | object hobject h => exact jumps_object hobject h

theorem Jumps.repeats {p : EditorProgram Outcome} (h : Jumps p) : Buffer.Repeats p := by
  cases h with
  | invalid => exact Buffer.repeats_done _
  | jump h => exact (Buffer.repeats_jump h).map Outcome.ofCall

/-- A jump puts a caret, or its words are turned down. -/
theorem Jumps.run {p : EditorProgram Outcome} (h : Jumps p) (hfocus : b.focused = true) :
    (∃ place, p.run Buffer.editor b = (.success, b.placeCaret place)) ∨
      p.run Buffer.editor b = (.invalidArgument, b) := by
  cases h with
  | invalid => exact .inr rfl
  | jump h => exact Buffer.run_jump h hfocus

/-- **Absolute jumps.** In a buffer that has the focus, whatever its text, its cursor and its
viewport, the words of a jump, in any order, put a caret, or are turned down and change nothing.
From where they have led they lead to the same place: said again they end as they did before,
and nothing is changed. -/
theorem go_again (h : AbsoluteWords window) (hperm : tokens.Perm window)
    (hfocus : b.focused = true) :
    let once := (go tokens).run Buffer.editor b
    ((∃ place, once = (.success, b.placeCaret place)) ∨ once = (.invalidArgument, b)) ∧
      (go tokens).run Buffer.editor once.2 = once := by
  rw [h.go_perm hperm]
  exact ⟨h.jumps.run hfocus, h.jumps.repeats b hfocus⟩

/-- "End view port", when the lines that were in view have been taken back. -/
theorem go_again_viewPortEnd :
    let b := (Buffer.editor (.run .undo)
      (Buffer.editor (.insert (List.replicate 40 '\n')) (Buffer.ofText "one")).2).2
    let window := [Token.ofCode .objectNoun "VIEW_PORT", .ofCode .direction "END"]
    let once := (go window.reverse).run Buffer.editor b
    b.Reachable ∧ b.focused = true ∧ b.lastLine < b.viewTop ∧ AbsoluteWords window ∧
      window.reverse.Perm window ∧ once.1 = .success ∧ once.2.viewTop ≠ b.viewTop ∧
      (go window.reverse).run Buffer.editor once.2 = once := by
  intro b window once
  have hreachable : b.Reachable := .call (.call (.new "one") _) _
  have hfocus : b.focused = true := by decide +kernel
  have hobject : EditorObject.viewPort ∈ [.line, .file, .viewPort] := by decide
  have hdirection : Direction.finish ∈ [.start, .finish] := by decide
  have hwords : AbsoluteWords window := .object hobject hdirection
  obtain ⟨-, hagain⟩ := go_again hwords (List.reverse_perm window) hfocus
  refine ⟨hreachable, hfocus, by decide +kernel, hwords, List.reverse_perm window, ?_, ?_, hagain⟩
  · decide +kernel
  · decide +kernel

end Movement

end VoiceEdit
