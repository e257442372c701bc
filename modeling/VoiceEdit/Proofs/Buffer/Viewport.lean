import Mathlib.Data.Nat.PSub
import VoiceEdit.Proofs.Buffer.Stepping

/-!
# The viewport follows the cursor

A request that puts the cursor somewhere scrolls to it. Going back, restoring and selecting as a
whole do not, so that the viewport may be left behind the end of a text that has become shorter;
its top and its bottom are lines of the text even then.

* `BringsIntoView`: the requests that scroll to the cursor.
* `inView_reveal`, `showsCursor_of_granted`: after any of them the cursor is in view.
* `ShowsCursor.viewTop_lt`: a viewport that shows the cursor begins within the text.
* `reveal?_eq`, `viewPortBottom?_eq`: no difference of lines is negative.
* `viewPortTop_le_viewPortBottom`: the ends of the viewport, wherever it was left.
* `Reachable.view_follows`: all of it after any run of calls.
-/
namespace VoiceEdit

/-- The commands that put the cursor somewhere and scroll to it. -/
def Editor.scrollingCommands : List EditorCommand :=
  [.scrollPageUp, .scrollPageDown, .cut, .paste, .delete, .format]

/-- The requests that put the cursor somewhere and scroll to it. -/
inductive Editor.BringsIntoView : Editor.Request → Prop
  | moveToLine (line : Nat) : BringsIntoView (.moveToLine line)
  | moveBy (direction : Direction) (count : Nat) : BringsIntoView (.moveBy direction count)
  | moveTo (target : Target) : BringsIntoView (.moveTo target)
  | select (anchor active : Position) : BringsIntoView (.select anchor active)
  | insert (text : Text) : BringsIntoView (.insert text)
  | replace (text : Text) : BringsIntoView (.replace text)
  | run {c : EditorCommand} (h : c ∈ Editor.scrollingCommands) : BringsIntoView (.run c)

namespace Buffer

open Text Position Editor

variable {b b' : Buffer}

/-! ## Differences of lines -/

/-- Scroll as little as brings a line into view, if no difference is negative on the way. -/
def reveal? (b : Buffer) (n : Nat) : Option Buffer :=
  if n < b.viewTop then some { b with viewTop := n }
  else if b.viewTop + viewHeight ≤ n then do
    return { b with viewTop := ← (n + 1).psub viewHeight }
  else some b

/-- The place of the bottom of the viewport, if no difference is negative on the way. -/
def viewPortBottom? (b : Buffer) : Option Position := do
  return ⟨min (← (b.viewTop + viewHeight).psub 1) b.lastLine, 0⟩

/-- Only a line behind the viewport has the height of the viewport subtracted. -/
theorem reveal?_eq (b : Buffer) (n : Nat) : b.reveal? n = some (b.reveal n) := by
  unfold reveal? reveal
  split
  · rfl
  · split
    · rename_i hbehind
      have hheight : viewHeight ≤ n + 1 := by omega
      rw [Nat.psub_eq_sub hheight]
      rfl
    · rfl

/-- The viewport has a line at least. -/
theorem viewPortBottom?_eq (b : Buffer) :
    b.viewPortBottom? = some (b.targetPosition .viewPortBottom) := by
  have hheight : 1 ≤ b.viewTop + viewHeight := by
    unfold viewHeight
    omega
  rw [viewPortBottom?, Nat.psub_eq_sub hheight]
  rfl

/-! ## The ends of the viewport -/

/-- Wherever the viewport was left, its top is not behind its bottom. -/
theorem viewPortTop_le_viewPortBottom (b : Buffer) :
    (b.targetPosition .viewPortTop).line ≤ (b.targetPosition .viewPortBottom).line := by
  show min b.viewTop b.lastLine ≤ min (b.viewTop + viewHeight - 1) b.lastLine
  unfold viewHeight
  omega

/-! ## The cursor in view -/

/-- The line of the cursor is in view. -/
def ShowsCursor (b : Buffer) : Prop := b.InView b.selection.active.line

theorem inView_reveal (b : Buffer) (n : Nat) : (b.reveal n).InView n := by
  unfold reveal InView viewHeight
  split
  · simp only
    omega
  · split
    · simp only
      omega
    · omega

theorem showsCursor_placeCaret (b : Buffer) (p : Position) : (b.placeCaret p).ShowsCursor := by
  have hline : (b.placeCaret p).selection.active.line = p.line := by
    rw [placeCaret_selection]
    rfl
  rw [ShowsCursor, hline]
  exact inView_reveal _ p.line

/-- A viewport that shows the cursor begins with a line of the text. -/
theorem ShowsCursor.viewTop_lt (h : b.ShowsCursor) (hwell : b.WellFormed) :
    b.viewTop < b.lines.length :=
  Nat.lt_of_le_of_lt h.1 hwell.line_lt

theorem showsCursor_moveToLine {n : Nat} (h : b.moveToLine n = .ok b') : b'.ShowsCursor := by
  unfold Buffer.moveToLine at h
  split at h
  · cases h
    exact showsCursor_placeCaret _ _
  · cases h

theorem showsCursor_moveBy {direction : Direction} {count : Nat}
    (h : b.moveBy direction count = .ok b') : b'.ShowsCursor := by
  cases direction <;> simp only [Buffer.moveBy, Except.ok.injEq, reduceCtorEq] at h <;> subst h <;>
    exact showsCursor_placeCaret _ _

theorem showsCursor_select {anchor active : Position} (h : b.select anchor active = .ok b') :
    b'.ShowsCursor := by
  obtain ⟨-, -, rfl⟩ := select_ok h
  rw [ShowsCursor, reveal_selection]
  exact inView_reveal _ active.line

theorem showsCursor_command {c : EditorCommand} (hc : c ∈ scrollingCommands)
    (h : b.command c = .ok b') : b'.ShowsCursor := by
  simp only [scrollingCommands, List.mem_cons, List.not_mem_nil, or_false] at hc
  rcases hc with rfl | rfl | rfl | rfl | rfl | rfl <;> cases h <;>
    exact showsCursor_placeCaret _ _

/-- A command that scrolls is never refused. -/
theorem run_granted {c : EditorCommand} (hc : c ∈ scrollingCommands) (b : Buffer) :
    (b.run c).1 = .ok () := by
  simp only [scrollingCommands, List.mem_cons, List.not_mem_nil, or_false] at hc
  rcases hc with rfl | rfl | rfl | rfl | rfl | rfl <;> rfl

theorem showsCursor_run {c : EditorCommand} (hc : c ∈ scrollingCommands)
    (h : (b.run c).1 = .ok ()) : (b.run c).2.ShowsCursor := by
  unfold Buffer.run at h ⊢
  simp only at h ⊢
  split at h
  · rename_i after hafter
    exact showsCursor_command hc hafter
  · cases h

/-- **One call.** Granted, it leaves the cursor in view if it is one that scrolls. -/
theorem showsCursor_of_granted {q : Editor.Request} (hq : BringsIntoView q) {r : q.Result}
    (h : (editor q b).1 = .ok r) : (editor q b).2.ShowsCursor := by
  have hact : ∀ {granted : Except EditorError Buffer},
      (∀ b', granted = .ok b' → b'.ShowsCursor) →
        (b.act granted).1 = .ok () → (b.act granted).2.ShowsCursor := by
    intro granted hshows hok
    cases granted with
    | ok b' => exact hshows b' rfl
    | error e => cases hok
  unfold editor at h ⊢
  split at h
  · rename_i hfocus
    rw [if_pos hfocus]
    cases hq with
    | moveToLine n => exact hact (fun _ => showsCursor_moveToLine) h
    | moveBy direction count => exact hact (fun _ => showsCursor_moveBy) h
    | moveTo target => exact showsCursor_placeCaret _ _
    | select anchor active => exact hact (fun _ => showsCursor_select) h
    | insert t => exact showsCursor_placeCaret _ _
    | replace t => exact showsCursor_placeCaret _ _
    | run hc => exact showsCursor_run hc h
  · cases h

/-! ## Every run of calls -/

/-- **The viewport follows.** After any run of calls, a granted request that scrolls leaves the
cursor in view and the viewport at a line of the text, and a command that scrolls is granted.
Scrolling and finding the bottom of the viewport take no negative difference. The top and the
bottom of the viewport are lines of the text in this order, to which the cursor can be moved, also
where the viewport was left behind the end of the text. -/
theorem Reachable.view_follows (h : Reachable b) :
    (∀ q, BringsIntoView q → ∀ r, (editor q b).1 = .ok r →
      (editor q b).2.ShowsCursor ∧ (editor q b).2.viewTop < (editor q b).2.lines.length) ∧
    (b.focused = true → ∀ c ∈ scrollingCommands, (editor (.run c) b).1 = .ok ()) ∧
    (∀ (c : Buffer) (n : Nat), c.reveal? n = some (c.reveal n)) ∧
    b.viewPortBottom? = some (b.targetPosition .viewPortBottom) ∧
    (b.targetPosition .viewPortTop).InRow b.lines ∧
    (b.targetPosition .viewPortBottom).InRow b.lines ∧
    (b.targetPosition .viewPortTop).line ≤ (b.targetPosition .viewPortBottom).line ∧
    (b.focused = true → ∀ target ∈ [Target.viewPortTop, .viewPortBottom],
      (editor (.moveTo target) b).1 = .ok () ∧
        (editor (.moveTo target) b).2.selection = .caret (b.targetPosition target)) := by
  have hwell := h.wellFormed
  refine ⟨?_, ?_, reveal?_eq, viewPortBottom?_eq b, ?_, ?_, viewPortTop_le_viewPortBottom b, ?_⟩
  · intro q hq r hgranted
    have hshows := showsCursor_of_granted hq hgranted
    exact ⟨hshows, hshows.viewTop_lt (h.call q).wellFormed⟩
  · intro hfocus c hc
    rw [editor_focused hfocus]
    exact run_granted hc b
  · exact inRow_targetPosition hwell.row hwell.active _
  · exact inRow_targetPosition hwell.row hwell.active _
  · intro hfocus target _
    rw [editor_focused hfocus]
    exact ⟨rfl, placeCaret_selection _ _⟩

/-- Forty lines are put in and taken back, which leaves the viewport behind the end of the text
until the cursor moves. -/
theorem view_follows_stale :
    ∃ b, Reachable b ∧ b.lines = [[]] ∧ b.viewTop = 11 ∧
      (editor (.moveTo .viewPortTop) b).2.selection = .caret .origin ∧
      (editor (.moveTo .viewPortBottom) b).2.selection = .caret .origin ∧
      (editor (.moveBy .down 1) b).2.ShowsCursor ∧ (editor (.moveBy .down 1) b).2.viewTop < 1 := by
  have h := ((Reachable.new []).call (.insert (List.replicate 40 '\n'))).call (.run .undo)
  obtain ⟨hshows, -, -, -, -, -, -, hends⟩ := h.view_follows
  have hgoes := hends (by decide +kernel)
  obtain ⟨hcursor, htop⟩ := hshows (.moveBy .down 1) (.moveBy .down 1) () rfl
  refine ⟨_, h, by decide +kernel, by decide +kernel, ?_, ?_, hcursor, ?_⟩
  · exact (hgoes .viewPortTop (by decide)).2.trans (by decide +kernel)
  · exact (hgoes .viewPortBottom (by decide)).2.trans (by decide +kernel)
  · exact Nat.lt_of_lt_of_eq htop (by decide +kernel)

end Buffer

end VoiceEdit
