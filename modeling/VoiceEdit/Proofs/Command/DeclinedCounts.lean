import VoiceEdit.Proofs.Command.SpokenLines
import VoiceEdit.Proofs.Command.WordOrder

/-!
# Counts that do not apply

In "five line end" the count says nothing of the end of a line, and twelve says nothing of a
page. Such a count is not dropped: in whatever order the words are said, it is the number of a
line to go to, and the other words are followed from there.

* `NoUse`: words that have no use for a count.
* `NoUse.go_eq`: with a count, they are followed after the line is gone to.
* `Tries`: a step of one request at most, and what that request is; `NoUse.asks`: the words ask
  for no movement in their direction.
* `run_number_of_noLine`, `run_onSuccess`: where there is no such line, they are not followed.
* `go_declined_count`: all of it together.
-/
namespace VoiceEdit.Movement

open Editor Program RuleTable

variable {count : Nat} {object : EditorObject} {direction : Direction} {tokens others : List Token}

/-! ## Words without use for a count -/

/-- Words that have no use for a count: an absolute direction, by itself or with an object, and
any direction with a page, a blank line or a tab if the count is nine or more. -/
inductive NoUse (count : Nat) (direction : Direction) : List Token → Prop
  | direction (h : direction.isAbsolute = true) :
      NoUse count direction [.ofCode .direction (code direction)]
  | object (object : EditorObject)
      (h : direction.isAbsolute = true ∨ object ∈ [.page, .blankLine, .tab] ∧ 9 ≤ count) :
      NoUse count direction [.ofCode .objectNoun (code object), .ofCode .direction (code direction)]

theorem coded?_object (kind : TokenKind) (object : EditorObject) :
    (Token.ofCode kind (code object)).coded? EditorObject = some object := by
  cases object <;> rfl

theorem coded?_direction (kind : TokenKind) (direction : Direction) :
    (Token.ofCode kind (code direction)).coded? Direction = some direction := by
  cases direction <;> rfl

theorem goCount_declined (h : direction.isAbsolute = true) :
    goCount [.ofNumber count, .ofCode .direction (code direction)] = .done .declined := by
  simp only [goCount, coded?_direction]
  exact if_pos h

theorem countedStep_declined
    (h : direction.isAbsolute = true ∨ object ∈ [.page, .blankLine, .tab] ∧ 9 ≤ count) :
    countedStep count object direction = .done .declined := by
  unfold countedStep
  split
  · rfl
  · rename_i habsolute
    obtain ⟨hobject, hcount⟩ := h.resolve_left habsolute
    have hlimit : ¬ count < singleStepLimit := Nat.not_lt.2 hcount
    simp only [List.mem_cons, List.not_mem_nil, or_false] at hobject
    rcases hobject with rfl | rfl | rfl <;> exact if_neg hlimit

/-- The rule for a count with such words declines them. -/
theorem NoUse.declined (h : NoUse count direction others) : ∃ action,
    table.action? ((.ofNumber count :: others).map Token.kind) = some action ∧
      action (.ofNumber count :: others) = .done .declined := by
  cases h with
  | direction h => exact ⟨goCount, rfl, goCount_declined h⟩
  | object object h =>
    refine ⟨goCountedObject, rfl, ?_⟩
    simp only [goCountedObject, coded?_object, coded?_direction]
    exact countedStep_declined h

/-! ## Going to the line first -/

theorem NoUse.isWindow (h : NoUse count direction others) : table.IsWindow others := by
  cases h with
  | direction h => exact isWindow_singleton table _
  | object object h => exact ⟨List.cons_ne_nil _ _, rfl⟩

theorem NoUse.inOrder (h : NoUse count direction others) :
    table.InOrder (.ofNumber count :: others) := by
  -- the order of tokens is that of their kinds, which are known
  apply List.pairwise_map.1
  cases h with
  | direction h =>
    show [table.rank .number, table.rank .direction].Pairwise (· ≤ ·)
    decide
  | object object h =>
    show [table.rank .number, table.rank .objectNoun, table.rank .direction].Pairwise (· ≤ ·)
    decide

theorem NoUse.isWindow_count (h : NoUse count direction others) :
    table.IsWindow (.ofNumber count :: others) := by
  cases h <;> exact ⟨List.cons_ne_nil _ _, rfl⟩

theorem NoUse.ranked (h : NoUse count direction others) :
    table.Ranked (.ofNumber count :: others) := by
  -- no kind is missing from the canonical order
  have hnone : 0 ≤ 1 := Nat.zero_le 1
  cases h with
  | direction h => exact ⟨(by decide : [TokenKind.number, .direction].Nodup), hnone⟩
  | object object h => exact ⟨(by decide : [TokenKind.number, .objectNoun, .direction].Nodup), hnone⟩

/-- The order of words with a count is of no importance. -/
theorem NoUse.resolve_perm (h : NoUse count direction others)
    (hperm : tokens.Perm (.ofNumber count :: others)) :
    table.resolve tokens = table.resolve (.ofNumber count :: others) := by
  have hranked := h.ranked
  cases h with
  | direction h => exact resolve_pair hranked hperm rfl
  | object object h =>
    have htriple := resolve_triple hranked hperm rfl rfl []
    rwa [List.append_nil, List.append_nil] at htriple

/-- With a count, the line of that number is gone to, and then the words are followed. -/
theorem NoUse.go_eq (h : NoUse count direction others)
    (hperm : tokens.Perm (.ofNumber count :: others)) :
    go tokens = (go [.ofNumber count]).bind (onSuccess (go others)) := by
  obtain ⟨action, haction, hdeclined⟩ := h.declined
  have hsame : table.outcomeOf tokens = table.outcomeOf (.ofNumber count :: others) := by
    rw [outcomeOf, outcomeOf, carryOut, carryOut, h.resolve_perm hperm]
  exact hsame.trans
    (outcomeOf_declined honest_table h.isWindow_count h.isWindow h.inOrder haction hdeclined)

/-! ## What is asked -/

/-- A step that turns its tokens down, or makes one request with a property. -/
inductive Tries (P : Request → Prop) : EditorProgram Step → Prop
  | invalid : Tries P Step.invalid
  | request (q : Request) (h : P q) : Tries P (Step.ofAction (call q))

section Tries

variable {P : Request → Prop} {p : EditorProgram Step} {window : List Token}

theorem Tries.asks (h : Tries P p) : p.Asks P := by
  cases h with
  | invalid => trivial
  | request q hq =>
    refine ⟨hq, fun r => ?_⟩
    cases r <;> trivial

theorem Tries.never_declined (h : Tries P p) : p.Never fun s => s = .declined := by
  cases h with
  | invalid => exact nofun
  | request q hq =>
    intro r _
    cases r <;> exact nofun

/-- What the action of a window tries is all that the window asks for. -/
theorem Tries.asks_go {action : TokenAction} (hwindow : table.IsWindow window)
    (hin : table.InOrder window) (haction : table.action? (window.map Token.kind) = some action)
    (h : Tries P (action window)) : (go window).Asks P := by
  show (table.outcomeOf window).Asks P
  rw [outcomeOf_window hwindow,
    carryWindow_settled hwindow.nonempty hin haction h.never_declined, bind_assoc]
  exact h.asks.bind fun _ => trivial

end Tries

/-- A request that is no movement in some direction, by whatever count. -/
def Spares (direction : Direction) (q : Request) : Prop := ∀ k, q ≠ .moveBy direction k

theorem tries_jumpToLine (n : Nat) : Tries (Spares direction) (jumpToLine n) := by
  cases n with
  | zero => exact .invalid
  | succ line => exact .request (.moveToLine line) (fun k => nofun)

theorem tries_oneStep (h : direction.isAbsolute = true) :
    Tries (Spares direction) (Step.ofAction (oneStep direction)) := by
  cases direction with
  | up | down | left | right => cases h
  | start => exact .request (.moveTo .lineStart) (fun k => nofun)
  | finish => exact .request (.moveTo .lineEnd) (fun k => nofun)
  | next => exact .request (.run .navigateForward) (fun k => nofun)
  | previous => exact .request (.run .navigateBack) (fun k => nofun)

/-- Of all objects only lines are moved by in the direction that is said. -/
theorem tries_stepByObject (h : object = .line → direction.isAbsolute = true) :
    Tries (Spares direction) (stepByObject object direction) := by
  unfold stepByObject
  split
  · rename_i action haction
    unfold objectStep at haction
    split at haction <;> cases haction
    -- a line up and a line down
    case h_3 | h_5 => exact absurd (h rfl) Bool.false_ne_true
    all_goals exact .request _ (fun k => nofun)
  · exact .invalid

/-- Words that have no use for a count do not move in their direction by a count. -/
theorem NoUse.asks (h : NoUse count direction others) : (go others).Asks (Spares direction) := by
  have hin : table.InOrder others := (List.pairwise_cons.1 h.inOrder).2
  have hwindow := h.isWindow
  cases h with
  | direction h =>
    have htries : Tries (Spares direction) (goDirection [.ofCode .direction (code direction)]) := by
      simp only [goDirection, coded?_direction]
      exact tries_oneStep h
    exact htries.asks_go hwindow hin rfl
  | object object h =>
    have htries : Tries (Spares direction)
        (goObjectDirection
          [.ofCode .objectNoun (code object), .ofCode .direction (code direction)]) := by
      simp only [goObjectDirection, coded?_object, coded?_direction]
      apply tries_stepByObject
      rintro rfl
      exact h.resolve_right fun ⟨hline, _⟩ => absurd hline (by decide)
    exact htries.asks_go hwindow hin rfl

theorem asks_number (n : Nat) : (go [.ofNumber n]).Asks (Spares direction) := by
  have htries : Tries (Spares direction) (goToLine [.ofNumber n]) := tries_jumpToLine n
  exact htries.asks_go (isWindow_singleton table _) (List.pairwise_singleton _ _) rfl

/-! ## Lines that are not there -/

section NoLine

variable {σ : Type} {editor : Handler Editor.interface σ} {s : σ}

/-- What is asked of an editor for the line with a number, counted from 1. -/
def lineRequests : Nat → List Request
  | 0 => []
  | line + 1 => [.moveToLine line]

/-- An editor has no line with a number, counted from 1. -/
def NoLine (editor : Handler Editor.interface σ) (s : σ) (n : Nat) : Prop :=
  ∀ line, n = line + 1 → ∃ target, (editor (.moveToLine line) s).1 = .error (.outOfRange target)

theorem run_number_of_noLine (h : NoLine editor s count) :
    ((go [.ofNumber count]).run editor s).1 = .invalidArgument ∧
      ((go [.ofNumber count]).trace editor s).map Sigma.fst = lineRequests count := by
  cases count with
  | zero =>
    rw [actsOnLine_number.zero]
    exact ⟨rfl, rfl⟩
  | succ line =>
    obtain ⟨target, htarget⟩ := h line rfl
    rw [actsOnLine_number.line]
    refine ⟨?_, rfl⟩
    show Outcome.ofCall (editor (.moveToLine line) s).1 = .invalidArgument
    rw [htarget]
    rfl

/-- What follows an outcome that is no success is nothing. -/
theorem run_onSuccess {p : EditorProgram Outcome} (next : EditorProgram Outcome)
    (h : (p.run editor s).1 ≠ .success) :
    (p.bind (onSuccess next)).run editor s = p.run editor s ∧
      (p.bind (onSuccess next)).trace editor s = p.trace editor s := by
  rw [run_bind, trace_bind, onSuccess, if_neg h]
  exact ⟨rfl, List.append_nil _⟩

theorem run_number_of_length_lt {b : Buffer} (hfocus : b.focused = true)
    (h : count = 0 ∨ b.lines.length < count) :
    (go [.ofNumber count]).run Buffer.editor b = (.invalidArgument, b) := by
  cases count with
  | zero =>
    rw [actsOnLine_number.zero]
    rfl
  | succ line =>
    rw [actsOnLine_number.line]
    apply (Buffer.lineAction_moveToLine hfocus).refuses
    omega

end NoLine

/-- **Counts that do not apply.** Whatever the order of the words, a count that does not apply to
the others is the number of a line that is gone to before the others are followed. If there is
no such line, in an editor or in a buffer, they are not followed. At no time is the count that
of a movement in the direction that is said. -/
theorem go_declined_count (h : NoUse count direction others)
    (hperm : tokens.Perm (.ofNumber count :: others)) :
    go tokens = (go [.ofNumber count]).bind (onSuccess (go others)) ∧
    (∀ {σ : Type} (editor : Handler Editor.interface σ) (s : σ), NoLine editor s count →
      ((go tokens).run editor s).1 = .invalidArgument ∧
        ((go tokens).trace editor s).map Sigma.fst = lineRequests count) ∧
    (∀ b : Buffer, b.focused = true → count = 0 ∨ b.lines.length < count →
      (go tokens).run Buffer.editor b = (.invalidArgument, b)) ∧
    (go tokens).Asks (Spares direction) := by
  rw [h.go_eq hperm]
  refine ⟨rfl, ?_, ?_, ?_⟩
  · intro σ editor s hline
    obtain ⟨houtcome, hrequests⟩ := run_number_of_noLine hline
    have hfailed : ((go [.ofNumber count]).run editor s).1 ≠ .success := by
      rw [houtcome]
      decide
    obtain ⟨hrun, htrace⟩ := run_onSuccess (go others) hfailed
    rw [hrun, htrace]
    exact ⟨houtcome, hrequests⟩
  · intro b hfocus hline
    have hnumber := run_number_of_length_lt hfocus hline
    have hfailed : ((go [.ofNumber count]).run Buffer.editor b).1 ≠ .success := by
      rw [hnumber]
      exact nofun
    rw [(run_onSuccess _ hfailed).1, hnumber]
  · apply (asks_number count).bind
    intro o
    rw [onSuccess]
    split
    · exact h.asks
    · trivial

/-- "Line five end" in a buffer of two lines. -/
theorem go_declined_count_lineEnd :
    let ending := [Token.line, .ofCode .direction "END"]
    let spoken := [Token.line, .ofNumber 5, .ofCode .direction "END"]
    let b := Buffer.ofText "one\ntwo"
    NoUse 5 .finish ending ∧ spoken.Perm (.ofNumber 5 :: ending) ∧
      go spoken = (go [.ofNumber 5]).bind (onSuccess (go ending)) ∧
      (go spoken).run Buffer.editor b = (.invalidArgument, b) := by
  intro ending spoken b
  have hnoUse : NoUse 5 .finish ending := .object .line (.inl rfl)
  have hperm : spoken.Perm (.ofNumber 5 :: ending) := by decide
  obtain ⟨hequation, -, hbuffer, -⟩ := go_declined_count hnoUse hperm
  exact ⟨hnoUse, hperm, hequation, hbuffer b rfl (.inr (by decide))⟩

end VoiceEdit.Movement
