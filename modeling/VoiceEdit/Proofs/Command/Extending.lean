import VoiceEdit.Proofs.Buffer.Stepping
import VoiceEdit.Proofs.Command.RangeSelection
import VoiceEdit.Proofs.Command.SingleCombination

/-!
# Extending a selection

To extend the selection is to move the cursor and to keep the anchor. A motion leaves a caret,
so the anchor is read before it and both ends are selected behind it. The rules of selection and
those of cursor movement are two tables, which agree wherever the former extend.

* `Extends`: a rule of selection that extends by what a rule of movement does, if it is ever
  done; `extends_byDirection`, `extends_byCount`, `extends_toObject`: the rules are such.
* `Buffer.run_extend`: a motion of the active end in a buffer.
* `Follows`: the buffers after moving and after extending.
* `selectTokens_follows_go`: a combination that extends the selection follows the movement.
-/
namespace VoiceEdit

open Editor Program

/-! ## Motions of a buffer -/

/-- A motion is by a count or to a destination. -/
inductive Editor.IsMotion : EditorAction Unit → Prop
  | moveBy (direction : Direction) (count : Nat) : IsMotion (moveBy direction count)
  | moveTo (target : Target) : IsMotion (moveTo target)

/-- What a selection that was extended has in common with a cursor that was moved: all but the
anchor, which is still the one before. -/
structure Follows (before gone selected : Buffer) : Prop where
  anchor : selected.selection.anchor = before.selection.anchor
  active : selected.selection.active = gone.selection.active
  viewTop : selected.viewTop = gone.viewTop
  text : selected.text = gone.text
  others : { selected with selection := gone.selection } = gone

namespace Buffer

variable {b : Buffer} {p : Position} {motion : EditorAction Unit}

/-- A motion puts a caret in the text, or is refused. -/
theorem run_motion (h : b.WellFormed) (hfocus : b.focused = true) (hmotion : IsMotion motion) :
    (∃ p : Position, p.InRow b.lines ∧
      Program.run editor motion.run b = (.ok (), b.placeCaret p)) ∨
    ∃ e, Program.run editor motion.run b = (.error e, b) := by
  have hplaced : ∀ {q : Request} {p : Position}, (editor q b).2 = b.placeCaret p →
      p.InRow b.lines := by
    intro q p hq
    have hactive := (wellFormed_editor h q).active
    rwa [hq, placeCaret_selection, placeCaret_lines] at hactive
  cases hmotion with
  | moveBy direction count =>
    have hrun := editor_focused hfocus (.moveBy direction count)
    cases direction with
    | up | down | left | right => exact .inl ⟨_, hplaced (congrArg Prod.snd hrun), hrun⟩
    | start | finish | next | previous => exact .inr ⟨_, hrun⟩
  | moveTo target =>
    have hrun := editor_focused hfocus (.moveTo target)
    exact .inl ⟨_, hplaced (congrArg Prod.snd hrun), hrun⟩

/-- To select to a caret that is in view scrolls no further. -/
theorem reveal_placeCaret (b : Buffer) (p : Position) (s : Selection) :
    { b.placeCaret p with selection := s }.reveal p.line =
      { b.placeCaret p with selection := s } := by
  have htop := viewTop_placeCaret b p
  unfold reveal viewHeight at *
  simp only [htop]
  split
  · omega
  · split
    · omega
    · rfl

/-- An active end is moved as the cursor is, from the anchor before. -/
theorem run_extend (h : b.WellFormed) (hfocus : b.focused = true) (hp : p.InRow b.lines)
    (hmotion : Program.run editor motion.run b = (.ok (), b.placeCaret p)) :
    Program.run editor (Selecting.extend motion).run b =
      (.ok (), { b.placeCaret p with selection := ⟨b.selection.anchor, p⟩ }) := by
  have hfocused : (b.placeCaret p).focused = true := (placeCaret_focused b p).trans hfocus
  have hanchor : b.selection.anchor.InRow (b.placeCaret p).lines := by
    rw [placeCaret_lines]
    exact h.anchor
  have hactive : p.InRow (b.placeCaret p).lines := by
    rw [placeCaret_lines]
    exact hp
  have hselect := select_of_inRow hanchor hactive
  rw [reveal_placeCaret] at hselect
  rw [Selecting.extend, run_chain, run_selection hfocus]
  simp only
  rw [run_chain, hmotion]
  simp only
  rw [run_chain, run_cursor hfocused]
  simp only [placeCaret_selection, Selection.caret]
  have hact := editor_focused hfocused (.select b.selection.anchor p)
  rw [answer, hselect] at hact
  exact hact

theorem follows_placeCaret (b : Buffer) (p : Position) :
    Follows b (b.placeCaret p) { b.placeCaret p with selection := ⟨b.selection.anchor, p⟩ } where
  anchor := rfl
  active := by rw [placeCaret_selection]; rfl
  viewTop := rfl
  text := rfl
  others := rfl

end Buffer

/-! ## Two tables -/

namespace Selecting

variable {b selected : Buffer} {select go : EditorProgram Step} {tokens window : List Token}

/-- A step of selection is never done, or it is a motion of the active end, by the motion that is
a step of cursor movement. -/
inductive Extends : EditorProgram Step → EditorProgram Step → Prop
  | never {select go : EditorProgram Step} (h : select.Never fun s => s = .done) : Extends select go
  | motion {motion : EditorAction Unit} (h : IsMotion motion) :
    Extends (Step.ofAction (extend motion)) (Step.ofAction motion)

theorem extends_invalid : Extends Step.invalid go := .never fun h => nomatch h

theorem extends_declined : Extends (.done .declined) go := .never fun h => nomatch h

/-- A step that is done in a buffer is followed by the movement. -/
theorem Extends.follows (hsteps : Extends select go) (h : b.WellFormed) (hfocus : b.focused = true)
    (hrun : select.run Buffer.editor b = (.done, selected)) :
    ∃ gone, go.run Buffer.editor b = (.done, gone) ∧ Follows b gone selected := by
  cases hsteps with
  | never hnever =>
    have hruns := runs_trace Buffer.editor select b
    rw [hrun] at hruns
    obtain ⟨-, -, hnothing⟩ := hnever.of_runs hruns rfl
    exact hnothing.elim
  | @motion motion hmotion =>
    rw [Step.ofAction, run_bind] at hrun
    obtain ⟨p, hp, hgo⟩ | ⟨e, hgo⟩ := Buffer.run_motion h hfocus hmotion
    · rw [Buffer.run_extend h hfocus hp hgo] at hrun
      obtain rfl : _ = selected := congrArg Prod.snd hrun
      refine ⟨b.placeCaret p, ?_, Buffer.follows_placeCaret b p⟩
      rw [Step.ofAction, run_bind, hgo]
      rfl
    · -- what is refused to the cursor is refused to the active end
      have hrefused : Program.run Buffer.editor (extend motion).run b = (.error e, b) := by
        rw [extend, run_chain, Buffer.run_selection hfocus]
        simp only
        rw [run_chain, hgo]
      rw [hrefused] at hrun
      cases hrun

theorem extends_byDirection (direction : Token) :
    Extends (extendByDirection [direction]) (Movement.goDirection [direction]) := by
  simp only [extendByDirection, Movement.goDirection]
  cases direction.coded? Direction with
  | none => exact extends_invalid
  | some direction =>
    cases direction with
    | up | down | left | right => exact .motion (.moveBy _ 1)
    | start => exact .motion (.moveTo .lineStart)
    | finish => exact .motion (.moveTo .lineEnd)
    | next | previous => exact extends_invalid

theorem extends_byCount (count direction : Token) :
    Extends (extendByCount [count, direction]) (Movement.goCount [count, direction]) := by
  simp only [extendByCount, Movement.goCount]
  cases count.number? with
  | none => exact extends_invalid
  | some n =>
    cases direction.coded? Direction with
    | none => exact extends_invalid
    | some direction =>
      simp only
      split
      · exact extends_declined
      · exact .motion (.moveBy direction n)

/-- Objects are moved by with motions, except for pages and tabs. -/
theorem isMotion_objectStep {object : EditorObject} {direction : Direction}
    {action : EditorAction Unit} (hpage : object ≠ .page) (htab : object ≠ .tab)
    (h : Movement.objectStep object direction = some action) : IsMotion action := by
  unfold Movement.objectStep at h
  split at h <;> cases h <;>
    first
    | exact .moveBy _ _
    | exact .moveTo _
    | exact absurd rfl hpage
    | exact absurd rfl htab

/-- To move by an object and to select behind it is to extend by what moves. -/
theorem extendByObject_eq {object : EditorObject} {direction : Direction}
    {motion : EditorAction Unit} (h : Movement.stepByObject object direction = Step.ofAction motion)
    (hmotion : IsMotion motion) :
    extendByObject object direction = Step.ofAction (extend motion) := by
  rw [extendByObject, h]
  cases hmotion with
  | moveBy direction count =>
    apply congrArg (Program.ask _)
    funext before
    cases before with
    | error e => rfl
    | ok before =>
      apply congrArg (Program.ask _)
      funext r
      cases r <;> rfl
  | moveTo target =>
    apply congrArg (Program.ask _)
    funext before
    cases before with
    | error e => rfl
    | ok before =>
      apply congrArg (Program.ask _)
      funext r
      cases r <;> rfl

theorem extends_byObject {object : EditorObject} (direction : Direction) (hpage : object ≠ .page)
    (htab : object ≠ .tab) :
    Extends (extendByObject object direction) (Movement.stepByObject object direction) := by
  cases haction : Movement.objectStep object direction with
  | some action =>
    have hmotion := isMotion_objectStep hpage htab haction
    have hstep : Movement.stepByObject object direction = Step.ofAction action := by
      rw [Movement.stepByObject, haction]
    rw [extendByObject_eq hstep hmotion, hstep]
    exact .motion hmotion
  | none =>
    -- the selection is read, and then the object and the direction are turned down
    have hstep : Movement.stepByObject object direction = Step.invalid := by
      rw [Movement.stepByObject, haction]
    refine .never fun r _ => ?_
    cases r with
    | error e => exact nofun
    | ok before =>
      rw [hstep]
      exact nofun

theorem extends_toObject (object direction : Token) :
    Extends (extendToObject [object, direction])
      (Movement.goObjectDirection [object, direction]) := by
  simp only [extendToObject, Movement.goObjectDirection]
  cases object.coded? EditorObject with
  | none => exact extends_invalid
  | some object =>
    cases direction.coded? Direction with
    | none => cases object <;> exact extends_invalid
    | some direction =>
      cases object with
      | page | tab => exact extends_invalid
      | _ => exact extends_byObject direction (by decide) (by decide)

/-! ## Passes of one combination -/

/-- A direction, by itself or with a count or an object before it, whatever they carry. -/
inductive Directed : List Token → Prop
  | direction {direction : Token} (hdirection : direction.kind = .direction) :
    Directed [direction]
  | count {count direction : Token} (hcount : count.kind = .number)
      (hdirection : direction.kind = .direction) : Directed [count, direction]
  | object {object direction : Token} (hobject : object.kind = .objectNoun)
      (hdirection : direction.kind = .direction) : Directed [object, direction]

/-- What the two tables have bound to such tokens. -/
theorem Directed.actions (h : Directed window) : ∃ extension movement : TokenAction,
    table.action? (window.map Token.kind) = some extension ∧
      Movement.table.action? (window.map Token.kind) = some movement ∧
      Extends (extension window) (movement window) := by
  cases h with
  | direction hdirection =>
    simp only [List.map_cons, List.map_nil, hdirection]
    exact ⟨extendByDirection, Movement.goDirection, rfl, rfl, extends_byDirection _⟩
  | count hcount hdirection =>
    simp only [List.map_cons, List.map_nil, hcount, hdirection]
    exact ⟨extendByCount, Movement.goCount, rfl, rfl, extends_byCount _ _⟩
  | object hobject hdirection =>
    simp only [List.map_cons, List.map_nil, hobject, hdirection]
    exact ⟨extendToObject, Movement.goObjectDirection, rfl, rfl, extends_toObject _ _⟩

theorem Directed.isWindow (h : Directed window) (hperm : tokens.Perm window)
    (t : RuleTable TokenAction) : t.IsWindow tokens := by
  cases h with
  | @direction direction hdirection =>
    rw [hperm.eq_singleton]
    exact RuleTable.isWindow_singleton t direction
  | count hcount hdirection =>
    refine RuleTable.isWindow_of_perm ?_ hperm
    rw [hcount, hdirection]
    decide
  | object hobject hdirection =>
    refine RuleTable.isWindow_of_perm ?_ hperm
    rw [hobject, hdirection]
    decide

/-- In both tables a direction comes last. -/
theorem Directed.canonical (h : Directed window) (hperm : tokens.Perm window) :
    table.canonical tokens = window ∧ Movement.table.canonical tokens = window := by
  cases h with
  | direction hdirection =>
    rw [hperm.eq_singleton]
    exact ⟨rfl, rfl⟩
  | count hcount hdirection =>
    refine ⟨RuleTable.canonical_pair ?_ hperm, RuleTable.canonical_pair ?_ hperm⟩
    · rw [hcount, hdirection]
      decide
    · rw [hcount, hdirection]
      decide
  | object hobject hdirection =>
    refine ⟨RuleTable.canonical_pair ?_ hperm, RuleTable.canonical_pair ?_ hperm⟩
    · rw [hobject, hdirection]
      decide
    · rw [hobject, hdirection]
      decide

theorem Directed.kind_ne (h : Directed window) : ∀ t ∈ window, t.kind ≠ .selector := by
  cases h with
  | direction hdirection => simp [hdirection]
  | count hcount hdirection => simp [hcount, hdirection]
  | object hobject hdirection => simp [hobject, hdirection]

/-- Tokens with a direction delimit no range. -/
theorem Directed.selectTokens_eq (h : Directed window) (hperm : tokens.Perm window) :
    selectTokens tokens = table.outcomeOf tokens := by
  have hempty : ¬ tokens.isEmpty = true :=
    mt List.isEmpty_iff.1 (h.isWindow hperm table).nonempty
  have hnone : ¬ tokens.any isDelimiter = true := by
    rw [List.any_eq_true]
    rintro ⟨t, ht, hdelimiter⟩
    rw [isDelimiter, delimiter?, if_neg (h.kind_ne t (hperm.mem_iff.1 ht))] at hdelimiter
    cases hdelimiter
  rw [selectTokens, if_neg hempty, if_neg hnone]
  rfl

/-- **Extending follows moving.** What extends the selection by one combination of a direction,
alone or with a count or an object in either order, also moves the cursor; and but for the anchor,
which is still the one before, it leads to the same. -/
theorem selectTokens_follows_go (h : b.Reachable) (hfocus : b.focused = true)
    (hdirected : Directed window) (hperm : tokens.Perm window)
    (hselect : let r := ((table.carryOut tokens).run Buffer.editor b).1
      r.outcome = .success ∧ r.applied.length = 1) :
    ∃ gone selected, (Movement.go tokens).run Buffer.editor b = (.success, gone) ∧
      (selectTokens tokens).run Buffer.editor b = (.success, selected) ∧
      Follows b gone selected := by
  obtain ⟨hcanonical, hcanonical'⟩ := hdirected.canonical hperm
  obtain ⟨extension, movement, hextension, hmovement, hsteps⟩ := hdirected.actions
  have hwindow := hdirected.isWindow hperm
  obtain ⟨selected, a, hrun⟩ : ∃ selected a,
      (table.carryOut tokens).run Buffer.editor b = (⟨.success, [a]⟩, selected) := by
    obtain ⟨hsuccess, hsingle⟩ := hselect
    obtain ⟨a, happlied⟩ := List.length_eq_one_iff.1 hsingle
    refine ⟨_, a, Prod.ext ?_ rfl⟩
    rw [← hsuccess, ← happlied]
  rw [← hcanonical] at hextension
  obtain ⟨hdone, -⟩ := (RuleTable.carryOut_single_iff (hwindow table) hextension).1 hrun
  rw [hcanonical] at hdone
  obtain ⟨gone, hgone, hfollows⟩ := hsteps.follows h.wellFormed hfocus hdone
  refine ⟨gone, selected, ?_, ?_, hfollows⟩
  · rw [← hcanonical'] at hmovement hgone
    have hmoved := (RuleTable.carryOut_single_iff (hwindow Movement.table) hmovement).2 ⟨hgone, rfl⟩
    rw [Movement.go, run_bind, hmoved]
    rfl
  · rw [hdirected.selectTokens_eq hperm, RuleTable.outcomeOf, run_bind, hrun]
    rfl

/-- "Up one" in a buffer where more than a line is selected. -/
theorem selectTokens_follows_go_up :
    let b := (Buffer.editor (.select ⟨0, 1⟩ ⟨1, 2⟩) (.ofText "one\ntwo")).2
    let tokens := [Token.ofCode .direction "UP", .ofNumber 1]
    b.Reachable ∧ Directed tokens.reverse ∧
      ∃ gone selected, (Movement.go tokens).run Buffer.editor b = (.success, gone) ∧
        (selectTokens tokens).run Buffer.editor b = (.success, selected) ∧
        Follows b gone selected ∧ gone.selection = ⟨⟨0, 2⟩, ⟨0, 2⟩⟩ ∧
        selected.selection = ⟨⟨0, 1⟩, ⟨0, 2⟩⟩ := by
  intro b tokens
  have hreachable : b.Reachable := .call (.new "one\ntwo") _
  have hdirected : Directed tokens.reverse := .count rfl rfl
  obtain ⟨gone, selected, hgone, hselected, hfollows⟩ :=
    selectTokens_follows_go hreachable rfl hdirected (List.reverse_perm tokens).symm
      (by decide +kernel)
  refine ⟨hreachable, hdirected, gone, selected, hgone, hselected, hfollows, ?_, ?_⟩
  · obtain rfl : _ = gone := congrArg Prod.snd hgone
    decide +kernel
  · obtain rfl : _ = selected := congrArg Prod.snd hselected
    decide +kernel

end Selecting

end VoiceEdit
