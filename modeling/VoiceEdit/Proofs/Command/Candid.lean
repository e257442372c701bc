import VoiceEdit.Command.Basic
import VoiceEdit.Proofs.Command.Resolution

/-!
# Candid programs

An editor program is candid if the first refusal is its last answer and its
result tells that refusal, and if it claims nothing before it has asked for
something.

* `CandidAction`, `CandidStep`, `CandidOutcome`: what is told and claimed by a
  chain of requests, a step and an outcome.
* `CandidAction.bind`, `candid_step`, `candid_outcome`: from requests to chains,
  steps and outcomes.
* `candid_carryOut`: a resolution is candid if the actions of its table are.
-/
namespace VoiceEdit

open Program

namespace Editor

/-- A request is refused. -/
abbrev Refuses (q : Request) (r : interface.Reply q) (e : EditorError) : Prop := r = .error e

/-- A request is answered in any way. -/
abbrev Answers (q : Request) (_ : interface.Reply q) : Prop := True

end Editor

variable {α β : Type}

/-- Refusals end a program and are told, and it claims nothing unasked. -/
structure Candid (tells : EditorError → α → Prop) (claims : α → Prop) (p : EditorProgram α) : Prop where
  stops : p.StopsAt Editor.Refuses tells
  earns : p.Earns Editor.Answers claims

theorem Candid.bind {tells : EditorError → α → Prop} {claims : α → Prop}
    {tells' : EditorError → β → Prop} {claims' : β → Prop} {p : EditorProgram α}
    {f : α → EditorProgram β} (hp : Candid tells claims p)
    (hpass : ∀ e a, tells e a → ∃ b, f a = .done b ∧ tells' e b)
    (hstops : ∀ a, (f a).StopsAt Editor.Refuses tells')
    (hearns : ∀ a, ¬ claims a → (f a).Earns Editor.Answers claims') :
    Candid tells' claims' (p.bind f) :=
  ⟨hp.stops.bind hpass hstops, hp.earns.bind hearns⟩

/-! ## Chains of requests -/

/-- A chain of requests that stops at the first refusal. -/
abbrev StrictAction (x : EditorAction α) : Prop :=
  StopsAt Editor.Refuses (fun e r => r = .error e) x.run

/-- Such a chain with at least one request. -/
abbrev CandidAction (x : EditorAction α) : Prop :=
  Candid (fun e r => r = .error e) (fun _ => True) x.run

theorem strict_pure (a : α) : StrictAction (pure a : EditorAction α) := trivial

theorem candid_call (q : Editor.Request) : CandidAction (Editor.call q) := by
  refine ⟨fun r => ⟨trivial, ?_⟩, fun r hr => absurd trivial hr⟩
  rintro e rfl
  exact ⟨_, rfl, rfl⟩

theorem StrictAction.bind {x : EditorAction α} {f : α → EditorAction β} (hx : StrictAction x)
    (hf : ∀ a, StrictAction (f a)) : StrictAction (x >>= f) := by
  refine StopsAt.bind hx (passes fun _ => rfl) fun r => ?_
  cases r with
  | ok a => exact hf a
  | error e => trivial

theorem CandidAction.bind {x : EditorAction α} {f : α → EditorAction β} (hx : CandidAction x)
    (hf : ∀ a, StrictAction (f a)) : CandidAction (x >>= f) :=
  ⟨StrictAction.bind hx.stops hf, Earns.bind hx.earns fun _ hr => absurd trivial hr⟩

theorem candid_cursor : CandidAction Editor.cursor :=
  (candid_call .selection).bind fun s => strict_pure s.active

theorem candid_charBeforeCursor : CandidAction Editor.charBeforeCursor := by
  refine candid_cursor.bind fun place => ?_
  split
  · exact strict_pure none
  · exact StrictAction.bind (candid_call _).stops fun l => strict_pure _

/-! ## Steps and outcomes -/

/-- A candid step tells a refusal as its failure, and is carried out by requests
only. -/
abbrev CandidStep : EditorProgram Step → Prop :=
  Candid (fun e s => s = .failed (.ofEditorError e)) fun s => s = .done ∨ s = .failed .success

/-- A candid outcome is that of the refusal, and a success by requests only. -/
abbrev CandidOutcome : EditorProgram Outcome → Prop :=
  Candid (fun e o => o = .ofEditorError e) fun o => o = .success

theorem candid_step {x : EditorAction α} (hx : CandidAction x) : CandidStep (Step.ofAction x) := by
  refine Candid.bind hx (passes fun _ => rfl) (fun r => ?_) fun r hr => absurd trivial hr
  cases r <;> trivial

theorem candid_outcome {x : EditorAction α} (hx : CandidAction x) :
    CandidOutcome (Outcome.ofAction x) :=
  Candid.bind hx (passes fun _ => rfl) (fun _ => trivial) fun _ hr => absurd trivial hr

theorem isSuccess_ofEditorError (e : EditorError) : (Outcome.ofEditorError e).isSuccess = false := by
  cases e <;> rfl

theorem candid_invalid : CandidStep Step.invalid := ⟨trivial, fun h => by simp at h⟩

theorem candid_declined : CandidStep (.done .declined) := ⟨trivial, fun h => by simp at h⟩

theorem candid_done {o : Outcome} (h : o ≠ .success) : CandidOutcome (.done o) := ⟨trivial, h⟩

/-! ## Rule tables -/

/-- An action that is candid whatever tokens it is given. -/
abbrev CandidRule (action : TokenAction) : Prop := ∀ tokens, CandidStep (action tokens)

namespace RuleTable

/-- All actions of a table have a property. -/
def All (P : α → Prop) (t : RuleTable α) : Prop := ∀ r ∈ t.rules, P r.2

variable {P : α → Prop} {t : RuleTable α}

theorem all_empty (name : Text) (order : List TokenKind) : (empty name order).All P :=
  fun _ hr => absurd hr List.not_mem_nil

theorem All.bind (ht : t.All P) (kinds : List TokenKind) {action : α} (h : P action) :
    (t.bind kinds action).All P := by
  intro r hr
  rcases List.mem_append.1 hr with hr | hr
  · exact ht r (List.mem_filter.1 hr).1
  · rw [List.mem_singleton.1 hr]
    exact h

/-- A resolution tells the first refusal, and is a success by requests only. -/
theorem candid_carryOut {t : RuleTable TokenAction} (ht : t.All CandidRule) (tokens : List Token) :
    Candid (fun e r => r.outcome = .ofEditorError e) (fun r => r.outcome = .success)
      (t.carryOut tokens) := by
  have hstep : ∀ i : Invocation TokenAction, t.HasAction i → CandidStep (i.action i.tokens) :=
    fun i ⟨_, hi⟩ => ht _ hi i.tokens
  exact ⟨(stopsAt_resolve tokens).via (asks_resolve tokens) fun i hi => (hstep i hi).stops,
    (earns_resolve tokens).via (asks_resolve tokens) fun i hi => (hstep i hi).earns⟩

theorem candid_resolution {t : RuleTable TokenAction} (ht : t.All CandidRule) (tokens : List Token) :
    CandidOutcome ((t.carryOut tokens).bind fun r => .done r.outcome) :=
  (candid_carryOut ht tokens).bind (fun _ _ h => ⟨_, rfl, h⟩) (fun _ => trivial) fun _ h => h

end RuleTable

end VoiceEdit
