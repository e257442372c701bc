import VoiceEdit.Buffer.Editor
import VoiceEdit.Dictation.Interpretation
import VoiceEdit.Proofs.Command.Refusal

/-!
# Utterances that are refused

* `candid_interpret`: in every mode the first refusal ends an utterance, and it is
  a success only after a request or with a change of mode.
* `EndsAtRefusal`, `AllGranted`: the same of the requests and answers of a run.
* `utterance_refused`: what every run of an utterance shows, whoever answers, and
  what a buffer without the focus makes of it.
-/
namespace VoiceEdit

open Program

namespace Dictation

/-- A candid interpretation stays as it was after a refusal, and is a success
without a change of mode by requests only. -/
abbrev CandidInterpretation (s : DictationState) : EditorProgram Interpretation → Prop :=
  Candid (fun e i => i = .staying s (.ofEditorError e)) fun i =>
    i.outcome = .success ∧ ¬ ∃ t, i = .following s .success (some t)

theorem candid_staying (s : DictationState) {o : Outcome} (h : o ≠ .success) :
    CandidInterpretation s (.done (.staying s o)) :=
  ⟨trivial, fun hclaims => h hclaims.1⟩

theorem candid_write (s : DictationState) (content : Text) :
    CandidInterpretation s (write s content) :=
  Candid.bind (candid_outcome (candid_call (.replace content))) (passes fun _ => rfl)
    (fun _ => trivial) fun _ ho hclaims => ho hclaims.1

theorem candid_interpretContent (v : Vocabulary) (s : DictationState) (text : Text) :
    CandidInterpretation s (interpretContent v s text) := by
  unfold interpretContent
  split
  · refine (Command.candid_dispatch v text).bind (passes fun _ => rfl) (fun reply => trivial)
      fun reply hreply => ?_
    obtain ⟨o, transition⟩ := reply
    cases transition with
    | none => exact fun hclaims => hreply ⟨hclaims.1, rfl⟩
    | some t =>
      intro hclaims
      obtain rfl : o = .success := hclaims.1
      exact hclaims.2 ⟨t, rfl⟩
  · exact candid_write s _
  · simp only
    split
    · exact candid_staying s (by decide)
    · exact candid_write s _

/-- Interpreting an utterance is candid in every mode. -/
theorem candid_interpret (v : Vocabulary) (isTolerant : Bool) (s : DictationState) (utterance : Text) :
    CandidInterpretation s (interpret v isTolerant s utterance) := by
  unfold interpret
  simp only
  split
  · rename_i t _
    exact ⟨trivial, fun hclaims => hclaims.2 ⟨t, rfl⟩⟩
  · split
    · exact candid_staying s (by decide)
    · exact candid_interpretContent v s _

end Dictation

/-! ## Runs -/

/-- A refusal is the last of some events, and is told. -/
def EndsAtRefusal (events : List (Event Editor.interface)) (told : EditorError → Prop) : Prop :=
  ∀ before q e after, events = before ++ ⟨q, .error e⟩ :: after → after = [] ∧ told e

/-- Every request among some events was granted, and there was one unless it is
excused. -/
def AllGranted (events : List (Event Editor.interface)) (excused : Prop) : Prop :=
  (∀ event ∈ events, ∃ a, event.2 = .ok a) ∧ (events = [] → excused)

variable {α : Type} {tells : EditorError → α → Prop} {claims : α → Prop} {p : EditorProgram α}
  {events : List (Event Editor.interface)} {a : α}

theorem Candid.endsAtRefusal (hp : Candid tells claims p) (h : p.Runs events a) :
    EndsAtRefusal events fun e => tells e a :=
  fun _ _ _ _ hevents => hp.stops.of_runs h hevents rfl

/-- What tells no refusal was granted every request. -/
theorem Candid.allGranted (hp : Candid tells claims p) (h : p.Runs events a)
    (htells : ∀ e, ¬ tells e a) {excused : Prop} (hexcused : ¬ claims a → excused) :
    AllGranted events excused := by
  refine ⟨fun event hevent => ?_, ?_⟩
  · obtain ⟨q, r⟩ := event
    obtain ⟨before, after, rfl⟩ := List.append_of_mem hevent
    cases r with
    | ok result => exact ⟨result, rfl⟩
    | error e => exact absurd (hp.stops.of_runs h rfl rfl).2 (htells e)
  · rintro rfl
    refine hexcused fun hclaims => ?_
    obtain ⟨event, hevent, -⟩ := hp.earns.of_runs h hclaims
    exact List.not_mem_nil hevent

/-! ## Without the focus -/

namespace Buffer

variable {b : Buffer}

theorem editor_unfocused (hb : b.focused = false) (q : Editor.Request) :
    editor q b = (.error .noActiveEditor, b) := by
  rw [editor, hb, if_neg Bool.false_ne_true]

/-- A buffer without the focus is left as it is. -/
theorem run_unfocused (hb : b.focused = false) (p : EditorProgram α) : (p.run editor b).2 = b := by
  induction p with
  | done a => rfl
  | ask q next ih =>
    rw [Program.run, editor_unfocused hb]
    exact ih _

theorem trace_unfocused (hb : b.focused = false) (p : EditorProgram α) :
    ∀ event ∈ p.trace editor b, event.2 = .error .noActiveEditor := by
  induction p with
  | done a => exact fun _ hevent => absurd hevent List.not_mem_nil
  | ask q next ih =>
    intro event hevent
    rw [Program.trace, editor_unfocused hb] at hevent
    rcases List.mem_cons.1 hevent with rfl | hevent
    · rfl
    · exact ih _ event hevent

/-- Without the focus nothing is granted but what needs no request. -/
theorem excused_of_unfocused (hb : b.focused = false) {excused : Prop}
    (h : AllGranted (p.trace editor b) excused) : excused := by
  refine h.2 (List.eq_nil_iff_forall_not_mem.2 fun event hevent => ?_)
  obtain ⟨result, hresult⟩ := h.1 event hevent
  rw [trace_unfocused hb p event hevent] at hresult
  cases hresult

end Buffer

theorem dispatch_refused (v : Vocabulary) (transcript : Text) {reply : CommandReply}
    (h : (Command.dispatch v transcript).Runs events reply) :
    EndsAtRefusal events (fun e => reply = .ofOutcome (.ofEditorError e)) ∧
      (reply.outcome = .success → AllGranted events (reply.transition.isSome = true)) := by
  have hcandid := Command.candid_dispatch v transcript
  refine ⟨hcandid.endsAtRefusal h, fun hsuccess => hcandid.allGranted h ?_ fun hclaims => ?_⟩
  · rintro e rfl
    exact Outcome.ofEditorError_ne_success e hsuccess
  · cases htransition : reply.transition with
    | none => exact absurd ⟨hsuccess, htransition⟩ hclaims
    | some t => rfl

theorem interpret_refused (v : Vocabulary) (isTolerant : Bool) (s : DictationState)
    (utterance : Text) {i : Dictation.Interpretation}
    (h : (Dictation.interpret v isTolerant s utterance).Runs events i) :
    EndsAtRefusal events (fun e => i = .staying s (.ofEditorError e)) ∧
      (i.outcome = .success → AllGranted events (∃ t, i = .following s .success (some t))) := by
  have hcandid := Dictation.candid_interpret v isTolerant s utterance
  refine ⟨hcandid.endsAtRefusal h, fun hsuccess => hcandid.allGranted h ?_ fun hclaims => ?_⟩
  · rintro e rfl
    exact Outcome.ofEditorError_ne_success e hsuccess
  · exact Classical.not_not.1 fun hnone => hclaims ⟨hsuccess, hnone⟩

/-- **No refusal is lost.** Whoever answers the requests of an utterance, in every
mode: a refusal is the last answer and is the outcome, without a change of mode; a
success was granted every request and, without a request, changes the mode. A
buffer without the focus is left as it is, and hears of no other success. -/
theorem utterance_refused (v : Vocabulary) (isTolerant : Bool) (s : DictationState)
    (utterance : Text) :
    (∀ events reply, (Command.dispatch v utterance).Runs events reply →
      EndsAtRefusal events (fun e => reply = .ofOutcome (.ofEditorError e)) ∧
        (reply.outcome = .success → AllGranted events (reply.transition.isSome = true))) ∧
      (∀ events i, (Dictation.interpret v isTolerant s utterance).Runs events i →
        EndsAtRefusal events (fun e => i = .staying s (.ofEditorError e)) ∧
          (i.outcome = .success → AllGranted events (∃ t, i = .following s .success (some t)))) ∧
      ∀ b : Buffer, b.focused = false →
        ((Dictation.interpret v isTolerant s utterance).run Buffer.editor b).2 = b ∧
          (((Dictation.interpret v isTolerant s utterance).run Buffer.editor b).1.outcome = .success →
            ∃ t, ((Dictation.interpret v isTolerant s utterance).run Buffer.editor b).1 =
              .following s .success (some t)) := by
  refine ⟨fun events reply => dispatch_refused v utterance,
    fun events i => interpret_refused v isTolerant s utterance, fun b hb => ?_⟩
  have htrace := runs_trace Buffer.editor (Dictation.interpret v isTolerant s utterance) b
  refine ⟨Buffer.run_unfocused hb _, fun hsuccess => ?_⟩
  exact Buffer.excused_of_unfocused hb ((interpret_refused v isTolerant s utterance htrace).2 hsuccess)

/-- Dictating to a buffer without the focus. -/
theorem utterance_refused_unfocused :
    ∃ b : Buffer, b.focused = false ∧
      (Dictation.interpret .empty false ⟨.dictate, false, false⟩ "hello").run Buffer.editor b =
        (.staying ⟨.dictate, false, false⟩ .noActiveEditor, b) := by
  obtain ⟨-, hrun, hbuffer⟩ := utterance_refused .empty false ⟨.dictate, false, false⟩ "hello"
  let b : Buffer := { Buffer.ofText "hi" with focused := false }
  have hkept := (hbuffer b rfl).1
  have htold := (hrun _ _ (runs_trace Buffer.editor _ b)).1 [] (.replace "hello") .noActiveEditor [] rfl
  exact ⟨b, rfl, Prod.ext htold.2 hkept⟩

end VoiceEdit
