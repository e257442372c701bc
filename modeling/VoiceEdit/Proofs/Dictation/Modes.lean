import VoiceEdit.Dictation.Interpretation
import VoiceEdit.Proofs.Program.Runs

/-!
# Changes of mode

What one utterance may do to the mode, whoever answers its requests.

* `Command.changesQuietly_dispatch`: a command that changes the mode is a success
  and asks nothing of the editor.
* `Dictation.runs_interpret_stop`, `Dictation.runs_interpret_content`: outside of
  commands, a stop phrase is all that counts.
* `DictationState.Sound`: the flags of the other modes are at rest; every
  transition leads to such a state (`DictationState.sound_apply`).
-/
namespace VoiceEdit

open Program

/-! ## Commands -/

namespace Command

/-- A reply that changes the mode is a success that no request led to. -/
def ChangesQuietly (p : EditorProgram CommandReply) : Prop :=
  ∀ events reply t, p.Runs events reply → reply.transition = some t →
    events = [] ∧ reply.outcome = .success

/-- The reply of an outcome changes no mode. -/
theorem changesQuietly_outcome (p : EditorProgram Outcome) :
    ChangesQuietly (p.bind fun o => .done (.ofOutcome o)) := by
  intro events reply t h ht
  obtain ⟨_, _, o, -, -, hreply⟩ := runs_bind_iff.1 h
  obtain ⟨-, rfl⟩ := runs_done_iff.1 hreply
  cases ht

theorem changesQuietly_done (o : Outcome) : ChangesQuietly (.done (.ofOutcome o)) := by
  intro events reply t h ht
  obtain ⟨-, rfl⟩ := runs_done_iff.1 h
  cases ht

theorem changesQuietly_withoutArguments (name : CommandName) :
    ChangesQuietly (Workbench.withoutArguments name) := by
  unfold Workbench.withoutArguments
  split
  · intro events reply t h _
    obtain ⟨rfl, rfl⟩ := runs_done_iff.1 h
    exact ⟨rfl, rfl⟩
  · split
    · exact changesQuietly_outcome _
    · exact changesQuietly_done _

theorem changesQuietly_execute (v : Vocabulary) (name : CommandName) (raw : Text) :
    ChangesQuietly (execute v name raw) := by
  unfold execute
  simp only
  split
  · split
    · exact changesQuietly_withoutArguments name
    · exact changesQuietly_done _
  · exact changesQuietly_outcome _
  · exact changesQuietly_outcome _
  · exact changesQuietly_outcome _

/-- Whatever command a transcript holds: if it changes the mode, it does nothing
else. -/
theorem changesQuietly_dispatch (v : Vocabulary) (transcript : Text) :
    ChangesQuietly (dispatch v transcript) := by
  unfold dispatch
  split
  · exact changesQuietly_done _
  · split
    · exact changesQuietly_done _
    · exact changesQuietly_execute v _ _

end Command

/-! ## Flags -/

/-- Plain dictation is a way of dictating, and capitals are a way of spelling. -/
structure DictationState.Sound (s : DictationState) : Prop where
  plain : s.formatting = false → s.mode = .dictate
  capitals : s.uppercase = true → s.mode = .spell

namespace DictationState

theorem sound_initial : initial.Sound := ⟨fun h => (nomatch h), fun h => (nomatch h)⟩

theorem sound_apply (s : DictationState) (t : Transition) : (s.apply t).Sound := by
  cases t with
  | dictate formatting => exact ⟨fun _ => rfl, fun h => nomatch h⟩
  | spell uppercase => exact ⟨fun h => (nomatch h), fun _ => rfl⟩
  | stopDictating => exact sound_initial
  | stop => exact sound_initial

end DictationState

theorem Transition.endsSession_iff (t : Transition) : t.endsSession = true ↔ t = .stop := by
  cases t <;> simp [endsSession]

/-! ## Utterances -/

namespace Dictation

variable {v : Vocabulary} {isTolerant : Bool} {s : DictationState} {utterance : Text}
  {events : List (Event Editor.interface)} {i : Interpretation}

/-- A stop phrase leads back to commands. -/
theorem apply_of_stopTransition? {t : Transition}
    (h : stopTransition? v isTolerant utterance = some t) (s : DictationState) :
    s.apply t = .initial := by
  unfold stopTransition? at h
  simp only at h
  split at h
  · cases h
  · split at h
    · obtain rfl := Option.some.inj h
      rfl
    · split at h
      · obtain rfl := Option.some.inj h
        rfl
      · cases h

/-- Outside of commands a stop phrase is followed at once. -/
theorem runs_interpret_stop {t : Transition} (hmode : s.mode ≠ .command)
    (hstop : stopTransition? v isTolerant utterance = some t)
    (h : (interpret v isTolerant s utterance).Runs events i) :
    events = [] ∧ i = .following s .success (some t) := by
  unfold interpret at h
  simp only [if_neg hmode, hstop] at h
  exact runs_done_iff.1 h

theorem runs_write {content : Text} (h : (write s content).Runs events i) :
    ∃ o, i = .staying s o := by
  obtain ⟨_, _, o, -, -, hi⟩ := runs_bind_iff.1 h
  exact ⟨o, (runs_done_iff.1 hi).2⟩

/-- Outside of commands nothing else changes the mode. -/
theorem runs_interpret_content (hmode : s.mode ≠ .command)
    (hstop : stopTransition? v isTolerant utterance = none)
    (h : (interpret v isTolerant s utterance).Runs events i) : ∃ o, i = .staying s o := by
  unfold interpret at h
  simp only [if_neg hmode, hstop] at h
  split at h
  · exact ⟨_, (runs_done_iff.1 h).2⟩
  · unfold interpretContent at h
    split at h
    · exact absurd ‹_› hmode
    · exact runs_write h
    · simp only at h
      split at h
      · exact ⟨_, (runs_done_iff.1 h).2⟩
      · exact runs_write h

/-- A command is dispatched unless nothing was said. -/
theorem runs_interpret_command (hmode : s.mode = .command)
    (h : (interpret v isTolerant s utterance).Runs events i) :
    (events = [] ∧ i = .staying s .noCommandFound) ∨
      ∃ reply, (Command.dispatch v (Text.trim utterance)).Runs events reply ∧
        i = .following s reply.outcome reply.transition := by
  unfold interpret at h
  simp only [if_pos hmode] at h
  split at h
  · exact .inl (runs_done_iff.1 h)
  · unfold interpretContent at h
    rw [hmode] at h
    obtain ⟨before, after, reply, rfl, hreply, hi⟩ := runs_bind_iff.1 h
    obtain ⟨rfl, rfl⟩ := runs_done_iff.1 hi
    rw [List.append_nil]
    exact .inr ⟨reply, hreply, rfl⟩

end Dictation

end VoiceEdit
