import VoiceEdit.Buffer.Editor
import VoiceEdit.Proofs.Dictation.Modes
import VoiceEdit.Session.Basic

/-!
# The mode over a session

* `Session.Reachable`: the sessions that utterances and new vocabularies lead to,
  whoever answers the requests of each utterance.
* `Session.Reachable.keeps_modes`: what one more utterance may do to the mode.
-/
namespace VoiceEdit.Session

open Program Dictation

/-- The sessions that a new session becomes. -/
inductive Reachable : Session → Prop where
  | new (vocabulary : Vocabulary) (isTolerant : Bool) : Reachable (new vocabulary isTolerant)
  | handle {s : Session} (h : Reachable s) {utterance : Text} {nanoseconds : Nat}
      {events : List (Event Editor.interface)} {after : Handled}
      (run : (s.handle utterance nanoseconds).Runs events after) : Reachable after.session
  | reload {s : Session} (h : Reachable s) (vocabulary : Vocabulary) :
      Reachable (s.reload vocabulary)

variable {s : Session} {utterance : Text} {nanoseconds : Nat}
  {events : List (Event Editor.interface)} {after : Handled}

/-- To handle an utterance is to interpret it and to take over the state. -/
theorem runs_handle (h : (s.handle utterance nanoseconds).Runs events after) :
    (interpret s.vocabulary s.isTolerant s.state utterance).Runs events after.interpretation ∧
      after.session.state = after.interpretation.state := by
  obtain ⟨before, last, i, rfl, hi, hafter⟩ := runs_bind_iff.1 h
  obtain ⟨rfl, rfl⟩ := runs_done_iff.1 hafter
  rw [List.append_nil]
  exact ⟨hi, rfl⟩

/-- What an utterance does as a command. -/
theorem handle_command (hmode : s.state.mode = .command)
    (h : (s.handle utterance nanoseconds).Runs events after) :
    (after.interpretation.outcome = .noCommandFound ∧ after.session.state = s.state ∧
      after.interpretation.stops = false ∧ events = []) ∨
    ∃ reply, (Command.dispatch s.vocabulary (Text.trim utterance)).Runs events reply ∧
      after.interpretation.outcome = reply.outcome ∧
      (reply.transition = none →
        after.session.state = s.state ∧ after.interpretation.stops = false) ∧
      ∀ t, reply.transition = some t → after.interpretation.outcome = .success ∧ events = [] ∧
        after.session.state = s.state.apply t ∧ (after.interpretation.stops = true ↔ t = .stop) := by
  obtain ⟨hrun, hstate⟩ := runs_handle h
  rw [hstate]
  obtain ⟨hevents, hi⟩ | ⟨reply, hreply, hi⟩ := runs_interpret_command hmode hrun
  · rw [hi]
    exact .inl ⟨rfl, rfl, rfl, hevents⟩
  · rw [hi]
    refine .inr ⟨reply, hreply, ?_, ?_, ?_⟩
    · cases reply.transition <;> rfl
    · intro hnone
      rw [hnone]
      exact ⟨rfl, rfl⟩
    · intro t ht
      obtain ⟨hevents, hsuccess⟩ := Command.changesQuietly_dispatch _ _ _ _ _ hreply ht
      rw [ht]
      exact ⟨hsuccess, hevents, rfl, t.endsSession_iff⟩

/-- What a stop phrase does outside of commands. -/
theorem handle_stop {t : Transition} (hmode : s.state.mode ≠ .command)
    (hstop : stopTransition? s.vocabulary s.isTolerant utterance = some t)
    (h : (s.handle utterance nanoseconds).Runs events after) :
    events = [] ∧ after.interpretation.outcome = .success ∧ after.session.state = .initial ∧
      (after.interpretation.stops = true ↔ t = .stop) := by
  obtain ⟨hrun, hstate⟩ := runs_handle h
  obtain ⟨hevents, hi⟩ := runs_interpret_stop hmode hstop hrun
  rw [hstate, hi]
  exact ⟨hevents, rfl, apply_of_stopTransition? hstop s.state, t.endsSession_iff⟩

/-- What any other utterance does outside of commands. -/
theorem handle_content (hmode : s.state.mode ≠ .command)
    (hstop : stopTransition? s.vocabulary s.isTolerant utterance = none)
    (h : (s.handle utterance nanoseconds).Runs events after) :
    after.session.state = s.state ∧ after.interpretation.stops = false := by
  obtain ⟨hrun, hstate⟩ := runs_handle h
  obtain ⟨o, hi⟩ := runs_interpret_content hmode hstop hrun
  rw [hstate, hi]
  exact ⟨rfl, rfl⟩

/-- An utterance leaves the state as it is, or it is a success, asks for nothing and
makes one transition. -/
theorem handle_state (h : (s.handle utterance nanoseconds).Runs events after) :
    (after.session.state = s.state ∧ after.interpretation.stops = false) ∨
      after.interpretation.outcome = .success ∧ events = [] ∧ ∃ t,
        after.session.state = s.state.apply t ∧ (after.interpretation.stops = true ↔ t = .stop) := by
  by_cases hmode : s.state.mode = .command
  · obtain ⟨-, hstate, hstops, -⟩ | ⟨reply, -, -, hnone, hsome⟩ := handle_command hmode h
    · exact .inl ⟨hstate, hstops⟩
    · cases ht : reply.transition with
      | none => exact .inl (hnone ht)
      | some t =>
        obtain ⟨hsuccess, hevents, hstate⟩ := hsome t ht
        exact .inr ⟨hsuccess, hevents, t, hstate⟩
  · cases hstop : stopTransition? s.vocabulary s.isTolerant utterance with
    | none => exact .inl (handle_content hmode hstop h)
    | some t =>
      obtain ⟨hevents, hsuccess, hstate, hstops⟩ := handle_stop hmode hstop h
      refine .inr ⟨hsuccess, hevents, t, ?_, hstops⟩
      rw [hstate, apply_of_stopTransition? hstop]

/-- The flags of the other modes are at rest all along. -/
theorem Reachable.sound (h : s.Reachable) : s.state.Sound := by
  induction h with
  | new vocabulary isTolerant => exact DictationState.sound_initial
  | @handle s _ utterance nanoseconds events after run ih =>
    obtain ⟨hstate, -⟩ | ⟨-, -, t, hstate, -⟩ := handle_state run
    · rw [hstate]
      exact ih
    · rw [hstate]
      exact s.state.sound_apply t
  | reload _ vocabulary ih => exact ih

/-- **The mode over a session.** Whatever was said before and whoever answers: while
text is dictated or spelled, a stop phrase asks for nothing, is a success and leads
back to commands, and any other utterance keeps the state; a command changes the
state only by a transition, and then it is a success and asks for nothing; what is
no success keeps the state; and the flags are at rest outside of their modes, and
all of them after an utterance that ends the session. -/
theorem Reachable.keeps_modes (h : s.Reachable)
    (hrun : (s.handle utterance nanoseconds).Runs events after) :
    (s.state.mode ≠ .command →
      (∀ t, stopTransition? s.vocabulary s.isTolerant utterance = some t →
        events = [] ∧ after.interpretation.outcome = .success ∧ after.session.state = .initial ∧
          (after.interpretation.stops = true ↔ t = .stop)) ∧
      (stopTransition? s.vocabulary s.isTolerant utterance = none →
        after.session.state = s.state ∧ after.interpretation.stops = false)) ∧
    (s.state.mode = .command →
      (after.interpretation.outcome = .noCommandFound ∧ after.session.state = s.state ∧
        after.interpretation.stops = false ∧ events = []) ∨
      ∃ reply, (Command.dispatch s.vocabulary (Text.trim utterance)).Runs events reply ∧
        after.interpretation.outcome = reply.outcome ∧
        (reply.transition = none →
          after.session.state = s.state ∧ after.interpretation.stops = false) ∧
        ∀ t, reply.transition = some t → after.interpretation.outcome = .success ∧ events = [] ∧
          after.session.state = s.state.apply t ∧
            (after.interpretation.stops = true ↔ t = .stop)) ∧
    (after.interpretation.outcome ≠ .success → after.session.state = s.state) ∧
    s.state.Sound ∧ after.session.state.Sound ∧
    (after.interpretation.stops = true → after.session.state = .initial) := by
  have hstep := handle_state hrun
  refine ⟨fun hmode => ⟨fun t hstop => handle_stop hmode hstop hrun,
    fun hstop => handle_content hmode hstop hrun⟩, fun hmode => handle_command hmode hrun, ?_,
    h.sound, (h.handle hrun).sound, ?_⟩
  · intro hfailed
    obtain ⟨hstate, -⟩ | ⟨hsuccess, -⟩ := hstep
    · exact hstate
    · exact absurd hsuccess hfailed
  · intro hends
    obtain ⟨-, hstops⟩ | ⟨-, -, t, hstate, hstops⟩ := hstep
    · rw [hstops] at hends
      cases hends
    · rw [hstate, hstops.1 hends]
      rfl

/-- Plain dictation, ended by a stop phrase inside an utterance. -/
theorem keeps_modes_stopped :
    ∃ s : Session, s.Reachable ∧ s.state = ⟨.dictate, false, false⟩ ∧ s.state.Sound ∧
      ∃ after, (s.handle "please stop" 0).Runs [] after ∧ after.interpretation.outcome = .success ∧
        after.interpretation.stops = true ∧ after.session.state = .initial := by
  let vocabulary : Vocabulary :=
    { Vocabulary.empty with
      exactTriggers := .ofList
        [("plain", code CommandName.dictatePlain), ("stop", code CommandName.stop)] }
  let opened := (new vocabulary false).handle "plain" 0
  have hopened : Reachable (opened.run Buffer.editor (.ofText [])).1.session :=
    (Reachable.new vocabulary false).handle (runs_trace Buffer.editor opened (.ofText []))
  obtain ⟨s, hs⟩ : ∃ s, s = (opened.run Buffer.editor (.ofText [])).1.session := ⟨_, rfl⟩
  have hstate : s.state = ⟨.dictate, false, false⟩ := by rw [hs]; decide +kernel
  have hstop : stopTransition? s.vocabulary s.isTolerant "please stop" = some .stop := by
    rw [hs]; decide +kernel
  rw [← hs] at hopened
  have hmode : s.state.mode ≠ .command := by rw [hstate]; decide
  have hrun := runs_trace Buffer.editor (s.handle "please stop" 0) (.ofText [])
  obtain ⟨houtside, -, -, hsound, -, -⟩ := hopened.keeps_modes hrun
  obtain ⟨hevents, hsuccess, hafter, hstops⟩ := (houtside hmode).1 .stop hstop
  rw [hevents] at hrun
  exact ⟨s, hopened, hstate, hsound, _, hrun, hsuccess, hstops.2 rfl, hafter⟩

end VoiceEdit.Session
