import VoiceEdit.Proofs.Program.Runs
import VoiceEdit.Proofs.Session.Counts
import VoiceEdit.Session.Run

/-!
# What a session heard

What a session heard is its utterances, handled one after the other, with silence
and failures of the source in between. These change nothing but counts.

* `handleAll`: a session and its editor after some utterances.
* `told`, `failureModes`: what is told, and the modes in which the source failed.
* `replay`: a session and its editor after some results of listening.
* `Alike.replay`, `Alike.counts_replay`: which counts the failures change.
-/
namespace VoiceEdit.Session

open Program

/-! ## Results of listening -/

/-- A result that does not raise the stop signal. -/
def quiet (h : Hearing) : SourceEvent := ⟨h, false⟩

/-- The utterance that was heard, if any. -/
def utterance? : Hearing → Option Text
  | .utterance u => some u
  | _ => none

/-- Whether the source failed. -/
def isFailure : Hearing → Bool
  | .failure _ => true
  | _ => false

/-- The utterances among some results. -/
def spoken (heard : List Hearing) : List Text := heard.filterMap utterance?

/-- How often the source failed. -/
def failed (heard : List Hearing) : Nat := heard.countP isFailure

@[simp] theorem spoken_utterance (u : Text) (heard : List Hearing) :
    spoken (.utterance u :: heard) = u :: spoken heard := rfl

@[simp] theorem spoken_failure (reasons : List Text) (heard : List Hearing) :
    spoken (.failure reasons :: heard) = spoken heard := rfl

@[simp] theorem failed_utterance (u : Text) (heard : List Hearing) :
    failed (.utterance u :: heard) = failed heard := rfl

@[simp] theorem failed_failure (reasons : List Text) (heard : List Hearing) :
    failed (.failure reasons :: heard) = failed heard + 1 := List.countP_cons_of_pos rfl

variable {σ : Type} (editor : Handler Editor.interface σ)

/-! ## A session and its editor -/

/-- A handled utterance, and the editor after it. -/
def handledBy (x : Session × σ) (u : Text) : Handled × σ := (x.1.handle u 0).run editor x.2

/-- A session and its editor after an utterance. -/
def afterUtterance (x : Session × σ) (u : Text) : Session × σ :=
  ((handledBy editor x u).1.session, (handledBy editor x u).2)

/-- A session and its editor after some utterances, handled one after the other. -/
def handleAll (x : Session × σ) (utterances : List Text) : Session × σ :=
  utterances.foldl (afterUtterance editor) x

/-- What is told of a result of listening. -/
def toldOf (x : Session × σ) : Hearing → List Report
  | .utterance u =>
    let i := (handledBy editor x u).1.interpretation
    [.heard u, .interpreted u i.outcome] ++
      if i.state = x.1.state then [] else [.modeChanged i.state]
  | .silence => []
  | .failure reasons => [.sourceFailed reasons]

/-- What is told of some results of listening. -/
def told (x : Session × σ) : List Hearing → List Report
  | [] => []
  | h :: rest => toldOf editor x h ++ told (handleAll editor x (spoken [h])) rest

/-- The modes in which the source failed. -/
def failureModes (x : Session × σ) : List Hearing → List Mode
  | [] => []
  | h :: rest =>
    (if isFailure h then [x.1.state.mode] else []) ++
      failureModes (handleAll editor x (spoken [h])) rest

@[simp] theorem handleAll_cons (x : Session × σ) (u : Text) (utterances : List Text) :
    handleAll editor x (u :: utterances) =
      handleAll editor (afterUtterance editor x u) utterances := rfl

theorem handleAll_spoken_append (x : Session × σ) (past heard : List Hearing) :
    handleAll editor x (spoken (past ++ heard)) =
      handleAll editor (handleAll editor x (spoken past)) (spoken heard) := by
  rw [spoken, List.filterMap_append, handleAll, List.foldl_append]
  rfl

@[simp] theorem failureModes_utterance (x : Session × σ) (u : Text) (heard : List Hearing) :
    failureModes editor x (.utterance u :: heard) =
      failureModes editor (afterUtterance editor x u) heard := rfl

@[simp] theorem failureModes_failure (x : Session × σ) (reasons : List Text)
    (heard : List Hearing) : failureModes editor x (.failure reasons :: heard) =
      x.1.state.mode :: failureModes editor x heard := rfl

theorem handledBy_eq (x : Session × σ) (u : Text) : handledBy editor x u =
    (x.1.settle u 0 ((x.1.respond u).run editor x.2).1, ((x.1.respond u).run editor x.2).2) := by
  rw [handledBy, handle, run_bind]
  rfl

theorem stats_afterUtterance (x : Session × σ) (u : Text) :
    (afterUtterance editor x u).1.stats =
      x.1.stats.record (handledBy editor x u).1.interpretation.mode
        (handledBy editor x u).1.interpretation.outcome 0 := by
  rw [afterUtterance, handledBy_eq]
  rfl

theorem ne_of_mem_told {x : Session × σ} {heard : List Hearing} {r : Report}
    (hr : r ∈ told editor x heard) : r ≠ .stopped ∧ ∀ state, r ≠ .listening state := by
  induction heard generalizing x with
  | nil => exact absurd hr List.not_mem_nil
  | cons h rest ih =>
    rcases List.mem_append.1 hr with hr | hr
    · cases h with
      | utterance u =>
        rcases List.mem_append.1 hr with hr | hr
        · simp only [List.mem_cons, List.not_mem_nil, or_false] at hr
          rcases hr with rfl | rfl <;> simp
        · split at hr
          · exact absurd hr List.not_mem_nil
          · obtain rfl := List.mem_singleton.1 hr
            simp
      | silence => exact absurd hr List.not_mem_nil
      | failure reasons =>
        obtain rfl := List.mem_singleton.1 hr
        simp
    · exact ih hr

/-! ## With failures of the source -/

/-- A session and its editor after a result of listening. -/
def afterHearing (x : Session × σ) : Hearing → Session × σ
  | .utterance u => afterUtterance editor x u
  | .silence => x
  | .failure _ =>
    ({ x.1 with stats := x.1.stats.recordSourceError x.1.state.mode }, x.2)

/-- A session and its editor after some results of listening. -/
def replay (x : Session × σ) (heard : List Hearing) : Session × σ :=
  heard.foldl (afterHearing editor) x

@[simp] theorem replay_cons (x : Session × σ) (h : Hearing) (heard : List Hearing) :
    replay editor x (h :: heard) = replay editor (afterHearing editor x h) heard := rfl

theorem replay_concat (x : Session × σ) (heard : List Hearing) (h : Hearing) :
    replay editor x (heard ++ [h]) = afterHearing editor (replay editor x heard) h := by
  rw [replay, List.foldl_append]
  rfl

theorem outcome_afterFailure (x : Session × σ) (reasons : List Text) (o : Outcome) :
    (afterHearing editor x (.failure reasons)).1.stats.outcomes.count o =
      x.1.stats.outcomes.count o + if o = .executionFailed then 1 else 0 :=
  Tally.count_bump _ _ _

theorem mode_afterFailure (x : Session × σ) (reasons : List Text) (m : Mode) :
    (afterHearing editor x (.failure reasons)).1.stats.modes.count m =
      x.1.stats.modes.count m + if m = x.1.state.mode then 1 else 0 :=
  Tally.count_bump _ _ _

/-! ## Counts apart -/

/-- Two sessions that differ in their counts only, with one editor. -/
structure Alike (x y : Session × σ) : Prop where
  session : x.1 = { y.1 with stats := x.1.stats }
  editor : x.2 = y.2

variable {x y : Session × σ}

theorem Alike.refl (x : Session × σ) : Alike x x := ⟨rfl, rfl⟩

theorem Alike.state (h : Alike x y) : x.1.state = y.1.state := by rw [h.session]

theorem Alike.handledBy (h : Alike x y) (u : Text) :
    (Session.handledBy editor x u).1.interpretation =
        (Session.handledBy editor y u).1.interpretation ∧
      (Session.handledBy editor x u).2 = (Session.handledBy editor y u).2 := by
  obtain ⟨hsession, heditor⟩ := h
  rw [handledBy_eq, handledBy_eq, hsession, heditor]
  exact ⟨rfl, rfl⟩

theorem Alike.afterUtterance (h : Alike x y) (u : Text) :
    Alike (Session.afterUtterance editor x u) (Session.afterUtterance editor y u) := by
  obtain ⟨hsession, heditor⟩ := h
  unfold Session.afterUtterance
  rw [handledBy_eq, handledBy_eq, hsession, heditor]
  exact ⟨rfl, rfl⟩

theorem Alike.afterFailure (h : Alike x y) (reasons : List Text) :
    Alike (afterHearing editor x (.failure reasons)) y :=
  ⟨by rw [afterHearing, h.session], h.editor⟩

theorem Alike.toldOf (h : Alike x y) (h' : Hearing) :
    Session.toldOf editor x h' = Session.toldOf editor y h' := by
  cases h' with
  | utterance u => rw [Session.toldOf, Session.toldOf, (h.handledBy editor u).1, h.state]
  | silence => rfl
  | failure reasons => rfl

/-- Silence and failures of the source change nothing but counts. -/
theorem Alike.replay (h : Alike x y) (heard : List Hearing) :
    Alike (Session.replay editor x heard) (handleAll editor y (spoken heard)) := by
  induction heard generalizing x y with
  | nil => exact h
  | cons h' rest ih =>
    cases h' with
    | utterance u => exact ih (h.afterUtterance editor u)
    | silence => exact ih h
    | failure reasons => exact ih (h.afterFailure editor reasons)

/-- Failures of the source are counted as failed utterances in the modes in which
they happened, on top of the utterances. -/
theorem Alike.counts_replay (h : Alike x y) (heard : List Hearing) :
    (∀ o, (Session.replay editor x heard).1.stats.outcomes.count o + y.1.stats.outcomes.count o =
      (handleAll editor y (spoken heard)).1.stats.outcomes.count o + x.1.stats.outcomes.count o +
        if o = .executionFailed then failed heard else 0) ∧
      ∀ m, (Session.replay editor x heard).1.stats.modes.count m + y.1.stats.modes.count m =
        (handleAll editor y (spoken heard)).1.stats.modes.count m + x.1.stats.modes.count m +
          (failureModes editor y heard).count m := by
  induction heard generalizing x y with
  | nil =>
    refine ⟨fun o => ?_, fun m => Nat.add_comm _ _⟩
    rw [failed, List.countP_nil, ite_self]
    exact Nat.add_comm _ _
  | cons h' rest ih =>
    cases h' with
    | utterance u =>
      obtain ⟨houtcomes, hmodes⟩ := ih (h.afterUtterance editor u)
      rw [stats_afterUtterance, stats_afterUtterance, (h.handledBy editor u).1] at houtcomes hmodes
      refine ⟨fun o => ?_, fun m => ?_⟩
      · have ho := houtcomes o
        rw [SessionStats.record, Tally.count_bump, SessionStats.record, Tally.count_bump] at ho
        rw [replay_cons, spoken_utterance, handleAll_cons, failed_utterance]
        simp only [afterHearing]
        omega
      · have hm := hmodes m
        rw [SessionStats.record, Tally.count_bump, SessionStats.record, Tally.count_bump] at hm
        rw [replay_cons, spoken_utterance, handleAll_cons, failureModes_utterance]
        simp only [afterHearing]
        omega
    | silence => exact ih h
    | failure reasons =>
      obtain ⟨houtcomes, hmodes⟩ := ih (h.afterFailure editor reasons)
      refine ⟨fun o => ?_, fun m => ?_⟩
      · have ho := houtcomes o
        rw [outcome_afterFailure] at ho
        rw [replay_cons, spoken_failure, failed_failure]
        by_cases hfailed : o = .executionFailed
        · rw [if_pos hfailed, if_pos hfailed] at ho
          rw [if_pos hfailed]
          omega
        · rw [if_neg hfailed, if_neg hfailed] at ho
          rw [if_neg hfailed]
          exact ho
      · have hm := hmodes m
        rw [mode_afterFailure] at hm
        rw [replay_cons, spoken_failure, failureModes_failure, ← h.state]
        by_cases hmode : m = x.1.state.mode
        · rw [if_pos hmode] at hm
          rw [hmode, List.count_cons_self, ← hmode]
          omega
        · rw [if_neg hmode] at hm
          rw [List.count_cons_of_ne (Ne.symm hmode)]
          exact hm

/-- What is heard is counted as what it is. -/
theorem counted_replay {n k : Nat} (h : x.1.stats.Counted n k) (heard : List Hearing) :
    (replay editor x heard).1.stats.Counted (n + (spoken heard).length) (k + failed heard) := by
  induction heard generalizing x n k with
  | nil => exact h
  | cons h' rest ih =>
    cases h' with
    | utterance u =>
      have hnext : (afterUtterance editor x u).1.stats.Counted (n + 1) k := by
        rw [stats_afterUtterance]
        exact h.utterance _ _ _
      rw [replay_cons, spoken_utterance, failed_utterance, List.length_cons, Nat.add_comm _ 1,
        ← Nat.add_assoc]
      exact ih hnext
    | silence => exact ih h
    | failure reasons =>
      rw [replay_cons, spoken_failure, failed_failure, Nat.add_comm _ 1, ← Nat.add_assoc k]
      exact ih (h.failure x.1.state.mode)

end VoiceEdit.Session
