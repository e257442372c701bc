import Mathlib.Data.List.Basic
import Mathlib.Data.List.Induction
import VoiceEdit.Buffer.Editor
import VoiceEdit.Proofs.Session.Replay

/-!
# Listening until the end

A session that is not told to stop hears exactly as much as ends it, and leaves
the rest to be read by others.

* `EndsWith`, `Ends`: what ends a session, and no sooner.
* `endsWith_concat_iff`: whether one result ends it can be told from the failures
  in a row before.
* `listen_replay`: listening goes as far as the first end, and replays that far.
* `run_hears`: what comes of a whole run.
-/
namespace VoiceEdit.Session

open Program

variable {σ : Type} (editor : Handler Editor.interface σ)

/-! ## How far a session listens -/

/-- What ends a session: an utterance that stops it when it is handled, or a third
failure of the source in a row. -/
inductive EndsWith (x : Session × σ) : List Hearing → Ending → Prop where
  | spoken (before : List Hearing) (u : Text)
      (h : (handledBy editor (handleAll editor x (spoken before)) u).1.interpretation.stops =
        true) :
      EndsWith x (before ++ [.utterance u]) .spoken
  | failed (before : List Hearing) (reasons : List (List Text)) (h : reasons.length = 3) :
      EndsWith x (before ++ reasons.map .failure) .sourceFailed

/-- A session ends with what was heard, and no sooner. -/
structure Ends (x : Session × σ) (heard unread : List Hearing) (ending : Ending) : Prop where
  /-- What was heard ends the session, or there is nothing more to hear. -/
  cause : EndsWith editor x heard ending ∨
    ending = .sourceClosed ∧ unread = [] ∧ ∀ other, ¬ EndsWith editor x heard other
  first : ∀ sooner, sooner <+: heard → sooner ≠ heard → ∀ other, ¬ EndsWith editor x sooner other

/-- The failures in a row after one more result. -/
def failuresAfter (n : Nat) : Hearing → Nat
  | .failure _ => n + 1
  | _ => 0

/-- The failures of the source at the end of some results. -/
def trailing (heard : List Hearing) : Nat := heard.foldl failuresAfter 0

/-- How a session ends with one more result after `n` failures in a row, if it does. -/
def endingOf (x : Session × σ) (n : Nat) : Hearing → Option Ending
  | .utterance u => if (handledBy editor x u).1.interpretation.stops then some .spoken else none
  | .silence => none
  | .failure _ => if maxFailures ≤ n + 1 then some .sourceFailed else none

/-! ## One result -/

/-- What one result does to a session that listens. -/
theorem run_hear (l : Listening) (h : Hearing) (e : σ) :
    (hear l h).run editor e =
      (⟨⟨(afterHearing editor (l.session, e) h).1, failuresAfter l.failures h⟩,
        toldOf editor (l.session, e) h, endingOf editor (l.session, e) l.failures h⟩,
        (afterHearing editor (l.session, e) h).2) := by
  cases h with
  | utterance u =>
    rw [hear, run_bind]
    have hhandled : (l.session.handle u 0).run editor e = handledBy editor (l.session, e) u := rfl
    simp only [hhandled, afterHearing, afterUtterance, toldOf, endingOf, failuresAfter]
    rw [handledBy_eq]
    rfl
  | silence => rfl
  | failure reasons => rfl

/-- A session listens on unless the result ends it. -/
theorem run_listen_cons (l : Listening) (reports : List Report) (h : Hearing)
    (rest : List SourceEvent) (e : σ) :
    (listen l reports false (quiet h :: rest)).run editor e =
      match endingOf editor (l.session, e) l.failures h with
      | some ending =>
        (⟨ending, (afterHearing editor (l.session, e) h).1,
          reports ++ toldOf editor (l.session, e) h, rest⟩,
          (afterHearing editor (l.session, e) h).2)
      | none => (listen ⟨(afterHearing editor (l.session, e) h).1, failuresAfter l.failures h⟩
          (reports ++ toldOf editor (l.session, e) h) false rest).run editor
            (afterHearing editor (l.session, e) h).2 := by
  rw [listen, if_neg Bool.false_ne_true, run_bind, quiet, run_hear]
  cases endingOf editor (l.session, e) l.failures h <;> rfl

/-! ## Failures in a row -/

theorem trailing_concat (heard : List Hearing) (h : Hearing) :
    trailing (heard ++ [h]) = failuresAfter (trailing heard) h := by
  rw [trailing, List.foldl_append]
  rfl

/-- So many failures in a row were heard last if and only if so many stand at the end. -/
theorem le_trailing_iff (k : Nat) (heard : List Hearing) : k ≤ trailing heard ↔
    ∃ (before : List Hearing) (reasons : List (List Text)), reasons.length = k ∧
      heard = before ++ reasons.map .failure := by
  induction heard using List.reverseRecOn generalizing k with
  | nil =>
    constructor
    · intro hk
      obtain rfl := Nat.le_zero.1 hk
      exact ⟨[], [], rfl, rfl⟩
    · rintro ⟨before, reasons, rfl, hnil⟩
      obtain ⟨-, hreasons⟩ := List.append_eq_nil_iff.1 hnil.symm
      rw [List.map_eq_nil_iff.1 hreasons]
      exact Nat.le_refl 0
  | append_singleton heard h ih =>
    rw [trailing_concat]
    constructor
    · intro hk
      cases k with
      | zero => exact ⟨heard ++ [h], [], rfl, (List.append_nil _).symm⟩
      | succ k =>
        cases h with
        | failure r =>
          obtain ⟨before, reasons, hlength, rfl⟩ := (ih k).1 (Nat.le_of_succ_le_succ hk)
          refine ⟨before, reasons ++ [r], ?_, ?_⟩
          · rw [List.length_append, hlength]
            rfl
          · rw [List.map_append, List.append_assoc]
            rfl
        | utterance u => exact absurd hk (Nat.not_succ_le_zero k)
        | silence => exact absurd hk (Nat.not_succ_le_zero k)
    · rintro ⟨before, reasons, rfl, heq⟩
      rcases List.eq_nil_or_concat reasons with rfl | ⟨front, r, rfl⟩
      · exact Nat.zero_le _
      · rw [List.concat_eq_append, List.map_append, ← List.append_assoc] at heq
        obtain ⟨rfl, hlast⟩ := List.append_inj' heq rfl
        obtain rfl := List.singleton_inj.1 hlast
        rw [List.length_concat]
        exact Nat.succ_le_succ ((ih front.length).2 ⟨before, front, rfl, rfl⟩)

/-! ## The first end -/

theorem not_endsWith_nil (x : Session × σ) (ending : Ending) : ¬ EndsWith editor x [] ending := by
  generalize hnil : ([] : List Hearing) = heard
  rintro (⟨before, u, -⟩ | ⟨before, reasons, hlength⟩)
  · exact absurd hnil.symm (List.append_ne_nil_of_right_ne_nil _ (List.cons_ne_nil _ _))
  · obtain ⟨-, hreasons⟩ := List.append_eq_nil_iff.1 hnil.symm
    rw [List.map_eq_nil_iff.1 hreasons] at hlength
    exact absurd hlength (by decide)

theorem interpretation_replay (x : Session × σ) (past : List Hearing) (u : Text) :
    (handledBy editor (replay editor x past) u).1.interpretation =
      (handledBy editor (handleAll editor x (spoken past)) u).1.interpretation :=
  (((Alike.refl x).replay editor past).handledBy editor u).1

theorem endingOf_of_endsWith {x : Session × σ} {past : List Hearing} {h : Hearing}
    {ending : Ending} (hends : EndsWith editor x (past ++ [h]) ending) :
    endingOf editor (replay editor x past) (trailing past) h = some ending := by
  revert hends
  generalize hheard : past ++ [h] = heard
  rintro (⟨before, u, hstops⟩ | ⟨before, reasons, hlength⟩)
  · obtain ⟨rfl, hlast⟩ := List.append_inj' hheard rfl
    obtain rfl := List.singleton_inj.1 hlast
    rw [endingOf, interpretation_replay, if_pos hstops]
  · rcases List.eq_nil_or_concat reasons with rfl | ⟨front, r, rfl⟩
    · exact absurd hlength (by decide)
    rw [List.length_concat] at hlength
    rw [List.concat_eq_append, List.map_append, ← List.append_assoc] at hheard
    obtain ⟨rfl, hlast⟩ := List.append_inj' hheard rfl
    obtain rfl := List.singleton_inj.1 hlast
    have htrailing : front.length ≤ trailing (before ++ front.map .failure) :=
      (le_trailing_iff _ _).2 ⟨before, front, rfl, rfl⟩
    exact if_pos (by rw [maxFailures]; omega)

theorem endsWith_of_endingOf {x : Session × σ} {past : List Hearing} {h : Hearing}
    {ending : Ending}
    (hends : endingOf editor (replay editor x past) (trailing past) h = some ending) :
    EndsWith editor x (past ++ [h]) ending := by
  cases h with
  | utterance u =>
    rw [endingOf, interpretation_replay] at hends
    obtain ⟨hstops, hending⟩ := Option.ite_none_right_eq_some.1 hends
    obtain rfl := Option.some.inj hending
    exact .spoken past u hstops
  | silence => exact (nomatch hends)
  | failure r =>
    obtain ⟨hmany, hending⟩ := Option.ite_none_right_eq_some.1 hends
    obtain rfl := Option.some.inj hending
    obtain ⟨before, reasons, hlength, rfl⟩ :=
      (le_trailing_iff 2 past).1 (Nat.le_of_succ_le_succ hmany)
    have hfailed : EndsWith editor x (before ++ (reasons ++ [r]).map .failure) .sourceFailed :=
      .failed before (reasons ++ [r]) (by rw [List.length_append, List.length_singleton, hlength])
    rw [List.map_append, ← List.append_assoc] at hfailed
    exact hfailed

/-- One result ends a session if what was heard with it ends the session. -/
theorem endsWith_concat_iff (x : Session × σ) (past : List Hearing) (h : Hearing)
    (ending : Ending) : EndsWith editor x (past ++ [h]) ending ↔
      endingOf editor (replay editor x past) (trailing past) h = some ending :=
  ⟨endingOf_of_endsWith editor, endsWith_of_endingOf editor⟩

/-- **A session listens as far as the first end.** -/
theorem listen_replay (x : Session × σ) (past hearings : List Hearing) (reports : List Report)
    (hpast : ∀ sooner, sooner <+: past → ∀ other, ¬ EndsWith editor x sooner other) :
    ∃ heard unread ending, hearings = heard ++ unread ∧
      Ends editor x (past ++ heard) unread ending ∧
      (listen ⟨(replay editor x past).1, trailing past⟩ reports false (hearings.map quiet)).run
          editor (replay editor x past).2 =
        (⟨ending, (replay editor x (past ++ heard)).1,
          reports ++ told editor (handleAll editor x (spoken past)) heard, unread.map quiet⟩,
          (replay editor x (past ++ heard)).2) := by
  induction hearings generalizing past reports with
  | nil =>
    refine ⟨[], [], .sourceClosed, rfl, ?_, ?_⟩
    · rw [List.append_nil]
      exact ⟨.inr ⟨rfl, rfl, hpast past List.prefix_rfl⟩,
        fun sooner hsooner _ => hpast sooner hsooner⟩
    · rw [told, List.append_nil, List.append_nil]
      rfl
  | cons h rest ih =>
    have htold := ((Alike.refl x).replay editor past).toldOf editor h
    rw [List.map_cons, run_listen_cons]
    cases hends : endingOf editor (replay editor x past) (trailing past) h with
    | some ending =>
      have hcause := (endsWith_concat_iff editor x past h ending).2 hends
      refine ⟨[h], rest, ending, rfl, ⟨.inl hcause, ?_⟩, ?_⟩
      · intro sooner hsooner hne
        rcases List.prefix_concat_iff.1 hsooner with rfl | hsooner
        · exact absurd rfl hne
        · exact hpast sooner hsooner
      · rw [told, told, List.append_nil, replay_concat, ← htold]
    | none =>
      have hpast' : ∀ sooner, sooner <+: past ++ [h] →
          ∀ other, ¬ EndsWith editor x sooner other := by
        intro sooner hsooner other hother
        rcases List.prefix_concat_iff.1 hsooner with rfl | hsooner
        · rw [endsWith_concat_iff, hends] at hother
          cases hother
        · exact hpast sooner hsooner other hother
      obtain ⟨heard, unread, ending, rfl, hheard, hrun⟩ := ih (past ++ [h])
        (reports ++ toldOf editor (replay editor x past) h) hpast'
      refine ⟨h :: heard, unread, ending, rfl, ?_, ?_⟩
      · rw [List.append_cons]
        exact hheard
      · rw [replay_concat, trailing_concat] at hrun
        rw [told, ← htold, ← List.append_assoc, List.append_cons past, hrun,
          handleAll_spoken_append]

/-! ## A whole run -/

/-- What comes of a session that hears some results and leaves others unread. -/
structure Hears (x : Session × σ) (heard unread : List Hearing) (r : Ended × σ) : Prop where
  ends : Ends editor x heard unread r.1.ending
  unread : r.1.unread = unread.map quiet
  /-- Apart from its counts, the session is the one that handled the utterances. -/
  session : r.1.session =
    { (handleAll editor x (spoken heard)).1 with stats := r.1.session.stats }
  after : r.2 = (handleAll editor x (spoken heard)).2
  outcomes : ∀ o, r.1.session.stats.outcomes.count o =
    (handleAll editor x (spoken heard)).1.stats.outcomes.count o +
      if o = .executionFailed then failed heard else 0
  modes : ∀ m, r.1.session.stats.modes.count m =
    (handleAll editor x (spoken heard)).1.stats.modes.count m +
      (failureModes editor x heard).count m
  counted : ∀ n k, x.1.stats.Counted n k →
    r.1.session.stats.Counted (n + (spoken heard).length) (k + failed heard)
  reports : r.1.reports = .listening x.1.state :: told editor x heard ++ [.stopped]
  /-- In between, neither beginning nor end is told of. -/
  between : ∀ report ∈ told editor x heard, report ≠ .stopped ∧ ∀ state, report ≠ .listening state

/-- **A run hears what ends it and nothing more**, and the counts of any session add up. -/
theorem run_hears (s : Session) (e : σ) (hearings : List Hearing) :
    (∃ heard unread, hearings = heard ++ unread ∧
      Hears editor (s, e) heard unread
        ((s.run false (hearings.map quiet)).run editor e)) ∧
    ∀ (stats : SessionStats) (handled failed : Nat), stats.Counted handled failed →
      (Outcome.all.map stats.outcomes.count).sum = handled + failed ∧
      (Mode.all.map stats.modes.count).sum = handled + failed ∧
      stats.timings.length = handled := by
  constructor
  · have hpast : ∀ sooner, sooner <+: ([] : List Hearing) →
        ∀ other, ¬ EndsWith editor (s, e) sooner other := by
      intro sooner hsooner
      rw [List.prefix_nil.1 hsooner]
      exact not_endsWith_nil editor (s, e)
    obtain ⟨heard, unread, ending, hsplit, hends, hrun⟩ :=
      listen_replay editor (s, e) [] hearings [.listening s.state] hpast
    have halike := (Alike.refl (s, e)).replay editor heard
    obtain ⟨houtcomes, hmodes⟩ := (Alike.refl (s, e)).counts_replay editor heard
    refine ⟨heard, unread, hsplit, ?_⟩
    have hresult : (s.run false (hearings.map quiet)).run editor e =
        (⟨ending, (replay editor (s, e) heard).1,
          .listening s.state :: told editor (s, e) heard ++ [.stopped], unread.map quiet⟩,
          (replay editor (s, e) heard).2) := by
      rw [run, run_bind]
      exact congrArg
        (fun r : Ended × σ => ({ r.1 with reports := r.1.reports ++ [Report.stopped] }, r.2)) hrun
    rw [hresult]
    exact
      { ends := hends
        unread := rfl
        session := halike.session
        after := halike.editor
        outcomes := fun o => by have := houtcomes o; dsimp only; omega
        modes := fun m => by have := hmodes m; dsimp only; omega
        counted := fun _ _ hcounted => counted_replay editor hcounted heard
        reports := rfl
        between := fun _ hr => ne_of_mem_told editor hr }
  · intro stats handled failed hcounted
    obtain ⟨houtcomes, hmodes, -, htimings, -⟩ := hcounted.sums
    exact ⟨houtcomes, hmodes, htimings⟩

/-- The third failure in a row ends a run, whatever failed before; one utterance and
four failures are counted. -/
theorem run_hears_thirdFailure :
    let down := Hearing.failure ["no device".toList]
    let first := [down, .silence, .utterance "hello", down, down, down]
    let late := [Hearing.utterance "late"]
    ∃ r, ((new .empty false).run false ((first ++ late).map quiet)).run Buffer.editor (.ofText []) =
        r ∧ r.1.ending = .sourceFailed ∧
      Hears Buffer.editor (new .empty false, .ofText []) first late r ∧
      (Outcome.all.map r.1.session.stats.outcomes.count).sum = 1 + 4 := by
  intro down first late
  obtain ⟨⟨heard, unread, hsplit, hhears⟩, hsums⟩ := run_hears Buffer.editor (new .empty false)
    (.ofText []) (first ++ late)
  have hlate : late.map quiet = unread.map quiet := Eq.trans (by decide +kernel) hhears.unread
  have hquiet : Function.Injective quiet := fun _ _ h => congrArg SourceEvent.hearing h
  obtain rfl : late = unread := hquiet.list_map hlate
  obtain rfl : first = heard := List.append_cancel_right hsplit
  have hcounted := hhears.counted 0 0 .empty
  exact ⟨_, rfl, by decide +kernel, hhears, (hsums _ _ _ hcounted).1⟩

end VoiceEdit.Session
