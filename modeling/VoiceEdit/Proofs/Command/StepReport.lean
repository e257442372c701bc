import VoiceEdit.Proofs.Command.Windows

/-!
# What the steps of a resolution tell

A resolution ends behind the tokens that its steps have used. Its steps are the actions
carried out up to there. What the last window carried out before it failed is told by
none: that is what ran of a combination that was declined and split.

* `EndsAt`: where a resolution ends, and what was asked for up to there and from there on.
* `exists_endsAt`: every resolution ends somewhere.
* `Torn`, `Loses`, `exists_loses`: what a window that fails has carried out.
* `resolve_reports`: the steps are all that was carried out unless the last window was torn.
-/
namespace VoiceEdit.RuleTable

open Program

variable {α : Type} {t : RuleTable α} {tokens : List Token} {r : Resolution}
  {events : List (Event (Invocation.interface α))}

/-! ## Where a resolution ends -/

/-- A resolution ends behind the tokens that its steps have used: `before` is what was asked
for up to there, `last` what was asked for in the window that failed there. -/
structure EndsAt (t : RuleTable α) (tokens : List Token)
    (events : List (Event (Invocation.interface α))) (r : Resolution)
    (before last : List (Event (Invocation.interface α))) : Prop where
  split : events = before ++ last
  served : t.Served (tokens.take r.consumed) (carriedOut before)
  reported : r.applied = (carriedOut before).map report
  finished : tokens.drop r.consumed = [] → last = []
  stopped : tokens.drop r.consumed ≠ [] →
    (t.runTogether (t.canonical ((tokens.drop r.consumed).take
      (t.windowSize ((tokens.drop r.consumed).map Token.kind))))).Runs last (.error r.outcome)

theorem endsAt_nil (o : Outcome) : t.EndsAt [] [] ⟨o, []⟩ [] [] where
  split := rfl
  served := .nil
  reported := rfl
  finished _ := rfl
  stopped h := absurd rfl h

/-- A window that succeeds is served before the others. -/
theorem EndsAt.window {window rest : List Token} {applied : List Applied}
    {others before last : List (Event (Invocation.interface α))}
    (hsize : 1 ≤ window.length ∧ window.length ≤ 3)
    (hwindow : t.WindowRun (t.canonical window) events (.ok applied))
    (h : t.EndsAt rest others r before last) :
    t.EndsAt (window ++ rest) (events ++ others) ⟨r.outcome, applied ++ r.applied⟩
      (events ++ before) last := by
  obtain ⟨hflatten, hne, happlied⟩ := hwindow.served applied rfl
  have hused : (applied.map Applied.consumed).sum = window.length := by
    rw [happlied, consumed_report, hflatten, (t.canonical_perm window).length_eq]
  have hconsumed : Resolution.consumed ⟨r.outcome, applied ++ r.applied⟩ =
      window.length + r.consumed := by
    simp only [Resolution.consumed, List.map_append, List.sum_append, hused]
  have hleft : (window ++ rest).drop (window.length + r.consumed) = rest.drop r.consumed :=
    List.drop_length_add_append _
  refine ⟨?_, ?_, ?_, ?_, ?_⟩
  · rw [h.split, List.append_assoc]
  · rw [hconsumed, List.take_length_add_append, carriedOut_append]
    exact .window hsize hne hflatten h.served
  · rw [carriedOut_append, List.map_append, ← happlied, ← h.reported]
  · rw [hconsumed, hleft]
    exact h.finished
  · rw [hconsumed, hleft]
    exact h.stopped

theorem exists_endsAt_of_runs (h : (t.resolveFrom 0 tokens).Runs events r) :
    ∃ before last, t.EndsAt tokens events r before last := by
  -- on the number of tokens: what a window leaves is shorter
  induction hn : tokens.length using Nat.strong_induction_on generalizing tokens events r with
  | _ n ih =>
  by_cases hne : tokens = []
  · subst hne
    obtain ⟨rfl, rfl⟩ := runs_done_iff.1 h
    exact ⟨[], [], endsAt_nil .success⟩
  obtain ⟨window, rest, hsplit, hsize, hbounds, hcase⟩ := passCase_of_runs hne h
  have hwindow : window = tokens.take (t.windowSize (tokens.map Token.kind)) := by
    rw [← hsize, hsplit, List.take_left]
  cases hcase with
  | failed hfailed =>
    rw [hwindow] at hfailed
    exact ⟨[], events, rfl, .nil, rfl, fun hnil => absurd hnil hne, fun _ => hfailed⟩
  | passed hpassed hrest =>
    rw [hsplit, List.length_append] at hn
    obtain ⟨before, last, hends⟩ := ih rest.length (by omega) hrest rfl
    rw [hsplit]
    exact ⟨_, last, hends.window hbounds (windowRun_runTogether (t.inOrder_canonical window) hpassed)⟩

/-- Every resolution ends somewhere. -/
theorem exists_endsAt {σ : Type} (t : RuleTable α) (tokens : List Token)
    (actions : Handler (Invocation.interface α) σ) (s : σ) :
    ∃ before last, t.EndsAt tokens ((t.resolve tokens).trace actions s)
      ((t.resolve tokens).run actions s).1 before last := by
  cases tokens with
  | nil => exact ⟨[], [], endsAt_nil .invalidArgument⟩
  | cons token rest =>
    have hruns : (t.resolve (token :: rest)).Runs _ _ := runs_trace actions _ s
    exact exists_endsAt_of_runs hruns

/-! ## Windows that fail -/

/-- A combination was declined and its first token was then carried out alone. -/
def Torn (events : List (Event (Invocation.interface α))) : Prop :=
  ∃ e f rest, events = e :: f :: rest ∧ (e.2 : Step) = .declined ∧ (f.2 : Step) = .done

theorem not_torn_of_length (h : events.length ≤ 1) : ¬ Torn events := by
  rintro ⟨e, f, rest, rfl, -, -⟩
  rw [List.length_cons, List.length_cons] at h
  omega

theorem carriedOut_cons (e : Event (Invocation.interface α))
    (events : List (Event (Invocation.interface α))) :
    carriedOut (e :: events) = carriedOut [e] ++ carriedOut events :=
  carriedOut_append [e] events

theorem carriedOut_declined (i : Invocation α) : carriedOut [⟨i, Step.declined⟩] = [] := rfl

theorem carriedOut_eq_nil (h : ∀ e ∈ events, (e.2 : Step) ≠ .done) : carriedOut events = [] := by
  refine List.filterMap_eq_nil_iff.2 fun e he => ?_
  have hdone := h e he
  split
  · exact absurd ‹_› hdone
  · rfl

/-- An action that ends its window in failure is not carried out. -/
theorem not_done_of_settle {s : Step} {o : Outcome} (h : settle tokens s = .error o) : s ≠ .done := by
  rintro rfl
  cases h

/-- A token that runs alone and fails leaves nothing done. -/
theorem forall_not_done_of_error {token : Token} {o : Outcome}
    (h : (t.runTogether [token]).Runs events (.error o)) : ∀ e ∈ events, (e.2 : Step) ≠ .done := by
  generalize hr : (Except.error o : Except Outcome (List Applied)) = r at h
  cases windowCase_of_runs h with
  | unbound _ => exact fun _ he => absurd he List.not_mem_nil
  | settled _ _ =>
    intro e he
    rw [List.mem_singleton.1 he]
    exact not_done_of_settle hr.symm
  | halted _ hrest _ => exact absurd rfl hrest
  | split _ hrest _ _ => exact absurd rfl hrest

/-- A token that runs alone and succeeds was carried out by one action. -/
theorem exists_done_of_ok {token : Token} {applied : List Applied}
    (h : (t.runTogether [token]).Runs events (.ok applied)) :
    ∃ i : Invocation α, i.tokens = [token] ∧ events = [⟨i, Step.done⟩] := by
  generalize hr : (Except.ok applied : Except Outcome (List Applied)) = r at h
  cases windowCase_of_runs h with
  | unbound _ => cases hr
  | @settled action s _ _ =>
    cases s with
    | done => exact ⟨_, rfl, rfl⟩
    | declined => cases hr
    | failed o => cases hr
  | halted _ hrest _ => exact absurd rfl hrest
  | split _ hrest _ _ => exact absurd rfl hrest

/-- What a window that fails has carried out: some tokens from its beginning, one by one, and
none unless it was torn. -/
structure Loses (tokens : List Token) (events : List (Event (Invocation.interface α)))
    (lost : List Token) : Prop where
  start : lost <+: tokens
  short : lost.length ≤ tokens.length - 1
  carried : carriedOut events = lost.map ([·])
  torn : lost = [] ↔ ¬ Torn events

theorem loses_nothing (hcarried : carriedOut events = []) (htorn : ¬ Torn events) :
    Loses tokens events [] :=
  ⟨List.nil_prefix, Nat.zero_le _, hcarried, fun _ => htorn, fun _ => rfl⟩

/-- A window that is declined and fails behind its first token loses that token too. -/
theorem Loses.split {token : Token} {rest lost : List Token} {i first : Invocation α}
    (hrest : rest ≠ []) (hfirst : first.tokens = [token]) (h : Loses rest events lost) :
    Loses (token :: rest) (⟨i, Step.declined⟩ :: ([⟨first, Step.done⟩] ++ events))
      (token :: lost) := by
  have hpos := List.length_pos_iff.2 hrest
  have hshort := h.short
  refine ⟨(List.prefix_cons_inj token).2 h.start, ?_, ?_, fun hnil => absurd hnil (List.cons_ne_nil _ _),
    fun htorn => absurd ⟨_, _, _, rfl, rfl, rfl⟩ htorn⟩
  · simp only [List.length_cons]
    omega
  · have hdone : carriedOut [⟨first, Step.done⟩] = [[token]] := by simp [carriedOut, hfirst]
    rw [carriedOut_cons, carriedOut_declined, carriedOut_append, hdone, h.carried]
    rfl

theorem exists_loses {o : Outcome} (h : (t.runTogether tokens).Runs events (.error o)) :
    ∃ lost, Loses tokens events lost := by
  induction tokens generalizing events o with
  | nil =>
    obtain ⟨rfl, -⟩ := runs_done_iff.1 h
    exact ⟨[], loses_nothing rfl (not_torn_of_length (Nat.zero_le 1))⟩
  | cons token rest ih =>
    generalize hr : (Except.error o : Except Outcome (List Applied)) = r at h
    cases windowCase_of_runs h with
    | unbound _ => exact ⟨[], loses_nothing rfl (not_torn_of_length (Nat.zero_le 1))⟩
    | settled _ _ =>
      have hfailed := not_done_of_settle hr.symm
      exact ⟨[], loses_nothing (carriedOut_eq_nil (by simpa using hfailed))
        (not_torn_of_length (Nat.le_refl 1))⟩
    | halted _ _ hfirst =>
      have hnone := forall_not_done_of_error hfirst
      refine ⟨[], loses_nothing ?_ ?_⟩
      · rw [carriedOut_cons, carriedOut_declined, carriedOut_eq_nil hnone]
        rfl
      · rintro ⟨_, f, _, hsplit, -, hf⟩
        obtain ⟨-, rfl⟩ := List.cons.inj hsplit
        exact hnone f List.mem_cons_self hf
    | @split _ _ _ _ r _ hrest hfirst hothers =>
      cases r with
      | ok applied => cases hr
      | error o' =>
        obtain ⟨lost, hlost⟩ := ih hothers
        obtain ⟨i, htokens, rfl⟩ := exists_done_of_ok hfirst
        exact ⟨token :: lost, hlost.split hrest htokens⟩

/-! ## The steps -/

/-- What was carried out in all, from what was carried out before the last window. -/
theorem EndsAt.exists_lost {before last : List (Event (Invocation.interface α))}
    (h : t.EndsAt tokens events r before last) : ∃ lost : List Token, lost.length ≤ 2 ∧
      (carriedOut events).map report = r.applied ++ lost.map (fun token => report [token]) ∧
      (lost = [] ↔ ¬ Torn last) := by
  rw [h.split, carriedOut_append, List.map_append, ← h.reported]
  by_cases hleft : tokens.drop r.consumed = []
  · rw [h.finished hleft]
    exact ⟨[], Nat.zero_le 2, rfl, fun _ => not_torn_of_length (Nat.zero_le 1), fun _ => rfl⟩
  · obtain ⟨lost, -, hlength, hcarried, htorn⟩ := exists_loses (h.stopped hleft)
    obtain ⟨-, hthree, -⟩ := t.windowSize_le ((tokens.drop r.consumed).map Token.kind)
      (mt List.map_eq_nil_iff.1 hleft)
    rw [(t.canonical_perm _).length_eq, List.length_take] at hlength
    refine ⟨lost, by omega, ?_, htorn⟩
    rw [hcarried, List.map_map]
    rfl

/-- The steps of a resolution are actions that were carried out, in order, up to the window
in which it failed. They are all of them unless that window was declined and its first token
then carried out alone: then one or two single tokens are missing at the end. -/
theorem resolve_reports {σ : Type} (t : RuleTable α) (tokens : List Token)
    (actions : Handler (Invocation.interface α) σ) (s : σ) :
    let events := (t.resolve tokens).trace actions s
    let r := ((t.resolve tokens).run actions s).1
    ∃ before last, ∃ lost : List Token, t.EndsAt tokens events r before last ∧ lost.length ≤ 2 ∧
      (carriedOut events).map report = r.applied ++ lost.map (fun token => report [token]) ∧
      (r.applied = (carriedOut events).map report ↔ ¬ Torn last) := by
  intro events r
  obtain ⟨before, last, hends⟩ := exists_endsAt t tokens actions s
  obtain ⟨lost, hlength, hcarried, htorn⟩ := hends.exists_lost
  refine ⟨before, last, lost, hends, hlength, hcarried, ?_⟩
  rw [← htorn, hcarried]
  exact List.self_eq_append_right.trans List.map_eq_nil_iff

/-- A count goes with no direction, and a direction alone fails. -/
def tearing : RuleTable Step :=
  (empty "tearing" [.number, .direction])
    |>.bind [.number] .done
    |>.bind [.number, .direction] .declined
    |>.bind [.direction] (.failed .executionFailed)

/-- The count is carried out, and no step tells of it. -/
theorem resolve_untold :
    let tokens := [Token.ofNumber 5, .ofCode .direction "UP"]
    let answer : Handler (Invocation.interface Step) Unit := fun i s => (i.action, s)
    let events := (tearing.resolve tokens).trace answer ()
    let r := ((tearing.resolve tokens).run answer ()).1
    r.outcome = .executionFailed ∧ carriedOut events = [[.ofNumber 5]] ∧ r.applied = [] ∧
      r.applied ≠ (carriedOut events).map report := by
  decide +kernel

end VoiceEdit.RuleTable
