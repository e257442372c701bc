import VoiceEdit.Proofs.Command.WordOrder

/-!
# Passes of one combination

A pass that reports one combination had one window, which was not divided: the action that is
bound to its kinds was carried out on its tokens in canonical order, and nothing else was done.

* `canonical_pair`, `isWindow_of_perm`: two tokens in either order.
* `exists_eq_of_runs_single`: a window that reports one combination asked for one action, for
  both parts of a divided one report something (`ne_nil_of_runs_ok`).
* `carryWindow_single_iff`, `carryOut_single_iff`: one combination is one action carried out.
* `carryOut_invalid`: tokens that their action turns down.
-/
namespace VoiceEdit.RuleTable

open Program

section

variable {α : Type} {t : RuleTable α} {tokens : List Token}

/-- Two tokens of different rank have one canonical order. -/
theorem canonical_pair {a b : Token} (hrank : t.rank a.kind < t.rank b.kind)
    (hperm : tokens.Perm [a, b]) : t.canonical tokens = [a, b] := by
  have hin : t.InOrder [a, b] := List.pairwise_pair.2 (Nat.le_of_lt hrank)
  have hsame : (t.canonical tokens).Perm [a, b] := (t.canonical_perm tokens).trans hperm
  refine List.Perm.eq_of_pairwise ?_ (t.inOrder_canonical tokens) hin hsame
  intro x y hx hy hxy hyx
  have hmem : ∀ {z}, z ∈ [a, b] ↔ z = a ∨ z = b := by simp
  rcases hmem.1 (hsame.mem_iff.1 hx) with rfl | rfl <;> rcases hmem.1 hy with rfl | rfl
  · rfl
  · exact absurd hyx (Nat.not_le.2 hrank)
  · exact absurd hxy (Nat.not_le.2 hrank)
  · rfl

/-- Two tokens of different kinds are one window, in either order. -/
theorem isWindow_of_perm {t : RuleTable TokenAction} {a b : Token} (hkind : a.kind ≠ b.kind)
    (hperm : tokens.Perm [a, b]) : t.IsWindow tokens := by
  have hdistinct : ([a, b].map Token.kind).Nodup := by simpa using hkind
  exact isWindow_pair ((hperm.map Token.kind).nodup_iff.2 hdistinct) hperm.length_eq

variable {events : List (Event (Invocation.interface α))}

/-- A window that succeeds reports what it did. -/
theorem ne_nil_of_runs_ok {applied : List Applied} (hin : t.InOrder tokens) (hne : tokens ≠ [])
    (h : (t.runTogether tokens).Runs events (.ok applied)) : applied ≠ [] := by
  obtain ⟨hflatten, -, happlied⟩ := (windowRun_runTogether hin h).served applied rfl
  rintro rfl
  have hnone : carriedOut events = [] := List.map_eq_nil_iff.1 happlied.symm
  rw [hnone] at hflatten
  exact hne hflatten.symm

/-- A window that reports one combination asked for one action, which was done. -/
theorem exists_eq_of_runs_single {a : Applied} (hin : t.InOrder tokens) (hne : tokens ≠ [])
    (h : (t.runTogether tokens).Runs events (.ok [a])) : ∃ i, events = [⟨i, Step.done⟩] := by
  obtain ⟨token, rest, rfl⟩ := List.exists_cons_of_ne_nil hne
  have hcase := windowCase_of_runs h
  generalize hr : (Except.ok [a] : Except Outcome (List Applied)) = r at hcase
  cases hcase with
  | unbound _ => cases hr
  | @settled action s _ _ =>
    cases s with
    | done => exact ⟨_, rfl⟩
    | declined => cases hr
    | failed o => cases hr
  | halted _ _ _ => cases hr
  | @split _ _ _ first r _ hrest hfirst hothers =>
    -- both parts report something
    cases r with
    | error o => cases hr
    | ok others =>
      have hlength : [a] = first ++ others := Except.ok.inj hr
      have hsum := congrArg List.length hlength
      have hpos := ne_nil_of_runs_ok (List.pairwise_singleton _ _) (List.cons_ne_nil _ _) hfirst
      have hpos' := ne_nil_of_runs_ok (List.pairwise_cons.1 hin).2 hrest hothers
      rw [← List.length_pos_iff] at hpos hpos'
      simp only [List.length_cons, List.length_nil, List.length_append] at hsum
      omega

end

section

variable {t : RuleTable TokenAction} {tokens : List Token} {action : TokenAction} {a : Applied}
variable {σ : Type} {editor : Handler Editor.interface σ} {s after : σ}

/-- A window with a rule asks first for the action of all of it, which may settle it. -/
theorem runTogether_eq_ask (hne : tokens ≠ [])
    (haction : t.action? (tokens.map Token.kind) = some action) :
    ∃ key next, t.runTogether tokens = .ask ⟨key, action, tokens⟩ next ∧
      next .done = .done (.ok [report tokens]) ∧ ∀ o, next (.failed o) = .done (.error o) := by
  obtain ⟨token, rest, rfl⟩ := List.exists_cons_of_ne_nil hne
  rw [runTogether]
  simp only [haction]
  exact ⟨_, _, rfl, by simp only [report, List.length_map], fun _ => rfl⟩

theorem canonical_ne_nil (hne : tokens ≠ []) : t.canonical tokens ≠ [] := by
  intro hnil
  have hperm := t.canonical_perm tokens
  rw [hnil] at hperm
  exact hne hperm.symm.eq_nil

/-- A window reports one combination if and only if its action is carried out on all of it. -/
theorem carryWindow_single_iff (hne : tokens ≠ [])
    (haction : t.action? ((t.canonical tokens).map Token.kind) = some action) :
    (t.carryWindow tokens).run editor s = (.ok [a], after) ↔
      (action (t.canonical tokens)).run editor s = (.done, after) ∧
        a = report (t.canonical tokens) := by
  have hin := t.inOrder_canonical tokens
  have hcanonical := canonical_ne_nil hne (t := t)
  rw [carryWindow, run_via]
  generalize t.canonical tokens = window at hin haction hcanonical ⊢
  let actions : Handler (Invocation.interface TokenAction) σ :=
    fun i s => (i.action i.tokens).run editor s
  show (t.runTogether window).run actions s = _ ↔ _
  obtain ⟨key, next, hasks, hdone, -⟩ := runTogether_eq_ask hcanonical haction
  have hrun : (t.runTogether window).run actions s =
      (next ((action window).run editor s).1).run actions ((action window).run editor s).2 := by
    rw [hasks]
    rfl
  constructor
  · intro h
    have hruns := runs_trace actions (t.runTogether window) s
    rw [h] at hruns
    obtain ⟨i, htrace⟩ := exists_eq_of_runs_single hin hcanonical hruns
    rw [hasks] at htrace
    have hstep : ((action window).run editor s).1 = .done :=
      congrArg (fun e : Event (Invocation.interface TokenAction) => (e.2 : Step))
        (List.cons.inj htrace).1
    rw [hrun, hstep, hdone] at h
    cases h
    exact ⟨Prod.ext hstep rfl, rfl⟩
  · rintro ⟨h, rfl⟩
    rw [hrun, h, hdone]
    rfl

/-- A pass over one window reports one combination if and only if the action of the window is
carried out on all of it. -/
theorem carryOut_single_iff (hwindow : t.IsWindow tokens)
    (haction : t.action? ((t.canonical tokens).map Token.kind) = some action) :
    (t.carryOut tokens).run editor s = (⟨.success, [a]⟩, after) ↔
      (action (t.canonical tokens)).run editor s = (.done, after) ∧
        a = report (t.canonical tokens) := by
  rw [← carryWindow_single_iff hwindow.nonempty haction, carryOut_window hwindow, run_bind]
  rcases (t.carryWindow tokens).run editor s with ⟨r, s'⟩
  cases r with
  | error o => simp [goOn, Program.run]
  | ok applied => simp [goOn, Program.run, Program.bind]

/-- A pass over one window that its action turns down asks for nothing. -/
theorem carryOut_invalid (hwindow : t.IsWindow tokens)
    (haction : t.action? ((t.canonical tokens).map Token.kind) = some action)
    (hinvalid : action (t.canonical tokens) = Step.invalid) :
    t.carryOut tokens = .done ⟨.invalidArgument, []⟩ := by
  obtain ⟨key, next, hasks, -, hfailed⟩ :=
    runTogether_eq_ask (canonical_ne_nil hwindow.nonempty) haction
  rw [carryOut_window hwindow, carryWindow, hasks]
  simp only [via, hinvalid, Step.invalid, Program.bind, hfailed, goOn]

end

end VoiceEdit.RuleTable
