import VoiceEdit.Combination
import VoiceEdit.Proofs.Program.Refusal

/-!
# Resolutions that are refused

For a rule table whose actions may do anything:

* `asks_resolve`: a resolution asks for no actions but the table's.
* `stopsAt_resolve`: it ends with the first action that fails.
* `earns_resolve`: it is a success only if some action was carried out.
* `blames_runTogether`: how a window fails is how one of its actions failed, unless its
  arguments are invalid.
-/
namespace VoiceEdit.RuleTable

open Program

variable {α : Type} {t : RuleTable α}

/-- The action of a request is one of the table's. -/
def HasAction (t : RuleTable α) (i : Invocation α) : Prop := ∃ kinds, (kinds, i.action) ∈ t.rules

/-- An action failed. -/
abbrev Fails (_ : Invocation α) (s : Step) (o : Outcome) : Prop := s = .failed o

/-- What a window makes of the failure of an action. -/
abbrev WindowTells (o : Outcome) (r : Except Outcome (List Applied)) : Prop := r = .error o

/-- What a resolution makes of it. -/
abbrev Tells (o : Outcome) (r : Resolution) : Prop := r.outcome = o

/-- A step after which a resolution may be a success. -/
abbrev Counts (_ : Invocation α) (s : Step) : Prop := s = .done ∨ s = .failed .success

/-- A window after which a resolution may be a success. -/
abbrev WindowClaims (r : Except Outcome (List Applied)) : Prop := ∀ o, r = .error o → o = .success

/-- An action failed with an outcome of some kind. -/
abbrev FailsAs (bad : Outcome → Prop) (_ : Invocation α) (s : Step) : Prop :=
  ∃ o, s = .failed o ∧ bad o

/-- A window failed with such an outcome. -/
abbrev WindowFailsAs (bad : Outcome → Prop) (r : Except Outcome (List Applied)) : Prop :=
  ∃ o, r = .error o ∧ bad o

theorem exists_mem_of_action? {kinds : List TokenKind} {action : α}
    (h : t.action? kinds = some action) : ∃ kinds, (kinds, action) ∈ t.rules := by
  obtain ⟨before, after, hrules, -⟩ := List.lookup_eq_some_iff.1 h
  exact ⟨t.canonicalKinds kinds, by rw [hrules]; simp⟩

/-! ## Only the table's actions are asked for -/

theorem asks_runAlone (token : Token) : (t.runAlone token).Asks t.HasAction := by
  unfold runAlone
  split
  · trivial
  · rename_i action haction
    refine ⟨exists_mem_of_action? haction, fun r => ?_⟩
    cases r <;> trivial

theorem asks_runTogether (tokens : List Token) : (t.runTogether tokens).Asks t.HasAction := by
  induction tokens with
  | nil => trivial
  | cons token rest ih =>
    cases haction : t.action? ((token :: rest).map Token.kind) with
    | none => simp only [runTogether, haction]; trivial
    | some action =>
      simp only [runTogether, haction]
      refine ⟨exists_mem_of_action? haction, fun r => ?_⟩
      cases r with
      | done => trivial
      | failed o => trivial
      | declined =>
        simp only
        split
        · trivial
        · refine (asks_runAlone token).bind fun first => ?_
          cases first with
          | error o => trivial
          | ok first => exact ih.bind fun others => by cases others <;> trivial

theorem asks_resolveFrom (covered : Nat) (tokens : List Token) :
    (t.resolveFrom covered tokens).Asks t.HasAction := by
  induction tokens generalizing covered with
  | nil => trivial
  | cons token rest ih =>
    cases covered with
    | succ covered => exact ih covered
    | zero =>
      refine (asks_runTogether _).bind fun window => ?_
      cases window with
      | error o => trivial
      | ok applied => exact (ih _).bind fun others => trivial

theorem asks_resolve (tokens : List Token) : (t.resolve tokens).Asks t.HasAction := by
  unfold resolve
  split
  · trivial
  · exact asks_resolveFrom 0 tokens

/-! ## The first failure ends a resolution -/

theorem stopsAt_runAlone (token : Token) : (t.runAlone token).StopsAt Fails WindowTells := by
  unfold runAlone
  split
  · trivial
  · intro r
    refine ⟨by cases r <;> trivial, ?_⟩
    rintro o rfl
    exact ⟨_, rfl, rfl⟩

theorem stopsAt_runTogether (tokens : List Token) :
    (t.runTogether tokens).StopsAt Fails WindowTells := by
  induction tokens with
  | nil => trivial
  | cons token rest ih =>
    cases haction : t.action? ((token :: rest).map Token.kind) with
    | none => simp only [runTogether, haction]; trivial
    | some action =>
      simp only [runTogether, haction]
      intro r
      refine ⟨?_, ?_⟩
      · cases r with
        | done => trivial
        | failed o => trivial
        | declined =>
          simp only
          split
          · trivial
          · refine (stopsAt_runAlone token).bind (passes fun _ => rfl) fun first => ?_
            cases first with
            | error o => trivial
            | ok first =>
              exact ih.bind (passes fun _ => rfl) fun others => by cases others <;> trivial
      · rintro o rfl
        exact ⟨_, rfl, rfl⟩

theorem stopsAt_resolveFrom (covered : Nat) (tokens : List Token) :
    (t.resolveFrom covered tokens).StopsAt Fails Tells := by
  induction tokens generalizing covered with
  | nil => trivial
  | cons token rest ih =>
    cases covered with
    | succ covered => exact ih covered
    | zero =>
      refine (stopsAt_runTogether _).bind ?_ fun window => ?_
      · rintro o _ rfl
        exact ⟨_, rfl, rfl⟩
      · cases window with
        | error o => trivial
        | ok applied => exact (ih _).bind (fun o others ho => ⟨_, rfl, ho⟩) fun others => trivial

theorem stopsAt_resolve (tokens : List Token) : (t.resolve tokens).StopsAt Fails Tells := by
  unfold resolve
  split
  · trivial
  · exact stopsAt_resolveFrom 0 tokens

/-! ## A success was carried out -/

theorem not_windowClaims {o : Outcome} (h : o ≠ .success) : ¬ WindowClaims (.error o) :=
  fun hclaims => h (hclaims o rfl)

theorem earns_runAlone (token : Token) : (t.runAlone token).Earns Counts WindowClaims := by
  unfold runAlone
  split
  · exact not_windowClaims (by decide)
  · intro r hr
    cases r with
    | done => exact absurd (.inl rfl) hr
    | declined => exact not_windowClaims (by decide)
    | failed o => exact not_windowClaims fun ho => hr (.inr (by rw [ho]))

theorem earns_runTogether (tokens : List Token) :
    (t.runTogether tokens).Earns Counts WindowClaims := by
  cases tokens with
  | nil => exact not_windowClaims (by decide)
  | cons token rest =>
    cases haction : t.action? ((token :: rest).map Token.kind) with
    | none => simp only [runTogether, haction]; exact not_windowClaims (by decide)
    | some action =>
      simp only [runTogether, haction]
      intro r hr
      cases r with
      | done => exact absurd (.inl rfl) hr
      | failed o => exact not_windowClaims fun ho => hr (.inr (by rw [ho]))
      | declined =>
        simp only
        split
        · exact not_windowClaims (by decide)
        · -- the first token alone must have failed, so that the others are not asked for
          refine (earns_runAlone token).bind fun first hfirst => ?_
          cases first with
          | error o => exact fun hclaims => hfirst hclaims
          | ok applied => exact absurd (fun o ho => nomatch ho) hfirst

/-- A resolution of tokens that no window before has covered. -/
theorem earns_resolve (tokens : List Token) :
    (t.resolve tokens).Earns Counts fun r => r.outcome = .success := by
  unfold resolve
  cases tokens with
  | nil => exact fun h => nomatch h
  | cons token rest =>
    refine (earns_runTogether _).bind fun window hwindow => ?_
    cases window with
    | error o =>
      intro ho
      exact hwindow fun o' ho' => by cases ho'; exact ho
    | ok applied => exact absurd (fun o ho => nomatch ho) hwindow

/-! ## How windows fail -/

section Blame

variable {bad : Outcome → Prop}

theorem not_windowFailsAs_ok (applied : List Applied) : ¬ WindowFailsAs bad (.ok applied) := by
  intro h
  obtain ⟨o, ho, -⟩ := h
  cases ho

theorem not_windowFailsAs_invalid (hbad : ¬ bad .invalidArgument) :
    ¬ WindowFailsAs bad (.error .invalidArgument) := by
  intro h
  obtain ⟨o, ho, hfails⟩ := h
  cases ho
  exact hbad hfails

/-- A window that tells how an action failed. -/
theorem not_windowFailsAs_of_not {i : Invocation α} {o : Outcome}
    (h : ¬ FailsAs bad i (.failed o)) : ¬ WindowFailsAs bad (.error o) := by
  intro hwindow
  obtain ⟨o', ho, hfails⟩ := hwindow
  cases ho
  exact h ⟨o, rfl, hfails⟩

theorem blames_runAlone (hbad : ¬ bad .invalidArgument) (token : Token) :
    (t.runAlone token).Earns (FailsAs bad) (WindowFailsAs bad) := by
  unfold runAlone
  split
  · exact not_windowFailsAs_invalid hbad
  · intro r hr
    cases r with
    | done => exact not_windowFailsAs_ok _
    | declined => exact not_windowFailsAs_invalid hbad
    | failed o => exact not_windowFailsAs_of_not hr

theorem blames_runTogether (hbad : ¬ bad .invalidArgument) (tokens : List Token) :
    (t.runTogether tokens).Earns (FailsAs bad) (WindowFailsAs bad) := by
  induction tokens with
  | nil => exact not_windowFailsAs_invalid hbad
  | cons token rest ih =>
    cases haction : t.action? ((token :: rest).map Token.kind) with
    | none => simp only [runTogether, haction]; exact not_windowFailsAs_invalid hbad
    | some action =>
      simp only [runTogether, haction]
      intro r hr
      cases r with
      | done => exact not_windowFailsAs_ok _
      | failed o => exact not_windowFailsAs_of_not hr
      | declined =>
        simp only
        split
        · exact not_windowFailsAs_invalid hbad
        · refine (blames_runAlone hbad token).bind fun first hfirst => ?_
          cases first with
          | error o => exact hfirst
          | ok first =>
            refine ih.bind fun others hothers => ?_
            cases others with
            | error o => exact hothers
            | ok others => exact not_windowFailsAs_ok _

end Blame

end VoiceEdit.RuleTable
