import VoiceEdit.Command.Selecting
import VoiceEdit.Proofs.Command.StepReport

/-!
# Where a resolution gives up

A resolution gives up where it asks for nothing of the tokens left. The length of a window
is settled by the kinds of the tokens before it is known whether a rule is bound to it; only
three different kinds are taken together for having a rule. So a resolution also gives up in
front of tokens that a shorter or a longer window would have a rule for.

* `binds_canonical`: a window and its tokens in canonical order meet the same rule.
* `eq_nil_iff_of_error`: a window asks for nothing exactly if no rule is bound to it.
* `knows_iff_overlooks`: the rules that a window without a rule passes over.
* `resolve_gives_up`: where a resolution gives up, and whether a rule was there.
-/
namespace VoiceEdit

theorem insertRanked_map {β γ : Type} (rank : γ → Nat) (f : β → γ) (b : β) (l : List β) :
    insertRanked rank (f b) (l.map f) = (insertRanked (fun b => rank (f b)) b l).map f := by
  induction l with
  | nil => rfl
  | cons c rest ih =>
    rw [List.map_cons, insertRanked, insertRanked, ih]
    split <;> rfl

theorem sortRanked_map {β γ : Type} (rank : γ → Nat) (f : β → γ) (l : List β) :
    sortRanked rank (l.map f) = (sortRanked (fun b => rank (f b)) l).map f := by
  induction l with
  | nil => rfl
  | cons b rest ih => rw [List.map_cons, sortRanked, sortRanked, ih, insertRanked_map]

namespace RuleTable

open Program

variable {α : Type} {t : RuleTable α} {tokens : List Token} {kinds : List TokenKind}
  {events : List (Event (Invocation.interface α))}

/-! ## Windows without a rule -/

/-- A window and its tokens in canonical order meet the same rule. -/
theorem binds_canonical (t : RuleTable α) (tokens : List Token) :
    t.binds ((t.canonical tokens).map Token.kind) = t.binds (tokens.map Token.kind) := by
  have hkinds : (t.canonical tokens).map Token.kind = t.canonicalKinds (tokens.map Token.kind) :=
    (sortRanked_map t.rank Token.kind tokens).symm
  rw [binds, action?, canonicalKinds_of_inOrder (t.inOrder_canonical tokens), hkinds, binds, action?]

/-- A window that fails asks for nothing exactly if no rule is bound to it, and then its
tokens are no valid arguments. -/
theorem eq_nil_iff_of_error {o : Outcome} (hne : tokens ≠ [])
    (h : (t.runTogether tokens).Runs events (.error o)) :
    (events = [] ↔ t.binds (tokens.map Token.kind) = false) ∧
      (events = [] → o = .invalidArgument) := by
  obtain ⟨token, rest, rfl⟩ := List.exists_cons_of_ne_nil hne
  generalize hr : (Except.error o : Except Outcome (List Applied)) = r at h
  have hbound : ∀ {action : α} {e : Event (Invocation.interface α)}
      {events : List (Event (Invocation.interface α))},
      t.action? ((token :: rest).map Token.kind) = some action →
      (e :: events = [] ↔ t.binds ((token :: rest).map Token.kind) = false) ∧
        (e :: events = [] → o = .invalidArgument) := by
    intro action e events haction
    rw [binds, haction]
    exact ⟨⟨fun h => (nomatch h), fun h => (nomatch h)⟩, fun h => nomatch h⟩
  cases windowCase_of_runs h with
  | unbound haction =>
    refine ⟨⟨fun _ => ?_, fun _ => rfl⟩, fun _ => Except.error.inj hr⟩
    rw [binds, haction]
    rfl
  | settled haction _ => exact hbound haction
  | halted haction _ _ => exact hbound haction
  | split haction _ _ _ => exact hbound haction

/-! ## Rules that are passed over -/

/-- A rule is bound to the first one, the first two or the first three of some kinds. -/
def Knows (t : RuleTable α) (kinds : List TokenKind) : Prop :=
  ∃ n, 1 ≤ n ∧ n ≤ 3 ∧ t.binds (kinds.take n) = true

/-- A rule is bound to the first of two kinds that are taken together, to the first two of
which one is taken alone, or to three of which two are the same. -/
def Overlooks (t : RuleTable α) (kinds : List TokenKind) : Prop :=
  t.windowSize kinds = 2 ∧ t.binds (kinds.take 1) = true ∨
    t.windowSize kinds = 1 ∧ t.binds (kinds.take 2) = true ∨
    ¬ (kinds.take 3).Nodup ∧ t.binds (kinds.take 3) = true

/-- Different kinds that have a rule are taken together, be it two or three of them. -/
theorem take_windowSize_of_nodup (hdistinct : (kinds.take 3).Nodup)
    (h : t.binds (kinds.take 3) = true) : kinds.take (t.windowSize kinds) = kinds.take 3 := by
  match kinds with
  | [] => rw [List.take_nil, List.take_nil]
  | [a] => rfl
  | [a, b] =>
    have hab : a ≠ b := by simpa using hdistinct
    rw [windowSize, if_pos hab]
    rfl
  | a :: b :: c :: rest =>
    have hall : a ≠ b ∧ b ≠ c ∧ a ≠ c := by
      simp only [List.take_succ_cons, List.take_zero, List.nodup_cons, List.mem_cons,
        List.not_mem_nil, or_false, not_or] at hdistinct
      exact ⟨hdistinct.1.1, hdistinct.2.1, hdistinct.1.2⟩
    rw [windowSize, if_pos ⟨hall.1, hall.2.1, hall.2.2, h⟩]

/-- Three kinds are taken together only if they have a rule. -/
theorem binds_of_windowSize (h : t.windowSize kinds = 3) : t.binds (kinds.take 3) = true := by
  unfold windowSize at h
  split at h
  · split at h
    · rename_i htogether
      exact htogether.2.2.2
    · repeat' split at h
      all_goals cases h
  · split at h <;> cases h
  · cases h

/-- The rules that a window without a rule passes over. -/
theorem knows_iff_overlooks (hne : kinds ≠ [])
    (hunbound : t.binds (kinds.take (t.windowSize kinds)) = false) :
    t.Knows kinds ↔ t.Overlooks kinds := by
  obtain ⟨hpos, hthree, -⟩ := t.windowSize_le kinds hne
  have hnot : t.windowSize kinds ≠ 3 := by
    intro h
    rw [h, binds_of_windowSize h] at hunbound
    cases hunbound
  constructor
  · rintro ⟨n, hn, hn3, hbound⟩
    have hsize : t.windowSize kinds ≠ n := by
      rintro rfl
      rw [hunbound] at hbound
      cases hbound
    obtain rfl | rfl | rfl : n = 1 ∨ n = 2 ∨ n = 3 := by omega
    · exact .inl ⟨by omega, hbound⟩
    · exact .inr (.inl ⟨by omega, hbound⟩)
    · refine .inr (.inr ⟨fun hdistinct => ?_, hbound⟩)
      rw [take_windowSize_of_nodup hdistinct hbound, hbound] at hunbound
      cases hunbound
  · rintro (⟨-, hbound⟩ | ⟨-, hbound⟩ | ⟨-, hbound⟩)
    · exact ⟨1, by decide, by decide, hbound⟩
    · exact ⟨2, by decide, by decide, hbound⟩
    · exact ⟨3, by decide, by decide, hbound⟩

/-! ## Giving up -/

/-- A resolution asks for nothing of the tokens left exactly if no rule is bound to the window
that they start with. -/
theorem EndsAt.eq_nil_iff {r : Resolution} {before last : List (Event (Invocation.interface α))}
    (h : t.EndsAt tokens events r before last)
    (hkinds : (tokens.drop r.consumed).map Token.kind = kinds) (hne : kinds ≠ []) :
    (last = [] ↔ t.binds (kinds.take (t.windowSize kinds)) = false) ∧
      (last = [] → r.outcome = .invalidArgument) := by
  have hstopped := h.stopped (by rintro hnil; rw [hnil] at hkinds; exact hne hkinds.symm)
  obtain ⟨hpos, -, -⟩ := t.windowSize_le kinds hne
  rw [hkinds] at hstopped
  have hwindow : t.canonical ((tokens.drop r.consumed).take (t.windowSize kinds)) ≠ [] := by
    rw [Ne, ← List.length_eq_zero_iff, (t.canonical_perm _).length_eq, List.length_take,
      ← List.length_map Token.kind, hkinds]
    have := List.length_pos_iff.2 hne
    omega
  have hends := eq_nil_iff_of_error hwindow hstopped
  rwa [binds_canonical, List.map_take, hkinds] at hends

/-- Where a resolution ends before its tokens are used up, it has asked for nothing of the
tokens left exactly if no rule is bound to the window that they start with. It gives up there
in front of tokens that the table knows exactly if it overlooks their rule; in front of a
token that has a rule of its own, exactly if that is taken together with the next and no rule
is bound to the two. -/
theorem resolve_gives_up {σ : Type} (t : RuleTable α) (tokens : List Token)
    (actions : Handler (Invocation.interface α) σ) (s : σ) :
    let events := (t.resolve tokens).trace actions s
    let r := ((t.resolve tokens).run actions s).1
    let kinds := (tokens.drop r.consumed).map Token.kind
    ∃ before last, t.EndsAt tokens events r before last ∧ (kinds ≠ [] →
      (last = [] ↔ t.binds (kinds.take (t.windowSize kinds)) = false) ∧
      (last = [] → r.outcome = .invalidArgument ∧ (t.Knows kinds ↔ t.Overlooks kinds)) ∧
      (t.binds (kinds.take 1) = true →
        (last = [] ↔ t.windowSize kinds = 2 ∧ t.binds (kinds.take 2) = false))) := by
  intro events r kinds
  obtain ⟨before, last, hends⟩ := exists_endsAt t tokens actions s
  refine ⟨before, last, hends, fun hne => ?_⟩
  obtain ⟨hnil, hinvalid⟩ := hends.eq_nil_iff rfl hne
  refine ⟨hnil, fun hlast => ⟨hinvalid hlast, knows_iff_overlooks hne (hnil.1 hlast)⟩, fun hfirst => ?_⟩
  refine hnil.trans ⟨fun hunbound => ?_, fun ⟨htwo, hunbound⟩ => by rw [htwo, hunbound]⟩
  obtain ⟨hpos, hthree, -⟩ := t.windowSize_le kinds hne
  have htwo : t.windowSize kinds = 2 := by
    by_contra htwo
    obtain hone | hthree : t.windowSize kinds = 1 ∨ t.windowSize kinds = 3 := by omega
    · rw [hone, hfirst] at hunbound
      cases hunbound
    · rw [hthree, binds_of_windowSize hthree] at hunbound
      cases hunbound
  rw [htwo] at hunbound
  exact ⟨htwo, hunbound⟩

/-- Selection has a rule for "all" and one for "up", and gives up on the two. -/
theorem resolve_overlooks :
    let tokens := [Token.ofCode .selector "ALL", .ofCode .direction "UP"]
    Selecting.table.resolve tokens = .done ⟨.invalidArgument, []⟩ ∧
      Selecting.table.binds [.selector] = true ∧ Selecting.table.binds [.direction] = true := by
  exact ⟨rfl, rfl, rfl⟩

end RuleTable

end VoiceEdit
