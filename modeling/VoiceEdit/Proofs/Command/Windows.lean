import Mathlib.Algebra.GroupWithZero.Nat
import Mathlib.Algebra.BigOperators.Group.List.Basic
import Mathlib.Data.List.Sort
import VoiceEdit.Buffer.Editor
import VoiceEdit.Proofs.Command.Candid
import VoiceEdit.Proofs.Program.Composition
import VoiceEdit.Proofs.Program.Runs

/-!
# Every token is used once

A resolution cuts its tokens into windows and hands each window to actions. For a
rule table of any actions, whoever carries them out:

* `WindowCase`, `PassCase`: what a window comes to, and what the first window makes
  of a pass.
* `WindowRun`: what a run of one window shows, a window that is split included.
* `PassRun`: what a run of all windows shows.
* `Served`: tokens cut into windows, and the tokens that were handed out, window
  by window.
* `resolve_serves`: the tokens of a success are handed out once and in order, in
  less than two invocations for each.
-/
namespace VoiceEdit

open Program

/-! ## Canonical order -/

/-- Sorting by rank is insertion sort. -/
theorem sortRanked_eq {β : Type} (rank : β → Nat) (l : List β) :
    sortRanked rank l = l.insertionSort (fun a b => rank a ≤ rank b) := by
  have hinsert : ∀ (b : β) (l : List β),
      insertRanked rank b l = l.orderedInsert (fun a b => rank a ≤ rank b) b := by
    intro b l
    induction l with
    | nil => rfl
    | cons c rest ih => rw [insertRanked, ih, List.orderedInsert_cons]
  induction l with
  | nil => rfl
  | cons b rest ih => rw [sortRanked, ih, hinsert, List.insertionSort_cons]

namespace RuleTable

variable {α : Type} {t : RuleTable α}

/-- Tokens stand in the canonical order of their kinds. -/
def InOrder (t : RuleTable α) (tokens : List Token) : Prop :=
  tokens.Pairwise fun a b => t.rank a.kind ≤ t.rank b.kind

theorem canonical_perm (t : RuleTable α) (tokens : List Token) :
    (t.canonical tokens).Perm tokens := by
  rw [canonical, sortRanked_eq]
  exact List.perm_insertionSort _ tokens

theorem inOrder_canonical (t : RuleTable α) (tokens : List Token) :
    t.InOrder (t.canonical tokens) := by
  have htotal : Std.Total fun a b : Token => t.rank a.kind ≤ t.rank b.kind :=
    ⟨fun a b => Nat.le_total _ _⟩
  have htrans : IsTrans Token fun a b => t.rank a.kind ≤ t.rank b.kind :=
    ⟨fun _ _ _ => Nat.le_trans⟩
  rw [canonical, sortRanked_eq]
  exact List.pairwise_insertionSort _ tokens

/-- The kinds of tokens in order are a key as they stand. -/
theorem canonicalKinds_of_inOrder {tokens : List Token} (h : t.InOrder tokens) :
    t.canonicalKinds (tokens.map Token.kind) = tokens.map Token.kind := by
  rw [canonicalKinds, sortRanked_eq]
  exact List.Pairwise.insertionSort_eq (List.pairwise_map.2 h)

/-! ## What a run hands out -/

/-- The tokens of the actions that were carried out, in order. -/
def carriedOut (events : List (Event (Invocation.interface α))) : List (List Token) :=
  events.filterMap fun e =>
    match (e.2 : Step) with
    | .done => some e.1.tokens
    | _ => none

/-- What is reported of tokens that were handed out together. -/
def report (tokens : List Token) : Applied := ⟨tokens.map Token.kind, tokens.length⟩

/-- An action is given tokens whose kinds, as they stand, are the key that it is
bound under. -/
def Keyed (t : RuleTable α) (e : Event (Invocation.interface α)) : Prop :=
  t.rules.lookup (e.1.tokens.map Token.kind) = some e.1.action

/-- An action fails and calls that a success. -/
def Contradicts (e : Event (Invocation.interface α)) : Prop := (e.2 : Step) = .failed .success

theorem carriedOut_append (events others : List (Event (Invocation.interface α))) :
    carriedOut (events ++ others) = carriedOut events ++ carriedOut others :=
  List.filterMap_append

theorem keyed_of_action? {tokens : List Token} {key : List TokenKind} {action : α} {s : Step}
    (hin : t.InOrder tokens) (h : t.action? (tokens.map Token.kind) = some action) :
    t.Keyed ⟨⟨key, action, tokens⟩, s⟩ := by
  rw [action?, canonicalKinds_of_inOrder hin] at h
  exact h

/-! ## One window -/

/-- What a run of one window of tokens shows. -/
structure WindowRun (t : RuleTable α) (tokens : List Token)
    (events : List (Event (Invocation.interface α))) (r : Except Outcome (List Applied)) : Prop where
  /-- Fewer than two invocations for each token. -/
  short : events.length ≤ 2 * tokens.length - 1
  keyed : ∀ e ∈ events, t.Keyed e
  /-- A window that succeeds hands out its tokens in order. -/
  served : ∀ applied, r = .ok applied → (carriedOut events).flatten = tokens ∧
    [] ∉ carriedOut events ∧ applied = (carriedOut events).map report
  /-- A window that fails is no success but by an action that says so. -/
  failed : r = .error .success → ∃ e ∈ events, Contradicts e

/-- A window that ends without asking for an action. -/
theorem windowRun_refused (tokens : List Token) :
    t.WindowRun tokens [] (.error .invalidArgument) where
  short := Nat.zero_le _
  keyed := fun _ he => absurd he List.not_mem_nil
  served := fun _ h => nomatch h
  failed := fun h => nomatch h

/-- The result of a window whose first action decides it. -/
def settle (tokens : List Token) : Step → Except Outcome (List Applied)
  | .done => .ok [report tokens]
  | .declined => .error .invalidArgument
  | .failed o => .error o

/-- A window whose first action decides it. -/
theorem windowRun_settle {tokens : List Token} {key : List TokenKind} {action : α} {s : Step}
    (hne : tokens ≠ []) (hkey : t.Keyed ⟨⟨key, action, tokens⟩, s⟩) :
    t.WindowRun tokens [⟨⟨key, action, tokens⟩, s⟩] (settle tokens s) := by
  have hlength : 0 < tokens.length := List.length_pos_iff.2 hne
  refine ⟨?_, ?_, ?_, ?_⟩
  · simp only [List.length_singleton]
    omega
  · intro e he
    rw [List.mem_singleton.1 he]
    exact hkey
  · intro applied happlied
    cases s with
    | done =>
      obtain rfl : [report tokens] = applied := Except.ok.inj happlied
      exact ⟨by simp [carriedOut], by simpa [carriedOut] using hne.symm, by simp [carriedOut]⟩
    | declined => cases happlied
    | failed o => cases happlied
  · intro hr
    refine ⟨_, List.mem_singleton_self _, ?_⟩
    cases s with
    | done => cases hr
    | declined => cases hr
    | failed o => exact congrArg Step.failed (Except.error.inj hr)

/-- A window that is declined goes on with its first token alone. -/
theorem WindowRun.declined_error {token : Token} {rest : List Token} {i : Invocation α}
    {events : List (Event (Invocation.interface α))} {o : Outcome} (hrest : rest ≠ [])
    (hkey : t.Keyed ⟨i, Step.declined⟩) (h : t.WindowRun [token] events (.error o)) :
    t.WindowRun (token :: rest) (⟨i, Step.declined⟩ :: events) (.error o) := by
  have hlength : 0 < rest.length := List.length_pos_iff.2 hrest
  have hshort := h.short
  refine ⟨?_, ?_, ?_, ?_⟩
  · simp only [List.length_cons, List.length_nil] at hshort ⊢
    omega
  · exact List.forall_mem_cons.2 ⟨hkey, h.keyed⟩
  · exact fun _ happlied => nomatch happlied
  · intro hr
    obtain ⟨e, he, hcontradicts⟩ := h.failed hr
    exact ⟨e, List.mem_cons_of_mem _ he, hcontradicts⟩

/-- After that, the other tokens run together. -/
theorem WindowRun.declined_ok {token : Token} {rest : List Token} {i : Invocation α}
    {events others : List (Event (Invocation.interface α))} {first : List Applied}
    {r : Except Outcome (List Applied)} (hrest : rest ≠ []) (hkey : t.Keyed ⟨i, Step.declined⟩)
    (h : t.WindowRun [token] events (.ok first)) (hothers : t.WindowRun rest others r) :
    t.WindowRun (token :: rest) (⟨i, Step.declined⟩ :: (events ++ others))
      (r.map (first ++ ·)) := by
  have hlength : 0 < rest.length := List.length_pos_iff.2 hrest
  have hshort := h.short
  have hshort' := hothers.short
  obtain ⟨hflatten, hne, hfirst⟩ := h.served first rfl
  have hcarried : carriedOut (⟨i, Step.declined⟩ :: (events ++ others)) =
      carriedOut events ++ carriedOut others := carriedOut_append events others
  refine ⟨?_, ?_, ?_, ?_⟩
  · simp only [List.length_cons, List.length_nil, List.length_append] at hshort ⊢
    omega
  · exact List.forall_mem_cons.2 ⟨hkey, List.forall_mem_append.2 ⟨h.keyed, hothers.keyed⟩⟩
  · intro applied happlied
    cases r with
    | error o => cases happlied
    | ok last =>
      obtain ⟨hflatten', hne', hlast⟩ := hothers.served last rfl
      obtain rfl : first ++ last = applied := Except.ok.inj happlied
      rw [hcarried]
      refine ⟨?_, ?_, ?_⟩
      · rw [List.flatten_append, hflatten, hflatten', List.singleton_append]
      · intro hmem
        rcases List.mem_append.1 hmem with hmem | hmem
        · exact hne hmem
        · exact hne' hmem
      · rw [List.map_append, ← hfirst, ← hlast]
  · intro hr
    cases r with
    | ok last => cases hr
    | error o =>
      obtain ⟨e, he, hcontradicts⟩ := hothers.failed hr
      exact ⟨e, List.mem_cons_of_mem _ (List.mem_append_right _ he), hcontradicts⟩

/-- What a window of tokens in canonical order comes to, by what is bound to it and by what
its action makes of it. -/
inductive WindowCase (t : RuleTable α) (token : Token) (rest : List Token) :
    List (Event (Invocation.interface α)) → Except Outcome (List Applied) → Prop
  | unbound (h : t.action? ((token :: rest).map Token.kind) = none) :
      WindowCase t token rest [] (.error .invalidArgument)
  | settled {action : α} {s : Step} (h : t.action? ((token :: rest).map Token.kind) = some action)
      (hs : s = .declined → rest = []) :
      WindowCase t token rest [⟨⟨(token :: rest).map Token.kind, action, token :: rest⟩, s⟩]
        (settle (token :: rest) s)
  | halted {action : α} {events : List (Event (Invocation.interface α))} {o : Outcome}
      (h : t.action? ((token :: rest).map Token.kind) = some action) (hrest : rest ≠ [])
      (hfirst : (t.runTogether [token]).Runs events (.error o)) :
      WindowCase t token rest
        (⟨⟨(token :: rest).map Token.kind, action, token :: rest⟩, Step.declined⟩ :: events)
        (.error o)
  | split {action : α} {events others : List (Event (Invocation.interface α))}
      {first : List Applied} {r : Except Outcome (List Applied)}
      (h : t.action? ((token :: rest).map Token.kind) = some action) (hrest : rest ≠ [])
      (hfirst : (t.runTogether [token]).Runs events (.ok first))
      (hothers : (t.runTogether rest).Runs others r) :
      WindowCase t token rest
        (⟨⟨(token :: rest).map Token.kind, action, token :: rest⟩, Step.declined⟩ ::
          (events ++ others))
        (r.map (first ++ ·))

/-- To run alone is to run together with nothing. -/
theorem runAlone_eq (t : RuleTable α) (token : Token) : t.runAlone token = t.runTogether [token] := by
  unfold runAlone runTogether
  cases haction : t.action? [token.kind] with
  | none => simp only [List.map_cons, List.map_nil, haction]
  | some action =>
    simp only [List.map_cons, List.map_nil, haction, Program.ask.injEq, heq_eq_eq, true_and]
    funext s
    cases s <;> rfl

theorem windowCase_of_runs {token : Token} {rest : List Token}
    {events : List (Event (Invocation.interface α))} {r : Except Outcome (List Applied)}
    (h : (t.runTogether (token :: rest)).Runs events r) : t.WindowCase token rest events r := by
  cases haction : t.action? ((token :: rest).map Token.kind) with
  | none =>
    simp only [runTogether, haction] at h
    obtain ⟨rfl, rfl⟩ := runs_done_iff.1 h
    exact .unbound haction
  | some action =>
    simp only [runTogether, haction] at h
    obtain ⟨s, left, rfl, hleft⟩ := runs_ask_iff.1 h
    cases s with
    | done =>
      obtain ⟨rfl, rfl⟩ := runs_done_iff.1 hleft
      have hsettled : t.WindowCase token rest _ (settle (token :: rest) .done) :=
        .settled haction fun hs => absurd hs (by decide)
      simpa only [settle, report, List.length_map] using hsettled
    | failed o =>
      obtain ⟨rfl, rfl⟩ := runs_done_iff.1 hleft
      exact .settled haction fun hs => absurd hs Step.noConfusion
    | declined =>
      simp only at hleft
      split at hleft
      · rename_i hempty
        obtain ⟨rfl, rfl⟩ := runs_done_iff.1 hleft
        exact .settled haction fun _ => List.isEmpty_iff.1 hempty
      · rename_i hempty
        have hrest : rest ≠ [] := mt List.isEmpty_iff.2 hempty
        obtain ⟨before, after, first, rfl, hfirst, hafter⟩ := runs_bind_iff.1 hleft
        rw [runAlone_eq] at hfirst
        cases first with
        | error o =>
          obtain ⟨rfl, rfl⟩ := runs_done_iff.1 hafter
          rw [List.append_nil]
          exact .halted haction hrest hfirst
        | ok first =>
          obtain ⟨middle, last, others, rfl, hothers, hlast⟩ := runs_bind_iff.1 hafter
          have hsplit : t.WindowCase token rest _ _ := .split haction hrest hfirst hothers
          cases others with
          | error o =>
            obtain ⟨rfl, rfl⟩ := runs_done_iff.1 hlast
            rw [List.append_nil]
            exact hsplit
          | ok others =>
            obtain ⟨rfl, rfl⟩ := runs_done_iff.1 hlast
            rw [List.append_nil]
            exact hsplit

theorem windowRun_singleton {token : Token} {events : List (Event (Invocation.interface α))}
    {r : Except Outcome (List Applied)} (h : (t.runTogether [token]).Runs events r) :
    t.WindowRun [token] events r := by
  cases windowCase_of_runs h with
  | unbound _ => exact windowRun_refused [token]
  | settled haction _ =>
    exact windowRun_settle (List.cons_ne_nil token []) (keyed_of_action? (List.pairwise_singleton _ _) haction)
  | halted _ hrest _ => exact absurd rfl hrest
  | split _ hrest _ _ => exact absurd rfl hrest

theorem windowRun_runTogether {tokens : List Token} {events : List (Event (Invocation.interface α))}
    {r : Except Outcome (List Applied)} (hin : t.InOrder tokens)
    (h : (t.runTogether tokens).Runs events r) : t.WindowRun tokens events r := by
  induction tokens generalizing events r with
  | nil =>
    obtain ⟨rfl, rfl⟩ := runs_done_iff.1 h
    exact windowRun_refused []
  | cons token rest ih =>
    cases windowCase_of_runs h with
    | unbound _ => exact windowRun_refused _
    | settled haction _ =>
      exact windowRun_settle (List.cons_ne_nil token rest) (keyed_of_action? hin haction)
    | halted haction hrest hfirst =>
      exact (windowRun_singleton hfirst).declined_error hrest (keyed_of_action? hin haction)
    | split haction hrest hfirst hothers =>
      exact (windowRun_singleton hfirst).declined_ok hrest (keyed_of_action? hin haction)
        (ih (List.pairwise_cons.1 hin).2 hothers)

/-! ## All windows -/

theorem windowSize_le (t : RuleTable α) (kinds : List TokenKind) (h : kinds ≠ []) :
    1 ≤ t.windowSize kinds ∧ t.windowSize kinds ≤ 3 ∧ t.windowSize kinds ≤ kinds.length := by
  match kinds, h with
  | [a], _ => simp [windowSize]
  | [a, b], _ =>
    simp only [windowSize, List.length_cons, List.length_nil]
    split <;> omega
  | a :: b :: c :: rest, _ =>
    simp only [windowSize, List.length_cons]
    split
    · omega
    · split
      · omega
      · split
        · omega
        · split <;> omega

/-- The tokens that the window before covers are passed over. -/
theorem resolveFrom_covered (t : RuleTable α) (covered : Nat) (tokens : List Token) :
    t.resolveFrom covered tokens = t.resolveFrom 0 (tokens.drop covered) := by
  induction tokens generalizing covered with
  | nil => rw [List.drop_nil]; rfl
  | cons token rest ih =>
    cases covered with
    | zero => rfl
    | succ covered => exact ih covered

/-- Tokens cut into windows of one to three, and the lists of tokens that were
handed out, window by window: those of a window are its tokens in canonical
order. -/
inductive Served (t : RuleTable α) : List Token → List (List Token) → Prop
  | nil : Served t [] []
  | window {window rest : List Token} {parts others : List (List Token)}
      (size : 1 ≤ window.length ∧ window.length ≤ 3) (nonempty : [] ∉ parts)
      (flatten : parts.flatten = t.canonical window) (others_served : Served t rest others) :
      Served t (window ++ rest) (parts ++ others)

variable {tokens : List Token} {parts : List (List Token)}

theorem Served.not_mem_nil (h : t.Served tokens parts) : [] ∉ parts := by
  induction h with
  | nil => exact List.not_mem_nil
  | window _ hne _ _ ih =>
    intro hmem
    rcases List.mem_append.1 hmem with hmem | hmem
    · exact hne hmem
    · exact ih hmem

/-- Every token is handed out once. -/
theorem Served.perm (h : t.Served tokens parts) : parts.flatten.Perm tokens := by
  induction h with
  | nil => exact .nil
  | @window window rest parts others _ _ hflatten _ ih =>
    rw [List.flatten_append, hflatten]
    exact (t.canonical_perm window).append ih

theorem consumed_report (parts : List (List Token)) :
    ((parts.map report).map Applied.consumed).sum = parts.flatten.length := by
  rw [List.length_flatten, List.map_map]
  rfl

/-- The steps of tokens that were served. -/
theorem Served.reported (h : t.Served tokens parts) :
    (∀ a ∈ parts.map report, 1 ≤ a.consumed) ∧ (parts.map report).length ≤ tokens.length ∧
      ((parts.map report).map Applied.consumed).sum = tokens.length := by
  have hpos : ∀ part ∈ parts, 1 ≤ part.length := by
    intro part hpart
    refine List.length_pos_iff.2 fun hnil => ?_
    rw [hnil] at hpart
    exact h.not_mem_nil hpart
  have hsum : ((parts.map report).map Applied.consumed).sum = tokens.length := by
    rw [consumed_report, h.perm.length_eq]
  have hsteps : ∀ a ∈ parts.map report, 1 ≤ a.consumed := by
    intro a ha
    obtain ⟨part, hpart, rfl⟩ := List.mem_map.1 ha
    exact hpos part hpart
  refine ⟨hsteps, ?_, hsum⟩
  rw [← hsum, ← List.length_map (f := Applied.consumed)]
  refine List.length_le_sum_of_one_le _ fun n hn => ?_
  obtain ⟨a, ha, rfl⟩ := List.mem_map.1 hn
  exact hsteps a ha

/-- What a run of all windows shows. -/
structure PassRun (t : RuleTable α) (tokens : List Token)
    (events : List (Event (Invocation.interface α))) (r : Resolution) : Prop where
  short : events.length ≤ 2 * tokens.length - 1
  keyed : ∀ e ∈ events, t.Keyed e
  /-- Some of the tokens are passed, all of them in a success. -/
  served : ∃ passed left parts, tokens = passed ++ left ∧ t.Served passed parts ∧
    r.applied = parts.map report ∧ (left = [] → r.outcome = .success ∧ parts = carriedOut events) ∧
    (left ≠ [] → r.outcome = .success → ∃ e ∈ events, Contradicts e)

theorem passRun_nil : t.PassRun [] [] ⟨.success, []⟩ where
  short := Nat.zero_le _
  keyed := fun _ he => absurd he List.not_mem_nil
  served := ⟨[], [], [], rfl, .nil, rfl, fun _ => ⟨rfl, rfl⟩, fun h => absurd rfl h⟩

/-- A window that fails ends the pass. -/
theorem WindowRun.passRun {window rest : List Token}
    {events : List (Event (Invocation.interface α))} {o : Outcome} (hne : window ≠ [])
    (h : t.WindowRun (t.canonical window) events (.error o)) :
    t.PassRun (window ++ rest) events ⟨o, []⟩ := by
  have hshort := h.short
  rw [(t.canonical_perm window).length_eq] at hshort
  refine ⟨?_, h.keyed, [], window ++ rest, [], rfl, .nil, rfl, ?_, ?_⟩
  · rw [List.length_append]
    omega
  · intro hnil
    exact absurd (List.append_eq_nil_iff.1 hnil).1 hne
  · intro _ ho
    refine h.failed ?_
    rw [show o = .success from ho]

/-- A window that succeeds is served before the rest. -/
theorem PassRun.window {window rest : List Token}
    {events others : List (Event (Invocation.interface α))} {applied : List Applied}
    {r : Resolution} (hsize : 1 ≤ window.length ∧ window.length ≤ 3)
    (h : t.WindowRun (t.canonical window) events (.ok applied)) (hrest : t.PassRun rest others r) :
    t.PassRun (window ++ rest) (events ++ others) ⟨r.outcome, applied ++ r.applied⟩ := by
  have hshort := h.short
  have hshort' := hrest.short
  rw [(t.canonical_perm window).length_eq] at hshort
  obtain ⟨hflatten, hne, happlied⟩ := h.served applied rfl
  obtain ⟨passed, left, parts, hsplit, hserved, hreport, hall, hsome⟩ := hrest.served
  refine ⟨?_, List.forall_mem_append.2 ⟨h.keyed, hrest.keyed⟩,
    window ++ passed, left, carriedOut events ++ parts, ?_, ?_, ?_, ?_, ?_⟩
  · -- one invocation is saved in each window, and each window has a token
    simp only [List.length_append]
    rcases Nat.eq_zero_or_pos rest.length with hzero | hpos
    · omega
    · omega
  · rw [hsplit, List.append_assoc]
  · exact .window hsize hne hflatten hserved
  · rw [List.map_append, ← happlied, ← hreport]
  · intro hleft
    obtain ⟨hsuccess, hparts⟩ := hall hleft
    exact ⟨hsuccess, by rw [hparts, carriedOut_append]⟩
  · intro hleft hsuccess
    obtain ⟨e, he, hcontradicts⟩ := hsome hleft hsuccess
    exact ⟨e, List.mem_append_right _ he, hcontradicts⟩

/-- What the first window of a pass comes to, and with it the pass. -/
inductive PassCase (t : RuleTable α) (window rest : List Token) :
    List (Event (Invocation.interface α)) → Resolution → Prop
  | failed {events : List (Event (Invocation.interface α))} {o : Outcome}
      (h : (t.runTogether (t.canonical window)).Runs events (.error o)) :
      PassCase t window rest events ⟨o, []⟩
  | passed {events others : List (Event (Invocation.interface α))} {applied : List Applied}
      {r : Resolution} (h : (t.runTogether (t.canonical window)).Runs events (.ok applied))
      (hrest : (t.resolveFrom 0 rest).Runs others r) :
      PassCase t window rest (events ++ others) ⟨r.outcome, applied ++ r.applied⟩

/-- A pass starts with a window of one to three tokens. -/
theorem passCase_of_runs {events : List (Event (Invocation.interface α))} {r : Resolution}
    (hne : tokens ≠ []) (h : (t.resolveFrom 0 tokens).Runs events r) :
    ∃ window rest, tokens = window ++ rest ∧
      window.length = t.windowSize (tokens.map Token.kind) ∧
      (1 ≤ window.length ∧ window.length ≤ 3) ∧ t.PassCase window rest events r := by
  obtain ⟨token, rest, rfl⟩ := List.exists_cons_of_ne_nil hne
  obtain ⟨hpos, hthree, hle⟩ := t.windowSize_le ((token :: rest).map Token.kind) (List.cons_ne_nil _ _)
  simp only [resolveFrom] at h
  generalize t.windowSize ((token :: rest).map Token.kind) = size at h hpos hthree hle
  rw [List.length_map] at hle
  have hlength : ((token :: rest).take size).length = size := List.length_take_of_le hle
  obtain ⟨k, rfl⟩ : ∃ k, size = k + 1 := ⟨size - 1, by omega⟩
  refine ⟨(token :: rest).take (k + 1), rest.drop k, (List.take_append_drop _ _).symm, hlength,
    ⟨by omega, by omega⟩, ?_⟩
  obtain ⟨before, after, result, rfl, hwindow, hafter⟩ := runs_bind_iff.1 h
  cases result with
  | error o =>
    obtain ⟨rfl, rfl⟩ := runs_done_iff.1 hafter
    rw [List.append_nil]
    exact .failed hwindow
  | ok applied =>
    obtain ⟨middle, last, others, rfl, hothers, hlast⟩ := runs_bind_iff.1 hafter
    obtain ⟨rfl, rfl⟩ := runs_done_iff.1 hlast
    rw [List.append_nil]
    rw [resolveFrom_covered] at hothers
    exact .passed hwindow hothers

theorem passRun_resolveFrom {events : List (Event (Invocation.interface α))} {r : Resolution}
    (h : (t.resolveFrom 0 tokens).Runs events r) : t.PassRun tokens events r := by
  -- on the number of tokens: what a window leaves is shorter
  induction hn : tokens.length using Nat.strong_induction_on generalizing tokens events r with
  | _ n ih =>
  by_cases hne : tokens = []
  · subst hne
    obtain ⟨rfl, rfl⟩ := runs_done_iff.1 h
    exact passRun_nil
  obtain ⟨window, rest, rfl, -, hsize, hcase⟩ := passCase_of_runs hne h
  rw [List.length_append] at hn
  cases hcase with
  | failed hwindow =>
    refine (windowRun_runTogether (t.inOrder_canonical window) hwindow).passRun fun hnil => ?_
    rw [hnil, List.length_nil] at hsize
    omega
  | passed hwindow hrest =>
    exact PassRun.window hsize (windowRun_runTogether (t.inOrder_canonical window) hwindow)
      (ih _ (by omega) hrest rfl)

end RuleTable

/-- The number of tokens that a resolution reports as used. -/
def Resolution.consumed (r : Resolution) : Nat := (r.applied.map Applied.consumed).sum

namespace RuleTable

variable {α : Type}

/-- **Every token is used once.** Whatever the actions of a rule table make of their
tokens, as long as none fails and calls that a success: a resolution asks for them
less than twice for each token and hands each the tokens of its key; its steps use
one token or more and no more than there are; it is a success exactly if there are
tokens and its steps use them all, and then the tokens are cut into windows which
were handed out one after the other, each token once. -/
theorem resolve_serves {σ : Type} (t : RuleTable α) (tokens : List Token)
    (actions : Handler (Invocation.interface α) σ) (s : σ)
    (hactions : ∀ i s, t.HasAction i → (actions i s).1 ≠ .failed .success) :
    let events := (t.resolve tokens).trace actions s
    let r := ((t.resolve tokens).run actions s).1
    events.length ≤ 2 * tokens.length - 1 ∧
      (∀ a ∈ r.applied, 1 ≤ a.consumed) ∧ r.applied.length ≤ tokens.length ∧
      r.consumed ≤ tokens.length ∧
      (r.outcome = .success ↔ 0 < tokens.length ∧ r.consumed = tokens.length) ∧
      (r.outcome = .success → t.Served tokens (carriedOut events) ∧
        (carriedOut events).flatten.Perm tokens ∧ r.applied = (carriedOut events).map report) ∧
      ∀ e ∈ events, t.Keyed e := by
  intro events r
  have htold : ∀ e ∈ events, ¬ Contradicts e := by
    intro e he hcontradicts
    obtain ⟨hhas, s', hs'⟩ := (asks_resolve tokens).of_mem_trace he
    exact hactions e.1 s' hhas (hs' ▸ hcontradicts)
  have hruns : (t.resolve tokens).Runs events r := runs_trace actions _ s
  clear_value events r
  cases tokens with
  | nil =>
    obtain ⟨rfl, rfl⟩ := runs_done_iff.1 hruns
    exact ⟨Nat.zero_le _, fun _ ha => absurd ha List.not_mem_nil, Nat.zero_le _, Nat.zero_le _,
      ⟨fun h => (nomatch h), fun h => absurd h.1 (Nat.lt_irrefl 0)⟩, fun h => (nomatch h),
      fun _ he => absurd he List.not_mem_nil⟩
  | cons token rest =>
    have hpass : t.PassRun (token :: rest) events r := passRun_resolveFrom hruns
    obtain ⟨passed, left, parts, hsplit, hserved, hreport, hall, hsome⟩ := hpass.served
    obtain ⟨hsteps, hcount, hsum⟩ := hserved.reported
    have hlength : (token :: rest).length = passed.length + left.length := by
      rw [hsplit, List.length_append]
    have hconsumed : r.consumed = passed.length := by rw [Resolution.consumed, hreport, hsum]
    have hsuccess : r.outcome = .success ↔ left = [] := by
      constructor
      · intro ho
        by_contra hleft
        obtain ⟨e, he, hcontradicts⟩ := hsome hleft ho
        exact htold e he hcontradicts
      · intro hleft
        exact (hall hleft).1
    rw [hsuccess]
    refine ⟨hpass.short, by rw [hreport]; exact hsteps, by rw [hreport]; omega, by omega, ?_, ?_,
      hpass.keyed⟩
    · rw [← List.length_eq_zero_iff]
      constructor
      · intro hleft
        exact ⟨Nat.succ_pos _, by omega⟩
      · rintro ⟨-, hused⟩
        omega
    · intro hleft
      obtain ⟨-, rfl⟩ := hall hleft
      rw [hleft, List.append_nil] at hsplit
      rw [hsplit]
      exact ⟨hserved, hserved.perm, hreport⟩

/-- A chain of editor requests never fails and calls that a success. -/
theorem never_ofAction {β : Type} (x : EditorAction β) :
    (Step.ofAction x).Never fun s => s = .failed .success := by
  refine (never_false x.run).bind fun r _ => ?_
  cases r with
  | ok a => exact fun h => nomatch h
  | error e =>
    intro h
    exact Outcome.ofEditorError_ne_success e (Step.failed.inj h)

theorem run_ofAction_ne {β σ : Type} (editor : Handler Editor.interface σ) (x : EditorAction β)
    (s : σ) : ((Step.ofAction x).run editor s).1 ≠ .failed .success := by
  intro h
  obtain ⟨-, -, hnothing⟩ := (never_ofAction x).of_runs (runs_trace editor _ s) h
  exact hnothing

/-- A table of editor actions in which a count does not go with an object. -/
def countTable : RuleTable TokenAction :=
  (empty "count" [.number, .objectNoun, .direction])
    |>.bind [.number] (fun tokens => Step.ofAction (Editor.insert (showTokens tokens)))
    |>.bind [.objectNoun, .direction] (fun tokens => Step.ofAction (Editor.insert (showTokens tokens)))
    |>.bind [.number, .objectNoun, .direction] (fun _ => .done .declined)

/-- A count between an object and a direction, on a buffer: the three are declined,
and the count runs alone. -/
theorem resolve_serves_declined :
    let tokens := [Token.ofCode .objectNoun "LINE", .ofNumber 5, .ofCode .direction "END"]
    let r := ((countTable.carryOut tokens).run Buffer.editor (.ofText [])).1
    r.outcome = .success ∧ r.consumed = 3 ∧ countTable.Served tokens
      [[.ofNumber 5], [.ofCode .objectNoun "LINE", .ofCode .direction "END"]] := by
  intro tokens r
  let actions : Handler (Invocation.interface TokenAction) Buffer :=
    fun i b => (i.action i.tokens).run Buffer.editor b
  have hall : countTable.All fun action =>
      ∀ tokens b, ((action tokens).run Buffer.editor b).1 ≠ .failed .success :=
    all_empty _ _ |>.bind _ (fun _ => run_ofAction_ne _ _) |>.bind _ (fun _ => run_ofAction_ne _ _)
      |>.bind _ fun _ _ h => nomatch h
  have hserves := resolve_serves countTable tokens actions (.ofText [])
    fun i b ⟨_, hi⟩ => hall _ hi i.tokens b
  have hrun : ((countTable.resolve tokens).run actions (.ofText [])).1 = r :=
    congrArg Prod.fst (run_via Buffer.editor _ _ _).symm
  have hcarried : carriedOut ((countTable.resolve tokens).trace actions (.ofText [])) =
      [[.ofNumber 5], [.ofCode .objectNoun "LINE", .ofCode .direction "END"]] := by decide +kernel
  have hout : r.outcome = .success := by decide +kernel
  simp only [hrun, hcarried] at hserves
  obtain ⟨-, -, -, -, hsuccess, hserved, -⟩ := hserves
  exact ⟨hout, (hsuccess.1 hout).2, (hserved hout).1⟩

/-- Without tokens the steps of a resolution use as many tokens as there are, and it
is no success. -/
theorem resolve_nothing :
    let tokens : List Token := []
    let r := ((((empty "numbers" [.number]).bind [.number] ()).resolve tokens).run
      (fun _ _ => (Step.done, ())) ()).1
    ¬ (r.consumed = tokens.length ↔ 0 < tokens.length ∧ r.outcome = .success) := by
  intro tokens r h
  exact absurd (h.1 rfl).1 (Nat.lt_irrefl 0)

end RuleTable

end VoiceEdit
