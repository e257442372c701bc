import VoiceEdit.Proofs.Command.Movement
import VoiceEdit.Proofs.Command.Windows
import VoiceEdit.Proofs.Program.Composition

/-!
# Resolutions in parts

Equations between resolutions, as programs: both sides ask for the same actions on the same
tokens and come to the same result, whatever they are answered.

* `resolveFrom_window`: the window at the start of some tokens is carried out, then the
  tokens behind it are resolved.
* `carryOut_append`: where the tokens behind it are no part of it, a window is resolved as if
  it stood alone, and the others are resolved after it unless it failed.
* `InWindows.carryOut_flatten`: tokens that fall into windows, window by window;
  `carryOut_singletons`: those of one kind, one by one.
* `carryWindow_settled`: a window that its action does not decline is settled by it.
* `outcomeOf_declined`: a window that is declined ends as its first token does alone or, if
  that succeeds, as the others do.

`carryOut_append` and `outcomeOf_declined` need that no action fails and calls that a success
(`Honest`), for such a failure ends a pass, but not a row of passes.
-/
namespace VoiceEdit

open Program

namespace RuleTable

/-! ## Windows -/

section Window

variable {α : Type} {t : RuleTable α} {tokens window rest : List Token}

/-- Tokens that are one window if nothing stands behind them. -/
structure IsWindow (t : RuleTable α) (tokens : List Token) : Prop where
  nonempty : tokens ≠ []
  size : t.windowSize (tokens.map Token.kind) = tokens.length

theorem isWindow_singleton (t : RuleTable α) (token : Token) : t.IsWindow [token] :=
  ⟨List.cons_ne_nil token [], rfl⟩

/-- Two tokens of one kind never share a window. -/
theorem windowSize_twice (t : RuleTable α) (kind : TokenKind) (kinds : List TokenKind) :
    t.windowSize (kind :: kind :: kinds) = 1 := by
  cases kinds <;> simp [windowSize]

/-- What follows a window of a resolution: nothing if it failed. -/
def goOn {I : Interface} (next : Program I Resolution) :
    Except Outcome (List Applied) → Program I Resolution
  | .error o => .done ⟨o, []⟩
  | .ok applied => next.bind fun others => .done ⟨others.outcome, applied ++ others.applied⟩

/-- A window is carried out, then the tokens behind it are resolved. -/
theorem resolveFrom_window (hne : window ≠ [])
    (hsize : t.windowSize ((window ++ rest).map Token.kind) = window.length) :
    t.resolveFrom 0 (window ++ rest) =
      (t.runTogether (t.canonical window)).bind (goOn (t.resolveFrom 0 rest)) := by
  obtain ⟨token, others, rfl⟩ := List.exists_cons_of_ne_nil hne
  simp only [List.cons_append] at hsize ⊢
  rw [resolveFrom]
  simp only [hsize]
  have htake : (token :: (others ++ rest)).take (token :: others).length = token :: others :=
    List.take_left
  have hdrop : t.resolveFrom ((token :: others).length - 1) (others ++ rest) =
      t.resolveFrom 0 rest := by
    rw [resolveFrom_covered, List.length_cons, Nat.add_sub_cancel, List.drop_left]
  rw [htake, hdrop]
  rfl

theorem resolve_of_ne_nil (h : tokens ≠ []) : t.resolve tokens = t.resolveFrom 0 tokens := by
  rw [resolve, if_neg (mt List.isEmpty_iff.1 h)]

theorem resolve_window (hne : window ≠ [])
    (hsize : t.windowSize ((window ++ rest).map Token.kind) = window.length) :
    t.resolve (window ++ rest) =
      (t.runTogether (t.canonical window)).bind (goOn (t.resolveFrom 0 rest)) := by
  rw [resolve_of_ne_nil (List.append_ne_nil_of_left_ne_nil hne rest), resolveFrom_window hne hsize]

/-- Tokens that are one window are carried out as such. -/
theorem IsWindow.resolve_eq (h : t.IsWindow tokens) :
    t.resolve tokens = (t.runTogether (t.canonical tokens)).bind (goOn (.done ⟨.success, []⟩)) := by
  have hsize : t.windowSize ((tokens ++ []).map Token.kind) = tokens.length := by
    rw [List.append_nil]
    exact h.size
  have hwindow := resolve_window h.nonempty hsize
  rw [List.append_nil] at hwindow
  exact hwindow

/-- Tokens in canonical order stay as they are. -/
theorem canonical_of_inOrder (h : t.InOrder tokens) : t.canonical tokens = tokens := by
  rw [canonical, sortRanked_eq]
  exact List.Pairwise.insertionSort_eq h

end Window

/-! ## Windows of editor actions -/

section CarryOut

variable {t : RuleTable TokenAction} {token : Token} {tokens window rest : List Token}

/-- A step that never fails and calls that a success. -/
abbrev Honest (p : EditorProgram Step) : Prop := p.Never fun s => s = .failed .success

/-- Carry out one window. -/
def carryWindow (t : RuleTable TokenAction) (window : List Token) :
    EditorProgram (Except Outcome (List Applied)) :=
  (t.runTogether (t.canonical window)).via fun (i : Invocation TokenAction) => i.action i.tokens

/-- If no action of a table calls its failure a success, no window does. -/
theorem never_carryWindow (ht : t.All fun action => ∀ tokens, Honest (action tokens))
    (window : List Token) : (t.carryWindow window).Never (WindowTells .success) := by
  have hblames : (t.runTogether (t.canonical window)).Earns (FailsAs fun o => o = .success)
      (WindowFailsAs fun o => o = .success) := blames_runTogether (by decide) _
  refine (hblames.mono ?_ ?_).via (asks_runTogether _) fun i ⟨_, hi⟩ => ht _ hi i.tokens
  · rintro i s ⟨o, rfl, rfl⟩
    rfl
  · rintro r rfl
    exact ⟨.success, rfl, rfl⟩

theorem via_goOn {I J : Interface} (answer : (q : I.Request) → Program J (I.Reply q))
    (next : Program I Resolution) (r : Except Outcome (List Applied)) :
    (goOn next r).via answer = goOn (next.via answer) r := by
  cases r with
  | error o => rfl
  | ok applied => exact via_bind answer next _

/-- A window by itself is resolved by carrying it out. -/
theorem carryOut_window (h : t.IsWindow window) :
    t.carryOut window = (t.carryWindow window).bind (goOn (.done ⟨.success, []⟩)) := by
  rw [carryOut, h.resolve_eq, via_bind]
  simp only [via_goOn]
  rfl

/-! ## Passes in turn -/

/-- Another resolution after one that was a success, and its steps behind the steps of that. -/
def andThen (next : EditorProgram Resolution) (r : Resolution) : EditorProgram Resolution :=
  if r.outcome = .success then
    next.bind fun others => .done ⟨others.outcome, r.applied ++ others.applied⟩
  else .done r

/-- Resolve some lists of tokens one after the other; the first that is no success is the
last. -/
def carryOutInTurn (t : RuleTable TokenAction) : List (List Token) → EditorProgram Resolution
  | [] => .done ⟨.success, []⟩
  | tokens :: others => (t.carryOut tokens).bind (andThen (t.carryOutInTurn others))

/-- What goes on behind a window goes on behind its resolution. -/
theorem carryWindow_bind_goOn (ht : t.All fun action => ∀ tokens, Honest (action tokens))
    (h : t.IsWindow window) (next : EditorProgram Resolution) :
    (t.carryWindow window).bind (goOn next) = (t.carryOut window).bind (andThen next) := by
  rw [carryOut_window h, bind_assoc]
  refine (never_carryWindow ht window).bind_congr fun r hr => ?_
  cases r with
  | error o =>
    have ho : ¬ o = .success := by
      intro ho
      exact hr (congrArg Except.error ho)
    show Program.done (⟨o, []⟩ : Resolution) = andThen next ⟨o, []⟩
    rw [andThen, if_neg ho]
  | ok applied =>
    show goOn next (.ok applied) = andThen next ⟨.success, applied ++ []⟩
    rw [andThen, if_pos rfl, List.append_nil]
    rfl

/-- Where the tokens behind a window are no part of it, the window is resolved as if it stood
alone, and then the others. -/
theorem carryOut_append (ht : t.All fun action => ∀ tokens, Honest (action tokens))
    (h : t.IsWindow window) (hrest : rest ≠ [])
    (hsize : t.windowSize ((window ++ rest).map Token.kind) = window.length) :
    t.carryOut (window ++ rest) = (t.carryOut window).bind (andThen (t.carryOut rest)) := by
  rw [← carryWindow_bind_goOn ht h, carryOut, resolve_window h.nonempty hsize, via_bind]
  simp only [via_goOn]
  rw [← resolve_of_ne_nil hrest]
  rfl

/-- Lists of tokens of which each is a window, also in front of those behind it. -/
inductive InWindows (t : RuleTable TokenAction) : List (List Token) → Prop
  | last {window : List Token} (h : t.IsWindow window) : InWindows t [window]
  | cons {window : List Token} {others : List (List Token)} (h : t.IsWindow window)
      (hsize : t.windowSize ((window ++ others.flatten).map Token.kind) = window.length)
      (hothers : InWindows t others) : InWindows t (window :: others)

theorem InWindows.flatten_ne_nil {parts : List (List Token)} (h : t.InWindows parts) :
    parts.flatten ≠ [] := by
  cases h with
  | last h =>
    rw [List.flatten_singleton]
    exact h.nonempty
  | cons h _ _ =>
    rw [List.flatten_cons]
    exact List.append_ne_nil_of_left_ne_nil h.nonempty _

/-- Tokens that fall into windows are resolved window by window. -/
theorem InWindows.carryOut_flatten {parts : List (List Token)}
    (ht : t.All fun action => ∀ tokens, Honest (action tokens)) (h : t.InWindows parts) :
    t.carryOut parts.flatten = t.carryOutInTurn parts := by
  induction h with
  | last h =>
    have hlast := carryWindow_bind_goOn ht h (.done ⟨.success, []⟩)
    rw [List.flatten_singleton, carryOut_window h, hlast]
    rfl
  | cons h hsize hothers ih =>
    rw [List.flatten_cons, carryOut_append ht h hothers.flatten_ne_nil hsize, ih]
    rfl

/-- Tokens of one kind are a window each. -/
theorem inWindows_singletons {kind : TokenKind} (hne : tokens ≠ [])
    (hkind : ∀ token ∈ tokens, token.kind = kind) :
    t.InWindows (tokens.map fun token => [token]) := by
  induction tokens with
  | nil => exact absurd rfl hne
  | cons token rest ih =>
    have hwindow := isWindow_singleton t token
    cases rest with
    | nil => exact .last hwindow
    | cons next rest =>
      have hothers := List.forall_mem_of_forall_mem_cons hkind
      refine .cons hwindow ?_ (ih (List.cons_ne_nil next rest) hothers)
      have hsame : next.kind = token.kind :=
        (hothers next List.mem_cons_self).trans (hkind token List.mem_cons_self).symm
      simp only [List.map_cons, List.flatten_cons, List.singleton_append, hsame]
      exact windowSize_twice t _ _

/-- Tokens of one kind are resolved one by one. -/
theorem carryOut_singletons {kind : TokenKind}
    (ht : t.All fun action => ∀ tokens, Honest (action tokens)) (hne : tokens ≠ [])
    (hkind : ∀ token ∈ tokens, token.kind = kind) :
    t.carryOut tokens = t.carryOutInTurn (tokens.map fun token => [token]) := by
  have hparts := (inWindows_singletons hne hkind (t := t)).carryOut_flatten ht
  rwa [← List.flatMap_def, List.flatMap_singleton'] at hparts

/-! ## Declined windows -/

/-- The outcome of a resolution. -/
def outcomeOf (t : RuleTable TokenAction) (tokens : List Token) : EditorProgram Outcome :=
  (t.carryOut tokens).bind fun r => .done r.outcome

/-- The outcome of a window. -/
def windowOutcome : Except Outcome (List Applied) → Outcome
  | .ok _ => .success
  | .error o => o

theorem outcomeOf_window (h : t.IsWindow window) :
    t.outcomeOf window = (t.carryWindow window).bind fun r => .done (windowOutcome r) := by
  rw [outcomeOf, carryOut_window h, bind_assoc]
  congr 1
  funext r
  cases r <;> rfl

/-- A window whose action does not decline it is settled by that action. -/
theorem carryWindow_settled {action : TokenAction} (hne : window ≠ []) (hin : t.InOrder window)
    (haction : t.action? (window.map Token.kind) = some action)
    (hnever : (action window).Never fun s => s = .declined) :
    t.carryWindow window = (action window).bind fun s => .done (settle window s) := by
  obtain ⟨token, rest, rfl⟩ := List.exists_cons_of_ne_nil hne
  rw [carryWindow, canonical_of_inOrder hin, runTogether]
  simp only [haction, via]
  refine hnever.bind_congr fun s hs => ?_
  cases s with
  | done =>
    simp only [via, settle, report, List.length_map]
  | declined => exact absurd rfl hs
  | failed o => rfl

/-- What follows an outcome that was a success. -/
def onSuccess (next : EditorProgram Outcome) (o : Outcome) : EditorProgram Outcome :=
  if o = .success then next else .done o

/-- A window that is declined goes on with its first token alone, then with the others. -/
theorem carryWindow_declined {action : TokenAction} (hrest : rest ≠ [])
    (hin : t.InOrder (token :: rest))
    (haction : t.action? ((token :: rest).map Token.kind) = some action)
    (hdeclined : action (token :: rest) = .done .declined) :
    t.carryWindow (token :: rest) = (t.carryWindow [token]).bind fun
      | .error o => .done (.error o)
      | .ok first => (t.carryWindow rest).bind fun others => .done (others.map (first ++ ·)) := by
  have hempty : rest.isEmpty = false := by
    rw [← Bool.not_eq_true]
    exact mt List.isEmpty_iff.1 hrest
  have hothers : t.InOrder rest := (List.pairwise_cons.1 hin).2
  rw [carryWindow, canonical_of_inOrder hin, runTogether]
  simp only [haction, via, hdeclined, Program.bind, hempty, Bool.false_eq_true, if_false]
  rw [via_bind, runAlone_eq]
  congr 1
  funext first
  cases first with
  | error o => rfl
  | ok first =>
    simp only
    rw [via_bind, carryWindow, canonical_of_inOrder hothers]
    congr 1
    funext others
    cases others <;> rfl

/-- A window that is declined ends as its first token does alone or, if that succeeds, as the
others do. -/
theorem outcomeOf_declined {action : TokenAction}
    (ht : t.All fun action => ∀ tokens, Honest (action tokens))
    (hwindow : t.IsWindow (token :: rest)) (hrest : t.IsWindow rest)
    (hin : t.InOrder (token :: rest))
    (haction : t.action? ((token :: rest).map Token.kind) = some action)
    (hdeclined : action (token :: rest) = .done .declined) :
    t.outcomeOf (token :: rest) = (t.outcomeOf [token]).bind (onSuccess (t.outcomeOf rest)) := by
  rw [outcomeOf_window hwindow, carryWindow_declined hrest.nonempty hin haction hdeclined,
    outcomeOf_window (isWindow_singleton t token), bind_assoc, bind_assoc]
  refine (never_carryWindow ht [token]).bind_congr fun r hr => ?_
  cases r with
  | error o =>
    have ho : ¬ o = .success := by
      intro ho
      exact hr (congrArg Except.error ho)
    show Program.done o = onSuccess (t.outcomeOf rest) o
    rw [onSuccess, if_neg ho]
  | ok first =>
    simp only [Program.bind, windowOutcome, onSuccess, if_true]
    rw [outcomeOf_window hrest, bind_assoc]
    congr 1
    funext others
    cases others <;> rfl

end CarryOut

end RuleTable

/-! ## Moving the cursor -/

namespace Movement

/-- A movement that fails tells why. -/
theorem MovesOnce.honest {p : EditorProgram Step} (h : MovesOnce p) : RuleTable.Honest p := by
  cases h with
  | declined => exact fun h => nomatch h
  | invalid => exact fun h => nomatch h
  | request q hq =>
    intro r _
    cases r with
    | ok a => exact fun h => nomatch h
    | error e =>
      intro h
      exact Outcome.ofEditorError_ne_success e (Step.failed.inj h)

theorem honest_table : table.All fun action => ∀ tokens, RuleTable.Honest (action tokens) :=
  fun r hr tokens => (movesOnce_table r hr tokens).honest

end Movement

end VoiceEdit
