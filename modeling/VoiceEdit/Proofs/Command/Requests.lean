import VoiceEdit.Proofs.Command.Refusal
import VoiceEdit.Proofs.Program.Runs

/-!
# What commands ask for and tell

Every command asks an editor to tell what it holds, and for a few kinds of acts
besides. Whatever it is answered, its outcome is never that of a transcript for
which no command was run.

* `CommandName.acts`: the acts that a command may ask for.
* `Confined`: a program that keeps to some requests and to such outcomes.
* `RuleTable.confined_carryOut`: a resolution is confined if its actions are.
* `Command.confined_execute`: every command is.
-/
namespace VoiceEdit

open Editor Program

/-! ## The acts of a command -/

/-- Whether a request selects. -/
def Editor.Request.selects : Request → Bool
  | .select _ _ => true
  | .run .selectAll | .run .expandSelection | .run .shrinkSelection => true
  | _ => false

/-- The acts that a command may ask for. -/
def CommandName.acts (name : CommandName) (q : Request) : Bool :=
  match name with
  | .go => q.moves
  | .select => q.moves || q.selects
  | .new =>
    match q with
    | .moveTo .lineEnd | .insert _ => true
    | _ => false
  | .add =>
    match q with
    | .replace _ | .moveBy .left _ => true
    | _ => false
  | .suggestion =>
    match q with
    | .run .showSuggestions | .run .acceptSuggestion => true
    | _ => false
  | .terminal =>
    match q with
    | .run (.terminal _) => true
    | _ => false
  | .snakeCase | .camelCase =>
    match q with
    | .insert _ => true
    | _ => false
  | name =>
    match q with
    | .run c => Workbench.editorCommand? name == some c
    | _ => false

/-- What a command may ask for: anything that only reads, and its acts. -/
def CommandName.May (name : CommandName) (q : Request) : Prop :=
  q.isMutating = true → name.acts q = true

/-- Whether an outcome is that of a transcript for which no command was run. -/
def Outcome.isMiss : Outcome → Bool
  | noCommandFound | functionNotFound => true
  | _ => false

theorem isMiss_ofEditorError (e : EditorError) : (Outcome.ofEditorError e).isMiss = false := by
  cases e <;> rfl

/-! ## Confined programs -/

variable {α β : Type} {may : Request → Prop}

/-- A program makes only some requests, and its result is never one of some. -/
structure Confined (may : Request → Prop) (misses : α → Prop) (p : EditorProgram α) : Prop where
  asks : p.Asks may
  tells : p.Earns (fun _ _ => False) misses

theorem confined_pure {misses : α → Prop} {a : α} (h : ¬ misses a) :
    Confined may misses (.done a) := ⟨trivial, h⟩

/-- What follows need only be confined on a result that was not ruled out. -/
theorem Confined.bind {misses : α → Prop} {misses' : β → Prop} {p : EditorProgram α}
    {f : α → EditorProgram β} (hp : Confined may misses p)
    (hf : ∀ a, ¬ misses a → Confined may misses' (f a)) : Confined may misses' (p.bind f) := by
  obtain ⟨hasks, htells⟩ := hp
  induction p with
  | done a => exact hf a htells
  | ask q next ih =>
    have hnext : ∀ r, Confined may misses' ((next r).bind f) :=
      fun r => ih r (hasks.2 r) (htells r id)
    exact ⟨⟨hasks.1, fun r => (hnext r).asks⟩, fun r _ => (hnext r).tells⟩

theorem Confined.mono {misses : α → Prop} {p : EditorProgram α} {may' : Request → Prop}
    (hp : Confined may misses p) (h : ∀ q, may q → may' q) : Confined may' misses p :=
  ⟨hp.asks.mono h, hp.tells⟩

/-- A result that was not ruled out does not miss. -/
theorem Confined.not_misses {misses : α → Prop} {p : EditorProgram α} (hp : Confined may misses p)
    {events : List (Event interface)} {a : α} (h : p.Runs events a) : ¬ misses a := by
  intro ha
  obtain ⟨_, -, hnever⟩ := hp.tells.of_runs h ha
  exact hnever

/-- A chain of requests, each of which may be made. -/
abbrev Keeps (may : Request → Prop) (x : EditorAction α) : Prop :=
  Confined may (fun _ => False) x.run

/-- A step that does not fail as if no command had been run. -/
abbrev ConfinedStep (may : Request → Prop) : EditorProgram Step → Prop :=
  Confined may fun s => ∃ o, s = .failed o ∧ o.isMiss = true

/-- An outcome that is not that of a transcript without a command. -/
abbrev ConfinedOutcome (may : Request → Prop) : EditorProgram Outcome → Prop :=
  Confined may fun o => o.isMiss = true

/-- A reply with such an outcome. -/
abbrev ConfinedReply (may : Request → Prop) : EditorProgram CommandReply → Prop :=
  Confined may fun r => r.outcome.isMiss = true

/-- A step that is no failure of this kind. -/
theorem not_failed_isMiss {o : Outcome} (h : o.isMiss = false) :
    ¬ ∃ o', Step.failed o = .failed o' ∧ o'.isMiss = true := by
  rintro ⟨o', ho, hmiss⟩
  rw [Step.failed.inj ho, hmiss] at h
  exact nomatch h

theorem not_error_isMiss {o : Outcome} (h : o.isMiss = false) :
    ¬ ∃ o', (.error o : Except Outcome α) = .error o' ∧ o'.isMiss = true := by
  rintro ⟨o', ho, hmiss⟩
  rw [Except.error.inj ho, hmiss] at h
  exact nomatch h

/-- What is no failure at all is none of this kind. -/
theorem not_ok_isMiss (a : α) :
    ¬ ∃ o', (.ok a : Except Outcome α) = .error o' ∧ o'.isMiss = true := by
  rintro ⟨o', ho, -⟩
  cases ho

theorem not_done_isMiss : ¬ ∃ o', Step.done = .failed o' ∧ o'.isMiss = true := by
  rintro ⟨o', ho, -⟩
  cases ho

theorem not_declined_isMiss : ¬ ∃ o', Step.declined = .failed o' ∧ o'.isMiss = true := by
  rintro ⟨o', ho, -⟩
  cases ho

theorem keeps_pure (a : α) : Keeps may (pure a : EditorAction α) := confined_pure id

theorem keeps_call {q : Request} (h : may q) : Keeps may (call q) :=
  ⟨⟨h, fun _ => trivial⟩, fun _ _ => id⟩

/-- What follows a chain of requests is confined if it is after either end. -/
theorem Keeps.followed {misses : β → Prop} {x : EditorAction α} (hx : Keeps may x)
    {next : Except EditorError α → EditorProgram β}
    (hok : ∀ a, Confined may misses (next (.ok a)))
    (herror : ∀ e, Confined may misses (next (.error e))) :
    Confined may misses (Program.bind x.run next) := by
  refine Confined.bind hx fun r _ => ?_
  cases r with
  | ok a => exact hok a
  | error e => exact herror e

theorem Keeps.bind {x : EditorAction α} {f : α → EditorAction β} (hx : Keeps may x)
    (hf : ∀ a, Keeps may (f a)) : Keeps may (x >>= f) :=
  hx.followed hf fun _ => confined_pure id

theorem keeps_cursor (h : may .selection) : Keeps may cursor :=
  Keeps.bind (keeps_call h) fun s => keeps_pure s.active

theorem confined_failed (e : EditorError) :
    ConfinedStep may (.done (.failed (.ofEditorError e))) :=
  confined_pure (not_failed_isMiss (isMiss_ofEditorError e))

theorem confined_step {x : EditorAction α} (hx : Keeps may x) :
    ConfinedStep may (Step.ofAction x) :=
  hx.followed (fun _ => confined_pure not_done_isMiss) confined_failed

theorem confined_done {o : Outcome} (h : o.isMiss = false) : ConfinedOutcome may (.done o) :=
  confined_pure (by rw [h]; exact Bool.false_ne_true)

theorem confined_outcome {x : EditorAction α} (hx : Keeps may x) :
    ConfinedOutcome may (Outcome.ofAction x) :=
  hx.followed (fun _ => confined_done rfl) fun e => confined_done (isMiss_ofEditorError e)

theorem confined_invalid : ConfinedStep may Step.invalid := confined_pure (not_failed_isMiss rfl)

theorem confined_declined : ConfinedStep may (.done .declined) := confined_pure not_declined_isMiss

theorem confined_reply {p : EditorProgram Outcome} (h : ConfinedOutcome may p) :
    ConfinedReply may (p.bind fun o => .done (.ofOutcome o)) :=
  h.bind fun _ ho => confined_pure ho

/-! ## Rule tables -/

namespace RuleTable

variable {t : RuleTable α}

/-- An action failed as if no command had been run. -/
abbrev MissedBy (_ : Invocation α) (s : Step) : Prop := ∃ o, s = .failed o ∧ o.isMiss = true

/-- A window failed in this way. -/
abbrev WindowMisses (r : Except Outcome (List Applied)) : Prop :=
  ∃ o, r = .error o ∧ o.isMiss = true

theorem misses_runTogether (tokens : List Token) :
    (t.runTogether tokens).Earns MissedBy WindowMisses :=
  blames_runTogether (by decide) tokens

/-- A resolution misses only if some action did. -/
theorem misses_resolve (tokens : List Token) :
    (t.resolve tokens).Earns MissedBy fun r => r.outcome.isMiss = true := by
  have hfrom : ∀ covered, (t.resolveFrom covered tokens).Earns MissedBy
      fun r => r.outcome.isMiss = true := by
    induction tokens with
    | nil => exact fun _ hmiss => nomatch hmiss
    | cons token rest ih =>
      intro covered
      cases covered with
      | succ covered => exact ih covered
      | zero =>
        refine (misses_runTogether _).bind fun window hwindow => ?_
        cases window with
        | error o => exact fun hmiss => hwindow ⟨o, rfl, hmiss⟩
        | ok applied => exact (ih _).bind fun others hothers => hothers
  unfold resolve
  split
  · exact fun hmiss => nomatch hmiss
  · exact hfrom 0

/-- A resolution keeps to what the actions of its table keep to. -/
theorem confined_carryOut {t : RuleTable TokenAction}
    (ht : t.All fun action => ∀ tokens, ConfinedStep may (action tokens)) (tokens : List Token) :
    ConfinedOutcome may ((t.carryOut tokens).bind fun r => .done r.outcome) := by
  have hstep : ∀ i : Invocation TokenAction, t.HasAction i → ConfinedStep may (i.action i.tokens) :=
    fun i ⟨_, hi⟩ => ht _ hi i.tokens
  have hresolved : Confined may (fun r : Resolution => r.outcome.isMiss = true) (t.carryOut tokens) :=
    ⟨(asks_resolve tokens).via fun i hi => (hstep i hi).asks,
      (misses_resolve tokens).via (asks_resolve tokens) fun i hi => (hstep i hi).tells⟩
  exact hresolved.bind fun _ hr => confined_pure hr

end RuleTable

/-! ## Moving and selecting -/

namespace Movement

theorem MovesOnce.confined {p : EditorProgram Step} (h : MovesOnce p)
    (hmay : ∀ q : Request, q.moves = true → may q) : ConfinedStep may p := by
  cases h with
  | declined => exact confined_declined
  | invalid => exact confined_invalid
  | request q hq => exact confined_step (keeps_call (hmay q hq))

theorem confined_go (tokens : List Token) : ConfinedOutcome CommandName.go.May (go tokens) := by
  have hmay : ∀ q : Request, q.moves = true → CommandName.go.May q := fun _ hq _ => hq
  exact RuleTable.confined_carryOut
    (fun r hr tokens => (movesOnce_table r hr tokens).confined hmay) tokens

end Movement

namespace Selecting

/-- What selecting may ask for. -/
abbrev MaySelect : Request → Prop := CommandName.select.May

theorem may_of_moves {q : Request} (h : q.moves = true) : MaySelect q := by
  intro _
  simp [CommandName.acts, h]

theorem may_of_selects {q : Request} (h : q.selects = true) : MaySelect q := by
  intro _
  simp [CommandName.acts, h]

theorem keeps_motion {q : Request} (h : q.moves = true) : Keeps MaySelect (call q) :=
  keeps_call (may_of_moves h)

theorem keeps_select (anchor active : Position) : Keeps MaySelect (select anchor active) :=
  keeps_call (may_of_selects rfl)

theorem keeps_place : Keeps MaySelect cursor := keeps_cursor fun h => nomatch h

theorem keeps_selectLine (line : Nat) (fromIndentation : Bool) :
    Keeps MaySelect (selectLine line fromIndentation) :=
  Keeps.bind (keeps_call fun h => nomatch h) fun _ => keeps_select _ _

theorem keeps_selectCursorLine (fromIndentation : Bool) :
    Keeps MaySelect (selectCursorLine fromIndentation) :=
  Keeps.bind keeps_place fun place => keeps_selectLine place.line fromIndentation

theorem keeps_extend {motion : EditorAction Unit} (h : Keeps MaySelect motion) :
    Keeps MaySelect (extend motion) :=
  Keeps.bind (keeps_call fun h => nomatch h) fun _ => Keeps.bind h fun _ =>
    Keeps.bind keeps_place fun _ => keeps_select _ _

/-- An action of selection, whatever its tokens. -/
abbrev ConfinedRule (action : TokenAction) : Prop :=
  ∀ tokens, ConfinedStep MaySelect (action tokens)

theorem confined_selectNumberedLine (n : Nat) : ConfinedStep MaySelect (selectNumberedLine n) := by
  cases n with
  | zero => exact confined_invalid
  | succ line => exact confined_step (keeps_selectLine line false)

theorem confined_selectNumber : ConfinedRule selectNumber := by
  intro tokens
  unfold selectNumber
  split
  · split
    · exact confined_selectNumberedLine _
    · exact confined_invalid
  · exact confined_invalid

theorem confined_selectBySelector : ConfinedRule selectBySelector := by
  intro tokens
  unfold selectBySelector
  split
  · split
    · exact confined_step (keeps_call (may_of_selects rfl))
    · exact confined_step (keeps_call (may_of_selects rfl))
    · exact confined_step (keeps_call (may_of_selects rfl))
    · exact confined_step (keeps_extend (keeps_motion rfl))
    · exact confined_step (keeps_extend (keeps_motion rfl))
    · exact confined_invalid
  · exact confined_invalid

theorem confined_selectObject : ConfinedRule selectObject := by
  intro tokens
  unfold selectObject
  split
  · split
    · exact confined_step (keeps_selectCursorLine false)
    · exact confined_step (keeps_call (may_of_selects rfl))
    · exact confined_invalid
  · exact confined_invalid

theorem confined_extendByDirection : ConfinedRule extendByDirection := by
  intro tokens
  unfold extendByDirection
  split
  · split
    · exact confined_step (keeps_extend (keeps_motion rfl))
    · exact confined_step (keeps_extend (keeps_motion rfl))
    · split
      · exact confined_invalid
      · exact confined_step (keeps_extend (keeps_motion rfl))
    · exact confined_invalid
  · exact confined_invalid

theorem confined_selectNumberedObject : ConfinedRule selectNumberedObject := by
  intro tokens
  unfold selectNumberedObject
  split
  · split
    · exact confined_selectNumberedLine _
    · exact confined_invalid
  · exact confined_invalid

theorem confined_extendByCount : ConfinedRule extendByCount := by
  intro tokens
  unfold extendByCount
  split
  · split
    · split
      · exact confined_declined
      · exact confined_step (keeps_extend (keeps_motion rfl))
    · exact confined_invalid
  · exact confined_invalid

theorem confined_selectQualifiedObject : ConfinedRule selectQualifiedObject := by
  intro tokens
  unfold selectQualifiedObject
  split
  · split
    · exact confined_step (keeps_selectCursorLine true)
    · exact confined_step (keeps_call (may_of_selects rfl))
    · exact confined_step (keeps_extend (keeps_motion rfl))
    · exact confined_step (keeps_extend (keeps_motion rfl))
    · exact confined_step (keeps_extend (keeps_motion rfl))
    · exact confined_step (keeps_extend (keeps_motion rfl))
    · exact confined_invalid
  · exact confined_invalid

theorem confined_extendByObject (object : EditorObject) (direction : Direction) :
    ConfinedStep MaySelect (extendByObject object direction) := by
  have hmoved : ConfinedStep MaySelect (Movement.stepByObject object direction) :=
    (Movement.movesOnce_stepByObject object direction).confined fun _ => may_of_moves
  have hasked : Keeps MaySelect selection := keeps_call fun h => nomatch h
  refine hasked.followed (fun before => ?_) confined_failed
  refine hmoved.bind fun s hs => ?_
  cases s with
  | done => exact confined_step (keeps_place.bind fun place => keeps_select before.anchor place)
  | declined => exact confined_declined
  | failed o => exact confined_pure hs

theorem confined_extendToObject : ConfinedRule extendToObject := by
  intro tokens
  unfold extendToObject
  split
  · split
    · exact confined_invalid
    · exact confined_invalid
    · exact confined_extendByObject _ _
    · exact confined_invalid
  · exact confined_invalid

theorem confined_table : table.All ConfinedRule :=
  RuleTable.all_empty _ _
    |>.bind _ confined_selectNumber
    |>.bind _ confined_selectBySelector
    |>.bind _ confined_selectObject
    |>.bind _ confined_extendByDirection
    |>.bind _ confined_selectNumberedObject
    |>.bind _ confined_extendByCount
    |>.bind _ confined_selectQualifiedObject
    |>.bind _ confined_extendToObject

/-- A run of a range only moves. -/
theorem confined_cursorAfter (tokens : List Token) (fallback : Position) :
    Confined MaySelect (fun r => ∃ o, r = .error o ∧ o.isMiss = true)
      (cursorAfter tokens fallback) := by
  have hgo : ConfinedOutcome MaySelect (Movement.go tokens) :=
    (Movement.confined_go tokens).mono fun q hq hmut => may_of_moves (hq hmut) hmut
  unfold cursorAfter
  split
  · exact confined_pure (not_ok_isMiss _)
  · refine hgo.bind fun o ho => ?_
    split
    · exact keeps_place.followed (fun _ => confined_pure (not_ok_isMiss _))
        fun e => confined_pure (not_error_isMiss (isMiss_ofEditorError e))
    · exact confined_pure (not_error_isMiss (Bool.eq_false_iff.2 ho))

theorem confined_selectRange (tokens : List Token) :
    ConfinedOutcome MaySelect (selectRange tokens) := by
  have hasked : Keeps MaySelect selection := keeps_call fun h => nomatch h
  unfold selectRange
  simp only
  split
  · exact confined_done rfl
  · refine hasked.followed (fun previous => ?_) fun e => confined_done (isMiss_ofEditorError e)
    refine (confined_cursorAfter _ _).bind fun start hstart => ?_
    cases start with
    | error o => exact confined_pure fun hmiss => hstart ⟨o, rfl, hmiss⟩
    | ok start =>
      refine (confined_cursorAfter _ _).bind fun finish hfinish => ?_
      cases finish with
      | error o => exact confined_pure fun hmiss => hfinish ⟨o, rfl, hmiss⟩
      | ok finish => exact confined_outcome (keeps_select start finish)

theorem confined_selectTokens (tokens : List Token) :
    ConfinedOutcome MaySelect (selectTokens tokens) := by
  unfold selectTokens
  split
  · exact confined_outcome (keeps_call (may_of_selects rfl))
  · split
    · exact confined_selectRange tokens
    · exact RuleTable.confined_carryOut confined_table tokens

end Selecting

/-! ## Generating code -/

namespace Creation

theorem keeps_insertBelow (template : Text) :
    Keeps CommandName.new.May (insertBelow template) :=
  Keeps.bind (keeps_cursor fun h => nomatch h) fun _ =>
    Keeps.bind (keeps_call fun h => nomatch h) fun _ =>
      Keeps.bind (keeps_call fun _ => rfl) fun _ => keeps_call fun _ => rfl

/-- A template goes to a new line, or the tokens are invalid. -/
theorem confined_template (template : Option Text) :
    ConfinedStep CommandName.new.May
      (match template with
        | some template => Step.ofAction (insertBelow template)
        | none => Step.invalid) := by
  cases template with
  | none => exact confined_invalid
  | some template => exact confined_step (keeps_insertBelow template)

theorem confined_create (tokens : List Token) :
    ConfinedOutcome CommandName.new.May (create tokens) := by
  refine RuleTable.confined_carryOut (RuleTable.all_empty _ _
    |>.bind _ (fun tokens => ?_) |>.bind _ fun tokens => ?_) tokens
  · unfold newTemplate
    split
    · exact confined_template _
    · exact confined_invalid
  · unfold newNamedTemplate
    split
    · exact confined_template _
    · exact confined_invalid

end Creation

namespace Addition

theorem keeps_charBeforeCursor : Keeps CommandName.add.May charBeforeCursor := by
  refine Keeps.bind (keeps_cursor fun h => nomatch h) fun place => ?_
  split
  · exact keeps_pure none
  · exact Keeps.bind (keeps_call fun h => nomatch h) fun _ => keeps_pure _

theorem keeps_needsSpace : Keeps CommandName.add.May needsSpace := by
  refine Keeps.bind (keeps_call fun h => nomatch h) fun s => ?_
  split
  · exact keeps_charBeforeCursor.bind fun _ => keeps_pure _
  · exact keeps_pure false

theorem keeps_addInline (s : Snippet) : Keeps CommandName.add.May (addInline s) := by
  refine keeps_needsSpace.bind fun spaced => Keeps.bind (keeps_call fun _ => rfl) fun _ => ?_
  split
  · exact keeps_call fun _ => rfl
  · exact keeps_pure ()

/-- A snippet goes to the cursor, or the tokens are invalid. -/
theorem confined_snippet (s : Option Snippet) :
    ConfinedStep CommandName.add.May
      (match s with
        | some s => Step.ofAction (addInline s)
        | none => Step.invalid) := by
  cases s with
  | none => exact confined_invalid
  | some s => exact confined_step (keeps_addInline s)

theorem confined_addSnippet (tokens : List Token) :
    ConfinedStep CommandName.add.May (addSnippet tokens) := by
  unfold addSnippet
  split
  · split
    · exact confined_step (keeps_call fun _ => rfl)
    · exact confined_step (keeps_call fun _ => rfl)
    · exact confined_invalid
    · exact confined_snippet _
  · exact confined_invalid

theorem confined_add (tokens : List Token) :
    ConfinedOutcome CommandName.add.May (add tokens) := by
  refine RuleTable.confined_carryOut (RuleTable.all_empty _ _
    |>.bind _ confined_addSnippet |>.bind _ fun tokens => ?_) tokens
  unfold addNamedSnippet
  split
  · exact confined_snippet _
  · exact confined_invalid

end Addition

/-! ## Commands without rule tables -/

namespace Workbench

/-- A name that takes no arguments stands for a change of mode or for an editor
command, never for both. -/
theorem transition?_or_editorCommand? {name : CommandName} (h : name.grammar = .none) :
    (∃ t, transition? name = some t) ∨
      transition? name = none ∧ ∃ c, editorCommand? name = some c := by
  cases name <;> first | exact .inl ⟨_, rfl⟩ | exact .inr ⟨rfl, _, rfl⟩ | cases h

/-- Such a name may ask for its editor command only. -/
theorem acts_run {name : CommandName} (h : name.grammar = .none) (q : Request) :
    name.acts q = true ↔ ∃ c, q = .run c ∧ editorCommand? name = some c := by
  have hmatch : name.acts q =
      match q with
      | .run c => editorCommand? name == some c
      | _ => false := by
    cases name <;> first | rfl | cases h
  rw [hmatch]
  cases q <;> simp

theorem confined_withoutArguments {name : CommandName} (h : name.grammar = .none) :
    ConfinedReply name.May (withoutArguments name) := by
  unfold withoutArguments
  rcases transition?_or_editorCommand? h with ⟨t, ht⟩ | ⟨ht, c, hc⟩
  · simp only [ht]
    exact confined_pure Bool.false_ne_true
  · simp only [ht, hc]
    exact confined_reply (confined_outcome (keeps_call fun _ => (acts_run h _).2 ⟨c, rfl, hc⟩))

theorem confined_runEach {may : Request → Prop} {commands : List (Option EditorCommand)}
    (h : ∀ c, some c ∈ commands → may (.run c)) : ConfinedOutcome may (runEach commands) := by
  induction commands with
  | nil => exact confined_done rfl
  | cons command rest ih =>
    cases command with
    | none => exact confined_done rfl
    | some command =>
      have hfirst : ConfinedOutcome may (Outcome.ofAction (run command)) :=
        confined_outcome (keeps_call (h command List.mem_cons_self))
      refine hfirst.bind fun outcome houtcome => ?_
      split
      · exact ih fun c hc => h c (List.mem_cons_of_mem _ hc)
      · exact confined_pure houtcome

theorem confined_suggest (tokens : List Token) :
    ConfinedOutcome CommandName.suggestion.May (suggest tokens) := by
  unfold suggest
  split
  · exact confined_outcome (keeps_call fun _ => rfl)
  · refine confined_runEach fun c hc _ => ?_
    obtain ⟨token, -, htoken⟩ := List.mem_map.1 hc
    unfold suggestionCommand? at htoken
    split at htoken
    · obtain ⟨qualifier, -, rfl⟩ := Option.map_eq_some_iff.1 htoken
      cases qualifier <;> rfl
    · exact nomatch htoken

theorem confined_controlTerminal (actions : List Text) :
    ConfinedOutcome CommandName.terminal.May (controlTerminal actions) := by
  unfold controlTerminal
  split
  · exact confined_done rfl
  · refine confined_runEach fun c hc _ => ?_
    obtain ⟨text, -, htext⟩ := List.mem_map.1 hc
    obtain ⟨action, -, rfl⟩ := Option.map_eq_some_iff.1 htext
    rfl

theorem confined_insertIdentifier {name : CommandName} (h : name.grammar = .freeText)
    (words : Text) : ConfinedOutcome name.May (insertIdentifier name words) := by
  unfold insertIdentifier
  split
  · exact confined_done rfl
  · cases name with
    | snakeCase => exact confined_outcome (keeps_call fun _ => rfl)
    | camelCase => exact confined_outcome (keeps_call fun _ => rfl)
    | _ => cases h

end Workbench

/-! ## Every command -/

namespace Command

/-- A command asks for nothing but its acts, and always runs. -/
theorem confined_execute (v : Vocabulary) (name : CommandName) (raw : Text) :
    ConfinedReply name.May (execute v name raw) := by
  cases hgrammar : name.grammar with
  | none =>
    simp only [execute, hgrammar]
    split
    · exact Workbench.confined_withoutArguments hgrammar
    · exact confined_pure Bool.false_ne_true
  | freeText =>
    simp only [execute, hgrammar]
    exact confined_reply (Workbench.confined_insertIdentifier hgrammar _)
  | tokenSequence profile =>
    simp only [execute, hgrammar]
    refine confined_reply ?_
    cases name with
    | go => exact Movement.confined_go _
    | select => exact Selecting.confined_selectTokens _
    | new => exact Creation.confined_create _
    | add => exact Addition.confined_add _
    | _ => cases hgrammar
  | specializedLookup profile =>
    simp only [execute, hgrammar]
    refine confined_reply ?_
    cases name with
    | suggestion => exact Workbench.confined_suggest _
    | terminal => exact Workbench.confined_controlTerminal _
    | _ => cases hgrammar

end Command

end VoiceEdit
