import VoiceEdit.Explanation
import VoiceEdit.Proofs.Command.Requests
import VoiceEdit.Proofs.Text.Digits
import VoiceEdit.Proofs.Text.Trimming

/-!
# Explanations come true

An explanation reads a transcript by itself, without the handlers of the commands.
What it shows is enough to say what will be done: a transcript is dispatched as its
explanation says, request by request.

* `Explanation.foretold`: what will be done, by the explanation alone.
* `controlTerminal_tokens`: actions of the terminal are the same before and after
  they are classified.
* `Explanation.dispatch_foretold`: explanations come true, for every editor.
-/
namespace VoiceEdit

open Editor Program Text

/-! ## Codes in tokens -/

/-- No action of the terminal is a number. -/
theorem terminalAction_of_digits {t : Text} (h : IsDigits t) : (ofCode? t : Option TerminalAction) = none := by
  refine List.find?_eq_none.2 fun action _ haction => ?_
  rw [← beq_iff_eq.1 haction] at h
  cases action <;> exact absurd h (by decide)

/-- Classifying changes the text of numbers only. -/
theorem terminalAction_text_classify (v : Vocabulary) (raw : Text) :
    (ofCode? (Token.classify v raw).text : Option TerminalAction) = ofCode? raw := by
  unfold Token.classify
  cases hnumber : decimal? raw with
  | some n =>
    have hraw : IsDigits raw := by
      unfold decimal? at hnumber
      split at hnumber
      · rename_i hdecimal
        exact (isDecimal_iff.1 (Bool.and_eq_true_iff.1 hdecimal).1).2
      · cases hnumber
    rw [terminalAction_of_digits hraw]
    exact terminalAction_of_digits (isDigits_ofNat n)
  | none =>
    simp only
    split <;> rfl

theorem Workbench.controlTerminal_tokens (p : Profile) (v : Vocabulary) (text : Text) :
    controlTerminal ((Argument.tokens p v text).map Token.text) =
      controlTerminal (Argument.raws p v text) := by
  have hactions : ((Argument.tokens p v text).map Token.text).map
        (fun a => (ofCode? a).map EditorCommand.terminal) =
      (Argument.raws p v text).map fun a => (ofCode? a).map EditorCommand.terminal := by
    simp [Argument.tokens, terminalAction_text_classify]
  have hempty : ((Argument.tokens p v text).map Token.text).isEmpty =
      (Argument.raws p v text).isEmpty := by
    simp [Argument.tokens]
  rw [controlTerminal, controlTerminal, hactions, hempty]

/-! ## What an explanation says -/

/-- The arguments of a trigger are trimmed. -/
theorem Trigger.trim_arguments {v : Vocabulary} {transcript : Text} {trigger : Trigger}
    (h : find? v transcript = some trigger) : trim trigger.arguments = trigger.arguments := by
  simp only [find?] at h
  split at h
  · cases h
  · split at h
    · cases h
      rfl
    · obtain ⟨c, -, rfl⟩ := Option.map_eq_some_iff.1 h
      exact trim_trim _

namespace Explanation

/-- What a command does with the arguments and the tokens of its explanation. -/
def handled (name : CommandName) (arguments : Text) (tokens : List Token) :
    EditorProgram CommandReply :=
  let reply (p : EditorProgram Outcome) := p.bind fun o => .done (.ofOutcome o)
  match name with
  | .go => reply (Movement.go tokens)
  | .select => reply (Selecting.selectTokens tokens)
  | .new => reply (Creation.create tokens)
  | .add => reply (Addition.add tokens)
  | .suggestion => reply (Workbench.suggest tokens)
  | .terminal => reply (Workbench.controlTerminal (tokens.map Token.text))
  | .snakeCase | .camelCase => reply (Workbench.insertIdentifier name arguments)
  | name =>
    if arguments.isEmpty then Workbench.withoutArguments name
    else .done (.ofOutcome .invalidArgument)

/-- What will be done, by an explanation alone. -/
def foretold (e : Explanation) : EditorProgram CommandReply :=
  match e.trigger, e.command with
  | none, _ => .done (.ofOutcome .noCommandFound)
  | some _, none => .done (.ofOutcome .functionNotFound)
  | some trigger, some name => handled name trigger.arguments e.tokens

/-- Running a command is handling its explained arguments. -/
theorem execute_eq_handled (v : Vocabulary) (name : CommandName) {arguments : Text}
    (h : trim arguments = arguments) :
    Command.execute v name arguments = handled name arguments (Command.arguments v name arguments) := by
  cases name with
  | terminal =>
    simp only [Command.execute, h, CommandName.grammar, handled, Command.arguments,
      Workbench.controlTerminal_tokens]
  | _ => simp only [Command.execute, h]; rfl

theorem dispatch_eq_foretold (v : Vocabulary) (transcript : Text) :
    Command.dispatch v transcript = (of v transcript).foretold := by
  cases htrigger : Trigger.find? v transcript with
  | none => simp only [Command.dispatch, of, foretold, htrigger]
  | some trigger =>
    cases hname : (ofCode? trigger.command : Option CommandName) with
    | none => simp only [Command.dispatch, of, foretold, htrigger, hname, Option.bind_some]
    | some name =>
      simp only [Command.dispatch, of, foretold, htrigger, hname, Option.bind_some]
      exact execute_eq_handled v name (Trigger.trim_arguments htrigger)

/-- Explanations come true: a transcript makes the requests that its explanation
foretells, and it is answered as if no command had been run if and only if its
explanation shows none, in which case nothing is asked of the editor. -/
theorem dispatch_foretold (v : Vocabulary) (transcript : Text) :
    let e := of v transcript
    Command.dispatch v transcript = e.foretold ∧
      ∀ {σ : Type} (editor : Handler Editor.interface σ) (s : σ),
        let outcome := ((Command.dispatch v transcript).run editor s).1.outcome
        (e.trigger = none ↔ outcome = .noCommandFound) ∧
          (e.trigger ≠ none ∧ e.command = none ↔ outcome = .functionNotFound) ∧
          (e.command = none → (Command.dispatch v transcript).trace editor s = []) := by
  refine ⟨dispatch_eq_foretold v transcript, fun editor s => ?_⟩
  cases htrigger : Trigger.find? v transcript with
  | none => simp [Command.dispatch, of, htrigger, Program.run, Program.trace, CommandReply.ofOutcome]
  | some trigger =>
    cases hname : (ofCode? trigger.command : Option CommandName) with
    | none =>
      simp [Command.dispatch, of, htrigger, hname, Program.run, Program.trace, CommandReply.ofOutcome]
    | some name =>
      -- every name that a trigger can stand for has a handler
      have hran := (Command.confined_execute v name trigger.arguments).not_misses
        (runs_trace editor _ s)
      simp only [Command.dispatch, of, htrigger, hname, Option.bind_some]
      refine ⟨⟨fun h => (nomatch h), fun h => ?_⟩, ⟨fun h => (nomatch h.2), fun h => ?_⟩,
        fun h => (nomatch h)⟩
      · rw [h] at hran
        exact absurd rfl hran
      · rw [h] at hran
        exact absurd rfl hran

/-- Actions of the terminal between which a number stands. -/
theorem dispatch_foretold_terminal :
    ∃ v : Vocabulary, (of v "terminal show 007").tokens.map Token.text = ["SHOW", "7"] ∧
      Argument.raws .terminal v "show 007" = ["SHOW", "007"] ∧
      Command.dispatch v "terminal show 007" =
        (Workbench.controlTerminal ["SHOW", "7"]).bind fun o => .done (.ofOutcome o) := by
  let v : Vocabulary :=
    { Vocabulary.empty with
      terminalActions := .ofList [("show", "SHOW")]
      parameterizedTriggers := .ofList [("terminal", "TERMINAL")] }
  obtain ⟨hdispatch, -⟩ := dispatch_foretold v "terminal show 007"
  exact ⟨v, by decide +kernel, by decide +kernel, hdispatch.trans (by rfl)⟩

end Explanation

end VoiceEdit
