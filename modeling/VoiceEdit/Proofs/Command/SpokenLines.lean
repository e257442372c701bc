import VoiceEdit.Proofs.Command.NumberLast
import VoiceEdit.Proofs.Command.RangeSelection
import VoiceEdit.Proofs.Vocabulary.English

/-!
# Spoken line numbers

A number behind "go to line", "go line", "go" or "select line" is that of a line,
counted from 1. The line is gone to or selected if it is there, and nothing is done
otherwise, however large the number is.

* `ActsOnLine`: what commands make of a number, by their rules.
* `LineAction`: what an action on a line does to a buffer, and where the line is missing.
* `reachesLine_of_actsOnLine`: both together, for a number in digits.
* `dispatch_spoken_line`: the same for whole transcripts with the built-in phrases.
-/
namespace VoiceEdit

open Editor Program Text

/-! ## Numbers as lines -/

/-- A command that takes its one number for that of a line, counted from 1, and turns down
zero and what is no number. -/
structure ActsOnLine (p : Token → EditorProgram Outcome) (action : Nat → EditorAction Unit) :
    Prop where
  text : ∀ d, p (.ofText d) = .done .invalidArgument
  zero : p (.ofNumber 0) = .done .invalidArgument
  line : ∀ k, p (.ofNumber (k + 1)) = Outcome.ofAction (action k)

/-- The token of "line". -/
def Token.line : Token := .ofCode .objectNoun "LINE"

-- rules are found by the kinds of tokens, so the tables compute for numbers that are not known

theorem Movement.actsOnLine_number : ActsOnLine (fun t => go [t]) moveToLine where
  text _ := rfl
  zero := rfl
  line _ := congrArg (Program.ask _) (funext fun r => by cases r <;> rfl)

theorem Movement.actsOnLine_line : ActsOnLine (fun t => go [.line, t]) moveToLine where
  text _ := rfl
  zero := rfl
  line _ := congrArg (Program.ask _) (funext fun r => by cases r <;> rfl)

theorem Selecting.actsOnLine_line :
    ActsOnLine (fun t => selectTokens [.line, t]) (selectLine · false) where
  text _ := rfl
  zero := rfl
  line _ := congrArg (Program.ask _) <| funext fun r => by
    cases r with
    | error e => rfl
    -- the line is there, and what is left is to select all of it
    | ok text => exact congrArg (Program.ask _) (funext fun r => by cases r <;> rfl)

namespace Buffer

variable {b : Buffer} {n : Nat}

/-! ## Lines of a buffer -/

/-- The number of a line, counted from 1, that a word can hold. -/
structure HasLine (b : Buffer) (n : Nat) : Prop where
  pos : 1 ≤ n
  le_length : n ≤ b.lines.length
  le_maxWord : n ≤ maxWord

/-- On a line that is there an action selects what `place` says; on any other it is refused
and changes nothing. -/
structure LineAction (b : Buffer) (action : Nat → EditorAction Unit) (place : Nat → Selection) :
    Prop where
  selects : ∀ k < b.lines.length, ∃ after,
    Program.run editor (Outcome.ofAction (action k)) b = (.success, after) ∧
      after.selection = place k ∧ Kept b after
  refuses : ∀ k, b.lines.length ≤ k →
    Program.run editor (Outcome.ofAction (action k)) b = (.invalidArgument, b)

theorem run_ofAction {α : Type} (action : EditorAction α) (b : Buffer) :
    Program.run editor (Outcome.ofAction action) b =
      (.ofCall (Program.run editor action.run b).1, (Program.run editor action.run b).2) :=
  run_bind editor action.run _ b

theorem lineAction_moveToLine (hfocus : b.focused = true) :
    LineAction b Editor.moveToLine fun k => .caret ⟨k, 0⟩ := by
  refine ⟨fun k hk => ⟨b.placeCaret ⟨k, 0⟩, ?_, placeCaret_selection b _, kept_placeCaret b _⟩,
    fun k hk => ?_⟩
  · rw [run_ofAction, run_moveToLine hfocus, moveToLine, if_pos hk]
    rfl
  · rw [run_ofAction, run_moveToLine hfocus, moveToLine, if_neg (Nat.not_lt.2 hk)]
    rfl

/-- All of the text of a line. -/
def wholeLine (b : Buffer) (k : Nat) : Selection := ⟨⟨k, 0⟩, ⟨k, b.lineLength k⟩⟩

theorem lineAction_selectLine (hfocus : b.focused = true) :
    LineAction b (Selecting.selectLine · false) b.wholeLine := by
  have hanswer (k : Nat) : Program.run editor (Editor.lineText k).run b = (b.lineText k, b) :=
    editor_focused hfocus (.lineText k)
  refine ⟨fun k hk => ?_, fun k hk => ?_⟩
  · have hline : b.lines[k]? = some (b.line k) := by
      rw [line, List.getElem?_eq_getElem hk, Option.getD_some]
    have hstart : (⟨k, 0⟩ : Position).InRow b.lines := ⟨_, hline, Nat.zero_le _⟩
    have hfinish : (⟨k, b.lineLength k⟩ : Position).InRow b.lines := ⟨_, hline, Nat.le_refl _⟩
    have hselect := select_of_inRow hstart hfinish
    refine ⟨_, ?_, reveal_selection _ _, kept_select hselect⟩
    have hrun := run_select hfocus hselect
    rw [run_ofAction] at hrun
    rw [run_ofAction, Selecting.selectLine, run_chain, hanswer, lineText, hline]
    exact hrun
  · rw [run_ofAction, Selecting.selectLine, run_chain, hanswer, lineText,
      List.getElem?_eq_none hk]
    rfl

/-- What is selected is the text of the line. -/
theorem selectedText_wholeLine {b' : Buffer} {k : Nat} (hkept : Kept b b')
    (h : b'.selection = b.wholeLine k) : b'.selectedText = b.line k := by
  have hline : b'.line k = b.line k := by rw [line, hkept.lines, line]
  have hprecedes : (⟨k, 0⟩ : Position).precedes ⟨k, b.lineLength k⟩ = true := by
    simp [Position.precedes]
  rw [selectedText, h, wholeLine, Selection.start, Selection.finish, Position.earlier,
    Position.later, if_pos hprecedes, if_pos hprecedes, textBetween, if_pos rfl, hline, lineLength,
    List.take_length, List.drop_zero]

/-! ## Numbers in a command -/

variable {p : Token → EditorProgram Outcome} {action : Nat → EditorAction Unit}
  {place : Nat → Selection} {digits : Text}

/-- The number of a line that is there acts on that line. -/
theorem HasLine.run_ofDigits (hp : ActsOnLine p action) (haction : LineAction b action place)
    (hdigits : digits.Writes n) (h : b.HasLine n) : ∃ after,
      Program.run editor (p (.ofDigits digits)) b = (.success, after) ∧
        after.selection = place (n - 1) ∧ Kept b after := by
  obtain ⟨k, rfl⟩ := Nat.exists_eq_add_one.2 h.pos
  have htoken : Token.ofDigits digits = .ofNumber (k + 1) := by
    rw [Token.ofDigits, hdigits.value, if_pos h.le_maxWord]
  rw [htoken, hp.line]
  exact haction.selects k h.le_length

/-- A number of no line is turned down: it is zero, too large for the text, or too large for
a word. -/
theorem run_ofDigits_of_not_hasLine (hp : ActsOnLine p action)
    (haction : LineAction b action place) (hdigits : digits.Writes n) (h : ¬ b.HasLine n) :
    Program.run editor (p (.ofDigits digits)) b = (.invalidArgument, b) := by
  by_cases hword : n ≤ maxWord
  · rw [Token.ofDigits, hdigits.value, if_pos hword]
    cases n with
    | zero =>
      rw [hp.zero]
      rfl
    | succ k =>
      rw [hp.line]
      exact haction.refuses k (Nat.le_of_not_lt fun hk => h ⟨Nat.succ_pos k, hk, hword⟩)
  · rw [Token.ofDigits, hdigits.value, if_neg hword, hp.text]
    rfl

/-- The result of a command with the number of a line: if the line is there, success with a
selection and all text as it was, and otherwise no change at all. -/
structure ReachesLine (b : Buffer) (n : Nat) (selection : Selection)
    (result : CommandReply × Buffer) : Prop where
  succeeds_iff : result.1.outcome = .success ↔ b.HasLine n
  selects : b.HasLine n →
    result.1 = .ofOutcome .success ∧ result.2.selection = selection ∧ Kept b result.2
  refuses : ¬ b.HasLine n → result = (.ofOutcome .invalidArgument, b)

theorem reachesLine_of_actsOnLine (hp : ActsOnLine p action)
    (haction : LineAction b action place) (hdigits : digits.Writes n) :
    ReachesLine b n (place (n - 1))
      (Program.run editor ((p (.ofDigits digits)).bind fun o => .done (.ofOutcome o)) b) := by
  rw [run_bind]
  by_cases hline : b.HasLine n
  · obtain ⟨after, hrun, hselection, hkept⟩ := hline.run_ofDigits hp haction hdigits
    rw [hrun]
    exact ⟨iff_of_true rfl hline, fun _ => ⟨rfl, hselection, hkept⟩, fun hnot => absurd hline hnot⟩
  · rw [run_ofDigits_of_not_hasLine hp haction hdigits hline]
    exact ⟨iff_of_false (fun ho => by cases ho) hline, fun h => absurd h hline, fun _ => rfl⟩

end Buffer

/-! ## The built-in phrases -/

namespace Vocabulary

/-- No digit stands in a built-in trigger, and no built-in code is a number. -/
theorem english_numberless : english.Numberless where
  exactTriggers := by
    have hall : (bindings englishExactTriggers).all (fun e => e.1.all fun c => !c.isDigit) = true := by
      decide +kernel
    rw [exactTriggers_english]
    simpa only [List.all_eq_true, Bool.not_eq_true'] using hall
  parameterizedTriggers := by
    rw [parameterizedTriggers_english]
    decide +kernel
  codes category := by
    rw [PhraseTable.values, entries_english]
    cases category <;> decide +kernel

/-- A profile admits "line" as an object and no phrase with a number. -/
def AdmitsLine (p : Profile) : Prop := Substitution.Numberless (p.phrases english) ∧
  Substitution.scan (p.phrases english) 0 ["line"] = [.code "LINE"]

theorem admitsLine_movement : AdmitsLine .movement := by
  rw [AdmitsLine, phrases_english, Substitution.Numberless]
  decide +kernel

theorem admitsLine_selection : AdmitsLine .selection := by
  rw [AdmitsLine, phrases_english, Substitution.Numberless]
  decide +kernel

theorem classify_line : Token.classify english "LINE" = .line := by
  have hcode : english.hasCode .directions "LINE" = false ∧ english.hasCode .objectNouns "LINE" = true := by
    rw [hasCode, hasCode, PhraseTable.values, PhraseTable.values, entries_english, entries_english]
    decide +kernel
  have hnumber : Text.decimal? "LINE" = none := by decide
  rw [Token.classify, hnumber]
  simp only [Token.codeKinds, List.find?_cons, hcode]
  rfl

end Vocabulary

namespace Command

variable {ws : List Text} {digits : Text}

/-- What words name in the built-in vocabulary is found among the listed triggers. -/
theorem names_english {rest : List Text} {name : CommandName} (hws : ∀ w ∈ ws, IsQuiet w)
    (hrest : ∀ w ∈ rest, IsQuiet w)
    (hfound : (Trigger.best ((Vocabulary.bindings Vocabulary.englishParameterizedTriggers).filterMap
      (Trigger.candidate? (spaced ws)))).map (fun c => (ofCode? c.command, trimStart c.after)) =
        some (some name, spaced rest)) : Names .english ws name rest :=
  ⟨hws, hrest, by rwa [Trigger.candidates, Vocabulary.parameterizedTriggers_english]⟩

theorem names_goToLine : Names .english ["go", "to", "line"] .go ["line"] :=
  names_english (by decide +kernel) (by decide +kernel) (by decide +kernel)

theorem names_goLine : Names .english ["go", "line"] .go ["line"] :=
  names_english (by decide +kernel) (by decide +kernel) (by decide +kernel)

theorem names_go : Names .english ["go"] .go [] :=
  names_english (by decide +kernel) (by decide +kernel) (by decide +kernel)

theorem names_selectLine : Names .english ["select", "line"] .select ["line"] :=
  names_english (by decide +kernel) (by decide +kernel) (by decide +kernel)

/-- Where "line" is left in front of a number, the command is run on that object and the
number. -/
theorem dispatch_line {spoken : Text} {name : CommandName} {p : Profile} (hspoken : spoken = spaced ws)
    (h : Names .english ws name ["line"]) (hgrammar : name.grammar = .tokenSequence p)
    (hp : Vocabulary.AdmitsLine p) (hd : isDecimal digits = true) :
    dispatch .english (spoken ++ digits) =
      (runTokens name [.line, .ofDigits digits]).bind fun o => .done (.ofOutcome o) := by
  have hscan : Substitution.scan (p.phrases .english) 0 ["line"] =
      (["LINE"] : List Text).map .code := hp.2
  rw [hspoken, dispatch_number_last Vocabulary.english_numberless h hd hgrammar hp.1 hscan,
    List.map_singleton, Vocabulary.classify_line, List.singleton_append]

theorem dispatch_goToLine (hd : isDecimal digits = true) : dispatch .english ("go to line " ++ digits) =
    (Movement.go [.line, .ofDigits digits]).bind fun o => .done (.ofOutcome o) :=
  dispatch_line (by decide) names_goToLine rfl Vocabulary.admitsLine_movement hd

theorem dispatch_goLine (hd : isDecimal digits = true) : dispatch .english ("go line " ++ digits) =
    (Movement.go [.line, .ofDigits digits]).bind fun o => .done (.ofOutcome o) :=
  dispatch_line (by decide) names_goLine rfl Vocabulary.admitsLine_movement hd

theorem dispatch_selectLine (hd : isDecimal digits = true) :
    dispatch .english ("select line " ++ digits) =
      (Selecting.selectTokens [.line, .ofDigits digits]).bind fun o => .done (.ofOutcome o) :=
  dispatch_line (by decide) names_selectLine rfl Vocabulary.admitsLine_selection hd

theorem dispatch_goNumber (hd : isDecimal digits = true) : dispatch .english ("go " ++ digits) =
    (Movement.go [.ofDigits digits]).bind fun o => .done (.ofOutcome o) := by
  have hspoken : ("go " : Text) = spaced ["go"] := by decide
  have hscan : Substitution.scan (Profile.movement.phrases .english) 0 [] =
      ([] : List Text).map .code := rfl
  rw [hspoken, dispatch_number_last Vocabulary.english_numberless names_go hd rfl
    Vocabulary.admitsLine_movement.1 hscan]
  rfl

/-- **Spoken line numbers.** With the built-in phrases and for any number in decimal digits, a
focused buffer goes to or selects the line with that number, counted from 1, if there is one
and the number fits into a word; otherwise the number is turned down and nothing changes. -/
theorem dispatch_spoken_line {b : Buffer} (hfocus : b.focused = true) {n : Nat}
    (hdigits : digits.Writes n) :
    let spoken (words : Text) := Program.run Buffer.editor (dispatch .english (words ++ digits)) b
    (∀ words ∈ (["go to line ", "go line ", "go "] : List Text),
      b.ReachesLine n (.caret ⟨n - 1, 0⟩) (spoken words)) ∧
    b.ReachesLine n (b.wholeLine (n - 1)) (spoken "select line ") ∧
    (b.HasLine n → (spoken "select line ").2.selectedText = b.line (n - 1)) ∧
    (b.lines.length ≤ maxWord → (b.HasLine n ↔ 1 ≤ n ∧ n ≤ b.lines.length)) := by
  intro spoken
  have hd := hdigits.decimal
  have hmoves := Buffer.lineAction_moveToLine hfocus
  have hselect : b.ReachesLine n (b.wholeLine (n - 1)) (spoken "select line ") := by
    simp only [spoken, dispatch_selectLine hd]
    exact Buffer.reachesLine_of_actsOnLine Selecting.actsOnLine_line
      (Buffer.lineAction_selectLine hfocus) hdigits
  refine ⟨fun words hwords => ?_, hselect, fun hline => ?_, fun hlength => ?_⟩
  · simp only [List.mem_cons, List.not_mem_nil, or_false] at hwords
    rcases hwords with rfl | rfl | rfl
    · simp only [spoken, dispatch_goToLine hd]
      exact Buffer.reachesLine_of_actsOnLine Movement.actsOnLine_line hmoves hdigits
    · simp only [spoken, dispatch_goLine hd]
      exact Buffer.reachesLine_of_actsOnLine Movement.actsOnLine_line hmoves hdigits
    · simp only [spoken, dispatch_goNumber hd]
      exact Buffer.reachesLine_of_actsOnLine Movement.actsOnLine_number hmoves hdigits
  · obtain ⟨-, hselection, hkept⟩ := hselect.selects hline
    exact Buffer.selectedText_wholeLine hkept hselection
  · exact ⟨fun h => ⟨h.pos, h.le_length⟩, fun ⟨hpos, hle⟩ => ⟨hpos, hle, Nat.le_trans hle hlength⟩⟩

/-- Of two lines the second is selected, with a zero in front of its number, and a number that
no word holds is turned down. -/
theorem dispatch_spoken_line_second :
    let b := Buffer.ofText "one\ntwo"
    let spoken (transcript : Text) := Program.run Buffer.editor (dispatch .english transcript) b
    b.focused = true ∧ Writes "02" 2 ∧ (spoken ("select line " ++ "02")).2.selectedText = "two" ∧
      spoken ("go to line " ++ ofNat (10 ^ 30)) = (.ofOutcome .invalidArgument, b) := by
  intro b spoken
  have hfocus : b.focused = true := rfl
  have hsecond : Writes "02" 2 := ⟨by decide, by decide⟩
  have hline : b.HasLine 2 := ⟨by decide, by decide, by decide⟩
  have hnone : ¬ b.HasLine (10 ^ 30) := fun h => absurd h.le_maxWord (by decide)
  have hselected := (dispatch_spoken_line hfocus hsecond).2.2.1 hline
  have hrefused := (dispatch_spoken_line hfocus (writes_ofNat (10 ^ 30))).1 "go to line "
    List.mem_cons_self
  exact ⟨hfocus, hsecond, hselected, hrefused.refuses hnone⟩

end Command

end VoiceEdit
