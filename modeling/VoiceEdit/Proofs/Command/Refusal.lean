import VoiceEdit.Command.Execution
import VoiceEdit.Proofs.Command.Movement

/-!
# Commands that are refused

* `Creation.candid_create`, `Addition.candid_add`: generating code is candid.
* `Workbench.candid_runEach`: so are lists of editor commands.
* `Command.candid_dispatch`: whatever command an utterance holds, the first
  refusal ends it, and it is a success only after a request or with a change of
  mode.
-/
namespace VoiceEdit

open Editor Program

/-! ## Generating code -/

namespace Creation

theorem candid_insertBelow (template : Text) : CandidAction (insertBelow template) :=
  candid_cursor.bind fun place => StrictAction.bind (candid_call (.lineText place.line)).stops
    fun _ => StrictAction.bind (candid_call (.moveTo .lineEnd)).stops
      fun _ => (candid_call (.insert _)).stops

theorem candid_newTemplate : CandidRule newTemplate := by
  intro tokens
  unfold newTemplate
  split
  · split
    · exact candid_step (candid_insertBelow _)
    · exact candid_invalid
  · exact candid_invalid

theorem candid_newNamedTemplate : CandidRule newNamedTemplate := by
  intro tokens
  unfold newNamedTemplate
  split
  · split
    · exact candid_step (candid_insertBelow _)
    · exact candid_invalid
  · exact candid_invalid

theorem candid_create (tokens : List Token) : CandidOutcome (create tokens) :=
  RuleTable.candid_resolution
    (RuleTable.all_empty _ _ |>.bind _ candid_newTemplate |>.bind _ candid_newNamedTemplate) tokens

end Creation

namespace Addition

theorem candid_needsSpace : CandidAction needsSpace := by
  refine (candid_call .selection).bind fun selection => ?_
  split
  · exact StrictAction.bind candid_charBeforeCursor.stops fun _ => strict_pure _
  · exact strict_pure false

theorem candid_addInline (s : Snippet) : CandidAction (addInline s) := by
  refine candid_needsSpace.bind fun spaced =>
    StrictAction.bind (candid_call (.replace _)).stops fun _ => ?_
  split
  · exact (candid_call (.moveBy .left s.back)).stops
  · exact strict_pure ()

theorem candid_addSnippet : CandidRule addSnippet := by
  intro tokens
  unfold addSnippet
  split
  · split
    · exact candid_step (candid_call _)
    · exact candid_step (candid_call _)
    · exact candid_invalid
    · split
      · exact candid_step (candid_addInline _)
      · exact candid_invalid
  · exact candid_invalid

theorem candid_addNamedSnippet : CandidRule addNamedSnippet := by
  intro tokens
  unfold addNamedSnippet
  split
  · split
    · exact candid_step (candid_addInline _)
    · exact candid_invalid
  · exact candid_invalid

theorem candid_add (tokens : List Token) : CandidOutcome (add tokens) :=
  RuleTable.candid_resolution
    (RuleTable.all_empty _ _ |>.bind _ candid_addSnippet |>.bind _ candid_addNamedSnippet) tokens

end Addition

/-! ## Commands without rule tables -/

/-- A candid reply changes no mode after a refusal, and is a success without a
change of mode by requests only. -/
abbrev CandidReply : EditorProgram CommandReply → Prop :=
  Candid (fun e r => r = .ofOutcome (.ofEditorError e)) fun r => r.outcome = .success ∧ r.transition = none

theorem candid_reply {p : EditorProgram Outcome} (h : CandidOutcome p) :
    CandidReply (p.bind fun o => .done (.ofOutcome o)) :=
  Candid.bind h (passes fun _ => rfl) (fun _ => trivial) fun _ ho hclaims => ho hclaims.1

theorem candid_replyDone {o : Outcome} (h : o ≠ .success) : CandidReply (.done (.ofOutcome o)) :=
  ⟨trivial, fun hclaims => h hclaims.1⟩

namespace Workbench

theorem candid_withoutArguments (name : CommandName) : CandidReply (withoutArguments name) := by
  unfold withoutArguments
  split
  · exact ⟨trivial, fun hclaims => nomatch hclaims.2⟩
  · split
    · exact candid_reply (candid_outcome (candid_call _))
    · exact candid_replyDone (by decide)

/-- The commands of a list run one after the other while none is refused. -/
theorem stopsAt_runEach (commands : List (Option EditorCommand)) :
    (runEach commands).StopsAt Refuses fun e o => o = .ofEditorError e := by
  induction commands with
  | nil => trivial
  | cons command rest ih =>
    cases command with
    | none => trivial
    | some command =>
      refine (candid_outcome (candid_call (.run command))).stops.bind (passes fun e => ?_)
        fun outcome => ?_
      · rw [isSuccess_ofEditorError, if_neg Bool.false_ne_true]
      · split
        · exact ih
        · trivial

/-- A list that is not empty is a success by requests only. -/
theorem candid_runEach {commands : List (Option EditorCommand)} (hne : commands ≠ []) :
    CandidOutcome (runEach commands) := by
  refine ⟨stopsAt_runEach commands, ?_⟩
  match commands, hne with
  | none :: _, _ => exact fun h => nomatch h
  | some command :: rest, _ =>
    refine (candid_outcome (candid_call (.run command))).earns.bind fun outcome houtcome => ?_
    have hfailed : outcome.isSuccess = false := by simpa [Outcome.isSuccess] using houtcome
    rw [hfailed]
    exact houtcome

theorem candid_suggest (tokens : List Token) : CandidOutcome (suggest tokens) := by
  unfold suggest
  split
  · exact candid_outcome (candid_call _)
  · rename_i hne
    exact candid_runEach (by simpa using hne)

theorem candid_controlTerminal (actions : List Text) : CandidOutcome (controlTerminal actions) := by
  unfold controlTerminal
  split
  · exact candid_done (by decide)
  · rename_i hne
    exact candid_runEach (by simpa using hne)

theorem candid_insertIdentifier (name : CommandName) (words : Text) :
    CandidOutcome (insertIdentifier name words) := by
  unfold insertIdentifier
  split
  · exact candid_done (by decide)
  · split
    · exact candid_outcome (candid_call _)
    · exact candid_outcome (candid_call _)
    · exact candid_done (by decide)

end Workbench

/-! ## Dispatch -/

namespace Command

theorem candid_runTokens (name : CommandName) (tokens : List Token) :
    CandidOutcome (runTokens name tokens) := by
  unfold runTokens
  split
  · exact Movement.candid_go tokens
  · exact Selecting.candid_selectTokens tokens
  · exact Creation.candid_create tokens
  · exact Addition.candid_add tokens
  · exact candid_done (by decide)

theorem candid_execute (v : Vocabulary) (name : CommandName) (raw : Text) :
    CandidReply (execute v name raw) := by
  unfold execute
  simp only
  split
  · split
    · exact Workbench.candid_withoutArguments name
    · exact candid_replyDone (by decide)
  · exact candid_reply (Workbench.candid_insertIdentifier name _)
  · exact candid_reply (candid_runTokens name _)
  · refine candid_reply ?_
    split
    · exact Workbench.candid_suggest _
    · exact Workbench.candid_controlTerminal _
    · exact candid_done (by decide)

/-- Whatever command a transcript holds, if any, running it is candid. -/
theorem candid_dispatch (v : Vocabulary) (transcript : Text) :
    CandidReply (dispatch v transcript) := by
  unfold dispatch
  split
  · exact candid_replyDone (by decide)
  · split
    · exact candid_replyDone (by decide)
    · exact candid_execute v _ _

end Command

end VoiceEdit
