import VoiceEdit.Buffer.Editor
import VoiceEdit.Command.Execution
import VoiceEdit.Proofs.Command.SpokenArguments
import VoiceEdit.Proofs.Program.Refusal
import VoiceEdit.Proofs.Text.LetterCase

/-!
# Commands do not hear capitals

The arguments of a trigger keep the case in which they were spoken, so a command meets
capitals wherever it reads its arguments. None of them reads a letter otherwise than its
capital: tokens are made of lower case, and identifiers set the case of every letter.

* `Trigger.find?_fold`: the same trigger is found, its arguments in another case.
* `Command.execute_fold`: a command does the same with its arguments in another case.
* `Command.dispatch_caseless`: transcripts that differ in the case of letters are the
  same program, whoever answers it.
-/
namespace VoiceEdit

open Program Text

/-! ## Arguments -/

namespace Argument

@[simp] theorem raws_fold (p : Profile) (v : Vocabulary) (text : Text) :
    raws p v (fold text) = raws p v text := by
  rw [raws, Transcript.normalize_fold, raws]

@[simp] theorem tokens_fold (p : Profile) (v : Vocabulary) (text : Text) :
    tokens p v (fold text) = tokens p v text := by
  rw [tokens, raws_fold, tokens]

end Argument

@[simp] theorem Workbench.insertIdentifier_fold (name : CommandName) (words : Text) :
    insertIdentifier name (fold words) = insertIdentifier name words := by
  simp only [insertIdentifier, trim_fold, isEmpty_fold, Identifier.snake_fold, Identifier.camel_fold]

/-- A command does the same with its arguments in another case. -/
theorem Command.execute_fold (v : Vocabulary) (name : CommandName) (raw : Text) :
    execute v name (fold raw) = execute v name raw := by
  simp only [execute, trim_fold, isEmpty_fold, Workbench.insertIdentifier_fold, Argument.tokens_fold,
    Argument.raws_fold]

/-! ## Triggers -/

namespace Trigger

/-- A trigger with the letters of its arguments in lower case. -/
def folded (t : Trigger) : Trigger := { t with arguments := fold t.arguments }

/-- Arguments are cut from a transcript at the same place. -/
theorem argumentText_fold (spoken lowered : Text) {c : Candidate}
    (hafter : fold c.after = c.after) :
    argumentText (fold spoken) lowered c = fold (argumentText spoken lowered c) := by
  unfold argumentText
  rw [utf8Length_fold, dropUtf8?_fold, ← trim_fold]
  split
  · cases dropUtf8? (utf8Length c.before + utf8Length c.phrase) spoken with
    | none => exact congrArg trim hafter.symm
    | some rest => rfl
  · exact congrArg trim hafter.symm

/-- What follows a candidate is in lower case. -/
theorem fold_after {v : Vocabulary} {spoken : Text} {c : Candidate}
    (h : c ∈ candidates v (lower spoken)) : fold c.after = c.after := by
  refine fold_eq_self fun d hd => isLower_of_mem_lower (t := spoken) ?_
  rw [(mem_candidates_parts h).1.split]
  exact List.mem_append_right _ hd

/-- The same trigger is found, with its arguments in another case. -/
theorem find?_fold (v : Vocabulary) (transcript : Text) :
    find? v (fold transcript) = (find? v transcript).map folded := by
  have hsame : Transcript.normalize (fold transcript) = Transcript.normalize transcript :=
    Transcript.normalize_fold transcript
  by_cases hsaid : Transcript.normalize transcript = []
  · rw [find?_of_silent hsaid, find?_of_silent (hsame.trans hsaid), Option.map_none]
  have hsaid' : Transcript.normalize (fold transcript) ≠ [] := hsame ▸ hsaid
  cases hexact : v.exactTriggers.get? (Transcript.normalize transcript) with
  | some command =>
    rw [find?_of_exact hsaid hexact, find?_of_exact hsaid' (hsame ▸ hexact), hsame]
    simp only [Option.map_some, folded, fold_nil]
  | none =>
    rw [find?_of_inexact hsaid hexact, find?_of_inexact hsaid' (hsame ▸ hexact), hsame,
      Transcript.collapse_fold, Option.map_map]
    cases hbest : best (candidates v (Transcript.normalize transcript)) with
    | none => rfl
    | some c =>
      have harguments := argumentText_fold (Transcript.collapse transcript)
        (Transcript.normalize transcript) (fold_after (best_eq_some hbest).1)
      simp only [Option.map_some, Function.comp_apply, folded, harguments]

end Trigger

/-! ## Dispatch -/

namespace Command

theorem dispatch_fold (v : Vocabulary) (transcript : Text) :
    dispatch v (fold transcript) = dispatch v transcript := by
  rw [dispatch, Trigger.find?_fold, dispatch]
  cases Trigger.find? v transcript with
  | none => rfl
  | some trigger =>
    simp only [Option.map_some, Trigger.folded]
    cases (ofCode? trigger.command : Option CommandName) with
    | none => rfl
    | some name => exact execute_fold v name trigger.arguments

/-- Transcripts that differ in the case of the letters `A` to `Z` only are the same program
of editor requests: whoever answers, they ask the same, are answered the same and leave the
editor alike. -/
theorem dispatch_caseless (v : Vocabulary) {a b : Text} (h : sameAsciiLetters a b = true) :
    dispatch v a = dispatch v b ∧
      ∀ {σ : Type} (editor : Handler Editor.interface σ) (s : σ),
        (dispatch v a).trace editor s = (dispatch v b).trace editor s ∧
          (dispatch v a).run editor s = (dispatch v b).run editor s := by
  have hsame : dispatch v a = dispatch v b := by
    rw [← dispatch_fold v a, sameAsciiLetters_iff.1 h, dispatch_fold]
  refine ⟨hsame, fun editor s => ?_⟩
  rw [hsame]
  exact ⟨rfl, rfl⟩

/-- A name in capitals and a name in lower case, behind a trigger in mixed case. -/
theorem dispatch_caseless_name :
    ∃ v : Vocabulary,
      let spoken : Text := "Camel CASE hTTP Client."
      let plain : Text := "camel case http client."
      sameAsciiLetters spoken plain = true ∧
        Trigger.find? v spoken = some ⟨"camel case", "CAMEL_CASE", "hTTP Client", false⟩ ∧
        Trigger.find? v plain = some ⟨"camel case", "CAMEL_CASE", "http client", false⟩ ∧
        dispatch v spoken = dispatch v plain ∧
        ((dispatch v spoken).run Buffer.editor (.ofText [])).2.text = "httpClient" := by
  let v : Vocabulary :=
    { Vocabulary.empty with parameterizedTriggers := .ofList [("camel case", "CAMEL_CASE")] }
  have hsame : sameAsciiLetters "Camel CASE hTTP Client." "camel case http client." = true := by
    decide
  exact ⟨v, hsame, by decide +kernel, by decide +kernel, (dispatch_caseless v hsame).1,
    by decide +kernel⟩

end Command

end VoiceEdit
