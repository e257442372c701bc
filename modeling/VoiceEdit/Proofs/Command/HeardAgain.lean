import VoiceEdit.Proofs.Text.TrailingMarks
import VoiceEdit.Proofs.Vocabulary.Configured
import VoiceEdit.Vocabulary.English

/-!
# Transcripts heard again

A collapsed transcript has single spaces only. It may still end in a mark, where one was
uncovered, and then it is not heard as the transcript was that it comes from: collapsing it
again changes it, and some vocabulary finds another trigger in it, or none.

* `Trigger.find?_collapse_iff`: when every vocabulary finds the same in both.
* `Transcript.collapse_again_iff`: what a collapsed transcript looks like, and when it stays.
-/
namespace VoiceEdit

open Text Transcript

namespace Trigger

variable {t : Text}

theorem find?_congr {t t' : Text} (h : collapse t = collapse t') (v : Vocabulary) :
    find? v t = find? v t' := by
  rw [find?, h, find?]

/-- A vocabulary with one exact trigger. -/
def oneTrigger (phrase command : Text) : Vocabulary :=
  { Vocabulary.empty with exactTriggers := .ofList [(phrase, command)] }

theorem get?_oneTrigger_iff (phrase command said : Text) :
    (oneTrigger phrase command).exactTriggers.get? said = some command ↔ said = phrase := by
  rw [oneTrigger, PhraseTable.get?_ofList, List.reverse_singleton, List.lookup_cons]
  cases hsame : said == phrase with
  | true => simp [beq_iff_eq.1 hsame]
  | false => simp [beq_eq_false_iff_ne.1 hsame]

/-- Some trigger is missed in a transcript that was collapsed before, if a mark was uncovered. -/
theorem find?_collapse_iff (t : Text) :
    (∀ v, find? v (collapse t) = find? v t) ↔ ¬ UncoversMark t := by
  constructor
  · intro h
    by_cases hsaid : normalize t = []
    · rw [← endsInMark_collapse_iff, (lower_eq_nil_iff _).1 hsaid]
      rintro ⟨c, hc, -⟩
      cases hc
    · have hfound := (exists_exact_iff (oneTrigger (normalize t) []) t []).2
        ⟨hsaid, (get?_oneTrigger_iff _ _ _).2 rfl⟩
      rw [← h, exists_exact_iff, get?_oneTrigger_iff, normalize_collapse] at hfound
      exact (collapse_normalize_iff t).1 hfound.2
  · intro h v
    exact find?_congr ((collapse_collapse_iff t).2 h) v

end Trigger

namespace Transcript

/-- A collapsed transcript begins and ends with no white space and holds no two white space
characters in a row. It ends in no mark, stays as it is when it is collapsed or normalized
again, and holds the same triggers as the transcript that it comes from, if and only if no
mark was uncovered. -/
theorem collapse_again_iff (t : Text) :
    trim (collapse t) = collapse t ∧
      (collapse t).IsChain (fun c d => isBlank c = false ∨ isBlank d = false) ∧
      (EndsInMark (collapse t) ↔ UncoversMark t) ∧
      (collapse (collapse t) = collapse t ↔ ¬ UncoversMark t) ∧
      (normalize (normalize t) = normalize t ↔ ¬ UncoversMark t) ∧
      ((∀ v, Trigger.find? v (collapse t) = Trigger.find? v t) ↔ ¬ UncoversMark t) := by
  have hwords : ∀ w ∈ words (dropTrailingMarks (trim t)), IsWord w := fun _ => isWord_of_mem_words
  refine ⟨trim_joinWords hwords, isChain_joinWords hwords, endsInMark_collapse_iff t,
    collapse_collapse_iff t, ?_, Trigger.find?_collapse_iff t⟩
  rw [normalize_normalize, collapse_normalize_iff]

/-- Without its exclamation mark "save . !" still ends in a mark, so it is not yet "save". -/
theorem collapse_uncovers_mark :
    collapse "save . !" = "save ." ∧ EndsInMark (collapse "save . !") ∧
      collapse (collapse "save . !") = "save" ∧ normalize "save . !" = "save ." ∧
      normalize (normalize "save . !") = "save" ∧
      Trigger.find? .english "save . !" = none ∧
      Trigger.find? .english (collapse "save . !") = some ⟨"save", "SAVE_FILE", [], true⟩ := by
  have hmark : EndsInMark (collapse "save . !") := ⟨'.', by decide +kernel, by decide⟩
  refine ⟨by decide +kernel, hmark, by decide +kernel, by decide +kernel, by decide +kernel, ?_, ?_⟩
  · decide +kernel
  · decide +kernel

end Transcript

end VoiceEdit
