import VoiceEdit.Argument
import VoiceEdit.Proofs.Dictation.SpaceRuns
import VoiceEdit.Proofs.Substitution.Faithful
import VoiceEdit.Vocabulary.English

/-!
# Numbers in arguments and in dictated text

* `mergeNumbers_run`: every whole run of numbers among some pieces becomes one
  number, and the pieces on both sides of it merge on their own.
* `isDecimal_of_mem_scan`: every number read from a text is a row of digits.
* `substitute_faithful_iff`: the runs, in arguments and in dictated text, that are
  written as they were said.
-/
namespace VoiceEdit

namespace Substitution

open Text

/-! ## Runs among pieces -/

/-- A whole run of numbers among some pieces: no number stands right before it or
right behind it. -/
structure IsRun (pieces before : List Piece) (run : List Text) (after : List Piece) : Prop where
  eq : pieces = before ++ run.map .number ++ after
  ne_nil : run ≠ []
  before : ∀ d, before.getLast? ≠ some (.number d)
  after : ∀ d, after.head? ≠ some (.number d)

variable {pieces before after : List Piece} {run : List Text}

theorem mergeAfter_run (d : Text) (run : List Text) (after : List Piece) :
    mergeAfter (some d) (run.map .number ++ after) = mergeAfter (some (run.foldl mergeDigits d)) after := by
  induction run generalizing d with
  | nil => rfl
  | cons e rest ih => exact ih (mergeDigits d e)

/-- A number with no number behind it stays. -/
theorem mergeAfter_some (d : Text) (h : ∀ e, after.head? ≠ some (.number e)) :
    mergeAfter (some d) after = .number d :: mergeNumbers after := by
  cases after with
  | nil => rfl
  | cons piece rest =>
    cases piece with
    | number e => exact absurd rfl (h e)
    | code t => rfl
    | special t => rfl
    | word t => rfl

/-- Pieces that do not end in a number merge on their own. -/
theorem mergeAfter_append (number : Option Text) (rest : List Piece)
    (h : ∀ d, before.getLast? ≠ some (.number d)) (hne : before = [] → number = none) :
    mergeAfter number (before ++ rest) = mergeAfter number before ++ mergeNumbers rest := by
  -- the number in progress changes from piece to piece, and the last piece writes it
  induction before generalizing number with
  | nil =>
    rw [hne rfl]
    rfl
  | cons piece before ih =>
    have hlast : before ≠ [] → ∀ d, before.getLast? ≠ some (.number d) := by
      intro hb d hd
      obtain ⟨p, ps, rfl⟩ := List.exists_cons_of_ne_nil hb
      exact h d hd
    have hnext : ∀ number, (before = [] → number = none) →
        mergeAfter number (before ++ rest) = mergeAfter number before ++ mergeNumbers rest := by
      intro number hnone
      refine ih number (fun d hd => ?_) hnone
      exact hlast (fun hb => by simp [hb] at hd) d hd
    cases piece with
    | number d =>
      have hb : before ≠ [] := by
        rintro rfl
        exact h d rfl
      exact hnext _ fun hnil => absurd hnil hb
    | code t => simp [mergeAfter, hnext none fun _ => rfl]
    | special t => simp [mergeAfter, hnext none fun _ => rfl]
    | word t => simp [mergeAfter, hnext none fun _ => rfl]

/-- A whole run of numbers becomes one number. -/
theorem mergeNumbers_run (h : IsRun pieces before run after) :
    mergeNumbers pieces = mergeNumbers before ++ .number (merged run) :: mergeNumbers after := by
  obtain ⟨d, rest, rfl⟩ := List.exists_cons_of_ne_nil h.ne_nil
  have hrun : mergeNumbers ((d :: rest).map .number ++ after) =
      mergeAfter (some d) (rest.map .number ++ after) := rfl
  rw [h.eq, List.append_assoc, mergeNumbers, mergeAfter_append none _ h.before fun _ => rfl, hrun,
    mergeAfter_run, mergeAfter_some _ h.after, merged_cons]
  rfl

/-! ## Pieces of a text -/

/-- Every number read from words is a row of digits. -/
theorem isDecimal_of_mem_scan {phrases : Phrases} {covered : Nat} {words : List Text} {d : Text}
    (h : Piece.number d ∈ scan phrases covered words) : isDecimal d = true := by
  induction words generalizing covered with
  | nil => cases h
  | cons word rest ih =>
    cases covered with
    | succ covered => exact ih h
    | zero =>
      rw [scan] at h
      split at h
      · rename_i count replacement _
        rcases List.mem_cons.1 h with h | h
        · cases replacement with
          | code t => cases h
          | number n =>
            cases h
            exact isDecimal_ofNat n
          | special t => cases h
        · exact ih h
      · rcases List.mem_cons.1 h with h | h
        · unfold plainPiece at h
          split at h
          · rename_i hkey
            cases h
            exact hkey
          · cases h
        · exact ih h

theorem substitute_run {phrases : Phrases} {text : Text}
    (h : IsRun (scan phrases 0 (words text)) before run after) :
    substitute phrases text = mergeNumbers before ++ .number (merged run) :: mergeNumbers after :=
  mergeNumbers_run h

theorem isDecimal_of_mem_run {phrases : Phrases} {covered : Nat} {words : List Text}
    (h : IsRun (scan phrases covered words) before run after) : ∀ d ∈ run, isDecimal d = true := by
  intro d hd
  have hmem : Piece.number d ∈ scan phrases covered words := by
    rw [h.eq]
    simp [hd]
  exact isDecimal_of_mem_scan hmem

/-- A text of single digits becomes one number. -/
theorem substitute_singles {phrases : Phrases} {text ds : Text} (hne : ds ≠ [])
    (h : scan phrases 0 (words text) = (singles ds).map .number) :
    substitute phrases text = [.number (merged (singles ds))] := by
  have hrun : IsRun (scan phrases 0 (words text)) [] (singles ds) [] := by
    refine ⟨by simp [h], ?_, by simp, by simp⟩
    simpa [singles] using hne
  exact substitute_run hrun

theorem isDigits_merged (h : ∀ d ∈ run, isDecimal d = true) : IsDigits (merged run) := by
  have hfold : ∀ a, IsDigits a → IsDigits (run.foldl mergeDigits a) := by
    induction run with
    | nil => exact fun a ha => ha
    | cons d rest ih =>
      intro a ha
      have hd := (isDecimal_iff.1 (h d List.mem_cons_self)).2
      exact ih (fun e he => h e (List.mem_cons_of_mem d he)) _ (isDigits_mergeDigits ha hd)
  exact hfold [] fun c hc => absurd hc List.not_mem_nil

end Substitution

open Text Substitution

theorem Argument.raws_singles {v : Vocabulary} {p : Profile} {text ds : Text} (hne : ds ≠ [])
    (h : scan (p.phrases v) 0 (words (Transcript.normalize text)) = (singles ds).map .number) :
    Argument.raws p v text = [merged (singles ds)] := by
  rw [Argument.raws, substitute_singles hne h]
  rfl

theorem Dictation.format_singles {v : Vocabulary} {text ds : Text} (hne : ds ≠ []) (hds : IsDigits ds)
    (h : scan (Dictation.phrases v) 0 (words text) = (singles ds).map .number) :
    Dictation.format v text = merged (singles ds) := by
  have hdigits := isDigits_merged (isDecimal_of_mem_singles hds)
  have hspace : ' ' ∉ merged (singles ds) := fun hc => absurd (hdigits ' ' hc) (by decide)
  rw [Dictation.format, substitute_singles hne h]
  exact Dictation.collapseSpaces_of_not_mem hspace

/-- **What was said.** In arguments and in dictated text a whole run of numbers
becomes one number, which is what was said if and only if the run is faithful; a
text of single digits becomes these digits if and only if no zero is lost. -/
theorem substitute_faithful_iff (v : Vocabulary) (p : Profile) (phrases : Phrases) (text : Text) :
    (∀ before run after, IsRun (scan phrases 0 (words text)) before run after →
      substitute phrases text = mergeNumbers before ++ .number (merged run) :: mergeNumbers after ∧
        (merged run = spoken run ↔ isFaithful run = true)) ∧
      (∀ ds, ds ≠ [] → IsDigits ds →
        scan (p.phrases v) 0 (words (Transcript.normalize text)) = (singles ds).map .number →
        (Argument.raws p v text = [ds] ↔ ¬ Garbled ds)) ∧
      ∀ ds, ds ≠ [] → IsDigits ds →
        scan (Dictation.phrases v) 0 (words text) = (singles ds).map .number →
        (Dictation.format v text = ds ↔ ¬ Garbled ds) := by
  refine ⟨fun before run after hrun => ?_, fun ds hne hds hscan => ?_, fun ds hne hds hscan => ?_⟩
  · exact ⟨substitute_run hrun, merged_eq_spoken_iff (isDecimal_of_mem_run hrun)⟩
  · rw [Argument.raws_singles hne hscan, List.cons.injEq, and_iff_left rfl, merged_digits_iff hds]
  · rw [Dictation.format_singles hne hds hscan, merged_digits_iff hds]

/-- Two zeros in a row are kept, in a run of numbers, in arguments and in dictated text. -/
theorem substitute_faithful_zeros :
    substitute [] "2 0 0 5" = [.number (spoken ["2".toList, "0".toList, "0".toList, "5".toList])] ∧
      Argument.raws .movement .empty "2 0 0 5" = ["2005".toList] ∧
      Dictation.format .empty "2 0 0 5" = "2005".toList := by
  obtain ⟨hruns, hraws, hformat⟩ := substitute_faithful_iff .empty .movement [] "2 0 0 5"
  have hrun : IsRun (scan [] 0 (words "2 0 0 5")) []
      ["2".toList, "0".toList, "0".toList, "5".toList] [] :=
    ⟨by decide +kernel, by decide, by simp, by simp⟩
  obtain ⟨hnumber, hfaithful⟩ := hruns _ _ _ hrun
  have hkept : ¬ Garbled "2005".toList := by
    rintro ⟨c, c', rest, hds, -, hc'⟩
    obtain ⟨-, hds⟩ := List.cons_eq_cons.1 hds
    obtain ⟨-, hds⟩ := List.cons_eq_cons.1 hds
    exact hc' (List.cons_eq_cons.1 hds).1.symm
  have hdigits : IsDigits "2005".toList := by decide
  have hargument : scan (Profile.phrases .movement .empty) 0
      (words (Transcript.normalize "2 0 0 5")) = (singles "2005".toList).map .number := by
    decide +kernel
  have hdictated : scan (Dictation.phrases .empty) 0 (words "2 0 0 5") =
      (singles "2005".toList).map .number := by
    decide +kernel
  refine ⟨?_, (hraws _ (by decide) hdigits hargument).2 hkept,
    (hformat _ (by decide) hdigits hdictated).2 hkept⟩
  rw [hnumber, hfaithful.2 (by decide +kernel)]
  rfl

/-- One zero between two digits is lost, and with it the number that was said. -/
theorem substitute_loses_zero :
    IsRun (scan (Profile.phrases .movement .english) 0 (words "two zero five")) []
        ["2".toList, "0".toList, "5".toList] [] ∧
      spoken ["2".toList, "0".toList, "5".toList] = "205".toList ∧
      Argument.raws .movement .english "two zero five" = ["25".toList] := by
  refine ⟨⟨by decide +kernel, by decide, by simp, by simp⟩, by decide +kernel, by decide +kernel⟩

end VoiceEdit
