import VoiceEdit.Proofs.Text.Identifier
import VoiceEdit.Proofs.Text.Lines

/-!
# Lines that are ended and lines that are separated

Line feeds end lines or separate them, which is the same for texts that end inside of a line.

* `OpenEnded`: such texts, also without carriage returns.
* `OpenEnded.terminatedLines_eq`: their lines.
* `openEnded_append`: an identifier inside of one changes nothing about that.
-/
namespace VoiceEdit.Text

variable {t : Text} {ls : List Text}

theorem mem_joinLines {l : Text} (hl : l ∈ ls) {c : Char} (hc : c ∈ l) : c ∈ joinLines ls := by
  induction ls with
  | nil => exact absurd hl List.not_mem_nil
  | cons k rest ih =>
    cases rest with
    | nil =>
      rw [List.mem_singleton.1 hl] at hc
      rwa [joinLines_singleton]
    | cons m ms =>
      rw [joinLines_cons_cons, List.mem_append, List.mem_cons]
      rcases List.mem_cons.1 hl with rfl | hl
      · exact .inl hc
      · exact .inr (.inr (ih hl))

/-- A last line that is empty is behind a line feed. -/
theorem getLast?_joinLines_concat_nil (hne : ls ≠ []) :
    (joinLines (ls ++ [[]])).getLast? = some '\n' := by
  obtain ⟨front, l, rfl⟩ := (List.eq_nil_or_concat ls).resolve_left hne
  have hsplit := joinLines_append_cons front [[]] l []
  rw [List.append_nil] at hsplit
  rw [List.concat_eq_append, List.append_assoc, List.singleton_append, hsplit, joinLines_cons_cons,
    joinLines_singleton, List.nil_append, List.getLast?_concat]

/-- A text with plain line feeds and with something in its last line. -/
structure OpenEnded (t : Text) : Prop where
  ne_nil : t ≠ []
  open_end : t.getLast? ≠ some '\n'
  no_return : '\r' ∉ t

/-- Such a text has the same lines whether line feeds separate them or end them. -/
theorem OpenEnded.terminatedLines_eq (h : OpenEnded t) : terminatedLines t = splitLines t := by
  have hrow := isRow_splitLines t
  have htext := joinLines_splitLines t
  obtain ⟨front, last, hsplit⟩ := (List.eq_nil_or_concat (splitLines t)).resolve_left hrow.1
  rw [List.concat_eq_append] at hsplit
  rw [hsplit] at htext
  have hlast : last ≠ [] := by
    rintro rfl
    by_cases hfront : front = []
    · rw [hfront] at htext
      exact h.ne_nil htext.symm
    · refine h.open_end ?_
      rw [← htext, getLast?_joinLines_concat_nil hfront]
  have hreturn : ∀ l ∈ front, dropCarriageReturn l = l := by
    intro l hl
    refine if_neg fun hend => h.no_return ?_
    rw [← htext]
    exact mem_joinLines (List.mem_append_left _ hl) (List.mem_of_getLast? hend)
  have hempty : last.isEmpty = false := by simpa using hlast
  rw [terminatedLines, hsplit]
  simp only [List.getLast?_concat, Option.getD_some, List.dropLast_concat, hempty]
  rw [List.map_congr_left hreturn, List.map_id']
  rfl

/-- What ends open ends open behind any text, and no white space in between changes that. -/
theorem openEnded_append (before : Text) (hvisible : Visible t) {after : Text} (hne : after ≠ [])
    (hend : after.getLast? ≠ some '\n') (hbefore : '\r' ∉ before) (hafter : '\r' ∉ after) :
    OpenEnded (before ++ t ++ after) where
  ne_nil := List.append_ne_nil_of_right_ne_nil _ hne
  open_end := by rwa [List.getLast?_append_of_ne_nil _ hne]
  no_return := by
    rw [List.mem_append, List.mem_append, not_or, not_or]
    exact ⟨⟨hbefore, hvisible.not_mem (by decide)⟩, hafter⟩

end VoiceEdit.Text
