import VoiceEdit.Proofs.Dictation.Spacing
import VoiceEdit.Proofs.Text.NumberLast
import VoiceEdit.Vocabulary.English

/-!
# The marks of dictated text

A word that stays is written with its marks, and a special character with its own. A number is
written as digits: the marks at the ends of the words that it was said with are lost.

* `Segment.attached`, `Segment.due`: the marks that were said, and those that should be written.
* `marks_format`: the marks that are written.
* `Segments.attached_sublist`, `due_sublist_iff`: what was said is due, and what is due is
  written unless a segment loses a mark.
* `format_marks`: all of it together.
-/
namespace VoiceEdit

open Text Transcript Substitution Argument

/-- The marks at the end of a word. -/
def Text.trailingMarks (w : Text) : Text := w.rtakeWhile isTrailingMark

/-- All marks of a text. -/
def Text.marks (t : Text) : Text := t.filter isTrailingMark

namespace Segment

/-- The marks at the ends of the words of a segment, if it is no special character. -/
def attached : Segment → Text
  | .phrase _ (.special _) => []
  | segment => segment.words.flatMap trailingMarks

/-- The marks that should be written for a segment: those that a number was said with, and
those that belong to anything else. -/
def due (segment : Segment) : Text :=
  match segment.piece with
  | .number _ => segment.attached
  | piece => marks piece.text

/-- A segment is written as a number, and was said with a mark. -/
def LosesMark (segment : Segment) : Prop :=
  (∃ d, segment.piece = .number d) ∧ segment.attached ≠ []

end Segment

namespace Dictation

variable {pieces : List Piece} {segment : Segment} {segments : List Segment} {v : Vocabulary}
  {t text : Text} {ws : List Text}

/-! ## The marks of pieces -/

theorem marks_append (a b : Text) : marks (a ++ b) = marks a ++ marks b := List.filter_append a b

theorem marks_of_isDigits (h : IsDigits t) : marks t = [] := by
  refine List.filter_eq_nil_iff.2 fun c hc => ?_
  rw [not_isTrailingMark_of_isDigit (h c hc)]
  exact Bool.false_ne_true

/-- Spaces are no marks. -/
theorem marks_collapseSpaces (t : Text) : marks (collapseSpaces t) = marks t := by
  induction t using collapseSpaces.induct with
  | case1 rest ih => exact ih
  | case2 c rest h ih =>
    rw [collapseSpaces]
    · unfold marks at ih ⊢
      rw [List.filter_cons, List.filter_cons, ih]
    · exact h
  | case3 => rfl

theorem marks_separator (before piece : Piece) : marks (separator before piece) = [] := by
  unfold separator
  split <;> rfl

theorem marks_rendered (pieces : List Piece) :
    marks (rendered pieces) = pieces.flatMap fun piece => marks piece.text := by
  have hafter : ∀ before, marks (renderedAfter before pieces) =
      pieces.flatMap fun piece => marks piece.text := by
    induction pieces with
    | nil => exact fun _ => rfl
    | cons piece rest ih =>
      intro before
      rw [renderedAfter, marks_append, marks_append, marks_separator, ih piece]
      rfl
  cases pieces with
  | nil => rfl
  | cons piece rest =>
    have h := hafter (.special [])
    rw [renderedAfter, marks_append, marks_append, marks_separator] at h
    rw [rendered, marks_append]
    exact h

/-- Numbers have no marks, merged or not. -/
theorem marks_mergeNumbers (hnumbers : ∀ d, Piece.number d ∈ pieces → isDecimal d = true) :
    (mergeNumbers pieces).flatMap (fun piece => marks piece.text) =
      pieces.flatMap fun piece => marks piece.text := by
  induction pieces using groups_induction with
  | nil => rfl
  | numbers d run after hafter ih =>
    have hrun : ∀ e ∈ d :: run, isDecimal e = true := fun e he =>
      hnumbers e (List.mem_append_left _ (List.mem_map_of_mem he))
    have hnone : ((d :: run).map Piece.number).flatMap (fun piece => marks piece.text) = [] := by
      rw [List.flatMap_eq_nil_iff]
      intro piece hpiece
      obtain ⟨e, he, rfl⟩ := List.mem_map.1 hpiece
      exact marks_of_isDigits (isDecimal_iff.1 (hrun e he)).2
    rw [mergeNumbers_numbers d run hafter, List.flatMap_cons, List.flatMap_append, hnone,
      ih fun e he => hnumbers e (List.mem_append_right _ he)]
    exact congrArg (· ++ _) (marks_of_isDigits (isDigits_merged hrun))
  | words w ws after hafter ih =>
    rw [mergeNumbers_words, List.flatMap_append, List.flatMap_append,
      ih fun e he => hnumbers e (List.mem_append_right _ he)]
  | code t after ih | special t after ih =>
    exact congrArg (marks t ++ ·) (ih fun e he => hnumbers e (List.mem_cons_of_mem _ he))

/-- The marks that are written are those of the pieces. -/
theorem marks_format (h : Segments v (words text) segments)
    (hscan : scan (phrases v) 0 (words text) = segments.map Segment.piece) :
    marks (format v text) = segments.flatMap fun segment => marks segment.piece.text := by
  have hnumbers : ∀ d, Piece.number d ∈ segments.map Segment.piece → isDecimal d = true := by
    intro d hd
    rw [← hscan] at hd
    exact isDecimal_of_mem_scan hd
  rw [format_eq h hscan, marks_collapseSpaces, marks_rendered, marks_mergeNumbers hnumbers,
    List.flatMap_map]

/-! ## The marks of segments -/

theorem isDigits_of_piece {d : Text} (h : segment.piece = .number d) : IsDigits d := by
  cases segment with
  | phrase run r =>
    cases r with
    | code c | special s => cases h
    | number n =>
      cases h
      exact isDigits_ofNat n
  | word w =>
    rw [Segment.piece] at h
    split at h
    · rename_i hdecimal
      cases h
      exact (isDecimal_iff.1 hdecimal).2
    · cases h

theorem isTrailingMark_of_mem_due {c : Char} (hc : c ∈ segment.due) : isTrailingMark c = true := by
  unfold Segment.due at hc
  split at hc
  · unfold Segment.attached at hc
    split at hc
    · exact absurd hc List.not_mem_nil
    · obtain ⟨w, -, hc⟩ := List.mem_flatMap.1 hc
      exact List.mem_rtakeWhile_imp hc
  · exact (List.mem_filter.1 hc).2

/-- What is written for a segment is due, and all that is due unless a mark is lost. -/
theorem marks_piece_sublist (segment : Segment) :
    (marks segment.piece.text).Sublist segment.due := by
  unfold Segment.due
  split
  · rename_i d hpiece
    rw [hpiece, Piece.text, marks_of_isDigits (isDigits_of_piece hpiece)]
    exact List.nil_sublist _
  · exact List.Sublist.refl _

theorem marks_piece_eq_iff (segment : Segment) :
    marks segment.piece.text = segment.due ↔ ¬ segment.LosesMark := by
  unfold Segment.due Segment.LosesMark
  split
  · rename_i d hpiece
    rw [hpiece, Piece.text, marks_of_isDigits (isDigits_of_piece hpiece), eq_comm]
    constructor
    · rintro hnone ⟨-, hsome⟩
      exact hsome hnone
    · intro h
      by_contra hsome
      exact h ⟨⟨d, rfl⟩, hsome⟩
  · rename_i hother
    refine ⟨?_, fun _ => rfl⟩
    rintro - ⟨⟨d, hd⟩, -⟩
    exact hother d hd

theorem trailingMarks_sublist (w : Text) : (trailingMarks w).Sublist (marks w) := by
  have hmarks : marks (trailingMarks w) = trailingMarks w :=
    List.filter_eq_self.2 fun c hc => List.mem_rtakeWhile_imp hc
  rw [← hmarks]
  exact (List.rtakeWhile_suffix isTrailingMark w).sublist.filter isTrailingMark

/-- The marks that were said with a segment of dictated text are among those that are due. -/
theorem Segments.attached_sublist (h : Segments v ws segments) :
    ∀ segment ∈ segments, segment.attached.Sublist segment.due := by
  induction h with
  | nil => exact fun _ h => absurd h List.not_mem_nil
  | phrase run rest r segments hne hmeans hlongest hrest ih =>
    refine List.forall_mem_cons.2 ⟨?_, ih⟩
    cases hmeans with
    | special replacement hinserts => exact List.nil_sublist _
    | number n hcounts hno => exact List.Sublist.refl _
  | word w rest segments hnone hrest ih =>
    refine List.forall_mem_cons.2 ⟨?_, ih⟩
    unfold Segment.due
    split
    · exact List.Sublist.refl _
    · rename_i hother
      have hword : ¬ isDecimal (dropTrailingMarks w) = true := fun hdecimal =>
        hother _ (if_pos hdecimal)
      have hpiece : (Segment.word w).piece = .word w := if_neg hword
      have hattached : (Segment.word w).attached = trailingMarks w :=
        List.flatMap_singleton trailingMarks w
      rw [hpiece, hattached]
      exact trailingMarks_sublist w

/-- Parts that are shorter than others one by one, but not shorter in all, are the same. -/
theorem eq_of_length_flatMap_le {α β : Type} {l : List α} {f g : α → List β}
    (hsub : ∀ a ∈ l, (g a).Sublist (f a))
    (hlength : (l.flatMap f).length ≤ (l.flatMap g).length) : ∀ a ∈ l, g a = f a := by
  induction l with
  | nil => exact fun _ h => absurd h List.not_mem_nil
  | cons a rest ih =>
    obtain ⟨ha, hrest⟩ := List.forall_mem_cons.1 hsub
    have hhead := ha.length_le
    have htail := (List.Sublist.flatMap_right rest hrest).length_le
    simp only [List.flatMap_cons, List.length_append] at hlength
    refine List.forall_mem_cons.2 ⟨ha.eq_of_length (by omega), ih hrest (by omega)⟩

/-- All marks that are due are written, in order, if and only if no segment loses one. -/
theorem due_sublist_iff (h : Segments v (words text) segments)
    (hscan : scan (phrases v) 0 (words text) = segments.map Segment.piece) :
    (segments.flatMap Segment.due).Sublist (format v text) ↔
      ∀ segment ∈ segments, ¬ segment.LosesMark := by
  have hwritten := marks_format h hscan
  constructor
  · intro hsub segment hsegment
    have hdue : ∀ c ∈ segments.flatMap Segment.due, isTrailingMark c = true := by
      intro c hc
      obtain ⟨segment, -, hc⟩ := List.mem_flatMap.1 hc
      exact isTrailingMark_of_mem_due hc
    have hmarks := hsub.filter isTrailingMark
    rw [List.filter_eq_self.2 hdue, ← marks, hwritten] at hmarks
    have hsame := eq_of_length_flatMap_le (fun segment _ => marks_piece_sublist segment)
      hmarks.length_le
    exact (marks_piece_eq_iff segment).1 (hsame segment hsegment)
  · intro hnone
    have hsame : segments.flatMap Segment.due = marks (format v text) := by
      rw [hwritten]
      exact List.flatMap_congr fun segment hsegment =>
        ((marks_piece_eq_iff segment).2 (hnone segment hsegment)).symm
    rw [hsame]
    exact List.filter_sublist

/-- **The marks of dictated text.** Of the segments of a text, the marks that are written are
those of the special characters and of the words that stay. All that are due, with those that
a number was said with, are written in order if and only if no segment that is written as a
number was said with a mark; and then all marks that were said at the ends of words are, but
for those of special characters. -/
theorem format_marks (v : Vocabulary) (text : Text) :
    ∃ segments, Segments v (words text) segments ∧
      (Distinct v → ∀ others, Segments v (words text) others → others = segments) ∧
      marks (format v text) = (segments.flatMap fun segment => marks segment.piece.text) ∧
      ((segments.flatMap Segment.due).Sublist (format v text) ↔
        ∀ segment ∈ segments, ¬ segment.LosesMark) ∧
      ((∀ segment ∈ segments, ¬ segment.LosesMark) →
        (segments.flatMap Segment.attached).Sublist (format v text)) := by
  obtain ⟨segments, hsegments, hscan⟩ := exists_segments v (words text)
  have hdue := due_sublist_iff hsegments hscan
  refine ⟨segments, hsegments, ?_, marks_format hsegments hscan, hdue, ?_⟩
  · intro hdistinct others hothers
    exact hothers.unique hdistinct hsegments
  · intro hnone
    have hattached := List.Sublist.flatMap_right segments hsegments.attached_sublist
    exact hattached.trans (hdue.2 hnone)

/-- "One, two." has no phrase for a special character, and loses both of its marks. -/
theorem format_loses_marks :
    (∀ e ∈ Vocabulary.english.specialCharacters.entries, ¬ Occurs e.1 (words "one, two.")) ∧
      (words "one, two.").flatMap trailingMarks = ",." ∧
      format .english "one, two." = "12" ∧
      ¬ ((words "one, two.").flatMap trailingMarks).Sublist (format .english "one, two.") := by
  have hformat : format .english "one, two." = "12" := by decide +kernel
  have hmarks : (words "one, two.").flatMap trailingMarks = ",." := by decide +kernel
  refine ⟨by decide +kernel, hmarks, hformat, ?_⟩
  rw [hformat, hmarks]
  decide

end Dictation

end VoiceEdit
