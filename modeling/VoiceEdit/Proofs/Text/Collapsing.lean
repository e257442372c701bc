import Mathlib.Data.List.Chain
import VoiceEdit.Proofs.Text.Words

/-!
# Collapsed transcripts

What is collapsed is words with single spaces between them. Collapsing leaves a text as it
is if and only if the text is of that kind and ends in no trailing mark; behind a mark that
is dropped another may show, so once is not always enough.

* `exists_ending`: what is dropped from the end of a text.
* `words_joinWords`, `trim_joinWords`, `isChain_joinWords`: joined words.
* `IsClean`, `collapse_eq_self_iff`: the texts that are collapsed already.
* `collapse_ne_nil`: something is left where something is said.
-/
namespace VoiceEdit

namespace Text

/-- What is dropped from the end of a text is of the kind that is dropped. -/
theorem exists_ending (p : Char → Bool) (t : Text) :
    ∃ ending, t = dropEndWhile p t ++ ending ∧ ∀ c ∈ ending, p c = true := by
  refine ⟨(t.reverse.takeWhile p).reverse, ?_, fun c hc => ?_⟩
  · rw [dropEndWhile, ← List.reverse_append, List.takeWhile_append_dropWhile, List.reverse_reverse]
  · exact List.mem_takeWhile_imp (List.mem_reverse.1 hc)

/-! ## Words -/

variable {w : Text} {ws : List Text}

/-- Joined words are read as they were. -/
theorem words_joinWords (hws : ∀ w ∈ ws, IsWord w) : words (joinWords ws) = ws := by
  induction ws with
  | nil => rfl
  | cons w rest ih =>
    obtain ⟨hw, hrest⟩ := List.forall_mem_cons.1 hws
    cases rest with
    | nil =>
      rw [joinWords, List.intercalate_singleton]
      exact words_singleton hw
    | cons v ws =>
      rw [joinWords_cons_cons, words_append_blank hw (by decide), ih hrest]

theorem exists_joinWords_cons (hw : IsWord w) (ws : List Text) :
    ∃ c rest, joinWords (w :: ws) = c :: rest ∧ isBlank c = false := by
  obtain ⟨hne, hvisible⟩ := hw
  obtain ⟨c, w, rfl⟩ := List.exists_cons_of_ne_nil hne
  have hc := hvisible c List.mem_cons_self
  cases ws with
  | nil => exact ⟨c, w, List.intercalate_singleton, hc⟩
  | cons v ws => exact ⟨c, _, joinWords_cons_cons (c :: w) v ws, hc⟩

/-- Joined words have no white space at their ends. -/
theorem trim_joinWords (hws : ∀ w ∈ ws, IsWord w) : trim (joinWords ws) = joinWords ws := by
  have hstart : trimStart (joinWords ws) = joinWords ws := by
    cases ws with
    | nil => rfl
    | cons w rest =>
      obtain ⟨c, more, hjoined, hc⟩ := exists_joinWords_cons (hws w List.mem_cons_self) rest
      rw [hjoined, trimStart, List.dropWhile_cons_of_neg (by rw [hc]; exact Bool.false_ne_true)]
  rw [trim, hstart]
  rcases List.eq_nil_or_concat ws with rfl | ⟨front, w, rfl⟩
  · rfl
  · obtain ⟨hne, hvisible⟩ := hws w (by simp)
    rw [List.concat_eq_append, joinWords_concat]
    exact dropEndWhile_append_of_not hne hvisible (spaced front)

/-- Between words that are joined there is never more than one space. -/
theorem isChain_joinWords (hws : ∀ w ∈ ws, IsWord w) :
    (joinWords ws).IsChain fun c d => isBlank c = false ∨ isBlank d = false := by
  have hword : ∀ {w : Text}, IsWord w →
      w.IsChain fun c d => isBlank c = false ∨ isBlank d = false := fun hw =>
    (List.pairwise_of_forall_mem_list fun c hc d _ => .inl (hw.visible c hc)).isChain
  induction ws with
  | nil => exact .nil
  | cons w rest ih =>
    obtain ⟨hw, hrest⟩ := List.forall_mem_cons.1 hws
    cases rest with
    | nil =>
      rw [joinWords, List.intercalate_singleton]
      exact hword hw
    | cons v ws =>
      rw [joinWords_cons_cons]
      obtain ⟨c, more, hjoined, hc⟩ := exists_joinWords_cons (hrest v List.mem_cons_self) ws
      refine List.isChain_append.2 ⟨hword hw, ?_, fun d hd _ _ => ?_⟩
      · rw [hjoined] at ih ⊢
        exact .cons_cons (.inr hc) (ih hrest)
      · exact .inl (hw.visible d (List.mem_of_mem_getLast? hd))

end Text

open Text

/-! ## Transcripts -/

namespace Transcript

/-- A text of words with single spaces between them that ends in no trailing mark. -/
structure IsClean (t : Text) : Prop where
  spaced : joinWords (words t) = t
  unmarked : ∀ c ∈ t.getLast?, isTrailingMark c = false

instance (t : Text) : Decidable (IsClean t) :=
  decidable_of_iff (joinWords (words t) = t ∧ t.getLast?.any isTrailingMark = false) <| by
    simp only [Option.any_eq_false]
    exact ⟨fun ⟨hspaced, hunmarked⟩ => ⟨hspaced, hunmarked⟩, fun h => ⟨h.spaced, h.unmarked⟩⟩

theorem isVisible_of_isTrailingMark {c : Char} (hc : isTrailingMark c = true) :
    isVisible c = true :=
  forall_trailingMarks (P := fun c => isVisible c = true) (by decide) hc

theorem dropTrailingMarks_eq_self_iff (t : Text) :
    dropTrailingMarks t = t ↔ ∀ c ∈ t.getLast?, isTrailingMark c = false := by
  refine List.rdropWhile_eq_self_iff.trans ?_
  rcases List.eq_nil_or_concat t with rfl | ⟨front, c, rfl⟩
  · simp
  · simp

theorem words_collapse (t : Text) : words (collapse t) = words (dropTrailingMarks (trim t)) :=
  words_joinWords fun _ => isWord_of_mem_words

/-- The texts that are collapsed already. -/
theorem collapse_eq_self_iff (t : Text) : collapse t = t ↔ IsClean t := by
  constructor
  · intro h
    have hwords : words t = words (dropTrailingMarks (trim t)) := by rw [← words_collapse, h]
    have hspaced : joinWords (words t) = t := by rw [hwords]; exact h
    have htrim : trim t = t := by
      rw [← hspaced]
      exact trim_joinWords fun _ => isWord_of_mem_words
    refine ⟨hspaced, (dropTrailingMarks_eq_self_iff t).1 ?_⟩
    rw [htrim] at hwords
    -- the marks are visible, so the words would miss those that are dropped
    obtain ⟨ending, hending, hmarks⟩ := exists_ending isTrailingMark t
    have hvisible : ending.filter isVisible = [] := by
      have hsame : t.filter isVisible = (dropTrailingMarks t).filter isVisible := by
        rw [← flatten_words, hwords, flatten_words]
      rw [hending, List.filter_append, ← hending] at hsame
      exact List.append_right_eq_self.1 hsame
    have hnil : ending = [] := by
      refine List.eq_nil_iff_forall_not_mem.2 fun c hc => ?_
      refine List.filter_eq_nil_iff.1 hvisible c hc ?_
      exact isVisible_of_isTrailingMark (hmarks c hc)
    rw [hnil, List.append_nil] at hending
    exact hending.symm
  · rintro ⟨hspaced, hunmarked⟩
    have htrim : trim t = t := by
      rw [← hspaced]
      exact trim_joinWords fun _ => isWord_of_mem_words
    rw [collapse, htrim, (dropTrailingMarks_eq_self_iff t).2 hunmarked, hspaced]

/-- Something is left of a text in which something is said. -/
theorem collapse_ne_nil {t : Text} {c : Char} (hc : c ∈ t) (hblank : isBlank c = false)
    (hmark : isTrailingMark c = false) : collapse t ≠ [] := by
  have hkept : c ∈ dropTrailingMarks (trim t) :=
    List.mem_reverse.2 <| mem_dropWhile_of_not
      (List.mem_reverse.2 ((mem_trim_iff hblank t).2 hc)) hmark
  intro hnil
  have hwords := words_collapse t
  rw [hnil] at hwords
  obtain ⟨w, hw, -⟩ := exists_word hkept hblank
  rw [← hwords] at hw
  exact absurd hw List.not_mem_nil

end Transcript

end VoiceEdit
