import VoiceEdit.Proofs.Text.LetterWords

/-!
# Marks behind white space

The marks at the end of a transcript are dropped once. Where the last word is nothing but
marks, white space stood in front of them, and the word before may end in a mark as well:
that mark is uncovered, and a transcript that is collapsed again loses it too.

* `words_trim`, `exists_words_append`: the first and the last words of a text.
* `UncoversMark`: the texts in which a mark is uncovered.
* `words_dropTrailingMarks_cases`: what becomes of the last word.
* `endsInMark_collapse_iff`: which texts end in a mark when they are collapsed.
* `collapse_collapse_iff`, `collapse_normalize_iff`: which texts stay as they are.
-/
namespace VoiceEdit

namespace Text

variable {t : Text}

/-! ## Words at the ends -/

theorem words_of_blank (h : ∀ c ∈ t, isBlank c = true) : words t = [] := by
  induction t with
  | nil => rfl
  | cons c rest ih =>
    obtain ⟨hc, hrest⟩ := List.forall_mem_cons.1 h
    rw [words_cons_of_isBlank hc, ih hrest]

/-- The words of a text are those of the trimmed text. -/
theorem words_trim (t : Text) : words (trim t) = words t := by
  have hstart : words (trimStart t) = words t := by
    have hblank : ∀ c ∈ t.takeWhile isBlank, isBlank c = true := fun c => List.mem_takeWhile_imp
    have hlast : ∀ c ∈ (t.takeWhile isBlank).getLast?, isBlank c = true :=
      fun c hc => hblank c (List.mem_of_mem_getLast? hc)
    calc words (trimStart t)
      _ = words (t.takeWhile isBlank) ++ words (trimStart t) := by rw [words_of_blank hblank]; rfl
      _ = words (t.takeWhile isBlank ++ trimStart t) := (words_append_of_getLast? hlast _).symm
      _ = words t := congrArg words List.takeWhile_append_dropWhile
  obtain ⟨ending, hending, hblank⟩ := exists_ending isBlank (trimStart t)
  have hhead : ∀ c ∈ ending.head?, isBlank c = true :=
    fun c hc => hblank c (List.mem_of_mem_head? hc)
  calc words (trim t)
    _ = words (trim t) ++ words ending := by rw [words_of_blank hblank, List.append_nil]
    _ = words (trim t ++ ending) := (words_append_of_head? hhead _).symm
    _ = words (trimStart t) := congrArg words hending.symm
    _ = words t := hstart

/-- What is no white space goes into the last word. -/
theorem exists_words_append (t : Text) :
    ∃ front v, ∀ w, IsWord w → words (t ++ w) = front ++ [v ++ w] := by
  obtain ⟨v, hv, hvisible⟩ := exists_ending isVisible t
  generalize hfar : dropEndWhile isVisible t = far at hv
  have hlast : ∀ c ∈ far.getLast?, isBlank c = true := by
    intro c hc
    obtain ⟨hne, rfl⟩ := List.mem_getLast?_eq_getLast hc
    subst hfar
    have hstop : ¬ isVisible ((dropEndWhile isVisible t).getLast hne) = true :=
      List.rdropWhile_last_not isVisible t hne
    simpa only [isVisible, Bool.not_eq_true', Bool.not_eq_false] using hstop
  refine ⟨words far, v, fun w hw => ?_⟩
  have hword : IsWord (v ++ w) := by
    refine ⟨List.append_ne_nil_of_right_ne_nil v hw.ne_nil, fun c hc => ?_⟩
    rcases List.mem_append.1 hc with hc | hc
    · simpa [isVisible] using hvisible c hc
    · exact hw.visible c hc
  rw [hv, List.append_assoc, words_append_of_getLast? hlast, words_singleton hword]

end Text

open Text

namespace Transcript

variable {t : Text}

/-! ## The mark at the end -/

/-- The text ends in a mark. -/
def EndsInMark (t : Text) : Prop := ∃ c ∈ t.getLast?, isTrailingMark c = true

/-- The last word of the text is marks only, and the word in front of it ends in a mark:
once the last word is gone another mark stands at the end. -/
def UncoversMark (t : Text) : Prop :=
  ∃ front w marks, words t = front ++ [w, marks] ∧ (∀ c ∈ marks, isTrailingMark c = true) ∧
    EndsInMark w

theorem not_endsInMark_iff : ¬ EndsInMark t ↔ ∀ c ∈ t.getLast?, isTrailingMark c = false := by
  simp [EndsInMark]

theorem endsInMark_append {w : Text} (hne : w ≠ []) (t : Text) :
    EndsInMark (t ++ w) ↔ EndsInMark w := by
  unfold EndsInMark
  rw [List.getLast?_append_of_ne_nil t hne]

theorem endsInMark_lower (t : Text) : EndsInMark (lower t) ↔ EndsInMark t :=
  isCaseless_isTrailingMark.getLast?_lower t

theorem isWord_of_marks {marks : Text} (hne : marks ≠ [])
    (hmarks : ∀ c ∈ marks, isTrailingMark c = true) : IsWord marks := by
  refine ⟨hne, fun c hc => ?_⟩
  simpa [isVisible] using isVisible_of_isTrailingMark (hmarks c hc)

/-- Joined words end as the last of them does. -/
theorem endsInMark_joinWords_iff {ws : List Text} (hws : ∀ w ∈ ws, IsWord w) :
    EndsInMark (joinWords ws) ↔ ∃ front w, ws = front ++ [w] ∧ EndsInMark w := by
  rcases List.eq_nil_or_concat ws with rfl | ⟨front, w, rfl⟩
  · constructor
    · rintro ⟨c, hc, -⟩
      cases hc
    · rintro ⟨front, w, h, -⟩
      exact absurd h.symm (by simp)
  rw [List.concat_eq_append] at hws ⊢
  rw [joinWords_concat, endsInMark_append (hws w (by simp)).ne_nil]
  constructor
  · intro h
    exact ⟨front, w, rfl, h⟩
  · rintro ⟨front', w', h, hmark⟩
    obtain ⟨-, hw⟩ := List.append_inj' h rfl
    rwa [← (List.cons.inj hw).1] at hmark

theorem not_endsInMark_dropTrailingMarks (t : Text) : ¬ EndsInMark (dropTrailingMarks t) := by
  rintro ⟨c, hc, hmark⟩
  obtain ⟨hne, rfl⟩ := List.mem_getLast?_eq_getLast hc
  exact List.rdropWhile_last_not isTrailingMark t hne hmark

/-- White space at the end of what is left of a trimmed text had marks behind it. -/
theorem ne_nil_of_trim_eq {kept marks : Text} {c : Char} (hc : isBlank c = true)
    (h : trim t = kept ++ [c] ++ marks) : marks ≠ [] := by
  rintro rfl
  rw [List.append_nil] at h
  have hlast : (trimEnd (trimStart t)).getLast? = some c := by
    rw [← trim, h, List.getLast?_concat]
  obtain ⟨hne, hlast⟩ := List.mem_getLast?_eq_getLast hlast
  have hstop := List.rdropWhile_last_not isBlank (trimStart t) hne
  exact hstop (by rw [← hc, hlast]; rfl)

/-- When the marks at the end of a text are dropped, its last word goes, or what is left of
it ends in no mark. -/
theorem words_dropTrailingMarks_cases (t : Text) :
    (∃ marks, words t = words (dropTrailingMarks (trim t)) ++ [marks] ∧
        ∀ c ∈ marks, isTrailingMark c = true) ∨
      (∃ front w marks, words (dropTrailingMarks (trim t)) = front ++ [w] ∧ w ≠ [] ∧
        ¬ EndsInMark w ∧ words t = front ++ [w ++ marks]) ∨
      words (dropTrailingMarks (trim t)) = [] ∧ words t = [] := by
  obtain ⟨marks, hsplit, hmarks⟩ := exists_ending isTrailingMark (trim t)
  have hend := not_endsInMark_dropTrailingMarks (trim t)
  rw [← dropTrailingMarks] at hsplit
  rw [← words_trim t]
  generalize dropTrailingMarks (trim t) = kept at hsplit hend ⊢
  have hread : marks ≠ [] → words marks = [marks] :=
    fun hne => words_singleton (isWord_of_marks hne hmarks)
  rcases List.eq_nil_or_concat kept with rfl | ⟨far, c, rfl⟩
  · rw [hsplit, List.nil_append]
    by_cases hne : marks = []
    · rw [hne]
      exact .inr (.inr ⟨rfl, rfl⟩)
    · exact .inl ⟨marks, hread hne, hmarks⟩
  rw [List.concat_eq_append] at hsplit hend ⊢
  by_cases hc : isBlank c = true
  · -- the marks were a word by themselves
    have hlast : ∀ d ∈ (far ++ [c]).getLast?, isBlank d = true := by simp [hc]
    refine .inl ⟨marks, ?_, hmarks⟩
    rw [hsplit, words_append_of_getLast? hlast, hread (ne_nil_of_trim_eq hc hsplit)]
  · -- the marks were the end of a word that begins in front of them
    obtain ⟨front, v, hfront⟩ := exists_words_append far
    have hvisible : isBlank c = false := Bool.eq_false_iff.2 hc
    have hone : IsWord [c] := ⟨List.cons_ne_nil c [], by simpa using hvisible⟩
    have hmore : IsWord ([c] ++ marks) := by
      refine ⟨List.cons_ne_nil c marks, List.forall_mem_cons.2 ⟨hvisible, fun d hd => ?_⟩⟩
      simpa [isVisible] using isVisible_of_isTrailingMark (hmarks d hd)
    refine .inr (.inl ⟨front, v ++ [c], marks, hfront [c] hone, by simp, ?_, ?_⟩)
    · rwa [endsInMark_append (List.cons_ne_nil c [])] at hend ⊢
    · rw [hsplit, List.append_assoc, hfront _ hmore, List.append_assoc]

/-- A collapsed text ends in a mark if and only if dropping the marks at its end uncovered
another behind white space. -/
theorem endsInMark_collapse_iff (t : Text) : EndsInMark (collapse t) ↔ UncoversMark t := by
  rw [collapse, endsInMark_joinWords_iff fun _ => isWord_of_mem_words, UncoversMark]
  rcases words_dropTrailingMarks_cases t with ⟨marks, hall, hmarks⟩ | h | ⟨hkept, hall⟩
  · rw [hall]
    constructor
    · rintro ⟨front, w, h, hw⟩
      exact ⟨front, w, marks, by rw [h, List.append_assoc]; rfl, hmarks, hw⟩
    · rintro ⟨front, w, last, h, -, hw⟩
      rw [← List.singleton_append (x := w), ← List.append_assoc] at h
      exact ⟨front, w, (List.append_inj' h rfl).1, hw⟩
  · obtain ⟨front, w, marks, hkept, hne, hend, hall⟩ := h
    rw [hkept, hall]
    constructor
    · rintro ⟨front', w', h, hw⟩
      obtain ⟨-, hlast⟩ := List.append_inj' h rfl
      rw [(List.cons.inj hlast).1] at hend
      exact absurd hw hend
    · rintro ⟨front', w', last, h, hlast, -⟩
      rw [← List.singleton_append (x := w'), ← List.append_assoc] at h
      obtain ⟨-, hsame⟩ := List.append_inj' h rfl
      rw [← (List.cons.inj hsame).1] at hlast
      refine absurd ⟨w.getLast hne, List.getLast_mem_getLast? hne, ?_⟩ hend
      exact hlast _ (List.mem_append_left marks (List.getLast_mem hne))
  · rw [hkept, hall]
    constructor
    · rintro ⟨front, w, h, -⟩
      exact absurd h (by simp)
    · rintro ⟨front, w, last, h, -⟩
      exact absurd h (by simp)

/-! ## Collapsed again -/

theorem collapse_eq_self_iff_of_spaced (h : joinWords (words t) = t) :
    collapse t = t ↔ ¬ EndsInMark t := by
  rw [collapse_eq_self_iff, not_endsInMark_iff]
  exact ⟨IsClean.unmarked, fun hunmarked => ⟨h, hunmarked⟩⟩

theorem spaced_collapse (t : Text) : joinWords (words (collapse t)) = collapse t := by
  rw [words_collapse, collapse]

theorem collapse_collapse_iff (t : Text) :
    collapse (collapse t) = collapse t ↔ ¬ UncoversMark t := by
  rw [collapse_eq_self_iff_of_spaced (spaced_collapse t), endsInMark_collapse_iff]

theorem collapse_normalize_iff (t : Text) :
    collapse (normalize t) = normalize t ↔ ¬ UncoversMark t := by
  have hspaced : joinWords (words (normalize t)) = normalize t := by
    rw [normalize, words_lower, joinWords_lower, spaced_collapse]
  rw [collapse_eq_self_iff_of_spaced hspaced, normalize, endsInMark_lower, endsInMark_collapse_iff]

theorem normalize_collapse (t : Text) : normalize (collapse t) = collapse (normalize t) := by
  rw [normalize, normalize, collapse_lower]

theorem normalize_normalize (t : Text) : normalize (normalize t) = collapse (normalize t) := by
  rw [← normalize_collapse, normalize, normalize, normalize, collapse_lower, lower_lower]

end Transcript

end VoiceEdit
