import VoiceEdit.Proofs.Text.Casing
import VoiceEdit.Proofs.Text.Words

/-!
# Lower case, word by word

A capital sigma looks at its neighbours up to the next character that has a case or that
ends a word. Neither white space nor the marks at the end of an utterance have a case, so
a text may be trimmed, cut into words and collapsed before or after it is lowered.

* `IsCaseless`: characters that lower case neither moves nor makes; `IsCaseless.all_lower`: a
  text of such characters.
* `IsCaseless.dropWhile_lower`, `IsCaseless.dropEndWhile_lower`, `lower_trim`: a
  beginning or an ending of such characters; `IsCaseless.getLast?_lower`: the last one.
* `words_lower`, `joinWords_lower`: the words of a text.
* `collapse_lower`: transcripts.
-/
namespace VoiceEdit

namespace Text

/-! ## Neighbours -/

/-- Characters that show no case are passed over in front of nothing. -/
theorem meetsCased_append {b : Text} (hb : meetsCased b = false) (a : Text) :
    meetsCased (a ++ b) = meetsCased a := by
  induction a with
  | nil => exact hb
  | cons c rest ih =>
    unfold meetsCased at ih ⊢
    rw [List.cons_append]
    cases hc : isCaseIgnorable c with
    | true => rw [List.dropWhile_cons_of_pos hc, List.dropWhile_cons_of_pos hc, ih]
    | false =>
      have hstop : ¬ isCaseIgnorable c = true := by rw [hc]; exact Bool.false_ne_true
      rw [List.dropWhile_cons_of_neg hstop, List.dropWhile_cons_of_neg hstop]
      rfl

theorem meetsCased_eq_false {t : Text} (ht : ∀ c ∈ t, isCased c = false) : meetsCased t = false := by
  unfold meetsCased
  cases hrest : t.dropWhile isCaseIgnorable with
  | nil => rfl
  | cons c rest =>
    have hc : c ∈ t := (List.dropWhile_sublist isCaseIgnorable).subset (by rw [hrest]; simp)
    exact ht c hc

theorem meetsCased_cons_of_isBlank {c : Char} (hc : isBlank c = true) (t : Text) :
    meetsCased (c :: t) = false := by
  obtain ⟨hcased, hignorable⟩ := not_isCased_of_isBlank hc
  rw [meetsCased, List.dropWhile_cons_of_neg (by rw [hignorable]; exact Bool.false_ne_true)]
  exact hcased

theorem lowerAfter_append_left {far : Text} (hfar : meetsCased far = false) (near t : Text) :
    lowerAfter (near ++ far) t = lowerAfter near t := by
  induction t generalizing near with
  | nil => rfl
  | cons c rest ih =>
    have hsigma : lowerSigma (near ++ far) rest = lowerSigma near rest := by
      rw [lowerSigma, meetsCased_append hfar, lowerSigma]
    rw [lowerAfter, lowerAfter, hsigma, ← List.cons_append, ih]

/-- What is lowered behind white space is lowered as if it stood alone. -/
theorem lowerAfter_eq_lower {before : Text} (h : meetsCased before = false) (t : Text) :
    lowerAfter before t = lower t :=
  lowerAfter_append_left h [] t

theorem lowerAfter_append {b : Text} (hb : meetsCased b = false) (before a : Text) :
    lowerAfter before (a ++ b) = lowerAfter before a ++ lowerAfter (a.reverse ++ before) b := by
  induction a generalizing before with
  | nil => rfl
  | cons c rest ih =>
    have hsigma : lowerSigma before (rest ++ b) = lowerSigma before rest := by
      rw [lowerSigma, meetsCased_append hb, lowerSigma]
    rw [List.cons_append, lowerAfter, lowerAfter, hsigma, ih, List.append_assoc, List.reverse_cons,
      List.append_assoc, List.singleton_append]

/-- A character in lower case stays, whatever stands beside it. -/
theorem lowerAfter_cons_of_isLower {c : Char} (hc : IsLower c) (before t : Text) :
    lowerAfter before (c :: t) = c :: lowerAfter (c :: before) t := by
  have hsigma : c ≠ '\u03a3' := by
    rintro rfl
    exact absurd hc (by decide +kernel)
  rw [lowerAfter, if_neg hsigma, hc, List.singleton_append]

/-- Two parts of a text with white space between them are lowered apart. -/
theorem lower_append_blank {c : Char} (hc : isBlank c = true) (a b : Text) :
    lower (a ++ c :: b) = lower a ++ c :: lower b := by
  rw [lower, lowerAfter_append (meetsCased_cons_of_isBlank hc b),
    lowerAfter_cons_of_isLower (isLower_of_isBlank hc),
    lowerAfter_eq_lower (meetsCased_cons_of_isBlank hc _)]
  rfl

theorem lower_cons_of_isBlank {c : Char} (hc : isBlank c = true) (t : Text) :
    lower (c :: t) = c :: lower t :=
  lower_append_blank hc [] t

/-! ## Characters without case -/

/-- Characters that have no case, and that lower case makes of no others. -/
structure IsCaseless (p : Char → Bool) : Prop where
  uncased : ∀ c, p c = true → isCased c = false
  stays : ∀ c, p c = true → IsLower c
  apart : ∀ c, p c = false → ∀ d ∈ lowerChar c, p d = false
  finalSigma : p '\u03c2' = false

theorem isCaseless_isBlank : IsCaseless isBlank where
  uncased _ hc := (not_isCased_of_isBlank hc).1
  stays _ := isLower_of_isBlank
  apart _ hc _ := isBlank_of_mem_lowerChar hc
  finalSigma := by decide

/-- Characters in lower case that come before all letters in lower case have no case. -/
theorem isCaseless_of_le {p : Char → Bool} (hsigma : p '\u03c2' = false)
    (h : ∀ c, p c = true → isCased c = false ∧ IsLower c ∧ c.toNat ≤ 0x60) : IsCaseless p := by
  refine ⟨fun c hc => (h c hc).1, fun c hc => (h c hc).2.1, fun c hc d hd => ?_, hsigma⟩
  rcases lowerChar_cases c with hlower | ⟨-, himage⟩
  · rw [hlower] at hd
    rw [List.mem_singleton.1 hd, hc]
  · refine Bool.eq_false_iff.2 fun hd' => ?_
    have hlow := (h d hd').2.2
    have hhigh := (himage d hd).2.2
    omega

theorem isCaseless_isTrailingMark : IsCaseless Transcript.isTrailingMark :=
  isCaseless_of_le (by decide) fun _ =>
    forall_trailingMarks (P := fun c => isCased c = false ∧ IsLower c ∧ c.toNat ≤ 0x60)
      (by decide +kernel)

section

variable {p : Char → Bool} (hp : IsCaseless p)
include hp

/-- The image of another character is of other characters. -/
theorem IsCaseless.lowerAfter_singleton {c : Char} (hc : p c = false) (before after : Text) :
    ∃ image, image ≠ [] ∧ (∀ d ∈ image, p d = false) ∧
      lowerAfter before (c :: after) = image ++ lowerAfter (c :: before) after := by
  have hsigma : p '\u03c3' = false := by
    have hcapital : p '\u03a3' = false :=
      Bool.eq_false_iff.2 fun h => absurd (hp.stays _ h) (by decide +kernel)
    exact hp.apart _ hcapital _ (by decide +kernel)
  refine ⟨_, ?_, ?_, rfl⟩
  · split
    · exact List.cons_ne_nil _ _
    · exact mapCase_ne_nil (by decide) lowerRuns c
  · split
    · intro d hd
      rw [List.mem_singleton.1 hd, lowerSigma]
      split
      · exact hp.finalSigma
      · exact hsigma
    · exact hp.apart c hc

/-- A character without case at the end of a text stays there. -/
theorem IsCaseless.lower_concat {c : Char} (hc : p c = true) (t : Text) :
    lower (t ++ [c]) = lower t ++ [c] := by
  have hlast : meetsCased [c] = false := meetsCased_eq_false (by simpa using hp.uncased c hc)
  rw [lower, lowerAfter_append hlast, lowerAfter_cons_of_isLower (hp.stays c hc)]
  rfl

/-- A beginning of characters without case is dropped before or after lowering. -/
theorem IsCaseless.dropWhile_lower (t : Text) : (lower t).dropWhile p = lower (t.dropWhile p) := by
  induction t with
  | nil => rfl
  | cons c rest ih =>
    cases hc : p c with
    | true =>
      have hnear : meetsCased [c] = false := meetsCased_eq_false (by simpa using hp.uncased c hc)
      rw [List.dropWhile_cons_of_pos hc, lower, lowerAfter_cons_of_isLower (hp.stays c hc),
        List.dropWhile_cons_of_pos hc, lowerAfter_eq_lower hnear, ih]
    | false =>
      have hstop : ¬ p c = true := by rw [hc]; exact Bool.false_ne_true
      obtain ⟨image, hne, himage, hlower⟩ := hp.lowerAfter_singleton hc [] rest
      obtain ⟨d, image, rfl⟩ := List.exists_cons_of_ne_nil hne
      have hd : ¬ p d = true := by
        rw [himage d List.mem_cons_self]
        exact Bool.false_ne_true
      rw [List.dropWhile_cons_of_neg hstop, lower, hlower, List.cons_append,
        List.dropWhile_cons_of_neg hd]

theorem IsCaseless.all_lower (t : Text) : (lower t).all p = t.all p := by
  rw [Bool.eq_iff_iff, List.all_eq_true, List.all_eq_true, ← List.dropWhile_eq_nil_iff,
    ← List.dropWhile_eq_nil_iff, hp.dropWhile_lower, lower_eq_nil_iff]

/-- A text that ends in another character ends so in lower case. -/
theorem IsCaseless.lowerAfter_concat {c : Char} (hc : p c = false) (before t : Text) :
    ∃ front image, image ≠ [] ∧ (∀ d ∈ image, p d = false) ∧
      lowerAfter before (t ++ [c]) = front ++ image := by
  induction t generalizing before with
  | nil =>
    obtain ⟨image, hne, himage, hlower⟩ := hp.lowerAfter_singleton hc before []
    exact ⟨[], image, hne, himage, hlower.trans (List.append_nil image)⟩
  | cons d rest ih =>
    obtain ⟨front, image, hne, himage, hlower⟩ := ih (d :: before)
    let first := if d = '\u03a3' then [lowerSigma before (rest ++ [c])] else lowerChar d
    refine ⟨first ++ front, image, hne, himage, ?_⟩
    rw [List.cons_append, lowerAfter, hlower, List.append_assoc]

/-- An ending of characters without case is dropped before or after lowering. -/
theorem IsCaseless.dropEndWhile_lower (t : Text) :
    dropEndWhile p (lower t) = lower (dropEndWhile p t) := by
  -- from the end on, as the ending is dropped
  induction t using List.reverseRecOn with
  | nil => rfl
  | append_singleton t c ih =>
    cases hc : p c with
    | true =>
      have hdrop : ∀ s : Text, dropEndWhile p (s ++ [c]) = dropEndWhile p s :=
        fun s => List.rdropWhile_concat_pos p s c hc
      rw [hp.lower_concat hc, hdrop, hdrop, ih]
    | false =>
      obtain ⟨front, image, hne, himage, hlower⟩ := hp.lowerAfter_concat hc [] t
      have hsame : dropEndWhile p (t ++ [c]) = t ++ [c] :=
        dropEndWhile_append_of_not (List.cons_ne_nil c []) (by simpa using hc) t
      rw [hsame, lower, hlower]
      exact dropEndWhile_append_of_not hne himage front

/-- In lower case a text ends in a character without case where it did before. -/
theorem IsCaseless.getLast?_lower (t : Text) :
    (∃ c ∈ (lower t).getLast?, p c = true) ↔ ∃ c ∈ t.getLast?, p c = true := by
  rcases List.eq_nil_or_concat t with rfl | ⟨front, c, rfl⟩
  · rfl
  rw [List.concat_eq_append]
  cases hc : p c with
  | true =>
    rw [hp.lower_concat hc]
    simp [hc]
  | false =>
    obtain ⟨far, image, hne, himage, hlower⟩ := hp.lowerAfter_concat hc [] front
    obtain ⟨image, d, rfl⟩ := (List.eq_nil_or_concat image).resolve_left hne
    have hd : p d = false := himage d (by simp)
    rw [lower, hlower]
    simp [hc, hd]

end

/-- A text is trimmed before or after it is lowered. -/
theorem lower_trim (t : Text) : lower (trim t) = trim (lower t) := by
  rw [trim, trimEnd, ← isCaseless_isBlank.dropEndWhile_lower, trimStart,
    ← isCaseless_isBlank.dropWhile_lower]
  rfl

/-! ## Words -/

theorem isBlank_of_mem_lower {t : Text} (ht : ∀ c ∈ t, isBlank c = false) :
    ∀ c ∈ lower t, isBlank c = false := by
  have hall : ∀ before, ∀ c ∈ lowerAfter before t, isBlank c = false := by
    induction t with
    | nil => exact fun _ _ hc => absurd hc List.not_mem_nil
    | cons d rest ih =>
      intro before c hc
      obtain ⟨hd, hrest⟩ := List.forall_mem_cons.1 ht
      obtain ⟨image, -, himage, hlower⟩ := isCaseless_isBlank.lowerAfter_singleton hd before rest
      rw [hlower] at hc
      rcases List.mem_append.1 hc with hc | hc
      · exact himage c hc
      · exact ih hrest (d :: before) c hc
  exact hall []

theorem IsWord.lower {w : Text} (hw : IsWord w) : IsWord (lower w) :=
  ⟨mt (lower_eq_nil_iff w).1 hw.ne_nil, isBlank_of_mem_lower hw.visible⟩

theorem ReadAs.lower {t : Text} {ws : List Text} (h : ReadAs t ws) :
    ReadAs (lower t) (ws.map Text.lower) := by
  induction h with
  | nil => exact .nil
  | blank hc ht ih =>
    rw [lower_cons_of_isBlank hc]
    exact .blank hc ih
  | word hw => exact .word hw.lower
  | cons hw hc ht ih =>
    rw [lower_cons_of_isBlank hc] at ih
    rw [lower_append_blank hc]
    exact .cons hw.lower hc ih

/-- The words of a text are lowered one by one. -/
theorem words_lower (t : Text) : words (lower t) = (words t).map lower :=
  (readAs_words t).lower.words_eq

theorem joinWords_lower (ws : List Text) : joinWords (ws.map lower) = lower (joinWords ws) := by
  induction ws with
  | nil => rfl
  | cons w rest ih =>
    cases rest with
    | nil => simp [joinWords]
    | cons v ws =>
      rw [joinWords_cons_cons, lower_append_blank (by decide), ← ih]
      rfl

end Text

open Text

/-! ## Transcripts -/

namespace Transcript

/-- A transcript is collapsed before or after it is lowered. -/
theorem collapse_lower (t : Text) : collapse (lower t) = lower (collapse t) := by
  rw [collapse, ← lower_trim, dropTrailingMarks, isCaseless_isTrailingMark.dropEndWhile_lower,
    words_lower, joinWords_lower]
  rfl

@[simp] theorem collapse_trim (t : Text) : collapse (trim t) = collapse t := by
  rw [collapse, trim_trim, collapse]

end Transcript

end VoiceEdit
