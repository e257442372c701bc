import VoiceEdit.Proofs.Text.Collapsing
import VoiceEdit.Proofs.Text.Phrase
import VoiceEdit.Proofs.Text.WordCasing

/-!
# Texts reduced to letters

Reduced to letters a text is the row of its words in lower case, without anything but letters.
In such texts there is nothing between words but single spaces, so that a phrase stands on
whole words if and only if its words stand there in a row.

* `letterWords`: the words that are left; `lettersOnly_eq`: the reduced text is these.
* `words_append_cons`, `words_append_of_getLast?`, `words_append_of_head?`: a text is read in
  parts where it is cut at white space.
* `containsPhrase_joinWords`: a phrase among words of letters.
* `containsPhrase_lettersOnly`: a phrase in an utterance, both reduced.
-/
namespace VoiceEdit.Text

variable {t a b : Text} {c : Char} {us ws xs : List Text}

/-! ## Reading in parts -/

/-- White space cuts a text into two that are read by themselves. -/
theorem words_append_cons (hc : isBlank c = true) (a b : Text) :
    words (a ++ c :: b) = words a ++ words b := by
  have hread := readAs_words a
  generalize words a = ws at hread ⊢
  induction hread with
  | nil => exact words_cons_of_isBlank hc b
  | blank hd _ ih => rw [List.cons_append, words_cons_of_isBlank hd, ih]
  | word hw => exact words_append_blank hw hc b
  | cons hw hd _ ih =>
    rw [List.cons_append, words_cons_of_isBlank hd] at ih
    rw [List.append_assoc, List.cons_append, words_append_blank hw hd, ih, List.cons_append]

theorem words_append_of_getLast? (h : ∀ c ∈ a.getLast?, isBlank c = true) (b : Text) :
    words (a ++ b) = words a ++ words b := by
  rcases List.eq_nil_or_concat a with rfl | ⟨front, c, rfl⟩
  · rfl
  · rw [List.concat_eq_append] at h ⊢
    have hc : isBlank c = true := h c List.getLast?_concat
    rw [List.append_assoc, List.singleton_append, words_append_cons hc, words_append_cons hc]
    simp [words]

theorem words_append_of_head? (h : ∀ c ∈ b.head?, isBlank c = true) (a : Text) :
    words (a ++ b) = words a ++ words b := by
  cases b with
  | nil => simp [words]
  | cons c rest =>
    have hc : isBlank c = true := h c rfl
    rw [words_append_cons hc, words_cons_of_isBlank hc]

/-! ## Words in lower case and of letters -/

/-- The words of a text in lower case, each without anything but letters; one without letters
is dropped. -/
def letterWords (t : Text) : List Text :=
  ((words t).map fun w => (lower w).filter isLetter).filter fun w => !w.isEmpty

/-- A word that is made of letters. -/
structure IsLetterWord (w : Text) : Prop where
  ne_nil : w ≠ []
  letters : ∀ c ∈ w, isLetter c = true

theorem isBlank_of_isLetter (hc : isLetter c = true) : isBlank c = false :=
  isBlank_of_isAlphanumeric (Bool.or_eq_true_iff.2 (.inl hc))

theorem IsLetterWord.isWord {w : Text} (hw : IsLetterWord w) : IsWord w :=
  ⟨hw.ne_nil, fun c hc => isBlank_of_isLetter (hw.letters c hc)⟩

theorem isLetterWord_of_mem_letterWords : ∀ w ∈ letterWords t, IsLetterWord w := by
  intro w hw
  obtain ⟨hmem, hne⟩ := List.mem_filter.1 hw
  obtain ⟨v, -, rfl⟩ := List.mem_map.1 hmem
  exact ⟨by simpa using hne, fun c hc => (List.mem_filter.1 hc).2⟩

/-- In a word there is no white space to keep. -/
theorem IsWord.filter_letters {w : Text} (hw : IsWord w) :
    w.filter (fun c => isLetter c || isBlank c) = w.filter isLetter := by
  apply List.filter_congr
  intro c hc
  rw [hw.visible c hc, Bool.or_false]

/-- What is left of a word is a word, unless nothing is left. -/
theorem words_filter_letters (w : Text) :
    words (w.filter isLetter) = [w.filter isLetter].filter fun w => !w.isEmpty := by
  by_cases hnone : w.filter isLetter = []
  · rw [hnone]
    rfl
  · have hletters : IsLetterWord (w.filter isLetter) :=
      ⟨hnone, fun c hc => (List.mem_filter.1 hc).2⟩
    rw [words_singleton hletters.isWord]
    simp [hnone]

/-- To drop all but letters and white space is to drop all but letters in every word. -/
theorem ReadAs.words_filter (h : ReadAs t ws) :
    words (t.filter fun c => isLetter c || isBlank c) =
      (ws.map (·.filter isLetter)).filter fun w => !w.isEmpty := by
  have hkeep : ∀ {c : Char} (t : Text), isBlank c = true →
      (c :: t).filter (fun c => isLetter c || isBlank c) =
        c :: t.filter fun c => isLetter c || isBlank c := by
    intro c t hc
    rw [List.filter_cons, hc, Bool.or_true, if_pos rfl]
  induction h with
  | nil => rfl
  | blank hc _ ih => rw [hkeep _ hc, words_cons_of_isBlank hc, ih]
  | word hw =>
    rw [hw.filter_letters]
    exact words_filter_letters _
  | cons hw hc _ ih =>
    rw [hkeep _ hc, words_cons_of_isBlank hc] at ih
    rw [List.filter_append, hkeep _ hc, words_append_cons hc, hw.filter_letters,
      words_filter_letters, ih, ← List.filter_append]
    rfl

/-- A text reduced to letters is its words so reduced. -/
theorem lettersOnly_eq (t : Text) : lettersOnly t = joinWords (letterWords t) := by
  rw [lettersOnly, (readAs_words (lower t)).words_filter, words_lower, List.map_map]
  rfl

/-! ## Joined words -/

theorem joinWords_append (hne : ws ≠ []) (xs : List Text) :
    joinWords (xs ++ ws) = spaced xs ++ joinWords ws := by
  obtain ⟨front, w, rfl⟩ := (List.eq_nil_or_concat ws).resolve_left hne
  rw [List.concat_eq_append, ← List.append_assoc, joinWords_concat, joinWords_concat, spaced,
    List.flatMap_append, List.append_assoc]
  rfl

theorem spaced_eq_joinWords (hne : ws ≠ []) : spaced ws = joinWords ws ++ [' '] := by
  obtain ⟨front, w, rfl⟩ := (List.eq_nil_or_concat ws).resolve_left hne
  rw [List.concat_eq_append, joinWords_concat, spaced, List.flatMap_append, ← spaced,
    List.flatMap_singleton, List.append_assoc]

theorem joinWords_eq_nil_iff (hws : ∀ w ∈ ws, IsWord w) : joinWords ws = [] ↔ ws = [] := by
  constructor
  · intro h
    rw [← words_joinWords hws, h]
    rfl
  · rintro rfl
    rfl

/-! ## Phrases among words of letters -/

theorem isWordChar_of_isLetter (hc : isLetter c = true) : isWordChar c = true := by
  rw [isWordChar, isAlphanumeric, hc]
  rfl

theorem isWordChar_space : isWordChar ' ' = false := by decide +kernel

/-- Of words of letters, what continues no word is white space. -/
theorem isBlank_of_not_isWordChar (hus : ∀ w ∈ us, IsLetterWord w) (hc : c ∈ joinWords us)
    (hword : isWordChar c = false) : isBlank c = true := by
  rcases mem_joinWords hc with rfl | ⟨w, hw, hcw⟩
  · decide
  · rw [isWordChar_of_isLetter ((hus w hw).letters c hcw)] at hword
    cases hword

/-- A phrase stands somewhere if it is not empty and has parts of the text around it. -/
theorem containsPhrase_iff (text phrase : Text) : containsPhrase text phrase = true ↔
    phrase ≠ [] ∧ ∃ before after, StandsBetween text phrase before after := by
  have hnone := splitAtPhrase?_eq_none_iff text phrase
  rw [← Option.not_isSome_iff_eq_none, Bool.not_eq_true] at hnone
  rw [containsPhrase, ← Bool.not_eq_false, hnone, not_or, not_forall]
  refine and_congr_right fun _ => ⟨?_, ?_⟩
  · rintro ⟨place, hplace⟩
    obtain ⟨before, after, hstands, -⟩ := Classical.not_not.1 hplace
    exact ⟨before, after, hstands⟩
  · rintro ⟨before, after, hstands⟩
    exact ⟨before.length, fun hnot => hnot ⟨before, after, hstands, rfl⟩⟩

/-- Words in a row stand on whole words. -/
theorem standsBetween_joinWords (hne : ws ≠ []) (xs zs : List Text) :
    ∃ after, StandsBetween (joinWords (xs ++ ws ++ zs)) (joinWords ws) (spaced xs) after := by
  have hleft : ∀ c ∈ (spaced xs).getLast?, isWordChar c = false := by
    by_cases hxs : xs = []
    · rw [hxs]
      exact fun c hc => nomatch hc
    · rw [spaced_eq_joinWords hxs, List.getLast?_concat]
      rintro c ⟨⟩
      exact isWordChar_space
  cases zs with
  | nil =>
    refine ⟨[], ?_, hleft, fun c hc => nomatch hc⟩
    rw [List.append_nil, List.append_nil, joinWords_append hne]
  | cons z zs =>
    refine ⟨' ' :: joinWords (z :: zs), ?_, hleft, ?_⟩
    · rw [joinWords_append (List.cons_ne_nil z zs), spaced, List.flatMap_append, ← spaced, ← spaced,
        spaced_eq_joinWords hne]
      simp
    · rintro c ⟨⟩
      exact isWordChar_space

/-- What stands on whole words among words of letters is words in a row. -/
theorem StandsBetween.isInfix {before after : Text} (hus : ∀ w ∈ us, IsLetterWord w)
    (hws : ∀ w ∈ ws, IsLetterWord w)
    (h : StandsBetween (joinWords us) (joinWords ws) before after) : ws <:+: us := by
  have hbefore : ∀ c ∈ before.getLast?, isBlank c = true := by
    intro c hc
    have hmem : c ∈ joinWords us := by
      rw [h.split]
      exact List.mem_append_left _ (List.mem_append_left _ (List.mem_of_getLast? hc))
    exact isBlank_of_not_isWordChar hus hmem (h.left c hc)
  have hafter : ∀ c ∈ after.head?, isBlank c = true := by
    intro c hc
    have hmem : c ∈ joinWords us := by
      rw [h.split]
      exact List.mem_append_right _ (List.mem_of_head? hc)
    exact isBlank_of_not_isWordChar hus hmem (h.right c hc)
  refine ⟨words before, words after, ?_⟩
  calc words before ++ ws ++ words after
      = words before ++ words (joinWords ws) ++ words after := by
        rw [words_joinWords fun w hw => (hws w hw).isWord]
    _ = words (before ++ joinWords ws ++ after) := by
        rw [words_append_of_head? hafter, words_append_of_getLast? hbefore]
    _ = us := by rw [← h.split, words_joinWords fun w hw => (hus w hw).isWord]

/-- A phrase of letters stands among words of letters if and only if its words are some of
them in a row. -/
theorem containsPhrase_joinWords (hus : ∀ w ∈ us, IsLetterWord w)
    (hws : ∀ w ∈ ws, IsLetterWord w) :
    containsPhrase (joinWords us) (joinWords ws) = true ↔ ws ≠ [] ∧ ws <:+: us := by
  rw [containsPhrase_iff, Ne, joinWords_eq_nil_iff fun w hw => (hws w hw).isWord]
  refine and_congr_right fun hne => ⟨?_, ?_⟩
  · rintro ⟨before, after, hstands⟩
    exact hstands.isInfix hus hws
  · rintro ⟨xs, zs, rfl⟩
    obtain ⟨after, hstands⟩ := standsBetween_joinWords hne xs zs
    exact ⟨_, after, hstands⟩

/-- A phrase stands in an utterance, both reduced to letters, if and only if its words do so
in a row. -/
theorem containsPhrase_lettersOnly (utterance phrase : Text) :
    containsPhrase (lettersOnly utterance) (lettersOnly phrase) = true ↔
      letterWords phrase ≠ [] ∧ letterWords phrase <:+: letterWords utterance := by
  rw [lettersOnly_eq, lettersOnly_eq]
  exact containsPhrase_joinWords isLetterWord_of_mem_letterWords isLetterWord_of_mem_letterWords

end VoiceEdit.Text
