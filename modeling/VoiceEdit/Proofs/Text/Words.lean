import VoiceEdit.Proofs.Text.Trimming
import VoiceEdit.Transcript

/-!
# Words

* `flatten_words`: the words of a text are its characters that are no white space.
* `mem_of_mem_words`, `exists_word`: the same of a single character.
* `words_append_blank`, `words_singleton`: words are read one by one.
* `ReadAs`: how a text is read as words, `readAs_words`: as its words.
* `spaced`: words, each with a space behind it.
* `mem_joinWords`, `mem_of_mem_collapse`: joining and collapsing add nothing but spaces.
-/
namespace VoiceEdit.Text

theorem flatten_consHead (c : Char) (ts : List Text) :
    (consHead c ts).flatten = c :: ts.flatten := by
  cases ts <;> rfl

/-- The words of a text are its characters that are no white space. -/
theorem flatten_words (t : Text) : (words t).flatten = t.filter isVisible := by
  have hpos : ∀ {c : Char}, ¬ isBlank c = true → isVisible c = true := by simp [isVisible]
  have hneg : ∀ {c : Char}, isBlank c = true → ¬ isVisible c = true := by simp [isVisible]
  induction t using words.induct with
  | case1 => rfl
  | case2 c hc => rw [words, if_pos hc, List.filter_cons_of_neg (hneg hc)]; rfl
  | case3 c hc => rw [words, if_neg hc, List.filter_cons_of_pos (hpos hc)]; rfl
  | case4 c d rest hc ih => rw [words, if_pos hc, ih, List.filter_cons_of_neg (hneg hc)]
  | case5 c d rest hc hd ih =>
    rw [words, if_neg hc, if_pos hd, List.flatten_cons, ih, List.filter_cons_of_pos (hpos hc)]
    rfl
  | case6 c d rest hc hd ih =>
    rw [words, if_neg hc, if_neg hd, flatten_consHead, ih, List.filter_cons_of_pos (hpos hc)]

/-- The characters of the words of a text are its own. -/
theorem mem_of_mem_words {t w : Text} {c : Char} (hw : w ∈ words t) (hc : c ∈ w) : c ∈ t := by
  have hflat : c ∈ (words t).flatten := List.mem_flatten.2 ⟨w, hw, hc⟩
  rw [flatten_words] at hflat
  exact (List.mem_filter.1 hflat).1

/-- A character that is no white space stands in some word. -/
theorem exists_word {t : Text} {c : Char} (hc : c ∈ t) (hvisible : isBlank c = false) :
    ∃ w ∈ words t, c ∈ w := by
  refine List.mem_flatten.1 ?_
  rw [flatten_words]
  exact List.mem_filter.2 ⟨hc, by rw [isVisible, hvisible]; rfl⟩

theorem words_cons_of_isBlank {c : Char} (hc : isBlank c = true) (t : Text) :
    words (c :: t) = words t := by
  cases t with
  | nil => simp [words, hc]
  | cons d rest => rw [words, if_pos hc]

/-- A word: not empty, and without white space. -/
structure IsWord (w : Text) : Prop where
  ne_nil : w ≠ []
  visible : ∀ c ∈ w, isBlank c = false

/-- A word in front of white space is read by itself. -/
theorem words_append_blank {w : Text} (hword : IsWord w) {blank : Char}
    (hblank : isBlank blank = true) (t : Text) : words (w ++ blank :: t) = w :: words t := by
  obtain ⟨hne, hw⟩ := hword
  induction w with
  | nil => exact absurd rfl hne
  | cons c rest ih =>
    obtain ⟨hc, hrest⟩ := List.forall_mem_cons.1 hw
    have hvisible : ¬ isBlank c = true := by rw [hc]; exact Bool.false_ne_true
    cases rest with
    | nil => rw [List.singleton_append, words, if_neg hvisible, if_pos hblank,
        words_cons_of_isBlank hblank]
    | cons d rest =>
      have hd : ¬ isBlank d = true := by
        rw [hrest d List.mem_cons_self]
        exact Bool.false_ne_true
      have hnext := ih (List.cons_ne_nil d rest) hrest
      rw [List.cons_append] at hnext
      rw [List.cons_append, List.cons_append, words, if_neg hvisible, if_neg hd, hnext]
      rfl

theorem words_singleton {w : Text} (hword : IsWord w) : words w = [w] := by
  obtain ⟨hne, hw⟩ := hword
  induction w with
  | nil => exact absurd rfl hne
  | cons c rest ih =>
    obtain ⟨hc, hrest⟩ := List.forall_mem_cons.1 hw
    have hvisible : ¬ isBlank c = true := by rw [hc]; exact Bool.false_ne_true
    cases rest with
    | nil => rw [words, if_neg hvisible]
    | cons d rest =>
      have hd : ¬ isBlank d = true := by
        rw [hrest d List.mem_cons_self]
        exact Bool.false_ne_true
      rw [words, if_neg hvisible, if_neg hd, ih (List.cons_ne_nil d rest) hrest]
      rfl

/-- How a text is read as words, one after the other. -/
inductive ReadAs : Text → List Text → Prop where
  | nil : ReadAs [] []
  | blank {c : Char} {t : Text} {ws : List Text} (hc : isBlank c = true) (ht : ReadAs t ws) :
      ReadAs (c :: t) ws
  | word {w : Text} (hw : IsWord w) : ReadAs w [w]
  | cons {w t : Text} {c : Char} {ws : List Text} (hw : IsWord w) (hc : isBlank c = true)
      (ht : ReadAs (c :: t) ws) : ReadAs (w ++ c :: t) (w :: ws)

theorem ReadAs.words_eq {t : Text} {ws : List Text} (h : ReadAs t ws) : words t = ws := by
  induction h with
  | nil => rfl
  | blank hc _ ih => rw [words_cons_of_isBlank hc, ih]
  | word hw => exact words_singleton hw
  | cons hw hc _ ih => rw [words_append_blank hw hc, ← words_cons_of_isBlank hc, ih]

theorem ReadAs.isWord {t : Text} {ws : List Text} (h : ReadAs t ws) : ∀ w ∈ ws, IsWord w := by
  induction h with
  | nil => exact fun _ hw => absurd hw List.not_mem_nil
  | blank _ _ ih => exact ih
  | word hw => exact List.forall_mem_cons.2 ⟨hw, fun _ h => absurd h List.not_mem_nil⟩
  | cons hw _ _ ih => exact List.forall_mem_cons.2 ⟨hw, ih⟩

theorem IsWord.cons {c : Char} {w : Text} (hc : isBlank c = false) (hw : IsWord w) :
    IsWord (c :: w) :=
  ⟨List.cons_ne_nil c w, List.forall_mem_cons.2 ⟨hc, hw.visible⟩⟩

/-- A character in front of a word goes into it. -/
theorem ReadAs.consHead {c d : Char} {t : Text} {ws : List Text} (hc : isBlank c = false)
    (hd : isBlank d = false) (h : ReadAs (d :: t) ws) : ReadAs (c :: d :: t) (consHead c ws) := by
  generalize hrest : d :: t = rest at h
  cases h with
  | nil => cases hrest
  | blank hblank _ =>
    obtain ⟨rfl, -⟩ := List.cons.inj hrest
    rw [hblank] at hd
    cases hd
  | word hw => exact .word (hw.cons hc)
  | cons hw hblank ht => exact .cons (hw.cons hc) hblank ht

/-- Every text is read as its words. -/
theorem readAs_words (t : Text) : ReadAs t (words t) := by
  have hvisible : ∀ {c : Char}, ¬ isBlank c = true → isBlank c = false := Bool.eq_false_iff.2
  have hsingle : ∀ {c : Char}, ¬ isBlank c = true → IsWord [c] := fun {c} hc =>
    ⟨List.cons_ne_nil c [], by simpa using hc⟩
  induction t using words.induct with
  | case1 => exact .nil
  | case2 c hc =>
    rw [words, if_pos hc]
    exact .blank hc .nil
  | case3 c hc =>
    rw [words, if_neg hc]
    exact .word (hsingle hc)
  | case4 c d rest hc ih =>
    rw [words, if_pos hc]
    exact .blank hc ih
  | case5 c d rest hc hd ih =>
    rw [words, if_neg hc, if_pos hd]
    exact .cons (hsingle hc) hd ih
  | case6 c d rest hc hd ih =>
    rw [words, if_neg hc, if_neg hd]
    exact ih.consHead (hvisible hc) (hvisible hd)

theorem isWord_of_mem_words {t w : Text} (hw : w ∈ words t) : IsWord w :=
  (readAs_words t).isWord w hw

theorem joinWords_cons_cons (w v : Text) (ws : List Text) :
    joinWords (w :: v :: ws) = w ++ ' ' :: joinWords (v :: ws) := rfl

/-- Words, each with a space behind it. -/
def spaced (ws : List Text) : Text := ws.flatMap (· ++ [' '])

theorem spaced_cons (w : Text) (ws : List Text) : spaced (w :: ws) = w ++ ' ' :: spaced ws := by
  simp [spaced]

theorem joinWords_concat (ws : List Text) (w : Text) : joinWords (ws ++ [w]) = spaced ws ++ w := by
  induction ws with
  | nil => exact List.intercalate_singleton
  | cons v rest ih =>
    cases rest with
    | nil => simp [spaced, joinWords, List.intercalate]
    | cons u us =>
      rw [List.cons_append, List.cons_append, joinWords_cons_cons, ← List.cons_append, ih,
        spaced_cons v, List.append_assoc]
      rfl

/-- A character of joined words is a space or stands in one of them. -/
theorem mem_joinWords {ws : List Text} {c : Char} (hc : c ∈ joinWords ws) :
    c = ' ' ∨ ∃ w ∈ ws, c ∈ w := by
  induction ws with
  | nil => exact absurd hc List.not_mem_nil
  | cons w rest ih =>
    cases rest with
    | nil =>
      rw [joinWords, List.intercalate_singleton] at hc
      exact .inr ⟨w, List.mem_cons_self, hc⟩
    | cons v ws =>
      rw [joinWords_cons_cons] at hc
      rcases List.mem_append.1 hc with hc | hc
      · exact .inr ⟨w, List.mem_cons_self, hc⟩
      rcases List.mem_cons.1 hc with rfl | hc
      · exact .inl rfl
      rcases ih hc with rfl | ⟨u, hu, hc⟩
      · exact .inl rfl
      · exact .inr ⟨u, List.mem_cons_of_mem w hu, hc⟩

/-- A property of the trailing marks. -/
theorem forall_trailingMarks {P : Char → Prop}
    (h : P '.' ∧ P ',' ∧ P '!' ∧ P '?' ∧ P ';' ∧ P ':') {c : Char}
    (hc : Transcript.isTrailingMark c = true) : P c := by
  have hmem : c ∈ ['.', ',', '!', '?', ';', ':'] := List.contains_iff_mem.1 hc
  obtain ⟨hstop, hcomma, hbang, hquestion, hsemicolon, hcolon⟩ := h
  simp only [List.mem_cons, List.not_mem_nil, or_false] at hmem
  rcases hmem with rfl | rfl | rfl | rfl | rfl | rfl
  · exact hstop
  · exact hcomma
  · exact hbang
  · exact hquestion
  · exact hsemicolon
  · exact hcolon

/-- Collapsing adds nothing but spaces. -/
theorem mem_of_mem_collapse {t : Text} {c : Char} (hc : c ∈ Transcript.collapse t) :
    c = ' ' ∨ c ∈ t := by
  rcases mem_joinWords hc with rfl | ⟨w, hw, hc⟩
  · exact .inl rfl
  · exact .inr (mem_of_mem_trim (mem_of_mem_dropEndWhile (mem_of_mem_words hw hc)))

end VoiceEdit.Text
