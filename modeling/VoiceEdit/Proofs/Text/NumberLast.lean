import VoiceEdit.Proofs.Text.Casing
import VoiceEdit.Proofs.Text.Digits
import VoiceEdit.Proofs.Text.Phrase
import VoiceEdit.Proofs.Text.Words

/-!
# Texts that end in a number

A number behind some words is a word of its own. It stays as it is where texts are
collapsed, lowered and trimmed, and no phrase reaches into it.

* `collapse_spaced_append`, `normalize_spaced_append`: such words and a number are
  said as they are.
* `splitAtPhrase?_append_digits`: a phrase without digits is found where it is found
  without the number.
-/
namespace VoiceEdit.Text

open Transcript

/-- A word in lower case, not empty and without white space. -/
structure IsQuiet (w : Text) : Prop where
  ne_nil : w ≠ []
  visible : ∀ c ∈ w, isBlank c = false
  lower : ∀ c ∈ w, IsLower c

instance (w : Text) : Decidable (IsQuiet w) :=
  decidable_of_iff (w ≠ [] ∧ w.all (fun c => !isBlank c && decide (IsLower c)) = true) <| by
    simp only [List.all_eq_true, Bool.and_eq_true, Bool.not_eq_true', decide_eq_true_eq]
    exact ⟨fun ⟨hne, hall⟩ => ⟨hne, fun c hc => (hall c hc).1, fun c hc => (hall c hc).2⟩,
      fun h => ⟨h.ne_nil, fun c hc => ⟨h.visible c hc, h.lower c hc⟩⟩⟩

theorem IsQuiet.isWord {w : Text} (h : IsQuiet w) : IsWord w := ⟨h.ne_nil, h.visible⟩

variable {ws : List Text} {d : Text}

/-! ## Digits -/

theorem isQuiet_of_isDecimal (h : isDecimal d = true) : IsQuiet d := by
  obtain ⟨hne, hdigits⟩ := isDecimal_iff.1 h
  have hvisible : ∀ k < 10, isBlank (Nat.digitChar k) = false := by decide +kernel
  have hlower : ∀ k < 10, IsLower (Nat.digitChar k) := by decide +kernel
  exact ⟨hne, fun c hc => forall_digits (P := fun c => isBlank c = false) hvisible (hdigits c hc),
    fun c hc => forall_digits (P := IsLower) hlower (hdigits c hc)⟩

theorem not_isTrailingMark_of_isDigit {c : Char} (h : c.isDigit = true) :
    isTrailingMark c = false := by
  have hdigits : ∀ k < 10, isTrailingMark (Nat.digitChar k) = false := by decide
  exact forall_digits (P := fun c => isTrailingMark c = false) hdigits h

/-- A number stays where a text is trimmed. -/
theorem trim_append_digits (h : isDecimal d = true) (a : Text) : trim (a ++ d) = trimStart a ++ d := by
  obtain ⟨hne, hvisible, -⟩ := isQuiet_of_isDecimal h
  obtain ⟨c, rest, hd⟩ := List.exists_cons_of_ne_nil hne
  have hdrop : trimStart d = d := by
    have hc : ¬ isBlank c = true := by
      rw [hvisible c (by rw [hd]; exact List.mem_cons_self)]
      exact Bool.false_ne_true
    rw [trimStart, hd, List.dropWhile_cons_of_neg hc]
  have hstart : trimStart (a ++ d) = trimStart a ++ d := by
    rw [trimStart, List.dropWhile_append]
    split
    · rename_i hblank
      rw [trimStart, List.isEmpty_iff.1 hblank, List.nil_append]
      exact hdrop
    · rfl
  rw [trim, hstart]
  exact dropEndWhile_append_of_not hne hvisible _

/-! ## Words and a number -/

theorem words_spaced_append (hws : ∀ w ∈ ws, IsQuiet w) (t : Text) :
    words (spaced ws ++ t) = ws ++ words t := by
  induction ws with
  | nil => rfl
  | cons w rest ih =>
    obtain ⟨hw, hrest⟩ := List.forall_mem_cons.1 hws
    rw [spaced_cons, List.append_assoc, List.cons_append,
      words_append_blank hw.isWord (by decide), ih hrest]
    rfl

theorem words_spaced_digits (hws : ∀ w ∈ ws, IsQuiet w) (hd : isDecimal d = true) :
    words (spaced ws ++ d) = ws ++ [d] := by
  have hquiet := isQuiet_of_isDecimal hd
  rw [words_spaced_append hws, words_singleton hquiet.isWord]

theorem trimStart_spaced (hws : ∀ w ∈ ws, IsQuiet w) : trimStart (spaced ws) = spaced ws := by
  cases ws with
  | nil => rfl
  | cons w rest =>
    obtain ⟨hne, hvisible, -⟩ := hws w List.mem_cons_self
    obtain ⟨c, w', rfl⟩ := List.exists_cons_of_ne_nil hne
    have hc : ¬ isBlank c = true := by
      rw [hvisible c List.mem_cons_self]
      exact Bool.false_ne_true
    rw [spaced_cons, trimStart, List.cons_append, List.dropWhile_cons_of_neg hc]

theorem trim_spaced_append (hws : ∀ w ∈ ws, IsQuiet w) (hd : isDecimal d = true) :
    trim (spaced ws ++ d) = spaced ws ++ d := by
  rw [trim_append_digits hd, trimStart_spaced hws]

/-- Words and a number are said as they are. -/
theorem collapse_spaced_append (hws : ∀ w ∈ ws, IsQuiet w) (hd : isDecimal d = true) :
    collapse (spaced ws ++ d) = spaced ws ++ d := by
  obtain ⟨hne, hdigits⟩ := isDecimal_iff.1 hd
  have hmarks : dropTrailingMarks (spaced ws ++ d) = spaced ws ++ d :=
    dropEndWhile_append_of_not hne (fun c hc => not_isTrailingMark_of_isDigit (hdigits c hc)) _
  rw [collapse, trim_spaced_append hws hd, hmarks, words_spaced_digits hws hd, joinWords_concat]

theorem normalize_spaced_append (hws : ∀ w ∈ ws, IsQuiet w) (hd : isDecimal d = true) :
    Transcript.normalize (spaced ws ++ d) = spaced ws ++ d := by
  rw [Transcript.normalize, collapse_spaced_append hws hd]
  refine lower_eq_self fun c hc => ?_
  rcases List.mem_append.1 hc with hc | hc
  · obtain ⟨w, hw, hc⟩ := List.mem_flatMap.1 hc
    rcases List.mem_append.1 hc with hc | hc
    · exact (hws w hw).lower c hc
    · rw [List.mem_singleton.1 hc]
      decide +kernel
  · exact (isQuiet_of_isDecimal hd).lower c hc

/-! ## Phrases in front of a number -/

/-- A phrase without digits that does not end in a space. -/
structure IsNumberless (phrase : Text) : Prop where
  no_digit : ∀ c ∈ phrase, c.isDigit = false
  no_space : phrase.getLast? ≠ some ' '

instance (phrase : Text) : Decidable (IsNumberless phrase) :=
  decidable_of_iff (phrase.all (fun c => !c.isDigit) = true ∧ phrase.getLast? ≠ some ' ') <| by
    simp only [List.all_eq_true, Bool.not_eq_true']
    exact ⟨fun ⟨hdigit, hspace⟩ => ⟨hdigit, hspace⟩, fun h => ⟨h.no_digit, h.no_space⟩⟩

variable {phrase : Text}

/-- A phrase without digits starts a text in front of a number or not at all. -/
theorem prefix_append_digits_iff (hphrase : ∀ c ∈ phrase, c.isDigit = false) (hd : IsDigits d)
    (t : Text) : phrase <+: t ++ d ↔ phrase <+: t := by
  refine ⟨fun h => ?_, fun h => h.trans (List.prefix_append t d)⟩
  rcases Nat.le_total phrase.length t.length with hle | hle
  · exact List.prefix_of_prefix_length_le h (List.prefix_append t d) hle
  · obtain ⟨more, rfl⟩ := List.prefix_of_prefix_length_le (List.prefix_append t d) h hle
    obtain ⟨after, hafter⟩ := h
    rw [List.append_assoc] at hafter
    have hmore := List.append_cancel_left hafter
    cases more with
    | nil => simp
    | cons c more =>
      have hc : c ∈ d := by rw [← hmore]; exact List.mem_cons_self
      have hnot := hphrase c (List.mem_append_right t List.mem_cons_self)
      rw [hd c hc] at hnot
      cases hnot

theorem splitFrom_digits (hne : phrase ≠ []) (hphrase : ∀ c ∈ phrase, c.isDigit = false)
    (hd : IsDigits d) (reversed : Text) : splitFrom phrase reversed d = none := by
  induction d generalizing reversed with
  | nil => rfl
  | cons c rest ih =>
    have hprefix : phrase.isPrefixOf (c :: rest) = false := by
      rw [Bool.eq_false_iff, Ne, List.isPrefixOf_iff_prefix]
      intro h
      have hnil := (prefix_append_digits_iff hphrase hd []).1 (by simpa using h)
      exact hne (List.prefix_nil.1 hnil)
    rw [splitFrom, hprefix, Bool.false_and, Bool.false_and, if_neg Bool.false_ne_true]
    exact ih (fun c' hc' => hd c' (List.mem_cons_of_mem c hc')) _

/-- A phrase ends before the space at the end of a text, so a number behind that space is
not what follows the phrase. -/
theorem drop_append_digits (hphrase : IsNumberless phrase) {t : Text} (hlast : t.getLast? = some ' ')
    (hstarts : phrase <+: t) (d : Text) :
    (t ++ d).drop phrase.length = t.drop phrase.length ++ d ∧
      ((t ++ d).drop phrase.length).head? = (t.drop phrase.length).head? := by
  obtain ⟨after, rfl⟩ := hstarts
  have hafter : after ≠ [] := by
    rintro rfl
    rw [List.append_nil] at hlast
    exact hphrase.no_space hlast
  rw [List.append_assoc, List.drop_left, List.drop_left]
  exact ⟨rfl, List.head?_append_of_ne_nil after hafter⟩

/-- The search in a text that ends in a space does not see a number behind it. -/
theorem splitFrom_append_digits (hne : phrase ≠ []) (hphrase : IsNumberless phrase)
    (hd : IsDigits d) {t : Text} (ht : t = [] ∨ t.getLast? = some ' ') (reversed : Text) :
    splitFrom phrase reversed (t ++ d) =
      (splitFrom phrase reversed t).map fun (before, after) => (before, after ++ d) := by
  induction t generalizing reversed with
  | nil => exact splitFrom_digits hne hphrase.no_digit hd reversed
  | cons c rest ih =>
    have hlast : (c :: rest).getLast? = some ' ' := ht.resolve_left (List.cons_ne_nil c rest)
    have hrest : rest = [] ∨ rest.getLast? = some ' ' := by
      cases rest with
      | nil => exact .inl rfl
      | cons c' rest => exact .inr (by rw [← hlast, List.getLast?_cons_cons])
    have hnext := ih hrest (c :: reversed)
    have hsame : phrase.isPrefixOf (c :: (rest ++ d)) = phrase.isPrefixOf (c :: rest) := by
      rw [Bool.eq_iff_iff, List.isPrefixOf_iff_prefix, List.isPrefixOf_iff_prefix]
      exact prefix_append_digits_iff hphrase.no_digit hd (c :: rest)
    rw [List.cons_append, splitFrom, splitFrom, hsame, hnext]
    cases hstarts : phrase.isPrefixOf (c :: rest) with
    | true =>
      obtain ⟨hdrop, hhead⟩ :=
        drop_append_digits hphrase hlast (List.isPrefixOf_iff_prefix.1 hstarts) d
      rw [List.cons_append] at hdrop hhead
      rw [hhead, hdrop]
      split <;> rfl
    | false => rfl

/-- A phrase without digits is found where it is found without the number. -/
theorem splitAtPhrase?_append_digits (hphrase : IsNumberless phrase) (hd : IsDigits d)
    (ws : List Text) : splitAtPhrase? (spaced ws ++ d) phrase =
      (splitAtPhrase? (spaced ws) phrase).map fun (before, after) => (before, after ++ d) := by
  have hlast : spaced ws = [] ∨ (spaced ws).getLast? = some ' ' := by
    rcases List.eq_nil_or_concat ws with rfl | ⟨front, w, rfl⟩
    · exact .inl rfl
    · refine .inr ?_
      rw [spaced, List.concat_eq_append, List.flatMap_append]
      simp
  unfold splitAtPhrase?
  split
  · rfl
  · rename_i hne
    exact splitFrom_append_digits (fun h => hne (List.isEmpty_iff.2 h)) hphrase hd hlast []

end VoiceEdit.Text
