import VoiceEdit.Proofs.Text.Offsets
import VoiceEdit.Proofs.Text.Phrase

/-!
# Searching for a phrase by byte offsets

A text in UTF-8 is searched by comparing bytes. Where the bytes of a phrase are met and a word goes
on into the phrase or out of it, the search begins anew behind the first character of what was met,
so that it also meets what overlaps it. Texts are cut on the way at offsets that must lie between
two characters.

* `WrittenAt`, `WrittenAt.split`: the bytes of a phrase are met at characters only.
* `StandsAtOffset`: the offsets at which a phrase stands on whole words.
* `searchFrom?`: the search from an offset on, with every cut looked at.
* `searchFrom?_round`: where the bytes are met, the search ends or goes on behind a character.
* `searchFrom?_spec`: one search finds the first such offset and cuts at characters only.
* `phraseOffset?_first`: it is the search of this library.
-/
namespace VoiceEdit.Text

variable {text phrase a b : Text} {start offset next : Nat}

/-! ## Bytes -/

/-- The bytes of a text in UTF-8. -/
def utf8Bytes (t : Text) : List UInt8 := t.flatMap String.utf8EncodeChar

@[simp] theorem utf8Bytes_cons (c : Char) (t : Text) :
    utf8Bytes (c :: t) = String.utf8EncodeChar c ++ utf8Bytes t := rfl

@[simp] theorem utf8Bytes_append (a b : Text) : utf8Bytes (a ++ b) = utf8Bytes a ++ utf8Bytes b :=
  List.flatMap_append

@[simp] theorem length_utf8Bytes (t : Text) : (utf8Bytes t).length = utf8Length t := by
  induction t with
  | nil => rfl
  | cons c rest ih =>
    rw [utf8Bytes_cons, List.length_append, ih, String.length_utf8EncodeChar, utf8Length_cons]

theorem utf8Encode_eq (t : Text) : t.utf8Encode = (utf8Bytes t).toByteArray := rfl

/-- What begins with the bytes of a text begins with the text. -/
theorem isPrefix_of_utf8Bytes (h : utf8Bytes a <+: utf8Bytes b) : a <+: b := by
  obtain ⟨rest, hrest⟩ := h
  refine List.isPrefix_of_utf8Encode_append_eq_utf8Encode rest.toByteArray ?_
  rw [utf8Encode_eq, utf8Encode_eq, ← List.toByteArray_append, hrest]

theorem getElem?_utf8Bytes {c : Char} (h : offset < c.utf8Size) (rest : Text) :
    ∃ byte, (utf8Bytes (c :: rest))[offset]? = some byte ∧ (byte.IsUTF8FirstByte ↔ offset = 0) := by
  have hlt : offset < (String.utf8EncodeChar c).length := by rwa [String.length_utf8EncodeChar]
  refine ⟨(String.utf8EncodeChar c)[offset], ?_, UInt8.isUTF8FirstByte_getElem_utf8EncodeChar⟩
  rw [utf8Bytes_cons, List.getElem?_append_left hlt, List.getElem?_eq_getElem hlt]

/-! ## Where a phrase is written -/

/-- The bytes of a phrase are met at an offset. -/
def WrittenAt (text phrase : Text) (offset : Nat) : Prop :=
  utf8Bytes phrase <+: (utf8Bytes text).drop offset

theorem writtenAt_append (before phrase after : Text) :
    WrittenAt (before ++ (phrase ++ after)) phrase (utf8Length before) := by
  rw [WrittenAt, utf8Bytes_append, ← length_utf8Bytes, List.drop_left, utf8Bytes_append]
  exact List.prefix_append _ _

/-- The bytes of a phrase are met where its characters are. -/
theorem WrittenAt.split (h : WrittenAt text phrase offset) (hne : phrase ≠ []) :
    ∃ before after, text = before ++ (phrase ++ after) ∧ utf8Length before = offset := by
  obtain ⟨d, tail, hcons⟩ := List.exists_cons_of_ne_nil hne
  obtain ⟨first, hfirst, hisFirst⟩ := getElem?_utf8Bytes (Char.utf8Size_pos d) tail
  have hmet : (utf8Bytes text)[offset]? = some first := by
    obtain ⟨rest, hrest⟩ := h
    have hlength : 0 < (utf8Bytes (d :: tail)).length := (List.getElem?_eq_some_iff.1 hfirst).1
    rw [← hfirst, ← List.getElem?_append_left hlength, ← hcons, hrest, List.getElem?_drop,
      Nat.add_zero]
  induction text generalizing offset with
  | nil => cases hmet
  | cons c rest ih =>
    rcases Nat.lt_or_ge offset c.utf8Size with hinside | hbehind
    · -- the first byte of the phrase begins a character
      obtain ⟨byte, hbyte, hisZero⟩ := getElem?_utf8Bytes hinside rest
      obtain rfl : byte = first := Option.some.inj (hbyte.symm.trans hmet)
      obtain rfl := hisZero.1 (hisFirst.2 rfl)
      obtain ⟨after, hafter⟩ := isPrefix_of_utf8Bytes (b := c :: rest) h
      exact ⟨[], after, hafter.symm, rfl⟩
    · have hlength : (String.utf8EncodeChar c).length ≤ offset := by
        rwa [String.length_utf8EncodeChar]
      have hrest : WrittenAt rest phrase (offset - c.utf8Size) := by
        rw [WrittenAt, utf8Bytes_cons, List.drop_append, List.drop_eq_nil_of_le hlength,
          List.nil_append, String.length_utf8EncodeChar] at h
        exact h
      rw [utf8Bytes_cons, List.getElem?_append_right hlength, String.length_utf8EncodeChar] at hmet
      obtain ⟨before, after, rfl, hbefore⟩ := ih hrest hmet
      refine ⟨c :: before, after, rfl, ?_⟩
      rw [utf8Length_cons, hbefore]
      omega

/-- A phrase stands on whole words from an offset on. -/
def StandsAtOffset (text phrase : Text) (offset : Nat) : Prop :=
  ∃ before after, StandsBetween text phrase before after ∧ utf8Length before = offset

/-- From a cut on, a phrase stands in what is behind the cut. -/
theorem StandsAtOffset.behind (h : StandsAtOffset (a ++ b) phrase offset)
    (hle : utf8Length a ≤ offset) :
    ∃ m after, b = m ++ (phrase ++ after) ∧ utf8Length a + utf8Length m = offset ∧
      StandsBetween (a ++ b) phrase (a ++ m) after := by
  obtain ⟨before, after, hbetween, rfl⟩ := h
  have hsplit := hbetween.split
  rw [List.append_assoc] at hsplit
  obtain ⟨m, rfl, hb⟩ := exists_eq_append_of_le hsplit hle
  exact ⟨m, after, hb, (utf8Length_append a m).symm, hbetween⟩

/-- From a cut on, a phrase stands no earlier than its bytes are met. -/
theorem StandsAtOffset.writtenAt (h : StandsAtOffset (a ++ b) phrase offset)
    (hle : utf8Length a ≤ offset) :
    WrittenAt b phrase (offset - utf8Length a) ∧ offset - utf8Length a ≤ utf8Length b := by
  obtain ⟨m, after, rfl, rfl, -⟩ := h.behind hle
  rw [Nat.add_sub_cancel_left]
  refine ⟨writtenAt_append m phrase after, ?_⟩
  rw [utf8Length_append]
  exact Nat.le_add_right _ _

/-- Behind a place where a phrase does not stand on whole words, it stands behind the character
there at the earliest. -/
theorem StandsAtOffset.behind_char {before tail after : Text} {c : Char}
    (h : StandsAtOffset (before ++ (c :: tail ++ after)) (c :: tail) offset)
    (hle : utf8Length before ≤ offset)
    (hnot : ¬ StandsBetween (before ++ (c :: tail ++ after)) (c :: tail) before after) :
    utf8Length (before ++ [c]) ≤ offset := by
  obtain ⟨m, after', hbehind, rfl, hbetween⟩ := h.behind hle
  cases m with
  | nil =>
    obtain rfl : after = after' := List.append_cancel_left hbehind
    rw [List.append_nil] at hbetween
    exact absurd hbetween hnot
  | cons d m =>
    rw [List.cons_append, List.cons_append, List.cons.injEq] at hbehind
    obtain rfl := hbehind.1
    simp only [utf8Length_append, utf8Length_cons, utf8Length_nil]
    omega

/-! ## The search -/

/-- The offset at which the bytes of a phrase are first met. -/
def writtenOffset? (text phrase : Text) : Option Nat :=
  (List.range (utf8Length text + 1)).find? fun offset =>
    (utf8Bytes phrase).isPrefixOf ((utf8Bytes text).drop offset)

/-- Whether no word goes on into what is met at an offset or out of it, if both its ends lie
between two characters. -/
def onWholeWords? (text phrase : Text) (offset : Nat) : Option Bool := do
  let before ← takeUtf8? offset text
  let after ← dropUtf8? (offset + utf8Length phrase) text
  return isBoundary before.getLast? && isBoundary after.head?

/-- The offset behind the character at an offset. -/
def nextOffset? (text : Text) (offset : Nat) : Option Nat := do
  let rest ← dropUtf8? offset text
  return offset + (rest.head?.map Char.utf8Size).getD 1

theorem le_of_dropUtf8? (h : dropUtf8? offset text = some b) : offset ≤ utf8Length text := by
  obtain ⟨a, rfl, rfl⟩ := dropUtf8?_eq_some_iff.1 h
  rw [utf8Length_append]
  exact Nat.le_add_right _ _

theorem lt_of_nextOffset? (h : nextOffset? text offset = some next) : offset < next := by
  obtain ⟨rest, -, hnext⟩ := Option.bind_eq_some_iff.1 h
  obtain rfl := Option.some.inj hnext
  cases rest with
  | nil => exact Nat.lt_succ_self offset
  | cons c rest => exact Nat.lt_add_of_pos_right (Char.utf8Size_pos c)

/-- The first offset from some offset on at which a phrase stands on whole words; nothing if a
text would have to be cut elsewhere than between two characters. -/
def searchFrom? (text phrase : Text) (start : Nat) : Option (Option Nat) :=
  match _hrest : dropUtf8? start text with
  | none => none
  | some rest =>
    match writtenOffset? rest phrase with
    | none => some none
    | some offset =>
      match onWholeWords? text phrase (start + offset) with
      | none => none
      | some true => some (some (start + offset))
      | some false =>
        match _hnext : nextOffset? text (start + offset) with
        | none => none
        | some next => searchFrom? text phrase next
termination_by utf8Length text + 1 - start
decreasing_by
  have hstart := le_of_dropUtf8? _hrest
  have hlater := lt_of_nextOffset? _hnext
  omega

theorem writtenOffset?_eq_some (h : writtenOffset? text phrase = some offset) :
    WrittenAt text phrase offset ∧ ∀ other, WrittenAt text phrase other → offset ≤ other := by
  obtain ⟨hmet, -, hbefore⟩ := List.find?_range_eq_some.1 h
  refine ⟨List.isPrefixOf_iff_prefix.1 hmet, fun other hother => Nat.le_of_not_lt fun hlt => ?_⟩
  have hnot := hbefore other hlt
  rw [List.isPrefixOf_iff_prefix.2 hother] at hnot
  cases hnot

theorem not_writtenAt_of_writtenOffset? (h : writtenOffset? text phrase = none)
    (hle : offset ≤ utf8Length text) : ¬ WrittenAt text phrase offset := by
  intro hmet
  have hnot := List.find?_range_eq_none.1 h offset (Nat.lt_succ_of_le hle)
  rw [List.isPrefixOf_iff_prefix.2 hmet] at hnot
  cases hnot

theorem onWholeWords?_append (before phrase after : Text) :
    onWholeWords? (before ++ (phrase ++ after)) phrase (utf8Length before) =
      some (isBoundary before.getLast? && isBoundary after.head?) := by
  have hafter : dropUtf8? (utf8Length before + utf8Length phrase) (before ++ (phrase ++ after)) =
      some after := by
    rw [← utf8Length_append, ← List.append_assoc]
    exact dropUtf8?_append _ _
  rw [onWholeWords?, takeUtf8?_append, hafter]
  rfl

theorem standsBetween_iff (before phrase after : Text) :
    StandsBetween (before ++ (phrase ++ after)) phrase before after ↔
      (isBoundary before.getLast? && isBoundary after.head?) = true := by
  rw [Bool.and_eq_true, isBoundary_iff, isBoundary_iff]
  exact ⟨fun h => ⟨h.left, h.right⟩,
    fun ⟨hleft, hright⟩ => ⟨(List.append_assoc _ _ _).symm, hleft, hright⟩⟩

theorem nextOffset?_append (before : Text) (c : Char) (rest : Text) :
    nextOffset? (before ++ c :: rest) (utf8Length before) = some (utf8Length (before ++ [c])) := by
  rw [nextOffset?, dropUtf8?_append, utf8Length_append]
  rfl

/-- One round of the search. -/
theorem searchFrom?_eq (text phrase : Text) (start : Nat) : searchFrom? text phrase start =
    (dropUtf8? start text).bind fun rest =>
      match writtenOffset? rest phrase with
      | none => some none
      | some offset => (onWholeWords? text phrase (start + offset)).bind fun stands =>
        if stands then some (some (start + offset))
        else (nextOffset? text (start + offset)).bind (searchFrom? text phrase) := by
  rw [searchFrom?]
  split
  · rename_i hrest
    rw [hrest]
    rfl
  · rename_i rest hrest
    rw [hrest, Option.bind_some]
    cases writtenOffset? rest phrase with
    | none => rfl
    | some offset =>
      simp only
      cases onWholeWords? text phrase (start + offset) with
      | none => rfl
      | some stands =>
        cases stands with
        | true => rfl
        | false =>
          simp only
          split
          · rename_i hnext
            rw [hnext]
            rfl
          · rename_i next hnext
            rw [hnext]
            rfl

/-- The first offset with a property from some offset on, if there is one. -/
def IsFirstFrom (p : Nat → Prop) (start : Nat) : Option Nat → Prop
  | none => ∀ offset, start ≤ offset → ¬ p offset
  | some offset => start ≤ offset ∧ p offset ∧ ∀ other, start ≤ other → p other → offset ≤ other

theorem IsFirstFrom.unique {p : Nat → Prop} {found other : Option Nat}
    (h : IsFirstFrom p start found) (h' : IsFirstFrom p start other) : found = other := by
  cases found with
  | none =>
    cases other with
    | none => rfl
    | some o => exact absurd h'.2.1 (h o h'.1)
  | some f =>
    cases other with
    | none => exact absurd h.2.1 (h' f h.1)
    | some o => rw [Nat.le_antisymm (h.2.2 o h'.1 h'.2.1) (h'.2.2 f h.1 h.2.1)]

/-- What is first from a later offset on is first from an earlier one on, if there is nothing
between the two. -/
theorem IsFirstFrom.of_later {p : Nat → Prop} {found : Option Nat} (h : IsFirstFrom p next found)
    (hle : start ≤ next) (hnone : ∀ offset, start ≤ offset → p offset → next ≤ offset) :
    IsFirstFrom p start found := by
  cases found with
  | none => exact fun offset hoffset hp => h offset (hnone offset hoffset hp) hp
  | some f =>
    refine ⟨Nat.le_trans hle h.1, h.2.1, fun other hother hp => ?_⟩
    exact h.2.2 other (hnone other hother hp) hp

/-- From a cut on, a phrase stands where its bytes are first met at the earliest. -/
theorem le_of_writtenOffset? (hfirst : writtenOffset? b phrase = some next)
    (h : StandsAtOffset (a ++ b) phrase offset) (hle : utf8Length a ≤ offset) :
    utf8Length a + next ≤ offset := by
  have hnext := (writtenOffset?_eq_some hfirst).2 _ (StandsAtOffset.writtenAt h hle).1
  omega

/-- A round that meets the bytes of a phrase ends the search there or takes it behind the character
there. -/
theorem searchFrom?_round {m tail after : Text} {c : Char} (a : Text)
    (hfirst : writtenOffset? (m ++ (c :: tail ++ after)) (c :: tail) = some (utf8Length m)) :
    searchFrom? (a ++ (m ++ (c :: tail ++ after))) (c :: tail) (utf8Length a) =
      if isBoundary (a ++ m).getLast? && isBoundary after.head? then
        some (some (utf8Length (a ++ m)))
      else
        searchFrom? (a ++ (m ++ (c :: tail ++ after))) (c :: tail) (utf8Length (a ++ m ++ [c])) := by
  rw [searchFrom?_eq, dropUtf8?_append, Option.bind_some, hfirst]
  simp only
  rw [← utf8Length_append, ← List.append_assoc, onWholeWords?_append, Option.bind_some,
    List.cons_append, nextOffset?_append, Option.bind_some]

/-- **The search.** From between two characters on, it cuts texts between two characters only and
finds the first place of a phrase. -/
theorem searchFrom?_spec (hne : phrase ≠ []) (a b : Text) :
    ∃ found, searchFrom? (a ++ b) phrase (utf8Length a) = some found ∧
      IsFirstFrom (StandsAtOffset (a ++ b) phrase) (utf8Length a) found := by
  -- on what is left to search; the text as a whole stays the same
  induction hlength : b.length using Nat.strongRecOn generalizing a b with
  | ind n ih =>
    cases hfirst : writtenOffset? b phrase with
    | none =>
      refine ⟨none, ?_, fun other hother hstands => ?_⟩
      · rw [searchFrom?_eq, dropUtf8?_append, Option.bind_some, hfirst]
      · obtain ⟨hwritten, hle⟩ := StandsAtOffset.writtenAt hstands hother
        exact not_writtenAt_of_writtenOffset? hfirst hle hwritten
    | some offset =>
      obtain ⟨m, after, rfl, rfl⟩ := (writtenOffset?_eq_some hfirst).1.split hne
      obtain ⟨c, tail, rfl⟩ := List.exists_cons_of_ne_nil hne
      have hcut : utf8Length a ≤ utf8Length (a ++ m) := by
        rw [utf8Length_append]
        exact Nat.le_add_right _ _
      have hnotBefore : ∀ other, utf8Length a ≤ other →
          StandsAtOffset (a ++ (m ++ (c :: tail ++ after))) (c :: tail) other →
            utf8Length (a ++ m) ≤ other := by
        intro other hother hstands
        rw [utf8Length_append]
        exact le_of_writtenOffset? hfirst hstands hother
      rw [searchFrom?_round a hfirst]
      rw [← List.append_assoc] at hnotBefore ⊢
      split
      · rename_i hwords
        have hbetween := (standsBetween_iff (a ++ m) (c :: tail) after).2 hwords
        exact ⟨_, rfl, hcut, ⟨a ++ m, after, hbetween, rfl⟩, hnotBefore⟩
      · rename_i hwords
        have hnot := mt (standsBetween_iff (a ++ m) (c :: tail) after).1 hwords
        have hshorter : (tail ++ after).length < n := by
          rw [← hlength, List.length_append, List.length_append, List.length_append,
            List.length_cons]
          omega
        obtain ⟨found, hfound, hisFirst⟩ := ih _ hshorter (a ++ m ++ [c]) (tail ++ after) rfl
        have htext : a ++ m ++ [c] ++ (tail ++ after) = a ++ m ++ (c :: tail ++ after) := by
          rw [List.append_assoc, List.singleton_append, List.cons_append]
        rw [htext] at hfound hisFirst
        refine ⟨found, hfound, hisFirst.of_later ?_ fun other hother hstands =>
          StandsAtOffset.behind_char hstands (hnotBefore other hother hstands) hnot⟩
        rw [utf8Length_append]
        exact Nat.le_trans hcut (Nat.le_add_right _ _)

/-- The search of this library finds the same place. -/
theorem isFirstFrom_phraseOffset? (hne : phrase ≠ []) (text : Text) :
    IsFirstFrom (StandsAtOffset text phrase) 0 (phraseOffset? text phrase) := by
  unfold phraseOffset?
  cases hfound : splitAtPhrase? text phrase with
  | none =>
    intro offset _ hstands
    obtain ⟨before, after, hbetween, -⟩ := hstands
    rcases (splitAtPhrase?_eq_none_iff text phrase).1 hfound with hempty | hnowhere
    · exact hne hempty
    · exact hnowhere before.length ⟨before, after, hbetween, rfl⟩
  | some parts =>
    obtain ⟨before, after⟩ := parts
    obtain ⟨-, hbetween, -, hleast⟩ := splitAtPhrase?_eq_some_parts hfound
    refine ⟨Nat.zero_le _, ⟨before, after, hbetween, rfl⟩, ?_⟩
    rintro _ - ⟨before', after', hbetween', rfl⟩
    have hlength := hleast before'.length ⟨before', after', hbetween', rfl⟩
    have hprefix : before <+: text := by
      rw [hbetween.split, List.append_assoc]
      exact List.prefix_append _ _
    have hprefix' : before' <+: text := by
      rw [hbetween'.split, List.append_assoc]
      exact List.prefix_append _ _
    obtain ⟨m, rfl⟩ := List.prefix_of_prefix_length_le hprefix hprefix' hlength
    rw [utf8Length_append]
    exact Nat.le_add_right _ _

/-- **The first place of a phrase.** The search by offsets ends, cuts texts between two characters
only, and finds what the search of this library finds: the least offset at which the phrase stands
on whole words, or nothing if and only if it stands so nowhere. The bytes of a phrase are met at
its characters only. -/
theorem phraseOffset?_first (hne : phrase ≠ []) (text : Text) :
    searchFrom? text phrase 0 = some (phraseOffset? text phrase) ∧
    (∀ offset, phraseOffset? text phrase = some offset ↔ StandsAtOffset text phrase offset ∧
      ∀ other, StandsAtOffset text phrase other → offset ≤ other) ∧
    (phraseOffset? text phrase = none ↔ ∀ offset, ¬ StandsAtOffset text phrase offset) ∧
    (∀ offset, WrittenAt text phrase offset ↔
      ∃ before after, text = before ++ (phrase ++ after) ∧ utf8Length before = offset) := by
  have hfirst := isFirstFrom_phraseOffset? hne text
  refine ⟨?_, fun offset => ⟨fun hfound => ?_, fun ⟨hstands, hleast⟩ => ?_⟩,
    ⟨fun hnone => ?_, fun hnone => ?_⟩, fun offset => ⟨fun h => h.split hne, ?_⟩⟩
  · obtain ⟨found, hfound, hisFirst⟩ := searchFrom?_spec hne [] text
    exact hfound.trans (congrArg some (hisFirst.unique hfirst))
  · rw [hfound] at hfirst
    exact ⟨hfirst.2.1, fun other => hfirst.2.2 other (Nat.zero_le _)⟩
  · have hoffset : IsFirstFrom (StandsAtOffset text phrase) 0 (some offset) :=
      ⟨Nat.zero_le _, hstands, fun other _ => hleast other⟩
    exact hfirst.unique hoffset
  · rw [hnone] at hfirst
    exact fun offset => hfirst offset (Nat.zero_le _)
  · have hnowhere : IsFirstFrom (StandsAtOffset text phrase) 0 none := fun offset _ => hnone offset
    exact hfirst.unique hnowhere
  · rintro ⟨before, after, rfl, rfl⟩
    exact writtenAt_append before phrase after

/-- The bytes of the phrase are first met inside a word, and what is found overlaps them. -/
theorem phraseOffset?_first_overlapping :
    searchFrom? "aé é é".toList "é é".toList 0 = some (some 4) ∧
    (WrittenAt "aé é é".toList "é é".toList 1 ∧ ¬ StandsAtOffset "aé é é".toList "é é".toList 1) ∧
    StandsAtOffset "aé é é".toList "é é".toList 4 := by
  have hne : "é é".toList ≠ [] := by decide
  obtain ⟨hsearch, hsome, -, hwritten⟩ := phraseOffset?_first hne "aé é é".toList
  have hfound : phraseOffset? "aé é é".toList "é é".toList = some 4 := by decide +kernel
  obtain ⟨hstands, hleast⟩ := (hsome 4).1 hfound
  refine ⟨hsearch.trans (congrArg some hfound),
    ⟨(hwritten 1).2 ⟨['a'], " é".toList, by decide, by decide⟩, fun hearlier => ?_⟩, hstands⟩
  have := hleast 1 hearlier
  omega

end VoiceEdit.Text
