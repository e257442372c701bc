import VoiceEdit.Dictation.Format
import VoiceEdit.Proofs.Substitution.Segmentation

/-!
# Dictated words cut into phrases

Dictated text is cut into the phrases of special characters and of numbers. Of two phrases
that are the same words, the special character counts.

* `StandsFor`: what a phrase stands for; `reads_phrases`: this is what is looked up.
* `Segments`: how dictated words are cut; `exists_segments`, `Segments.unique`: in one way,
  which is the way in which they are read.
* `Phraseless`: words among which no phrase stands; each is a segment by itself.
-/
namespace VoiceEdit

open Text Transcript Substitution

/-- Some words are a phrase for a special character, which is written as a replacement. -/
def Vocabulary.Inserts (v : Vocabulary) (keys : List Text) (replacement : Text) : Prop :=
  ∃ phrase, (phrase, replacement) ∈ v.specialCharacters.entries ∧ phraseWords phrase = keys

namespace Dictation

/-! ## Phrases -/

/-- No two phrases of one table for dictated text are the same words. -/
structure Distinct (v : Vocabulary) : Prop where
  specials : v.specialCharacters.Distinct
  numbers : v.numberWords.Distinct

/-- What some words stand for: a special character, or else a number. -/
inductive StandsFor (v : Vocabulary) (keys : List Text) : Replacement → Prop where
  | special (replacement : Text) (hinserts : v.Inserts keys replacement) :
      StandsFor v keys (.special replacement)
  | number (n : Nat) (hcounts : v.Counts keys n)
      (hno : ∀ replacement, ¬ v.Inserts keys replacement) : StandsFor v keys (.number n)

variable {v : Vocabulary} {keys ws : List Text} {segments others : List Segment}

/-- Words stand for one thing. -/
theorem StandsFor.unique (hdistinct : Distinct v) {r s : Replacement} (hr : StandsFor v keys r)
    (hs : StandsFor v keys s) : r = s := by
  cases hr with
  | special replacement hinserts =>
    cases hs with
    | special other hother => rw [hdistinct.specials.unique hinserts hother]
    | number n hcounts hno => exact absurd hinserts (hno replacement)
  | number n hcounts hno =>
    cases hs with
    | special other hother => exact absurd hother (hno other)
    | number m hcounts' _ => rw [hdistinct.numbers.unique hcounts hcounts']

/-! ## Looking phrases up -/

/-- The phrases for special characters. -/
def specials (v : Vocabulary) : List (Text × Replacement) :=
  v.specialCharacters.entries.map fun e => (e.1, .special e.2)

theorem inserts_of_meaning {r : Replacement} (h : meaning keys (specials v) = some r) :
    ∃ replacement, r = .special replacement ∧ v.Inserts keys replacement := by
  obtain ⟨phrase, hmem, hwords⟩ := exists_of_meaning_eq_some h
  obtain ⟨e, he, heq⟩ := List.mem_map.1 hmem
  obtain ⟨rfl, rfl⟩ := Prod.mk.inj heq
  exact ⟨e.2, rfl, e.1, he, hwords⟩

theorem not_inserts_of_meaning (h : meaning keys (specials v) = none) (replacement : Text) :
    ¬ v.Inserts keys replacement := by
  rintro ⟨phrase, hentry, hwords⟩
  exact meaning_eq_none_iff.1 h _ (List.mem_map.2 ⟨(phrase, replacement), hentry, rfl⟩) hwords

/-- Special characters are looked up first, and then numbers. -/
theorem lookup_phrases (hne : keys ≠ []) : (phrases v).lookup keys =
    (meaning keys (specials v)).or (meaning keys (numberPhrases v)) := by
  rw [phrases, lookup_phrasesOf hne, meaning_append]
  rfl

/-- What is looked up is what the words stand for. -/
theorem reads_phrases (v : Vocabulary) : Reads (phrases v) (StandsFor v) where
  ne_nil _ := ne_nil_of_mem_phrasesOf
  found keys r hne h := by
    rw [lookup_phrases hne] at h
    cases hspecial : meaning keys (specials v) with
    | some s =>
      rw [hspecial, Option.some_or] at h
      obtain rfl := Option.some.inj h
      obtain ⟨replacement, rfl, hinserts⟩ := inserts_of_meaning hspecial
      exact .special replacement hinserts
    | none =>
      rw [hspecial, Option.none_or] at h
      obtain ⟨n, rfl, hcounts⟩ := counts_of_meaning h
      exact .number n hcounts (not_inserts_of_meaning hspecial)
  missed keys r hne hr := by
    rw [lookup_phrases hne, Ne, Option.or_eq_none_iff]
    rintro ⟨hspecial, hnumber⟩
    cases hr with
    | special replacement hinserts => exact not_inserts_of_meaning hspecial replacement hinserts
    | number n hcounts hno => exact not_counts_of_meaning hnumber n hcounts

/-! ## Segments -/

/-- How the words of a dictated text are cut: into the longest phrases, whatever case they are
said in and whatever marks are at the ends of their words. -/
def Segments (v : Vocabulary) : List Text → List Segment → Prop := Cut wordKey (StandsFor v)

/-- Segments are all of the words, in order. -/
theorem Segments.flatMap_words (h : Segments v ws segments) :
    segments.flatMap Segment.words = ws :=
  Cut.flatMap_words h

/-- Where no two phrases of a table are the same words, words are cut in one way. -/
theorem Segments.unique (hdistinct : Distinct v) (h : Segments v ws segments)
    (h' : Segments v ws others) : segments = others :=
  Cut.unique (fun _ _ _ hr hs => hr.unique hdistinct hs) h h'

/-- Words are cut in some way, which is the way in which they are read. -/
theorem exists_segments (v : Vocabulary) (ws : List Text) :
    ∃ segments, Segments v ws segments ∧
      scan (phrases v) 0 ws = segments.map Segment.piece :=
  exists_cut (reads_phrases v) ws

/-! ## Words without phrases -/

/-- The words of a phrase stand somewhere among some words. -/
def Occurs (phrase : Text) (ws : List Text) : Prop :=
  phraseWords phrase ≠ [] ∧ phraseWords phrase <:+: ws.map wordKey

instance (phrase : Text) (ws : List Text) : Decidable (Occurs phrase ws) :=
  inferInstanceAs (Decidable (_ ∧ _))

/-- No phrase for dictated text stands among some words. -/
structure Phraseless (v : Vocabulary) (ws : List Text) : Prop where
  specials : ∀ e ∈ v.specialCharacters.entries, ¬ Occurs e.1 ws
  numbers : ∀ e ∈ v.numberWords.entries, ¬ Occurs e.1 ws

theorem Phraseless.not_standsFor (h : Phraseless v ws) {r : Replacement} (hne : keys ≠ [])
    (hwithin : keys <:+: ws.map wordKey) : ¬ StandsFor v keys r := by
  intro hstands
  cases hstands with
  | special replacement hinserts =>
    obtain ⟨phrase, hmem, rfl⟩ := hinserts
    exact h.specials _ hmem ⟨hne, hwithin⟩
  | number n hcounts hno =>
    obtain ⟨phrase, hmem, rfl⟩ := hcounts
    exact h.numbers _ hmem ⟨hne, hwithin⟩

theorem Occurs.cons {phrase w : Text} (h : Occurs phrase ws) : Occurs phrase (w :: ws) :=
  ⟨h.1, h.2.trans (List.suffix_cons (wordKey w) (ws.map wordKey)).isInfix⟩

/-- Where no phrase stands, every word is a segment by itself. -/
theorem Phraseless.segments_eq (hnone : Phraseless v ws) (h : Segments v ws segments) :
    segments = ws.map Segment.word := by
  induction h with
  | nil => rfl
  | phrase run rest r segments hne hmeans hlongest hrest ih =>
    have hwithin : run.map wordKey <:+: (run ++ rest).map wordKey :=
      (map_prefix_map_append wordKey run rest).isInfix
    exact absurd hmeans (hnone.not_standsFor (mt List.map_eq_nil_iff.1 hne) hwithin)
  | word w rest segments _ hrest ih =>
    have hothers : Phraseless v rest :=
      ⟨fun e he hoccurs => hnone.specials e he hoccurs.cons,
        fun e he hoccurs => hnone.numbers e he hoccurs.cons⟩
    rw [ih hothers]
    rfl

end Dictation

end VoiceEdit
