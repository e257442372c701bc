import VoiceEdit.Proofs.Substitution.Cutting
import VoiceEdit.Proofs.Substitution.Grouping

/-!
# Words cut into the phrases of a profile

* `StandsFor`: what a phrase stands for; the first category of a profile decides, and
  number words come last.
* `reads_phrases`: this is what is looked up.
* `Segments`: how the words of a normalized text are cut; `segments_iff_cut`: into longest
  phrases, compared without the marks at the ends of words.
* `exists_segments`, `Segments.unique`: words are cut in one way, which is the way in
  which they are read.
* `Argument.raws_segments`: the arguments of a text are those of its segments.
-/
namespace VoiceEdit

open Text Transcript Substitution

/-! ## Phrases -/

/-- No two phrases of a table are the same words. -/
def PhraseTable.Distinct {α : Type} (t : PhraseTable α) : Prop :=
  ∀ a ∈ t.entries, ∀ b ∈ t.entries, phraseWords a.1 = phraseWords b.1 → a.1 = b.1

/-- No two phrases of one table for arguments are the same words. -/
structure Vocabulary.Distinct (v : Vocabulary) : Prop where
  categories : ∀ category, (v.phrases category).Distinct
  numbers : v.numberWords.Distinct

/-- In a table without two such phrases, words have one value. -/
theorem PhraseTable.Distinct.value_eq {α : Type} {t : PhraseTable α} (h : t.Distinct)
    {a b : Text × α} (ha : a ∈ t.entries) (hb : b ∈ t.entries)
    (hwords : phraseWords a.1 = phraseWords b.1) : a.2 = b.2 := by
  have hphrase := h a ha b hb hwords
  have ha' := (PhraseTable.get?_eq_some_iff t a.1 a.2).2 ha
  have hb' := (PhraseTable.get?_eq_some_iff t b.1 b.2).2 hb
  rw [hphrase, hb'] at ha'
  exact (Option.some.inj ha').symm

theorem PhraseTable.Distinct.unique {α : Type} {t : PhraseTable α} (h : t.Distinct)
    {keys : List Text} {a b : α}
    (ha : ∃ phrase, (phrase, a) ∈ t.entries ∧ phraseWords phrase = keys)
    (hb : ∃ phrase, (phrase, b) ∈ t.entries ∧ phraseWords phrase = keys) : a = b := by
  obtain ⟨phrase, hmem, hwords⟩ := ha
  obtain ⟨phrase', hmem', hwords'⟩ := hb
  exact h.value_eq hmem hmem' (hwords.trans hwords'.symm)

/-- Some words are an admitted phrase of a category and stand for a code. -/
def Profile.Binds (p : Profile) (v : Vocabulary) (category : Category) (keys : List Text)
    (code : Text) : Prop :=
  ∃ phrase, (phrase, code) ∈ (v.phrases category).entries ∧ p.admits category code = true ∧
    phraseWords phrase = keys

/-- Some words are a number phrase. -/
def Vocabulary.Counts (v : Vocabulary) (keys : List Text) (n : Nat) : Prop :=
  ∃ phrase, (phrase, n) ∈ v.numberWords.entries ∧ phraseWords phrase = keys

/-- What some words stand for: the code in the first category of the profile that has them
as an admitted phrase, or else a number. -/
inductive StandsFor (p : Profile) (v : Vocabulary) (keys : List Text) : Replacement → Prop where
  | code (before : List Category) (category : Category) (after : List Category) (code : Text)
      (hcategories : p.categories = before ++ category :: after)
      (hbound : p.Binds v category keys code)
      (hfirst : ∀ earlier ∈ before, ∀ other, ¬ p.Binds v earlier keys other) :
      StandsFor p v keys (.code code)
  | number (n : Nat) (hcounts : v.Counts keys n)
      (hno : ∀ category ∈ p.categories, ∀ code, ¬ p.Binds v category keys code) :
      StandsFor p v keys (.number n)

/-- Whether some words are a phrase. -/
def IsPhrase (p : Profile) (v : Vocabulary) (keys : List Text) : Prop :=
  ∃ r, StandsFor p v keys r

variable {p : Profile} {v : Vocabulary}

/-- Of the members of a list that satisfy a predicate, one is the first. -/
theorem first_unique {α : Type} {P : α → Prop} {before after before' after' : List α} {a a' : α}
    (hsplit : before ++ a :: after = before' ++ a' :: after') (ha : P a) (ha' : P a')
    (hbefore : ∀ b ∈ before, ¬ P b) (hbefore' : ∀ b ∈ before', ¬ P b) : a = a' := by
  classical
  have h : (before ++ a :: after).find? (fun b => decide (P b)) = some a :=
    List.find?_eq_some_iff_append.2 ⟨decide_eq_true ha, before, after, rfl,
      fun b hb => by rw [decide_eq_false (hbefore b hb)]; rfl⟩
  have h' : (before' ++ a' :: after').find? (fun b => decide (P b)) = some a' :=
    List.find?_eq_some_iff_append.2 ⟨decide_eq_true ha', before', after', rfl,
      fun b hb => by rw [decide_eq_false (hbefore' b hb)]; rfl⟩
  rw [hsplit, h'] at h
  exact (Option.some.inj h).symm

theorem Vocabulary.Distinct.code_eq (hdistinct : v.Distinct) {category : Category}
    {keys : List Text} {code other : Text} (hcode : p.Binds v category keys code)
    (hother : p.Binds v category keys other) : code = other := by
  obtain ⟨phrase, hmem, -, hwords⟩ := hcode
  obtain ⟨phrase', hmem', -, hwords'⟩ := hother
  exact (hdistinct.categories category).value_eq hmem hmem' (hwords.trans hwords'.symm)

theorem Vocabulary.Distinct.number_eq (hdistinct : v.Distinct) {keys : List Text} {n m : Nat}
    (hn : v.Counts keys n) (hm : v.Counts keys m) : n = m :=
  hdistinct.numbers.unique hn hm

/-- Words stand for one thing. -/
theorem StandsFor.unique (hdistinct : v.Distinct) {keys : List Text} {r s : Replacement}
    (hr : StandsFor p v keys r) (hs : StandsFor p v keys s) : r = s := by
  cases hr with
  | code before category after code hcategories hbound hfirst =>
    cases hs with
    | code before' category' after' code' hcategories' hbound' hfirst' =>
      obtain rfl := first_unique (P := fun c => ∃ code, p.Binds v c keys code)
        (hcategories.symm.trans hcategories') ⟨code, hbound⟩ ⟨code', hbound'⟩
        (fun b hb ⟨other, h⟩ => hfirst b hb other h) (fun b hb ⟨other, h⟩ => hfirst' b hb other h)
      rw [hdistinct.code_eq hbound hbound']
    | number n hcounts hno =>
      exact absurd hbound (hno category (by rw [hcategories]; simp) code)
  | number n hcounts hno =>
    cases hs with
    | code before category after code hcategories hbound hfirst =>
      exact absurd hbound (hno category (by rw [hcategories]; simp) code)
    | number m hcounts' _ => rw [hdistinct.number_eq hcounts hcounts']

/-! ## Looking phrases up -/

/-- What some words stand for among some bindings, of which the first counts. -/
def meaning (keys : List Text) (bindings : List (Text × Replacement)) : Option Replacement :=
  bindings.findSome? fun b => if phraseWords b.1 = keys then some b.2 else none

theorem lookup_phrasesOf {keys : List Text} (hne : keys ≠ [])
    (bindings : List (Text × Replacement)) :
    (phrasesOf bindings).lookup keys = meaning keys bindings := by
  unfold phrasesOf meaning
  induction bindings with
  | nil => rfl
  | cons b rest ih =>
    rw [List.map_cons, List.filter_cons, List.findSome?_cons, ← ih]
    by_cases hkeys : phraseWords b.1 = keys
    · have hkept : (!keys.isEmpty) = true := by
        rw [List.isEmpty_eq_false_iff.2 hne]
        rfl
      rw [hkeys, if_pos hkept, if_pos rfl, List.lookup_cons_self]
    · rw [if_neg hkeys]
      split
      · rw [List.lookup_cons, beq_false_of_ne (Ne.symm hkeys)]
      · rfl

theorem meaning_append (keys : List Text) (a b : List (Text × Replacement)) :
    meaning keys (a ++ b) = (meaning keys a).or (meaning keys b) := List.findSome?_append

/-- Of several lists of bindings the first that has the words counts. -/
theorem meaning_flatMap {α : Type} (keys : List Text) (f : α → List (Text × Replacement))
    (l : List α) : meaning keys (l.flatMap f) = l.findSome? fun a => meaning keys (f a) := by
  induction l with
  | nil => rfl
  | cons a rest ih =>
    rw [List.flatMap_cons, meaning_append, ih, List.findSome?_cons]
    cases meaning keys (f a) <;> rfl

theorem exists_of_meaning_eq_some {keys : List Text} {bindings : List (Text × Replacement)}
    {r : Replacement} (h : meaning keys bindings = some r) :
    ∃ phrase, (phrase, r) ∈ bindings ∧ phraseWords phrase = keys := by
  obtain ⟨b, hmem, hb⟩ := List.exists_of_findSome?_eq_some h
  obtain ⟨hwords, hr⟩ := Option.ite_none_right_eq_some.1 hb
  obtain rfl := Option.some.inj hr
  exact ⟨b.1, hmem, hwords⟩

theorem meaning_eq_none_iff {keys : List Text} {bindings : List (Text × Replacement)} :
    meaning keys bindings = none ↔ ∀ b ∈ bindings, phraseWords b.1 ≠ keys := by
  rw [meaning, List.findSome?_eq_none_iff]
  exact forall₂_congr fun b _ => ite_eq_right_iff.trans (by simp)

/-- The bindings of a category that a profile admits. -/
def Profile.bindings (p : Profile) (v : Vocabulary) (category : Category) :
    List (Text × Replacement) :=
  ((v.phrases category).entries.filter fun e => p.admits category e.2).map
    fun e => (e.1, .code e.2)

theorem mem_bindings_iff {category : Category} {phrase : Text} {r : Replacement} :
    (phrase, r) ∈ p.bindings v category ↔ ∃ code, r = .code code ∧
      (phrase, code) ∈ (v.phrases category).entries ∧ p.admits category code = true := by
  rw [Profile.bindings, List.mem_map]
  constructor
  · rintro ⟨e, he, heq⟩
    obtain ⟨rfl, rfl⟩ := Prod.mk.inj heq
    obtain ⟨hmem, hadmits⟩ := List.mem_filter.1 he
    exact ⟨e.2, rfl, hmem, hadmits⟩
  · rintro ⟨code, rfl, hmem, hadmits⟩
    exact ⟨(phrase, code), List.mem_filter.2 ⟨hmem, hadmits⟩, rfl⟩

theorem binds_of_meaning {category : Category} {keys : List Text} {r : Replacement}
    (h : meaning keys (p.bindings v category) = some r) :
    ∃ code, r = .code code ∧ p.Binds v category keys code := by
  obtain ⟨phrase, hmem, hwords⟩ := exists_of_meaning_eq_some h
  obtain ⟨code, rfl, hentry, hadmits⟩ := mem_bindings_iff.1 hmem
  exact ⟨code, rfl, phrase, hentry, hadmits, hwords⟩

theorem not_binds_of_meaning {category : Category} {keys : List Text}
    (h : meaning keys (p.bindings v category) = none) (code : Text) :
    ¬ p.Binds v category keys code := by
  rintro ⟨phrase, hentry, hadmits, hwords⟩
  exact meaning_eq_none_iff.1 h _ (mem_bindings_iff.2 ⟨code, rfl, hentry, hadmits⟩) hwords

theorem counts_of_meaning {keys : List Text} {r : Replacement}
    (h : meaning keys (numberPhrases v) = some r) : ∃ n, r = .number n ∧ v.Counts keys n := by
  obtain ⟨phrase, hmem, hwords⟩ := exists_of_meaning_eq_some h
  obtain ⟨e, he, heq⟩ := List.mem_map.1 hmem
  obtain ⟨rfl, rfl⟩ := Prod.mk.inj heq
  exact ⟨e.2, rfl, e.1, he, hwords⟩

theorem not_counts_of_meaning {keys : List Text} (h : meaning keys (numberPhrases v) = none)
    (n : Nat) : ¬ v.Counts keys n := by
  rintro ⟨phrase, hentry, hwords⟩
  exact meaning_eq_none_iff.1 h _ (List.mem_map.2 ⟨(phrase, n), hentry, rfl⟩) hwords

/-- The categories of a profile are looked through in order, and then the number words. -/
theorem lookup_phrases {keys : List Text} (hne : keys ≠ []) : (p.phrases v).lookup keys =
    (p.categories.findSome? fun c => meaning keys (p.bindings v c)).or
      (meaning keys (numberPhrases v)) := by
  rw [Profile.phrases, lookup_phrasesOf hne, meaning_append, meaning_flatMap]
  rfl

/-- What is found among the phrases of a profile is what the words stand for. -/
theorem standsFor_of_lookup {keys : List Text} (hne : keys ≠ []) {r : Replacement}
    (h : (p.phrases v).lookup keys = some r) : StandsFor p v keys r := by
  rw [lookup_phrases hne] at h
  cases hcode : p.categories.findSome? fun c => meaning keys (p.bindings v c) with
  | some s =>
    rw [hcode, Option.some_or] at h
    obtain rfl := Option.some.inj h
    obtain ⟨before, category, after, hsplit, hmeaning, hnone⟩ := List.findSome?_eq_some_iff.1 hcode
    obtain ⟨code, rfl, hbound⟩ := binds_of_meaning hmeaning
    exact .code before category after code hsplit hbound
      fun earlier hearlier => not_binds_of_meaning (hnone earlier hearlier)
  | none =>
    rw [hcode, Option.none_or] at h
    obtain ⟨n, rfl, hcounts⟩ := counts_of_meaning h
    have hnone := List.findSome?_eq_none_iff.1 hcode
    exact .number n hcounts fun category hcategory => not_binds_of_meaning (hnone _ hcategory)

/-- Words that are a phrase are found. -/
theorem lookup_ne_none {keys : List Text} (hne : keys ≠ []) (h : IsPhrase p v keys) :
    (p.phrases v).lookup keys ≠ none := by
  rw [lookup_phrases hne, Ne, Option.or_eq_none_iff, List.findSome?_eq_none_iff]
  rintro ⟨hcodes, hnumbers⟩
  obtain ⟨r, hr⟩ := h
  cases hr with
  | code before category after code hcategories hbound hfirst =>
    have hmem : category ∈ p.categories := by
      rw [hcategories]
      exact List.mem_append_right _ List.mem_cons_self
    exact not_binds_of_meaning (hcodes category hmem) code hbound
  | number n hcounts hno => exact not_counts_of_meaning hnumbers n hcounts

/-! ## Segments -/

/-- Words as they are compared with phrases: without the marks at their ends. -/
def keysOf (ws : List Text) : List Text := ws.map dropTrailingMarks

/-- How some words are cut: into a phrase where one starts, the longest one, and into a
single word where none does. -/
inductive Segments (p : Profile) (v : Vocabulary) : List Text → List Segment → Prop where
  | nil : Segments p v [] []
  | phrase (run rest : List Text) (r : Replacement) (segments : List Segment) (hne : run ≠ [])
      (hstands : StandsFor p v (keysOf run) r)
      (hlongest : ∀ longer, longer <+: keysOf (run ++ rest) → IsPhrase p v longer →
        longer.length ≤ run.length)
      (hrest : Segments p v rest segments) :
      Segments p v (run ++ rest) (.phrase run r :: segments)
  | word (w : Text) (rest : List Text) (segments : List Segment)
      (hnone : ∀ run, run ≠ [] → run <+: keysOf (w :: rest) → ¬ IsPhrase p v run)
      (hrest : Segments p v rest segments) :
      Segments p v (w :: rest) (.word w :: segments)

theorem segments_iff_cut {ws : List Text} {segments : List Segment} :
    Segments p v ws segments ↔ Cut dropTrailingMarks (StandsFor p v) ws segments := by
  constructor
  · intro h
    induction h with
    | nil => exact .nil
    | phrase run rest r segments hne hstands hlongest hrest ih =>
      exact .phrase run rest r segments hne hstands
        (fun longer s hprefix hlonger => hlongest longer hprefix ⟨s, hlonger⟩) ih
    | word w rest segments hnone hrest ih =>
      exact .word w rest segments (fun run r hne hprefix hr => hnone run hne hprefix ⟨r, hr⟩) ih
  · intro h
    induction h with
    | nil => exact .nil
    | phrase run rest r segments hne hmeans hlongest hrest ih =>
      exact .phrase run rest r segments hne hmeans
        (fun longer hprefix ⟨s, hlonger⟩ => hlongest longer s hprefix hlonger) ih
    | word w rest segments hnone hrest ih =>
      exact .word w rest segments (fun run hne hprefix ⟨r, hr⟩ => hnone run r hne hprefix hr) ih

/-- Segments are all of the words, in order. -/
theorem Segments.flatMap_words {ws : List Text} {segments : List Segment}
    (h : Segments p v ws segments) : segments.flatMap Segment.words = ws :=
  (segments_iff_cut.1 h).flatMap_words

/-- Where no two phrases of a table are the same words, words are cut in one way. -/
theorem Segments.unique (hdistinct : v.Distinct) {ws : List Text} {segments others : List Segment}
    (h : Segments p v ws segments) (h' : Segments p v ws others) : segments = others :=
  (segments_iff_cut.1 h).unique (fun _ _ _ hr hs => hr.unique hdistinct hs) (segments_iff_cut.1 h')

/-! ## Reading -/

theorem ne_nil_of_mem_phrases {q : List Text × Replacement} (h : q ∈ p.phrases v) : q.1 ≠ [] :=
  ne_nil_of_mem_phrasesOf h

theorem reads_phrases (p : Profile) (v : Vocabulary) : Reads (p.phrases v) (StandsFor p v) where
  ne_nil _ := ne_nil_of_mem_phrases
  found _ _ hne hr := standsFor_of_lookup hne hr
  missed _ r hne hr := lookup_ne_none hne ⟨r, hr⟩

/-- Words in lower case are cut in some way, which is the way in which they are read. -/
theorem exists_segments (p : Profile) (v : Vocabulary) (ws : List Text)
    (hlower : ∀ w ∈ ws, lower w = w) :
    ∃ segments, Segments p v ws segments ∧
      scan (p.phrases v) 0 ws = segments.map Segment.piece := by
  obtain ⟨segments, hcut, hscan⟩ := exists_cut (reads_phrases p v) ws
  have hkey : ∀ w ∈ ws, wordKey w = dropTrailingMarks w := fun w hw => by rw [wordKey, hlower w hw]
  exact ⟨segments, segments_iff_cut.2 (hcut.congr hkey), hscan⟩

/-- **The arguments of a text.** Its words are cut in one way: into the longest phrases that
start where the segment before ends, and into single words where no phrase starts. The
arguments are those of the segments: each code, the digits of every maximal group of
numbers, and the fragments that the other words are, without leading filler words. -/
theorem Argument.raws_segments (p : Profile) {v : Vocabulary} (hdistinct : v.Distinct)
    (raw : Text) :
    let said := words (Transcript.normalize raw)
    ∃ segments, Segments p v said segments ∧
      (∀ others, Segments p v said others → others = segments) ∧
      segments.flatMap Segment.words = said ∧
      (∀ d, Piece.number d ∈ segments.map Segment.piece → isDecimal d = true) ∧
      raws p v raw = ((segments.map Segment.piece).splitBy Piece.joins).flatMap
        (ofGroup v.fillerWords) := by
  intro said
  have hlower : ∀ w ∈ said, lower w = w := fun w hw =>
    lower_eq_self fun c hc => isLower_of_mem_lower (mem_of_mem_words hw hc)
  obtain ⟨segments, hsegments, hscan⟩ := exists_segments p v said hlower
  refine ⟨segments, hsegments, fun others hothers => hothers.unique hdistinct hsegments,
    hsegments.flatMap_words, fun d hd => ?_, ?_⟩
  · rw [← hscan] at hd
    exact isDecimal_of_mem_scan hd
  · rw [raws, substitute, gather_mergeNumbers, hscan]

/-- "page up" is longer than "page", the mark behind it does not matter, the numbers merge,
and a filler word is dropped. -/
theorem Argument.raws_segments_overlapping :
    ∃ (v : Vocabulary) (segments : List Segment), v.Distinct ∧
      Segments .movement v ["the", "page", "up,", "twenty", "2", "the", "x", "page"] segments ∧
      raws .movement v "The page up,  twenty 2 the X page." = ["PAGE_UP", "22", "x", "PAGE"] := by
  let v : Vocabulary :=
    { Vocabulary.empty with
      directions := .ofList [("page", "PAGE"), ("page up", "PAGE_UP")]
      numberWords := .ofList [("twenty", 20)]
      fillerWords := ["the"] }
  have hdistinct : v.Distinct := by
    refine ⟨fun category => ?_, ?_⟩
    · unfold PhraseTable.Distinct
      cases category <;> decide +kernel
    · unfold PhraseTable.Distinct
      decide +kernel
  have hsaid : words (Transcript.normalize "The page up,  twenty 2 the X page.") =
      ["the", "page", "up,", "twenty", "2", "the", "x", "page"] := by decide +kernel
  obtain ⟨segments, hsegments, -⟩ :=
    Argument.raws_segments .movement hdistinct "The page up,  twenty 2 the X page."
  rw [hsaid] at hsegments
  exact ⟨v, segments, hdistinct, hsegments, by decide +kernel⟩

end VoiceEdit
