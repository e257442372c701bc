import VoiceEdit.Proofs.Vocabulary.Configured

/-!
# Vocabularies in layers

A vocabulary is nine tables and a list of filler words. Laid over another it decides what its own
phrases stand for and leaves the rest. A configuration is two layers over the built-in vocabulary,
its keywords and above them its commands, with the phrases of both trimmed and in lower case. They
are stored in no particular order, so that what is said of a configuration is said of every order.

* `Vocabulary.table`, `Vocabulary.ext_table`: the nine tables by name.
* `Vocabulary.appendNew_eq`: which filler words are appended, and in which order.
* `Vocabulary.isOverlay_merge`, `Vocabulary.merge_assoc`, `Vocabulary.merge_again`: the laws of
  laying over.
* `PhraseTable.get?_mapPhrases_eq_some_iff`, `PhraseTable.respells_overlay_iff`: what a table and
  two layers hold once their phrases are respelled.
* `Config.MayGive`: the vocabularies that a configuration gives, by the order of its phrases.
* `Config.Enters`, `Config.Rearranges.enters`: the entries that it makes, in whatever order.
* `Config.vocabulary_layers`: all of it for the configured vocabulary.
* `Config.mayGive_clashing`: where two phrases are stored alike, the order decides.
-/
namespace VoiceEdit

open Text

/-! ## Tables that are respelled -/

namespace PhraseTable

variable {α : Type} {f : Text → Text} {s t : PhraseTable α} {spelled : Text} {value : α}

@[simp] theorem overlay_empty (t : PhraseTable α) : t.overlay empty = t := by
  ext1
  simp [overlay, empty, contains]

/-- A phrase of a table is bound to a value and respelled as told. -/
def Respells (f : Text → Text) (t : PhraseTable α) (spelled : Text) (value : α) : Prop :=
  ∃ phrase, t.get? phrase = some value ∧ f phrase = spelled

/-- No two phrases of a table are respelled alike. -/
def DistinctBy (f : Text → Text) (t : PhraseTable α) : Prop :=
  ∀ a ∈ t.entries, ∀ b ∈ t.entries, f a.1 = f b.1 → a.1 = b.1

instance (f : Text → Text) (t : PhraseTable α) : Decidable (t.DistinctBy f) :=
  inferInstanceAs (Decidable (∀ a ∈ t.entries, ∀ b ∈ t.entries, f a.1 = f b.1 → a.1 = b.1))

theorem respells_iff :
    t.Respells f spelled value ↔ ∃ phrase, (phrase, value) ∈ t.entries ∧ f phrase = spelled := by
  simp only [Respells, get?_eq_some_iff]

theorem get?_mapPhrases (f : Text → Text) (t : PhraseTable α) (spelled : Text) :
    (t.mapPhrases f).get? spelled =
      ((t.entries.map fun e => (f e.1, e.2)).reverse).lookup spelled :=
  get?_ofList _ _

/-- Every value of the respelled table is one that some phrase had. -/
theorem respells_of_get?_mapPhrases (h : (t.mapPhrases f).get? spelled = some value) :
    t.Respells f spelled value := by
  rw [get?_mapPhrases, List.lookup_eq_some_iff] at h
  obtain ⟨before, after, hsplit, -⟩ := h
  have hmem : (spelled, value) ∈ t.entries.map fun e => (f e.1, e.2) :=
    List.mem_reverse.1 (by rw [hsplit]; simp)
  obtain ⟨e, he, heq⟩ := List.mem_map.1 hmem
  obtain ⟨rfl, rfl⟩ := Prod.mk.inj heq
  exact respells_iff.2 ⟨e.1, he, rfl⟩

/-- Where no two phrases are respelled alike, each keeps its value. -/
theorem get?_mapPhrases_eq_some_iff (hdistinct : t.DistinctBy f) :
    (t.mapPhrases f).get? spelled = some value ↔ t.Respells f spelled value := by
  refine ⟨respells_of_get?_mapPhrases, fun h => ?_⟩
  obtain ⟨phrase, hmem, rfl⟩ := respells_iff.1 h
  refine get?_ofList_of_unique (List.mem_map_of_mem (f := fun e => (f e.1, e.2)) hmem) ?_
  intro other hother hsame
  obtain ⟨e, he, rfl⟩ := List.mem_map.1 hother
  have hphrase : e.1 = phrase := hdistinct e he _ hmem hsame
  have hvalue := (get?_eq_some_iff t e.1 e.2).2 he
  rw [hphrase, (get?_eq_some_iff t phrase value).2 hmem] at hvalue
  exact (Option.some.inj hvalue).symm

/-- A phrase of the respelled table comes from some phrase. -/
theorem get?_mapPhrases_eq_none_iff :
    (t.mapPhrases f).get? spelled = none ↔ ∀ value, ¬ t.Respells f spelled value := by
  constructor
  · intro hnone value h
    obtain ⟨phrase, hmem, rfl⟩ := respells_iff.1 h
    rw [get?_mapPhrases, List.lookup_eq_none_iff] at hnone
    have hne := hnone (f phrase, value)
      (List.mem_reverse.2 (List.mem_map_of_mem (f := fun e => (f e.1, e.2)) hmem))
    exact bne_iff_ne.1 hne rfl
  · intro hnone
    cases hget : (t.mapPhrases f).get? spelled with
    | none => rfl
    | some value => exact absurd (respells_of_get?_mapPhrases hget) (hnone value)

/-- Respelling knows no order. -/
theorem respells_perm (hperm : s.entries.Perm t.entries) :
    s.Respells f spelled value ↔ t.Respells f spelled value := by
  rw [respells_iff, respells_iff]
  simp only [hperm.mem_iff]

theorem DistinctBy.perm (h : t.DistinctBy f) (hperm : s.entries.Perm t.entries) :
    s.DistinctBy f :=
  fun a ha b hb => h a (hperm.mem_iff.1 ha) b (hperm.mem_iff.1 hb)

theorem DistinctBy.phrase_eq (h : t.DistinctBy f) {a b : Text} {x y : α} (ha : t.get? a = some x)
    (hb : t.get? b = some y) (hsame : f a = f b) : a = b :=
  h _ ((get?_eq_some_iff t a x).1 ha) _ ((get?_eq_some_iff t b y).1 hb) hsame

/-- A phrase of two layers is one of the upper or of the lower one. -/
theorem Respells.layer (h : (s.overlay t).Respells f spelled value) :
    t.Respells f spelled value ∨ s.Respells f spelled value := by
  obtain ⟨phrase, hget, hspelled⟩ := h
  rw [get?_overlay, Option.or_eq_some_iff] at hget
  rcases hget with hupper | ⟨-, hlower⟩
  · exact .inl ⟨phrase, hupper, hspelled⟩
  · exact .inr ⟨phrase, hlower, hspelled⟩

/-- What a phrase of the upper layer is respelled as stays so, and so does what only phrases of the
lower one are respelled as. -/
theorem respells_overlay (h : t.Respells f spelled value ∨
    s.Respells f spelled value ∧ ∀ other, ¬ t.Respells f spelled other) :
    (s.overlay t).Respells f spelled value := by
  rcases h with ⟨phrase, hupper, hspelled⟩ | ⟨⟨phrase, hlower, rfl⟩, hnot⟩
  · exact ⟨phrase, by rw [get?_overlay, hupper, Option.some_or], hspelled⟩
  · have hnone : t.get? phrase = none :=
      Option.eq_none_iff_forall_ne_some.2 fun other hother => hnot other ⟨phrase, hother, rfl⟩
    exact ⟨phrase, by rw [get?_overlay, hnone, Option.none_or, hlower], rfl⟩

/-- Where no two phrases of two layers are respelled alike, the upper one decides what any of its
phrases is respelled as. -/
theorem respells_overlay_iff (hdistinct : (s.overlay t).DistinctBy f) :
    (s.overlay t).Respells f spelled value ↔ t.Respells f spelled value ∨
      s.Respells f spelled value ∧ ∀ other, ¬ t.Respells f spelled other := by
  refine ⟨fun h => ?_, respells_overlay⟩
  obtain ⟨phrase, hget, rfl⟩ := h
  have hlayers := hget
  rw [get?_overlay, Option.or_eq_some_iff] at hlayers
  rcases hlayers with hupper | ⟨hnone, hlower⟩
  · exact .inl ⟨phrase, hupper, rfl⟩
  · refine .inr ⟨⟨phrase, hlower, rfl⟩, fun other hother => ?_⟩
    obtain ⟨q, hq, hsame⟩ := hother
    have hqget : (s.overlay t).get? q = some other := by rw [get?_overlay, hq, Option.some_or]
    obtain rfl := hdistinct.phrase_eq hqget hget hsame
    rw [hnone] at hq
    cases hq

end PhraseTable

/-! ## The parts of a vocabulary -/

namespace Vocabulary

/-- The tables of a vocabulary. -/
inductive TableName where
  | directions | objectNouns | selectors | suggestionQualifiers | terminalActions | numberWords
  | specialCharacters | exactTriggers | parameterizedTriggers
  deriving DecidableEq, Repr

/-- What the phrases of a table stand for. -/
@[reducible] def TableName.Value : TableName → Type
  | numberWords => Nat
  | _ => Text

/-- A table by its name. -/
def table (v : Vocabulary) : (t : TableName) → PhraseTable t.Value
  | .directions => v.directions
  | .objectNouns => v.objectNouns
  | .selectors => v.selectors
  | .suggestionQualifiers => v.suggestionQualifiers
  | .terminalActions => v.terminalActions
  | .numberWords => v.numberWords
  | .specialCharacters => v.specialCharacters
  | .exactTriggers => v.exactTriggers
  | .parameterizedTriggers => v.parameterizedTriggers

/-- There is nothing to a vocabulary but its tables and filler words. -/
theorem ext_table {v w : Vocabulary} (htables : ∀ t, v.table t = w.table t)
    (hfillers : v.fillerWords = w.fillerWords) : v = w := by
  cases v
  cases w
  rw [Vocabulary.mk.injEq]
  exact ⟨htables .directions, htables .objectNouns, htables .selectors,
    htables .suggestionQualifiers, htables .terminalActions, htables .numberWords,
    htables .specialCharacters, htables .exactTriggers, htables .parameterizedTriggers, hfillers⟩

@[simp] theorem table_merge (a b : Vocabulary) (t : TableName) :
    (a.merge b).table t = (a.table t).overlay (b.table t) := by
  cases t <;> rfl

/-! ## Filler words -/

variable {words others : List Text}

theorem appendNew_cons (words : List Text) (w : Text) (others : List Text) :
    appendNew words (w :: others) =
      appendNew (if words.contains w then words else words ++ [w]) others := rfl

theorem appendNew_append (words others more : List Text) :
    appendNew words (others ++ more) = appendNew (appendNew words others) more :=
  List.foldl_append

/-- Words that are there already are passed over, and of the others the first occurrence of each
is appended. -/
theorem appendNew_eq (words others : List Text) : appendNew words others =
    words ++ (others.filter fun w => !words.contains w).eraseDups := by
  induction others generalizing words with
  | nil => simp [appendNew]
  | cons w rest ih =>
    rw [appendNew_cons]
    cases hw : words.contains w with
    | true => rw [List.filter_cons_of_neg (by rw [hw]; decide), if_pos rfl, ih]
    | false =>
      have hrest : (rest.filter fun x => !(words ++ [w]).contains x) =
          (rest.filter fun x => !words.contains x).filter fun x => !x == w := by
        rw [List.filter_filter]
        refine List.filter_congr fun x _ => ?_
        rw [List.contains_append, Bool.not_or, Bool.and_comm, List.contains_cons,
          List.contains_nil, Bool.or_false]
      rw [List.filter_cons_of_pos (by rw [hw]; rfl), List.eraseDups_cons, ← hrest, if_neg (by simp),
        ih, List.append_assoc, List.singleton_append]

theorem mem_appendNew {w : Text} : w ∈ appendNew words others ↔ w ∈ words ∨ w ∈ others := by
  rw [appendNew_eq, List.mem_append, List.mem_eraseDups, List.mem_filter]
  by_cases hw : w ∈ words <;> simp [hw]

theorem appendNew_of_subset (h : ∀ w ∈ others, w ∈ words) : appendNew words others = words := by
  have hnone : (others.filter fun w => !words.contains w) = [] := by
    rw [List.filter_eq_nil_iff]
    intro w hw
    simp [h w hw]
  rw [appendNew_eq, hnone, List.eraseDups_nil, List.append_nil]

/-- Lists may be appended to one another in any grouping. -/
theorem appendNew_assoc (a b c : List Text) :
    appendNew (appendNew a b) c = appendNew a (appendNew b c) := by
  induction c generalizing b with
  | nil => rfl
  | cons w rest ih =>
    rw [appendNew_cons, appendNew_cons, ← ih]
    congr 1
    by_cases hw : w ∈ b
    · have hmem : w ∈ appendNew a b := mem_appendNew.2 (.inr hw)
      simp [hw, hmem]
    · have hnew : (if b.contains w = true then b else b ++ [w]) = b ++ [w] :=
        if_neg (by simpa using hw)
      rw [hnew, appendNew_append]
      rfl

/-! ## The laws of laying over -/

/-- A lower vocabulary with an upper one laid over it: the upper one decides what each of its
phrases stands for, and its filler words come behind the lower ones, each new one once. -/
structure IsOverlay (result lower upper : Vocabulary) : Prop where
  phrases : ∀ (t : TableName) (phrase : Text), (result.table t).get? phrase =
    ((upper.table t).get? phrase).or ((lower.table t).get? phrase)
  fillers : result.fillerWords = lower.fillerWords ++
    (upper.fillerWords.filter fun w => !lower.fillerWords.contains w).eraseDups

theorem isOverlay_merge (a b : Vocabulary) : IsOverlay (a.merge b) a b where
  phrases t phrase := by rw [table_merge, PhraseTable.get?_overlay]
  fillers := appendNew_eq a.fillerWords b.fillerWords

theorem merge_assoc (a b c : Vocabulary) : (a.merge b).merge c = a.merge (b.merge c) := by
  refine ext_table (fun t => ?_) (appendNew_assoc _ _ _)
  simp only [table_merge, PhraseTable.overlay_assoc]

/-- What is laid over a second time changes nothing. -/
theorem merge_again (a b : Vocabulary) : (a.merge b).merge b = a.merge b := by
  refine ext_table (fun t => ?_) (appendNew_of_subset fun w hw => mem_appendNew.2 (.inr hw))
  simp only [table_merge, PhraseTable.overlay_assoc, PhraseTable.overlay_self]

end Vocabulary

/-! ## The layers of a configuration -/

namespace Config

open Vocabulary (TableName IsOverlay)

variable {c : Config}

/-- The configured commands, as a layer of their own. -/
def commandPhrases (c : Config) : Vocabulary :=
  { Vocabulary.empty with
    exactTriggers := c.exactTriggers
    parameterizedTriggers := c.parameterizedTriggers }

theorem table_phrases (c : Config) (t : TableName) :
    c.phrases.table t = (c.keywords.table t).overlay (c.commandPhrases.table t) := by
  cases t with
  | exactTriggers => rfl
  | parameterizedTriggers => rfl
  | _ => exact (PhraseTable.overlay_empty _).symm

theorem table_storedPhrases (v : Vocabulary) (t : TableName) :
    (storedPhrases v).table t = (v.table t).mapPhrases storedPhrase := by
  cases t <;> rfl

/-- The same phrases, bound in some other order. -/
structure Rearranges (given phrases : Vocabulary) : Prop where
  perm : ∀ t : TableName, (given.table t).entries.Perm (phrases.table t).entries
  fillers : given.fillerWords = phrases.fillerWords

/-- Exact triggers in some other order. -/
theorem Rearranges.exactTriggers {v : Vocabulary} {triggers : PhraseTable Text}
    (hperm : triggers.entries.Perm v.exactTriggers.entries) :
    Rearranges { v with exactTriggers := triggers } v where
  perm t := by
    cases t with
    | exactTriggers => exact hperm
    | _ => exact .refl _
  fillers := rfl

/-- What a configuration may make of the built-in vocabulary: its phrases are stored in some order,
and of two that are stored alike the later one holds. -/
def MayGive (c : Config) (v : Vocabulary) : Prop :=
  ∃ given, Rearranges given c.phrases ∧ v = Vocabulary.english.merge (storedPhrases given)

theorem mayGive_vocabulary (c : Config) : c.MayGive c.vocabulary :=
  ⟨c.phrases, ⟨fun _ => .refl _, rfl⟩, rfl⟩

/-- No two phrases of one table are stored alike. A command and a keyword of one kind are phrases
of one table; as the same phrase they are one, for which the command is kept. -/
def Distinct (c : Config) : Prop := ∀ t, (c.phrases.table t).DistinctBy storedPhrase

/-- A configured command is stored as a phrase, or no command is and a keyword is. -/
inductive Stores (c : Config) (t : TableName) (phrase : Text) (value : t.Value) : Prop
  | command (h : (c.commandPhrases.table t).Respells storedPhrase phrase value)
  | keyword (h : (c.keywords.table t).Respells storedPhrase phrase value)
      (hcommand : ∀ other, ¬ (c.commandPhrases.table t).Respells storedPhrase phrase other)

/-- Some configured phrase of a table is stored as a phrase. -/
def Mentions (c : Config) (t : TableName) (phrase : Text) : Prop := ∃ value, c.Stores t phrase value

/-- A vocabulary holds what a configuration enters, and nothing else. -/
structure Enters (c : Config) (entries : Vocabulary) : Prop where
  phrases : ∀ (t : TableName) (phrase : Text) (value : t.Value),
    (entries.table t).get? phrase = some value ↔ c.Stores t phrase value
  fillers : entries.fillerWords = c.keywords.fillerWords

variable {given : Vocabulary} {t : TableName} {phrase : Text} {value : t.Value}

theorem Stores.respells (h : c.Stores t phrase value) :
    (c.phrases.table t).Respells storedPhrase phrase value := by
  rw [table_phrases]
  cases h with
  | command hcommand => exact PhraseTable.respells_overlay (.inl hcommand)
  | keyword hkeyword hnot => exact PhraseTable.respells_overlay (.inr ⟨hkeyword, hnot⟩)

theorem Distinct.stores_iff (h : c.Distinct) : c.Stores t phrase value ↔
    (c.phrases.table t).Respells storedPhrase phrase value := by
  refine ⟨Stores.respells, fun hrespells => ?_⟩
  have hlayers := h t
  rw [table_phrases] at hlayers hrespells
  rcases (PhraseTable.respells_overlay_iff hlayers).1 hrespells with hcommand | ⟨hkeyword, hnot⟩
  · exact .command hcommand
  · exact .keyword hkeyword hnot

theorem mentions_of_respells (h : (c.phrases.table t).Respells storedPhrase phrase value) :
    c.Mentions t phrase := by
  rw [table_phrases] at h
  rcases h.layer with hcommand | hkeyword
  · exact ⟨value, .command hcommand⟩
  · by_cases hcommand : ∃ other, (c.commandPhrases.table t).Respells storedPhrase phrase other
    · obtain ⟨other, hother⟩ := hcommand
      exact ⟨other, .command hother⟩
    · exact ⟨value, .keyword hkeyword (not_exists.1 hcommand)⟩

/-- What is mentioned is what is stored, in whatever order. -/
theorem Rearranges.get?_eq_none_iff (hgiven : Rearranges given c.phrases) :
    ((storedPhrases given).table t).get? phrase = none ↔ ¬ c.Mentions t phrase := by
  rw [table_storedPhrases, PhraseTable.get?_mapPhrases_eq_none_iff]
  simp only [PhraseTable.respells_perm (hgiven.perm t)]
  exact ⟨fun hnone ⟨value, hstores⟩ => hnone value hstores.respells,
    fun hnot value hrespells => hnot (mentions_of_respells hrespells)⟩

/-- In whatever order, what is stored is what the configuration enters. -/
theorem Rearranges.enters (hgiven : Rearranges given c.phrases) (hdistinct : c.Distinct) :
    c.Enters (storedPhrases given) where
  phrases t phrase value := by
    have hperm := hgiven.perm t
    rw [table_storedPhrases, PhraseTable.get?_mapPhrases_eq_some_iff ((hdistinct t).perm hperm),
      PhraseTable.respells_perm hperm, hdistinct.stores_iff]
  fillers := hgiven.fillers

/-- **Vocabularies in layers.** Laying one vocabulary over another is lawful: the upper one decides
what it has a phrase for and its filler words come behind those that are there; layers may be
grouped in any way and repeated. In whatever order a configuration stores its phrases, a built-in
phrase that it does not mention keeps what it stands for; and if no two phrases of one table are
stored alike, what it gives is the built-in vocabulary with its entries laid over it, commands
winning over keywords, so that what is stored stands for what it was bound to. -/
theorem vocabulary_layers :
    (∀ a b : Vocabulary, IsOverlay (a.merge b) a b) ∧
    (∀ a b c : Vocabulary, (a.merge b).merge c = a.merge (b.merge c)) ∧
    (∀ a b : Vocabulary, (a.merge b).merge b = a.merge b) ∧
    ∀ c : Config, c.MayGive c.vocabulary ∧ ∀ v, c.MayGive v →
      (∀ (t : TableName) (phrase : Text), ¬ c.Mentions t phrase →
        (v.table t).get? phrase = (Vocabulary.english.table t).get? phrase) ∧
      (c.Distinct →
        (∃ entries, IsOverlay v Vocabulary.english entries ∧ c.Enters entries) ∧
        ∀ (t : TableName) (phrase : Text) (value : t.Value), c.Stores t phrase value →
          (v.table t).get? phrase = some value) := by
  refine ⟨Vocabulary.isOverlay_merge, Vocabulary.merge_assoc, Vocabulary.merge_again, fun c => ?_⟩
  refine ⟨mayGive_vocabulary c, fun v hgives => ?_⟩
  obtain ⟨given, hgiven, rfl⟩ := hgives
  have hoverlay := Vocabulary.isOverlay_merge Vocabulary.english (storedPhrases given)
  refine ⟨fun t phrase hnot => ?_, fun hdistinct => ?_⟩
  · rw [hoverlay.phrases, hgiven.get?_eq_none_iff.2 hnot, Option.none_or]
  · have henters := hgiven.enters hdistinct
    refine ⟨⟨_, hoverlay, henters⟩, fun t phrase value hstores => ?_⟩
    rw [hoverlay.phrases, (henters.phrases t phrase value).2 hstores, Option.some_or]

/-- A keyword that a command overrides, one that none does, and a filler word given twice. -/
def shipping : Config :=
  { default with
    keywords :=
      { Vocabulary.empty with
        exactTriggers := .ofList [("Ship it", "UNDO"), ("Save", "SAVE_FILE_AS")]
        fillerWords := ["please", "the", "please"] }
    exactTriggers := .ofList [("Ship it", "SAVE_FILE")] }

/-- The phrases of `shipping`, the command before the keyword that stays. -/
def shippingReversed : Vocabulary :=
  { shipping.phrases with
    exactTriggers := .ofList [("Ship it", "SAVE_FILE"), ("Save", "SAVE_FILE_AS")] }

theorem rearranges_shippingReversed : Rearranges shippingReversed shipping.phrases :=
  .exactTriggers (by decide +kernel)

/-- "Ship it" stands for the command, "Save" for the keyword and "undo" for what it is built in for;
of the filler words one is new. -/
theorem vocabulary_layers_shipped :
    shipping.Distinct ∧ ∃ v, v = Vocabulary.english.merge (storedPhrases shippingReversed) ∧
      shipping.MayGive v ∧
      (v.table .exactTriggers).get? "ship it" = some ("SAVE_FILE" : Text) ∧
      (v.table .exactTriggers).get? "save" = some ("SAVE_FILE_AS" : Text) ∧
      (v.table .exactTriggers).get? "undo" = some ("UNDO" : Text) ∧
      v.fillerWords = Vocabulary.englishFillerWords ++ [("please" : Text)] := by
  have hdistinct : shipping.Distinct := by
    intro t
    cases t <;> decide +kernel
  have hgives : shipping.MayGive (Vocabulary.english.merge (storedPhrases shippingReversed)) :=
    ⟨shippingReversed, rearranges_shippingReversed, rfl⟩
  have hship : shipping.Stores .exactTriggers "ship it" ("SAVE_FILE" : Text) :=
    .command ⟨"Ship it", by decide +kernel, by decide +kernel⟩
  have hsave : shipping.Stores .exactTriggers "save" ("SAVE_FILE_AS" : Text) :=
    .keyword ⟨"Save", by decide +kernel, by decide +kernel⟩
      (PhraseTable.get?_mapPhrases_eq_none_iff.1 (by decide +kernel))
  have hundo : ¬ shipping.Mentions .exactTriggers "undo" :=
    rearranges_shippingReversed.get?_eq_none_iff.1 (by decide +kernel)
  obtain ⟨-, -, -, hlayers⟩ := vocabulary_layers
  obtain ⟨hkept, hentered⟩ := (hlayers shipping).2 _ hgives
  obtain ⟨⟨entries, hoverlay, henters⟩, hstored⟩ := hentered hdistinct
  refine ⟨hdistinct, _, rfl, hgives, hstored _ _ _ hship, hstored _ _ _ hsave,
    (hkept _ _ hundo).trans (by decide +kernel), hoverlay.fillers.trans ?_⟩
  rw [henters.fillers]
  decide +kernel

/-- A command that is another spelling of a keyword. -/
def clashing : Config :=
  { default with
    keywords := { Vocabulary.empty with exactTriggers := .ofList [("Ship It", "UNDO")] }
    exactTriggers := .ofList [("ship it", "SAVE_FILE")] }

/-- The phrases of `clashing`, the command before the keyword. -/
def clashingReversed : Vocabulary :=
  { clashing.phrases with
    exactTriggers := .ofList [("ship it", "SAVE_FILE"), ("Ship It", "UNDO")] }

/-- Where a command is another spelling of a keyword, the order decides. -/
theorem mayGive_clashing :
    ¬ clashing.Distinct ∧ ∃ v w, clashing.MayGive v ∧ clashing.MayGive w ∧
      (v.table .exactTriggers).get? "ship it" = some ("SAVE_FILE" : Text) ∧
      (w.table .exactTriggers).get? "ship it" = some ("UNDO" : Text) := by
  have halike : ¬ (clashing.phrases.table .exactTriggers).DistinctBy storedPhrase := by
    decide +kernel
  have hgiven : Rearranges clashingReversed clashing.phrases := .exactTriggers (by decide +kernel)
  exact ⟨fun hdistinct => halike (hdistinct _), _, _, mayGive_vocabulary clashing,
    ⟨clashingReversed, hgiven, rfl⟩, by decide +kernel, by decide +kernel⟩

end Config

end VoiceEdit
