import VoiceEdit.Config
import VoiceEdit.Proofs.Command.LongestTrigger
import VoiceEdit.Proofs.Text.Collapsing
import VoiceEdit.Proofs.Text.WordCasing

/-!
# Configured triggers

A configured phrase is stored trimmed and in lower case. What is said is also rid of the
marks at its end and of all but single spaces before it is looked up, so a phrase that is
configured with such marks or spaces is stored as nobody can say it.

* `PhraseTable.get?_ofList`: of two bindings of one phrase the later holds.
* `Config.normalize_eq_collapse_storedPhrase`: what is heard of a phrase, from what is
  stored of it.
* `Config.get?_storedPhrase`: a configured command is bound to the stored phrase.
* `Config.exactTrigger_found_iff`: the phrases that find their command.
-/
namespace VoiceEdit

open Text

namespace PhraseTable

variable {α : Type}

theorem get?_insert (t : PhraseTable α) (bound phrase : Text) (value : α) :
    (t.insert bound value).get? phrase = ([(bound, value)].lookup phrase).or (t.get? phrase) :=
  get?_overlay t ⟨[(bound, value)], _⟩ phrase

theorem get?_foldl_insert (entries : List (Text × α)) (t : PhraseTable α) (phrase : Text) :
    (entries.foldl (fun t e => t.insert e.1 e.2) t).get? phrase =
      (entries.reverse.lookup phrase).or (t.get? phrase) := by
  induction entries generalizing t with
  | nil => rfl
  | cons e rest ih =>
    rw [List.foldl_cons, ih, get?_insert, List.reverse_cons, List.lookup_append, Option.or_assoc]

/-- Of two bindings of one phrase the later holds. -/
theorem get?_ofList (entries : List (Text × α)) (phrase : Text) :
    (ofList entries).get? phrase = entries.reverse.lookup phrase :=
  (get?_foldl_insert entries empty phrase).trans (Option.or_none)

/-- A phrase that is bound to one value only has that value. -/
theorem get?_ofList_of_unique {entries : List (Text × α)} {phrase : Text} {value : α}
    (hmem : (phrase, value) ∈ entries) (hunique : ∀ e ∈ entries, e.1 = phrase → e.2 = value) :
    (ofList entries).get? phrase = some value := by
  rw [get?_ofList]
  cases hfound : entries.reverse.lookup phrase with
  | none =>
    have hnone := List.lookup_eq_none_iff.1 hfound _ (List.mem_reverse.2 hmem)
    exact absurd rfl (bne_iff_ne.1 hnone)
  | some other =>
    obtain ⟨before, after, hsplit, -⟩ := List.lookup_eq_some_iff.1 hfound
    have hother : (phrase, other) ∈ entries := List.mem_reverse.1 (by rw [hsplit]; simp)
    rw [← hunique _ hother rfl]

end PhraseTable

/-- A transcript is an exact trigger for a command if and only if what is heard of it is
bound to that command. -/
theorem Trigger.exists_exact_iff (v : Vocabulary) (transcript command : Text) :
    (∃ trigger, find? v transcript = some trigger ∧ trigger.isExact = true ∧
        trigger.command = command) ↔
      Transcript.normalize transcript ≠ [] ∧
        v.exactTriggers.get? (Transcript.normalize transcript) = some command := by
  constructor
  · rintro ⟨trigger, hfound, hexact, rfl⟩
    by_cases hsaid : Transcript.normalize transcript = []
    · rw [find?_of_silent hsaid] at hfound
      cases hfound
    refine ⟨hsaid, ?_⟩
    cases hget : v.exactTriggers.get? (Transcript.normalize transcript) with
    | some command =>
      rw [find?_of_exact hsaid hget] at hfound
      cases hfound
      rfl
    | none =>
      rw [find?_of_inexact hsaid hget] at hfound
      obtain ⟨c, -, rfl⟩ := Option.map_eq_some_iff.1 hfound
      cases hexact
  · rintro ⟨hsaid, hget⟩
    exact ⟨_, find?_of_exact hsaid hget, rfl, rfl⟩

namespace Config

open Transcript

variable {c : Config} {phrase command : Text}

/-! ## What is stored and what is heard -/

theorem normalize_eq_collapse_storedPhrase (t : Text) :
    Transcript.normalize t = collapse (storedPhrase t) := by
  rw [storedPhrase, lower_trim, collapse_trim, collapse_lower, Transcript.normalize]

/-- What is heard of a phrase is what is stored of it exactly where the stored phrase
needs no collapsing. -/
theorem normalize_eq_storedPhrase_iff (t : Text) :
    Transcript.normalize t = storedPhrase t ↔ IsClean (storedPhrase t) := by
  rw [normalize_eq_collapse_storedPhrase, collapse_eq_self_iff]

theorem normalize_ne_nil (h : ∃ d ∈ phrase, isBlank d = false ∧ isTrailingMark d = false) :
    Transcript.normalize phrase ≠ [] := by
  obtain ⟨d, hd, hblank, hmark⟩ := h
  exact mt (lower_eq_nil_iff _).1 (collapse_ne_nil hd hblank hmark)

/-! ## The configured vocabulary -/

theorem get?_exactTriggers (c : Config) (said : Text) :
    c.vocabulary.exactTriggers.get? said =
      ((storedPhrases c.phrases).exactTriggers.get? said).or
        (Vocabulary.english.exactTriggers.get? said) :=
  PhraseTable.get?_overlay _ _ said

/-- A configured command is bound to the stored phrase. -/
theorem get?_storedPhrase (hentry : (phrase, command) ∈ c.exactTriggers.entries)
    (hdistinct : (c.exactTriggers.entries.map fun e => Transcript.normalize e.1).Nodup)
    (hkeywords : ∀ e ∈ c.keywords.exactTriggers.entries,
      storedPhrase e.1 = storedPhrase phrase → e.1 = phrase) :
    c.vocabulary.exactTriggers.get? (storedPhrase phrase) = some command := by
  have hstored : (storedPhrases c.phrases).exactTriggers.get? (storedPhrase phrase) =
      some command := by
    have hmem : (phrase, command) ∈ c.phrases.exactTriggers.entries := List.mem_append_right _ hentry
    refine PhraseTable.get?_ofList_of_unique
      (List.mem_map_of_mem (f := fun e => (storedPhrase e.1, e.2)) hmem) fun stored hstored hsame => ?_
    obtain ⟨e, he, rfl⟩ := List.mem_map.1 hstored
    replace hsame : storedPhrase e.1 = storedPhrase phrase := hsame
    rcases List.mem_append.1 he with hkeyword | hcommand
    · -- a keyword of that very spelling has given way to the command
      obtain ⟨hkeyword, hnot⟩ := List.mem_filter.1 hkeyword
      rw [hkeywords e hkeyword hsame,
        PhraseTable.contains_iff.2 (List.mem_map_of_mem hentry)] at hnot
      cases hnot
    · have hheard : Transcript.normalize e.1 = Transcript.normalize phrase := by
        rw [normalize_eq_collapse_storedPhrase, hsame, ← normalize_eq_collapse_storedPhrase]
      rw [List.inj_on_of_nodup_map hdistinct hcommand hentry hheard]
  rw [get?_exactTriggers, hstored, Option.some_or]

/-- A configured phrase, spoken in any case and between any spaces, is an exact trigger for
its command if and only if its stored form has single spaces only and no mark at its end,
or what is heard of it happens to be another trigger for that command. -/
theorem exactTrigger_found_iff {spoken : Text} (hentry : (phrase, command) ∈ c.exactTriggers.entries)
    (hdistinct : (c.exactTriggers.entries.map fun e => Transcript.normalize e.1).Nodup)
    (hkeywords : ∀ e ∈ c.keywords.exactTriggers.entries,
      storedPhrase e.1 = storedPhrase phrase → e.1 = phrase)
    (hsaid : ∃ d ∈ phrase, isBlank d = false ∧ isTrailingMark d = false)
    (hspoken : lower (trim spoken) = lower (trim phrase)) :
    (∃ trigger, Trigger.find? c.vocabulary spoken = some trigger ∧ trigger.isExact = true ∧
        trigger.command = command) ↔
      IsClean (storedPhrase phrase) ∨
        Transcript.normalize phrase ≠ storedPhrase phrase ∧
          c.vocabulary.exactTriggers.get? (Transcript.normalize phrase) = some command := by
  have hheard : Transcript.normalize spoken = Transcript.normalize phrase := by
    rw [normalize_eq_collapse_storedPhrase, storedPhrase, hspoken, ← storedPhrase,
      ← normalize_eq_collapse_storedPhrase]
  rw [Trigger.exists_exact_iff, hheard, ← normalize_eq_storedPhrase_iff]
  constructor
  · rintro ⟨-, hget⟩
    by_cases hsame : Transcript.normalize phrase = storedPhrase phrase
    · exact .inl hsame
    · exact .inr ⟨hsame, hget⟩
  · rintro (hsame | ⟨-, hget⟩)
    · refine ⟨normalize_ne_nil hsaid, ?_⟩
      rw [hsame]
      exact get?_storedPhrase hentry hdistinct hkeywords
    · exact ⟨normalize_ne_nil hsaid, hget⟩

/-- A configuration of one exact trigger. -/
def ofExactTrigger (phrase command : Text) : Config :=
  { default with exactTriggers := .ofList [(phrase, command)] }

/-- "Ship It" is found however it is capitalized. -/
theorem exactTrigger_found_capitals :
    ∃ trigger, Trigger.find? (ofExactTrigger "Ship It" "SAVE_FILE").vocabulary "  SHIP it " =
      some trigger ∧ trigger.isExact = true ∧ trigger.command = "SAVE_FILE" := by
  have hentry : (("Ship It" : Text), ("SAVE_FILE" : Text)) ∈
      (ofExactTrigger "Ship It" "SAVE_FILE").exactTriggers.entries := by decide
  have hsaid : ∃ d ∈ ("Ship It" : Text), isBlank d = false ∧ isTrailingMark d = false :=
    ⟨'S', by decide, by decide, by decide⟩
  refine (exactTrigger_found_iff hentry (by decide +kernel) (by decide) hsaid ?_).2 (.inl ?_)
  · decide +kernel
  · decide +kernel

/-- "ship it!" is stored with its mark, and heard without it. -/
theorem exactTrigger_lost_mark :
    (("ship it!" : Text), ("SAVE_FILE" : Text)) ∈
        (ofExactTrigger "ship it!" "SAVE_FILE").exactTriggers.entries ∧
      ((ofExactTrigger "ship it!" "SAVE_FILE").exactTriggers.entries.map fun e =>
        Transcript.normalize e.1).Nodup ∧
      (∃ d ∈ ("ship it!" : Text), isBlank d = false ∧ isTrailingMark d = false) ∧
      Trigger.find? (ofExactTrigger "ship it!" "SAVE_FILE").vocabulary "ship it!" = none := by
  refine ⟨by decide, by decide +kernel, ⟨'s', by decide, by decide, by decide⟩, ?_⟩
  decide +kernel

end Config

end VoiceEdit
