import VoiceEdit.Argument
import VoiceEdit.Trigger
import VoiceEdit.Vocabulary.English

/-!
# The built-in tables

A table of distinct phrases holds them in the order in which they are listed. No
built-in phrase is listed twice, so what is asked of the built-in tables can be
asked of the lists.

* `PhraseTable.entries_ofList`: the entries of a table of distinct phrases.
* `entries_english`, `parameterizedTriggers_english`, `phrases_english`: what the
  built-in tables hold, and the phrases that a profile admits of them.
-/
namespace VoiceEdit

namespace PhraseTable

variable {α : Type}

/-- A phrase that is not bound yet is bound behind all others. -/
theorem entries_insert {t : PhraseTable α} {phrase : Text} (h : phrase ∉ t.entries.map Prod.fst)
    (value : α) : (t.insert phrase value).entries = t.entries ++ [(phrase, value)] := by
  refine congrArg (· ++ [(phrase, value)]) (List.filter_eq_self.2 fun e he => ?_)
  have hne : phrase ≠ e.1 := fun heq => h (heq ▸ List.mem_map_of_mem he)
  simp [contains, hne]

theorem entries_foldl_insert (t : PhraseTable α) {entries : List (Text × α)}
    (h : ((t.entries ++ entries).map Prod.fst).Nodup) :
    (entries.foldl (fun t e => t.insert e.1 e.2) t).entries = t.entries ++ entries := by
  induction entries generalizing t with
  | nil => exact (List.append_nil _).symm
  | cons e rest ih =>
    have hnot : e.1 ∉ t.entries.map Prod.fst := by
      rw [List.map_append, List.nodup_append] at h
      exact fun hmem => h.2.2 _ hmem _ List.mem_cons_self rfl
    have hinsert : (t.insert e.1 e.2).entries = t.entries ++ [e] := entries_insert hnot e.2
    have hsplit : (t.insert e.1 e.2).entries ++ rest = t.entries ++ e :: rest := by
      rw [hinsert, List.append_assoc, List.singleton_append]
    rw [List.foldl_cons, ih (t.insert e.1 e.2) (by rwa [hsplit]), hsplit]

/-- Distinct phrases are the entries of their table. -/
theorem entries_ofList {entries : List (Text × α)} (h : (entries.map Prod.fst).Nodup) :
    (ofList entries).entries = entries :=
  entries_foldl_insert empty h

end PhraseTable

namespace Vocabulary

/-- The built-in phrases for codes, in order. -/
def englishBindings : Category → List (Text × Text)
  | .directions => bindings englishDirections
  | .objectNouns => bindings englishEditorObjects ++ bindings englishCodeObjects
  | .selectors => bindings englishSelectors
  | .suggestionQualifiers => bindings englishSuggestionQualifiers
  | .terminalActions => bindings englishTerminalActions

/-- The built-in words for numbers, in order. -/
def englishNumbers : List (Text × Nat) := numbered 0 1 englishUnits ++ numbered 2 10 englishTens

theorem entries_english (category : Category) :
    (english.phrases category).entries = englishBindings category := by
  have htable : english.phrases category = .ofList (englishBindings category) := by
    cases category <;> rfl
  have hdistinct : ((englishBindings category).map Prod.fst).Nodup := by
    cases category <;> decide +kernel
  rw [htable, PhraseTable.entries_ofList hdistinct]

theorem numberWords_english : english.numberWords.entries = englishNumbers :=
  PhraseTable.entries_ofList (by decide +kernel)

theorem exactTriggers_english : english.exactTriggers.entries = bindings englishExactTriggers :=
  PhraseTable.entries_ofList (by decide +kernel)

theorem parameterizedTriggers_english :
    english.parameterizedTriggers.entries = bindings englishParameterizedTriggers :=
  PhraseTable.entries_ofList (by decide +kernel)

/-- The built-in phrases that a profile admits, as lists. -/
theorem phrases_english (p : Profile) : p.phrases english = Substitution.phrasesOf
    ((p.categories.flatMap fun category =>
      ((englishBindings category).filter fun e => p.admits category e.2).map
        fun e => (e.1, Replacement.code e.2)) ++
      englishNumbers.map fun e => (e.1, .number e.2)) := by
  simp only [Profile.phrases, Substitution.numberPhrases, entries_english, numberWords_english]

end Vocabulary

end VoiceEdit
