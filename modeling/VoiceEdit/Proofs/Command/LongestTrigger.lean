import Mathlib.Data.List.Nodup
import VoiceEdit.Trigger
import VoiceEdit.Proofs.Text.Phrase

/-!
# The trigger of a transcript

A transcript that is an exact trigger as a whole is that command. Any other one
holds the longest of the parameterized triggers that stand in it, and of two that
are as long the one that stands first. No order of the tables decides anything.

* `best_cons`, `best_perm`: the candidate that no other one beats, whatever their
  order.
* `mem_candidates`, `exists_candidate`: a candidate is a trigger at its first place.
* `find?_longest`: which trigger is found.
-/
namespace VoiceEdit.Trigger

open Text

/-! ## The order of candidates -/

theorem Candidate.beats_iff (a b : Candidate) :
    a.beats b = true ↔ b.phrase.length < a.phrase.length ∨
      (a.phrase.length = b.phrase.length ∧ (a.before.length < b.before.length ∨
        (a.before.length = b.before.length ∧ a.phrase < b.phrase))) := by
  unfold Candidate.beats
  split
  · rename_i hlength
    rw [decide_eq_true_iff]
    exact ⟨.inl, fun h => h.resolve_right fun h => hlength h.1⟩
  rename_i hlength
  rw [not_not] at hlength
  split
  · rename_i hplace
    rw [decide_eq_true_iff]
    constructor
    · exact fun h => .inr ⟨hlength, .inl h⟩
    · rintro (h | ⟨-, h | ⟨h, -⟩⟩)
      · omega
      · exact h
      · exact absurd h hplace
  · rename_i hplace
    rw [not_not] at hplace
    rw [decide_eq_true_iff]
    constructor
    · exact fun h => .inr ⟨hlength, .inr ⟨hplace, h⟩⟩
    · rintro (h | ⟨-, h | ⟨-, h⟩⟩)
      · omega
      · omega
      · exact h

theorem Candidate.not_beats_self (a : Candidate) : a.beats a = false := by
  rw [Bool.eq_false_iff, Ne, beats_iff]
  rintro (h | ⟨-, h | ⟨-, h⟩⟩)
  · omega
  · omega
  · exact List.lt_irrefl _ h

theorem Candidate.beats_asymm {a b : Candidate} (h : a.beats b = true) : b.beats a = false := by
  rw [Bool.eq_false_iff, Ne, beats_iff]
  rw [beats_iff] at h
  rintro (h' | ⟨hlength, h' | ⟨hplace, h'⟩⟩)
  · omega
  · omega
  · obtain h | ⟨-, h | ⟨-, h⟩⟩ := h
    · omega
    · omega
    · exact List.lt_asymm h h'

/-- What does not beat a second candidate does not beat a third that the second does not
beat. -/
theorem Candidate.not_beats_trans {a b c : Candidate} (hab : a.beats b = false)
    (hbc : b.beats c = false) : a.beats c = false := by
  rw [Bool.eq_false_iff, Ne, beats_iff] at *
  rintro (h | ⟨hlength, h | ⟨hplace, h⟩⟩)
  · omega
  · omega
  -- all three are as long and stand at one place, so their phrases decide
  · have hab' : ¬ a.phrase < b.phrase := fun hlt => hab (.inr ⟨by omega, .inr ⟨by omega, hlt⟩⟩)
    have hbc' : ¬ b.phrase < c.phrase := fun hlt => hbc (.inr ⟨by omega, .inr ⟨by omega, hlt⟩⟩)
    exact List.not_lt.2 (List.le_trans (List.not_lt.1 hbc') (List.not_lt.1 hab')) h

/-- Candidates that do not beat one another have one phrase. -/
theorem Candidate.phrase_eq {a b : Candidate} (hab : a.beats b = false) (hba : b.beats a = false) :
    a.phrase = b.phrase := by
  rw [Bool.eq_false_iff, Ne, beats_iff] at hab hba
  have hab' : ¬ a.phrase < b.phrase := fun hlt => hab (.inr ⟨by omega, .inr ⟨by omega, hlt⟩⟩)
  have hba' : ¬ b.phrase < a.phrase := fun hlt => hba (.inr ⟨by omega, .inr ⟨by omega, hlt⟩⟩)
  exact List.le_antisymm (List.not_lt.1 hba') (List.not_lt.1 hab')

/-! ## The best candidate -/

theorem best_cons_cons (b c : Candidate) (rest : List Candidate) :
    best (b :: c :: rest) = best ((if c.beats b then c else b) :: rest) := by
  cases hbeats : c.beats b with
  | true => simp only [best, List.foldl_cons, hbeats, if_true]
  | false => simp only [best, List.foldl_cons, hbeats, Bool.false_eq_true, if_false]

/-- Some candidate is chosen, and none of them beats it. -/
theorem best_cons (b : Candidate) (rest : List Candidate) :
    ∃ c ∈ b :: rest, best (b :: rest) = some c ∧ ∀ d ∈ b :: rest, d.beats c = false := by
  -- on what is left to compare, for any candidate chosen so far
  induction rest generalizing b with
  | nil =>
    refine ⟨b, List.mem_singleton_self b, rfl, fun d hd => ?_⟩
    rw [List.mem_singleton.1 hd]
    exact b.not_beats_self
  | cons c rest ih =>
    rw [best_cons_cons]
    cases hbeats : c.beats b with
    | true =>
      obtain ⟨chosen, hmem, hbest, hnone⟩ := ih c
      refine ⟨chosen, List.mem_cons_of_mem b hmem, hbest, fun d hd => ?_⟩
      rcases List.mem_cons.1 hd with rfl | hd
      · exact Candidate.not_beats_trans (Candidate.beats_asymm hbeats) (hnone c List.mem_cons_self)
      · exact hnone d hd
    | false =>
      obtain ⟨chosen, hmem, hbest, hnone⟩ := ih b
      refine ⟨chosen, ?_, hbest, fun d hd => ?_⟩
      · rcases List.mem_cons.1 hmem with rfl | hmem
        · exact List.mem_cons_self
        · exact List.mem_cons_of_mem b (List.mem_cons_of_mem c hmem)
      · have hb := hnone b List.mem_cons_self
        rcases List.mem_cons.1 hd with rfl | hd
        · exact hb
        rcases List.mem_cons.1 hd with rfl | hd
        · exact Candidate.not_beats_trans hbeats hb
        · exact hnone d (List.mem_cons_of_mem b hd)

theorem best_eq_none_iff (candidates : List Candidate) :
    best candidates = none ↔ candidates = [] := by
  cases candidates with
  | nil => exact ⟨fun _ => rfl, fun _ => rfl⟩
  | cons b rest =>
    obtain ⟨c, -, hbest, -⟩ := best_cons b rest
    rw [hbest]
    exact ⟨fun h => (nomatch h), fun h => (nomatch h)⟩

theorem best_eq_some {candidates : List Candidate} {c : Candidate} (h : best candidates = some c) :
    c ∈ candidates ∧ ∀ d ∈ candidates, d.beats c = false := by
  cases candidates with
  | nil => exact (nomatch h)
  | cons b rest =>
    obtain ⟨chosen, hmem, hbest, hnone⟩ := best_cons b rest
    obtain rfl := Option.some.inj (h.symm.trans hbest)
    exact ⟨hmem, hnone⟩

/-- Where no two candidates have one phrase, their order does not decide. -/
theorem best_perm {candidates others : List Candidate} (hperm : candidates.Perm others)
    (hnodup : (candidates.map Candidate.phrase).Nodup) : best candidates = best others := by
  cases hc : best candidates with
  | none =>
    rw [best_eq_none_iff] at hc
    rw [hc] at hperm
    rw [eq_comm, best_eq_none_iff]
    exact hperm.nil_eq.symm
  | some c =>
    obtain ⟨hmem, hnone⟩ := best_eq_some hc
    cases hd : best others with
    | none =>
      rw [(best_eq_none_iff others).1 hd] at hperm
      rw [hperm.eq_nil] at hmem
      exact absurd hmem List.not_mem_nil
    | some d =>
      obtain ⟨hmem', hnone'⟩ := best_eq_some hd
      have hphrase : c.phrase = d.phrase :=
        Candidate.phrase_eq (hnone' c (hperm.mem_iff.1 hmem)) (hnone d (hperm.mem_iff.2 hmem'))
      rw [List.inj_on_of_nodup_map hnodup hmem (hperm.mem_iff.2 hmem') hphrase]

/-! ## Candidates in a transcript -/

/-- The parameterized triggers that stand in a lower-case transcript. -/
def candidates (v : Vocabulary) (said : Text) : List Candidate :=
  v.parameterizedTriggers.entries.filterMap (candidate? said)

theorem candidate?_eq_some {said : Text} {binding : Text × Text} {c : Candidate}
    (h : candidate? said binding = some c) :
    (c.phrase, c.command) = binding ∧ c.phrase ≠ [] ∧
      StandsFirstAt said c.phrase c.before.length := by
  unfold candidate? at h
  obtain ⟨⟨before, after⟩, hsplit, rfl⟩ := Option.map_eq_some_iff.1 h
  exact ⟨rfl, splitAtPhrase?_eq_some hsplit⟩

/-- A candidate is a trigger at the first place where it stands. -/
theorem mem_candidates {v : Vocabulary} {said : Text} {c : Candidate} (h : c ∈ candidates v said) :
    v.parameterizedTriggers.get? c.phrase = some c.command ∧ c.phrase ≠ [] ∧
      StandsFirstAt said c.phrase c.before.length := by
  obtain ⟨binding, hmem, hcandidate⟩ := List.mem_filterMap.1 h
  obtain ⟨rfl, hne, hfirst⟩ := candidate?_eq_some hcandidate
  exact ⟨(PhraseTable.get?_eq_some_iff _ _ _).2 hmem, hne, hfirst⟩

/-- Every trigger that stands somewhere is a candidate. -/
theorem exists_candidate {v : Vocabulary} {said phrase command : Text} {place : Nat}
    (hbound : v.parameterizedTriggers.get? phrase = some command) (hne : phrase ≠ [])
    (hstands : StandsAt said phrase place) : ∃ c ∈ candidates v said, c.phrase = phrase := by
  have hmem := (PhraseTable.get?_eq_some_iff _ _ _).1 hbound
  cases hsplit : splitAtPhrase? said phrase with
  | none =>
    rcases (splitAtPhrase?_eq_none_iff said phrase).1 hsplit with h | h
    · exact absurd h hne
    · exact absurd hstands (h place)
  | some parts =>
    refine ⟨⟨phrase, command, parts.1, parts.2⟩, List.mem_filterMap.2 ⟨_, hmem, ?_⟩, rfl⟩
    rw [candidate?, hsplit]
    rfl

theorem candidates_eq_nil_iff (v : Vocabulary) (said : Text) :
    candidates v said = [] ↔
      ∀ phrase command, v.parameterizedTriggers.get? phrase = some command → phrase ≠ [] →
        ∀ place, ¬ StandsAt said phrase place := by
  constructor
  · intro hnil phrase command hbound hne place hstands
    obtain ⟨c, hmem, -⟩ := exists_candidate hbound hne hstands
    rw [hnil] at hmem
    exact absurd hmem List.not_mem_nil
  · intro hnone
    refine List.eq_nil_iff_forall_not_mem.2 fun c hmem => ?_
    obtain ⟨hbound, hne, hfirst⟩ := mem_candidates hmem
    exact hnone c.phrase c.command hbound hne c.before.length hfirst.1

theorem nodup_candidates (v : Vocabulary) (said : Text) :
    ((candidates v said).map Candidate.phrase).Nodup := by
  have hphrase : ((candidates v said).map Candidate.phrase).Sublist
      (v.parameterizedTriggers.entries.map Prod.fst) := by
    unfold candidates
    induction v.parameterizedTriggers.entries with
    | nil => exact .slnil
    | cons binding rest ih =>
      rw [List.filterMap_cons]
      cases hcandidate : candidate? said binding with
      | none => exact ih.cons _
      | some c =>
        obtain ⟨rfl, -⟩ := candidate?_eq_some hcandidate
        exact ih.cons_cons c.phrase
  exact v.parameterizedTriggers.nodup.sublist hphrase

/-- A trigger is bound to its command and stands in a text, where no longer one stands and
none that is as long stands earlier. -/
structure IsLongest (v : Vocabulary) (said : Text) (trigger : Trigger) : Prop where
  bound : v.parameterizedTriggers.get? trigger.phrase = some trigger.command
  stands : ∃ first, StandsFirstAt said trigger.phrase first ∧
    ∀ phrase command place, v.parameterizedTriggers.get? phrase = some command →
      StandsAt said phrase place → phrase.length ≤ trigger.phrase.length ∧
        (phrase.length = trigger.phrase.length → first ≤ place)

/-- The best candidate stands for the longest trigger. -/
theorem isLongest_of_best {v : Vocabulary} {said : Text} {c : Candidate}
    (h : best (candidates v said) = some c) (arguments : Text) :
    IsLongest v said ⟨c.phrase, c.command, arguments, false⟩ := by
  obtain ⟨hmem, hnone⟩ := best_eq_some h
  obtain ⟨hbound, hne, hfirst⟩ := mem_candidates hmem
  refine ⟨hbound, c.before.length, hfirst, fun phrase command place hbound' hstands => ?_⟩
  by_cases hne' : phrase = []
  · have hpos := List.length_pos_iff.2 hne
    rw [hne', List.length_nil]
    exact ⟨Nat.zero_le _, fun hlength => by simp only at hlength; omega⟩
  obtain ⟨d, hd, rfl⟩ := exists_candidate hbound' hne' hstands
  obtain ⟨-, -, hfirst'⟩ := mem_candidates hd
  have hbeaten := hnone d hd
  rw [Bool.eq_false_iff, Ne, Candidate.beats_iff, not_or, not_and, not_or] at hbeaten
  obtain ⟨hlonger, hearlier⟩ := hbeaten
  refine ⟨Nat.le_of_not_lt hlonger, fun hlength => ?_⟩
  have hplace := hfirst'.2 place hstands
  have hfirst := (hearlier hlength).1
  omega

/-! ## The trigger that is found -/

theorem find?_of_exact {v : Vocabulary} {transcript command : Text}
    (hsaid : Transcript.normalize transcript ≠ [])
    (h : v.exactTriggers.get? (Transcript.normalize transcript) = some command) :
    find? v transcript = some ⟨Transcript.normalize transcript, command, [], true⟩ := by
  unfold Transcript.normalize at *
  simp only [find?, List.isEmpty_iff, if_neg hsaid, h]

theorem find?_of_inexact {v : Vocabulary} {transcript : Text}
    (hsaid : Transcript.normalize transcript ≠ [])
    (h : v.exactTriggers.get? (Transcript.normalize transcript) = none) :
    find? v transcript = (best (candidates v (Transcript.normalize transcript))).map fun c =>
      ⟨c.phrase, c.command,
        argumentText (Transcript.collapse transcript) (Transcript.normalize transcript) c, false⟩ := by
  unfold Transcript.normalize at *
  simp only [find?, List.isEmpty_iff, if_neg hsaid, h, candidates]

theorem find?_of_silent {v : Vocabulary} {transcript : Text}
    (hsaid : Transcript.normalize transcript = []) : find? v transcript = none := by
  unfold Transcript.normalize at hsaid
  simp only [find?, List.isEmpty_iff, if_pos hsaid]

theorem find?_eq_none_iff (v : Vocabulary) (transcript : Text) :
    find? v transcript = none ↔ Transcript.normalize transcript = [] ∨
      (v.exactTriggers.get? (Transcript.normalize transcript) = none ∧
        candidates v (Transcript.normalize transcript) = []) := by
  by_cases hsaid : Transcript.normalize transcript = []
  · exact ⟨fun _ => .inl hsaid, fun _ => find?_of_silent hsaid⟩
  cases hexact : v.exactTriggers.get? (Transcript.normalize transcript) with
  | some command =>
    rw [find?_of_exact hsaid hexact]
    exact ⟨fun h => (nomatch h), fun h => absurd h (by simp [hsaid])⟩
  | none =>
    rw [find?_of_inexact hsaid hexact, Option.map_eq_none_iff, best_eq_none_iff]
    exact ⟨fun h => .inr ⟨rfl, h⟩, fun h => (h.resolve_left hsaid).2⟩

theorem find?_perm {v w : Vocabulary} (transcript : Text)
    (hexact : v.exactTriggers.entries.Perm w.exactTriggers.entries)
    (hparameterized : v.parameterizedTriggers.entries.Perm w.parameterizedTriggers.entries) :
    find? v transcript = find? w transcript := by
  have hget := PhraseTable.get?_perm hexact (Transcript.normalize transcript)
  by_cases hsaid : Transcript.normalize transcript = []
  · rw [find?_of_silent hsaid, find?_of_silent hsaid]
  cases h : v.exactTriggers.get? (Transcript.normalize transcript) with
  | some command => rw [find?_of_exact hsaid h, find?_of_exact hsaid (hget.symm.trans h)]
  | none =>
    have hbest := best_perm (hparameterized.filterMap (candidate? (Transcript.normalize transcript)))
      (nodup_candidates v (Transcript.normalize transcript))
    rw [find?_of_inexact hsaid h, find?_of_inexact hsaid (hget.symm.trans h), candidates, candidates,
      hbest]

/-- The trigger of a transcript: none where nothing is said and where neither the whole is an
exact trigger nor a parameterized one stands in it; the whole where that is an exact trigger;
else the longest parameterized trigger that stands in it, and the first of those that are as
long. The order of the tables does not matter. -/
theorem find?_longest (v : Vocabulary) (transcript : Text) :
    let said := Transcript.normalize transcript
    (find? v transcript = none ↔ said = [] ∨ (v.exactTriggers.get? said = none ∧
      ∀ phrase command, v.parameterizedTriggers.get? phrase = some command → phrase ≠ [] →
        ∀ place, ¬ StandsAt said phrase place)) ∧
    (∀ command, said ≠ [] → v.exactTriggers.get? said = some command →
      find? v transcript = some ⟨said, command, [], true⟩) ∧
    (∀ trigger, v.exactTriggers.get? said = none → find? v transcript = some trigger →
      trigger.isExact = false ∧ IsLongest v said trigger) ∧
    ∀ w : Vocabulary, v.exactTriggers.entries.Perm w.exactTriggers.entries →
      v.parameterizedTriggers.entries.Perm w.parameterizedTriggers.entries →
      find? v transcript = find? w transcript := by
  intro said
  refine ⟨?_, fun command => find?_of_exact, fun trigger hexact hfound => ?_,
    fun w => find?_perm transcript⟩
  · rw [find?_eq_none_iff, candidates_eq_nil_iff]
  · have hsaid : said ≠ [] := by
      intro hsilent
      rw [find?_of_silent hsilent] at hfound
      exact (nomatch hfound)
    rw [find?_of_inexact hsaid hexact] at hfound
    obtain ⟨c, hbest, rfl⟩ := Option.map_eq_some_iff.1 hfound
    exact ⟨rfl, isLongest_of_best hbest _⟩

/-- Of "go", "to" and "go to" the longest is heard, unless the whole is an exact trigger. -/
theorem find?_longest_overlapping :
    ∃ v : Vocabulary, v.exactTriggers.get? "go to go" = none ∧
      find? v "Go to go." = some ⟨"go to", "GOTO", "go", false⟩ ∧
      IsLongest v "go to go" ⟨"go to", "GOTO", "go", false⟩ ∧
      find? v "Go!" = some ⟨"go", "RUN", [], true⟩ := by
  let v : Vocabulary :=
    { Vocabulary.empty with
      exactTriggers := .ofList [("go", "RUN")]
      parameterizedTriggers := .ofList [("go", "GO"), ("go to", "GOTO"), ("to", "TO")] }
  have hsaid : Transcript.normalize "Go to go." = "go to go" := by decide +kernel
  have hgo : Transcript.normalize "Go!" = "go" := by decide +kernel
  have hinexact : v.exactTriggers.get? "go to go" = none := by decide +kernel
  have hfound : find? v "Go to go." = some ⟨"go to", "GOTO", "go", false⟩ := by decide +kernel
  obtain ⟨-, -, hlongest, -⟩ := find?_longest v "Go to go."
  obtain ⟨-, hexact, -⟩ := find?_longest v "Go!"
  rw [hsaid] at hlongest
  rw [hgo] at hexact
  exact ⟨v, hinexact, hfound, (hlongest _ hinexact hfound).2,
    hexact "RUN" (by decide +kernel) (by decide +kernel)⟩

end VoiceEdit.Trigger
