import VoiceEdit.Proofs.Substitution.Cutting
import VoiceEdit.Text.Utf8

/-!
# Phrases tried from the longest on

Phrases can be put in order once, those with more words before those with fewer and among these
the longer texts before the shorter, and then be tried in this order at one place of a text after
another. The first phrase that is met at a place is the longest one there: phrases that are met at
one place and have as many words are the same words, and these stay in the order in which they were
bound.

* `longestFirst`: the order in which phrases are tried; `firstMatch?`: the first that is met.
* `filter_mergeSort`: sorting keeps the order of what it holds for equal.
* `firstMatch?_longestFirst`: the first phrase that is met is the longest.
* `readFrom?`: the pieces of words read place by place; `substitute_eq_readFrom?`: these are the
  pieces of a text.
-/
namespace VoiceEdit.Substitution

open Text

variable {phrases : Phrases} {keys run : List Text} {start count : Nat} {r : Replacement}

/-! ## The order of phrases -/

/-- Whether a phrase is tried before another one, or may be. -/
def isTriedBefore (p q : List Text × Replacement) : Bool :=
  q.1.length < p.1.length ||
    p.1.length == q.1.length && utf8Length (joinWords q.1) ≤ utf8Length (joinWords p.1)

/-- Phrases in the order in which they are tried. -/
def longestFirst (phrases : Phrases) : Phrases := phrases.mergeSort isTriedBefore

theorem isTriedBefore_iff (p q : List Text × Replacement) : isTriedBefore p q = true ↔
    q.1.length < p.1.length ∨
      p.1.length = q.1.length ∧ utf8Length (joinWords q.1) ≤ utf8Length (joinWords p.1) := by
  simp [isTriedBefore]

theorem isTriedBefore_trans (p q o : List Text × Replacement) (hpq : isTriedBefore p q = true)
    (hqo : isTriedBefore q o = true) : isTriedBefore p o = true := by
  rw [isTriedBefore_iff] at hpq hqo ⊢
  omega

theorem isTriedBefore_total (p q : List Text × Replacement) :
    (isTriedBefore p q || isTriedBefore q p) = true := by
  rw [Bool.or_eq_true, isTriedBefore_iff, isTriedBefore_iff]
  omega

/-- The same words may be tried in any order. -/
theorem isTriedBefore_of_eq {p q : List Text × Replacement} (h : p.1 = q.1) :
    isTriedBefore p q = true := by
  rw [isTriedBefore_iff, h]
  exact .inr ⟨rfl, Nat.le_refl _⟩

/-- Sorting keeps the order of those that it holds for equal. -/
theorem filter_mergeSort {α : Type} {le : α → α → Bool}
    (htrans : ∀ a b c, le a b = true → le b c = true → le a c = true)
    (htotal : ∀ a b, (le a b || le b a) = true) {p : α → Bool} {l : List α}
    (hequal : ∀ a b, p a = true → p b = true → le a b = true) :
    (l.mergeSort le).filter p = l.filter p := by
  have hpairwise : (l.filter p).Pairwise fun a b => le a b = true :=
    List.pairwise_of_forall_mem_list fun a ha b hb =>
      hequal a b (List.mem_filter.1 ha).2 (List.mem_filter.1 hb).2
  have hsublist := (List.sublist_mergeSort htrans htotal hpairwise List.filter_sublist).filter p
  rw [List.filter_filter] at hsublist
  simp only [Bool.and_self] at hsublist
  exact (hsublist.eq_of_length ((List.mergeSort_perm l le).filter p).length_eq.symm).symm

theorem lookup_filter (phrases : Phrases) (run : List Text) :
    (phrases.filter fun p => p.1 == run).lookup run = phrases.lookup run := by
  induction phrases with
  | nil => rfl
  | cons p rest ih =>
    by_cases hp : p.1 = run
    · rw [List.filter_cons_of_pos (by simpa using hp), List.lookup_cons, List.lookup_cons, hp,
        beq_self_eq_true]
    · rw [List.filter_cons_of_neg (by simpa using hp), ih, List.lookup_cons,
        beq_false_of_ne (Ne.symm hp)]

theorem lookup_longestFirst (phrases : Phrases) (run : List Text) :
    (longestFirst phrases).lookup run = phrases.lookup run := by
  have hfilter : (longestFirst phrases).filter (fun p => p.1 == run) =
      phrases.filter fun p => p.1 == run :=
    filter_mergeSort isTriedBefore_trans isTriedBefore_total fun p q hp hq =>
      isTriedBefore_of_eq ((beq_iff_eq.1 hp).trans (beq_iff_eq.1 hq).symm)
  rw [← lookup_filter, hfilter, lookup_filter]

/-! ## The first phrase that is met -/

/-- Whether a phrase is met at a place of some words. -/
def isMetAt (keys : List Text) (start : Nat) (phrase : List Text) : Bool :=
  start + phrase.length ≤ keys.length && (keys.drop start).take phrase.length == phrase

/-- The first phrase that is met at a place: the count of its words, and what it stands for. -/
def firstMatch? (phrases : Phrases) (keys : List Text) (start : Nat) : Option (Nat × Replacement) :=
  phrases.findSome? fun p => if isMetAt keys start p.1 then some (p.1.length, p.2) else none

theorem isMetAt_iff (hle : start ≤ keys.length) :
    isMetAt keys start run = true ↔ run <+: keys.drop start := by
  rw [isMetAt, Bool.and_eq_true, decide_eq_true_iff, beq_iff_eq]
  constructor
  · intro h
    exact List.prefix_iff_eq_take.2 h.2.symm
  · intro hprefix
    have hlength := hprefix.length_le
    rw [List.length_drop] at hlength
    exact ⟨by omega, (List.prefix_iff_eq_take.1 hprefix).symm⟩

/-- What is met first is the longest. -/
theorem isLongest_of_firstMatch? (hle : start ≤ keys.length)
    (h : firstMatch? (longestFirst phrases) keys start = some (count, r)) :
    ∃ run, run.length = count ∧ IsLongest phrases (keys.drop start) run r := by
  obtain ⟨before, p, after, hsplit, hmet, hbefore⟩ := List.findSome?_eq_some_iff.1 h
  have hnotMet : ∀ q ∈ before, ¬ q.1 <+: keys.drop start := by
    intro q hq hprefix
    have hnone := hbefore q hq
    rw [if_pos ((isMetAt_iff hle).2 hprefix)] at hnone
    cases hnone
  split at hmet
  · rename_i hstarts
    obtain ⟨rfl, rfl⟩ := Prod.mk.inj (Option.some.inj hmet)
    have hprefix := (isMetAt_iff hle).1 hstarts
    refine ⟨p.1, rfl, hprefix, ?_, fun q hq hqprefix => ?_⟩
    · have hnone : before.lookup p.1 = none :=
        List.lookup_eq_none_iff.2 fun q hq => bne_iff_ne.2 fun heq =>
          hnotMet q hq (heq ▸ hprefix)
      rw [← lookup_longestFirst, hsplit, List.lookup_append, hnone, Option.none_or,
        List.lookup_cons_self]
    · -- no phrase that is met comes earlier, and what comes later has no more words
      have hsorted : (longestFirst phrases).Pairwise fun p q => isTriedBefore p q = true :=
        List.pairwise_mergeSort isTriedBefore_trans isTriedBefore_total phrases
      have hmem : q ∈ longestFirst phrases := List.mem_mergeSort.2 hq
      rw [hsplit] at hsorted hmem
      rcases List.mem_append.1 hmem with hearlier | hlater
      · exact absurd hqprefix (hnotMet q hearlier)
      · rcases List.mem_cons.1 hlater with rfl | hlater
        · exact Nat.le_refl _
        · have hafter := (List.pairwise_cons.1 (List.pairwise_append.1 hsorted).2.1).1 q hlater
          rw [isTriedBefore_iff] at hafter
          omega
  · cases hmet

/-- **The longest phrase.** Of phrases that are tried from the longest on, the first that is met at
a place is the longest that starts there, and the first bound of those with its words. -/
theorem firstMatch?_longestFirst (phrases : Phrases) (hle : start ≤ keys.length) :
    firstMatch? (longestFirst phrases) keys start = longestMatch phrases (keys.drop start) := by
  have hspec := longestMatch_spec phrases (keys.drop start)
  cases hfirst : firstMatch? (longestFirst phrases) keys start with
  | none =>
    cases hlongest : longestMatch phrases (keys.drop start) with
    | none => rfl
    | some found =>
      rw [hlongest] at hspec
      obtain ⟨run, -, hrun⟩ := hspec
      have hmem : (run, found.2) ∈ longestFirst phrases :=
        List.mem_mergeSort.2 (mem_of_lookup hrun.found)
      have hnone := List.findSome?_eq_none_iff.1 hfirst _ hmem
      rw [if_pos ((isMetAt_iff hle).2 hrun.starts)] at hnone
      cases hnone
  | some found =>
    obtain ⟨run, hcount, hrun⟩ := isLongest_of_firstMatch? hle hfirst
    cases hlongest : longestMatch phrases (keys.drop start) with
    | none =>
      rw [hlongest] at hspec
      exact absurd hrun.starts (hspec _ (mem_of_lookup hrun.found))
    | some other =>
      rw [hlongest] at hspec
      obtain ⟨run', hcount', hrun'⟩ := hspec
      obtain ⟨rfl, hsame⟩ := hrun.unique hrun'
      exact congrArg some (Prod.ext (hcount.symm.trans hcount') hsame)

/-! ## Reading place by place -/

/-- The pieces of some words from a place on; nothing if a phrase without words is met, at which
the reading would stay for ever. -/
def readFrom? (phrases : Phrases) (ws : List Text) (start : Nat) : Option (List Piece) :=
  if h : start < ws.length then
    match firstMatch? phrases (ws.map wordKey) start with
    | some (count, r) =>
      if 0 < count then (readFrom? phrases ws (start + count)).map (r.piece :: ·) else none
    | none => (readFrom? phrases ws (start + 1)).map (plainPiece ws[start] :: ·)
  else some []
termination_by ws.length - start

theorem readFrom?_longestFirst (hne : ∀ p ∈ phrases, p.1 ≠ []) (ws : List Text) (start : Nat)
    (hle : start ≤ ws.length) :
    readFrom? (longestFirst phrases) ws start = some (scan phrases 0 (ws.drop start)) := by
  -- on what is left to read, as a whole phrase is taken off at once
  induction hleft : ws.length - start using Nat.strongRecOn generalizing start with
  | ind n ih =>
    have hkeys : start ≤ (ws.map wordKey).length := by rwa [List.length_map]
    have hspec := longestMatch_spec phrases ((ws.map wordKey).drop start)
    rw [readFrom?, firstMatch?_longestFirst phrases hkeys]
    by_cases hword : start < ws.length
    · rw [dif_pos hword, List.drop_eq_getElem_cons hword, scan, ← List.drop_eq_getElem_cons hword,
        List.map_drop]
      cases hmatch : longestMatch phrases ((ws.map wordKey).drop start) with
      | none =>
        have hrest := ih (ws.length - (start + 1)) (by omega) (start + 1) hword rfl
        simp only
        rw [hrest, Option.map_some]
      | some found =>
        rw [hmatch] at hspec
        obtain ⟨run, hcount, hrun⟩ := hspec
        have hpos : 0 < found.1 := by
          rw [← hcount]
          exact List.length_pos_iff.2 (hne _ (mem_of_lookup hrun.found))
        have hend : start + found.1 ≤ ws.length := by
          have hlength := hrun.starts.length_le
          rw [List.length_drop, List.length_map] at hlength
          omega
        have hrest := ih (ws.length - (start + found.1)) (by omega) (start + found.1) hend rfl
        have hplace : start + 1 + (found.1 - 1) = start + found.1 := by omega
        simp only
        rw [if_pos hpos, hrest, Option.map_some, scan_eq_scan_drop phrases (found.1 - 1),
          List.drop_drop, hplace]
    · rw [dif_neg hword, List.drop_eq_nil_of_le (Nat.le_of_not_lt hword)]
      rfl

/-- **The pieces of a text.** Its words are read place by place, with the phrases tried from the
longest on. -/
theorem substitute_eq_readFrom? (bindings : List (Text × Replacement)) (text : Text) :
    (readFrom? (longestFirst (phrasesOf bindings)) (words text) 0).map mergeNumbers =
      some (substitute (phrasesOf bindings) text) := by
  rw [readFrom?_longestFirst (fun p hp => ne_nil_of_mem_phrasesOf hp) _ 0 (Nat.zero_le _)]
  rfl

end VoiceEdit.Substitution
