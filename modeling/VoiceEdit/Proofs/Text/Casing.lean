import Mathlib.Data.List.Basic
import VoiceEdit.Proofs.Text.Trimming
import VoiceEdit.Text.Casing
import VoiceEdit.Text.Letter

/-!
# Lower case

Only a capital sigma looks at its neighbours, and what is in lower case stays as it
is. White space and other characters stay apart.

* `lowerChar_cases`: the image of a character is in lower case, and no white space
  appears or disappears in it.
* `lower_eq_self`, `lower_lower`: a text in lower case stays as it is.
* `lower_eq_flatMap`, `lower_append`: a text without capital sigmas is lowered
  character by character.
* `lower_eq_nil_iff`, `upper_eq_nil_iff`: no character vanishes in another case.
* `isBlank_of_isAlphanumeric`, `not_isCased_of_isBlank`: white space is no letter or
  number, and no look for a cased neighbour passes it.
-/
namespace VoiceEdit.Text

/-! ## Runs of code points -/

/-- A code point belongs to a run. -/
def CaseRun.Has (run : CaseRun) (n : Nat) : Prop :=
  run.first ≤ n ∧ n ≤ run.last ∧ (n - run.first) % run.step = 0

/-- A code point that moves belongs to a run and moves with it. -/
theorem exists_run {runs : List CaseRun} {n : Nat} (h : shiftOf runs n ≠ 0) :
    ∃ run ∈ runs, run.Has n ∧ shiftOf runs n = run.shift := by
  induction runs with
  | nil => exact absurd rfl h
  | cons run rest ih =>
    rw [shiftOf] at h ⊢
    split at h
    · exact absurd rfl h
    rename_i hfirst
    rw [if_neg hfirst]
    split at h
    · rename_i hlast
      rw [if_pos hlast]
      split at h
      · rename_i hstep
        exact ⟨run, List.mem_cons_self, ⟨Nat.le_of_not_lt hfirst, hlast, hstep⟩, if_pos hstep⟩
      · exact absurd rfl h
    · rename_i hlast
      rw [if_neg hlast]
      obtain ⟨found, hmem, hhas, hshift⟩ := ih h
      exact ⟨found, List.mem_cons_of_mem run hmem, hhas, hshift⟩

theorem inRanges_eq_false {ranges : List (Nat × Nat)} {n : Nat}
    (h : ∀ range ∈ ranges, n < range.1 ∨ range.2 < n) : inRanges ranges n = false := by
  induction ranges with
  | nil => rfl
  | cons range rest ih =>
    obtain ⟨hrange, hrest⟩ := List.forall_mem_cons.1 h
    rw [inRanges, ih hrest, Bool.or_false]
    split
    · rfl
    · rw [decide_eq_false_iff_not]
      omega

/-- Where a run moves a code point. -/
def CaseRun.image (run : CaseRun) (n : Nat) : Nat := (n + run.shift).toNat

/-- Whether a run moves nothing onto another run: it ends before that one or starts
after it, or the two alternate. -/
def CaseRun.avoids (run other : CaseRun) : Bool :=
  Nat.blt (run.image run.last) other.first || Nat.blt other.last (run.image run.first) ||
    (other.step == 2 && (run.step == 2 || run.first == run.last) &&
      (run.image run.first + other.first) % 2 == 1)

/-- The characters of a run and their images. -/
structure CaseRun.Sound (run : CaseRun) : Prop where
  /-- Behind the capitals and all punctuation of ASCII that stands before them. -/
  high : 0x60 < run.image run.first
  valid : run.image run.last < 0xD800 ∨
    0xDFFF < run.image run.first ∧ run.image run.last < 0x110000
  single : ∀ e ∈ lowerExpansions, run.image run.last < e.1 ∨ e.1 < run.image run.first
  visible : ∀ range ∈ blankRanges, run.last < range.1 ∨ range.2 < run.first
  remains : ∀ range ∈ blankRanges, run.image run.last < range.1 ∨ range.2 < run.image run.first

theorem sound_of_mem_lowerRuns : ∀ run ∈ lowerRuns, run.Sound := by
  have h : ∀ run ∈ lowerRuns, 0x60 < run.image run.first ∧ (run.image run.last < 0xD800 ∨
      0xDFFF < run.image run.first ∧ run.image run.last < 0x110000) ∧
      (∀ e ∈ lowerExpansions, run.image run.last < e.1 ∨ e.1 < run.image run.first) ∧
      (∀ range ∈ blankRanges, run.last < range.1 ∨ range.2 < run.first) ∧
      ∀ range ∈ blankRanges, run.image run.last < range.1 ∨ range.2 < run.image run.first := by
    decide +kernel
  intro run hrun
  obtain ⟨hhigh, hvalid, hsingle, hvisible, hremains⟩ := h run hrun
  exact ⟨hhigh, hvalid, hsingle, hvisible, hremains⟩

/-- What lower case moves stays where it is moved. -/
theorem lowerRuns_avoid : lowerRuns.all (fun run => lowerRuns.all run.avoids) = true := by
  decide +kernel

theorem CaseRun.not_has_of_avoids {run other : CaseRun} {n : Nat}
    (hpositive : 0 < run.image run.first) (h : run.avoids other = true) (hn : run.Has n) :
    ¬ other.Has (run.image n) := by
  obtain ⟨hfirst, hlast, hstep⟩ := hn
  rintro ⟨hfirst', hlast', hstep'⟩
  simp only [avoids, Bool.or_eq_true, Bool.and_eq_true, Nat.blt_eq, beq_iff_eq] at h
  unfold image at *
  obtain (h | h) | ⟨⟨htwo, halternate⟩, hodd⟩ := h
  · omega
  · omega
  · rw [htwo] at hstep'
    obtain htwo' | hsingle := halternate
    · rw [htwo'] at hstep
      omega
    · omega

/-- The image of a code point of a run is that of a character, and not moved again. -/
theorem CaseRun.Has.image {run : CaseRun} {n : Nat} (hmem : run ∈ lowerRuns) (hn : run.Has n) :
    0x60 < run.image n ∧ (run.image n).isValidChar ∧ shiftOf lowerRuns (run.image n) = 0 ∧
      lowerExpansions.lookup (run.image n) = none := by
  have hsound := sound_of_mem_lowerRuns run hmem
  have hfirst : run.image run.first ≤ run.image n := by
    have := hn.1
    unfold CaseRun.image
    omega
  have hlast : run.image n ≤ run.image run.last := by
    have := hn.2.1
    unfold CaseRun.image
    omega
  refine ⟨Nat.lt_of_lt_of_le hsound.high hfirst, ?_, ?_, ?_⟩
  · rcases hsound.valid with h | ⟨hlow, hhigh⟩
    · exact .inl (Nat.lt_of_le_of_lt hlast h)
    · exact .inr ⟨Nat.lt_of_lt_of_le hlow hfirst, Nat.lt_of_le_of_lt hlast hhigh⟩
  · refine Decidable.byContradiction fun hshift => ?_
    obtain ⟨other, hother, hhas, -⟩ := exists_run hshift
    have havoids := List.all_eq_true.1 (List.all_eq_true.1 lowerRuns_avoid run hmem) other hother
    exact run.not_has_of_avoids (Nat.zero_lt_of_lt hsound.high) havoids hn hhas
  · refine List.lookup_eq_none_iff.2 fun e he => bne_iff_ne.2 ?_
    rcases hsound.single e he with h | h <;> omega

theorem CaseRun.Has.isBlank {run : CaseRun} {n : Nat} (hmem : run ∈ lowerRuns) (hn : run.Has n) :
    inRanges blankRanges n = false ∧ inRanges blankRanges (run.image n) = false := by
  have hsound := sound_of_mem_lowerRuns run hmem
  obtain ⟨hfirst, hlast, -⟩ := hn
  constructor
  · refine inRanges_eq_false fun range hrange => ?_
    rcases hsound.visible range hrange with h | h <;> omega
  · refine inRanges_eq_false fun range hrange => ?_
    have hremains := hsound.remains range hrange
    unfold CaseRun.image at hremains ⊢
    omega

/-! ## Single characters -/

/-- A character that is its own lower-case image. -/
def IsLower (c : Char) : Prop := lowerChar c = [c]

instance (c : Char) : Decidable (IsLower c) := inferInstanceAs (Decidable (_ = _))

theorem isLower_of_shift {c : Char} (hshift : shiftOf lowerRuns c.toNat = 0)
    (hsingle : lowerExpansions.lookup c.toNat = none) : IsLower c := by
  rw [IsLower, lowerChar, mapCase, hsingle, hshift]
  simp

/-- The image of a character is in lower case; white space and the characters up to the
capitals `A` to `Z` are images of nothing but themselves. -/
theorem lowerChar_cases (c : Char) : IsLower c ∨
    isBlank c = false ∧ ∀ d ∈ lowerChar c, IsLower d ∧ isBlank d = false ∧ 0x60 < d.toNat := by
  cases hexpansion : lowerExpansions.lookup c.toNat with
  | some image =>
    have hc : c = '\u0130' := by
      refine Decidable.byContradiction fun hne => ?_
      have hcode : c.toNat ≠ 0x130 := fun h => hne (Char.toNat_inj.1 h)
      rw [lowerExpansions, List.lookup_cons, beq_false_of_ne hcode] at hexpansion
      exact (nomatch hexpansion)
    have himage : lowerChar c = ['i', '\u0307'] := by
      rw [hc]
      decide +kernel
    refine .inr ⟨by rw [hc]; decide +kernel, fun d hd => ?_⟩
    rw [himage] at hd
    rcases List.mem_cons.1 hd with rfl | hd
    · decide +kernel
    · rw [List.mem_singleton.1 hd]
      decide +kernel
  | none =>
    by_cases hshift : shiftOf lowerRuns c.toNat = 0
    · exact .inl (isLower_of_shift hshift hexpansion)
    obtain ⟨run, hmem, hhas, hmoves⟩ := exists_run hshift
    have himage : lowerChar c = [Char.ofNat (run.image c.toNat)] := by
      rw [lowerChar, mapCase, hexpansion, hmoves]
      rfl
    obtain ⟨hhigh, hvalid, hstays, hsingle⟩ := hhas.image hmem
    obtain ⟨hvisible, hremains⟩ := hhas.isBlank hmem
    have hcode : (Char.ofNat (run.image c.toNat)).toNat = run.image c.toNat := by
      rw [Char.ofNat, dif_pos hvalid]
      rfl
    refine .inr ⟨hvisible, fun d hd => ?_⟩
    rw [himage] at hd
    obtain rfl := List.mem_singleton.1 hd
    refine ⟨isLower_of_shift ?_ ?_, ?_, ?_⟩
    · rw [hcode, hstays]
    · rw [hcode, hsingle]
    · rw [isBlank, hcode, hremains]
    · rwa [hcode]

/-! ## Texts -/

theorem isLower_of_mem_lowerChar {c d : Char} (hd : d ∈ lowerChar c) : IsLower d := by
  rcases lowerChar_cases c with hlower | ⟨-, himage⟩
  · rw [hlower] at hd
    obtain rfl := List.mem_singleton.1 hd
    exact hlower
  · exact (himage d hd).1

theorem isLower_lowerSigma (before after : Text) : IsLower (lowerSigma before after) := by
  unfold lowerSigma
  split <;> decide +kernel

theorem isLower_of_mem_lowerAfter {before t : Text} {c : Char} (hc : c ∈ lowerAfter before t) :
    IsLower c := by
  induction t generalizing before with
  | nil => exact absurd hc List.not_mem_nil
  | cons d rest ih =>
    rcases List.mem_append.1 hc with hc | hc
    · split at hc
      · obtain rfl := List.mem_singleton.1 hc
        exact isLower_lowerSigma before rest
      · exact isLower_of_mem_lowerChar hc
    · exact ih hc

/-- The lower-case image of a text is in lower case. -/
theorem isLower_of_mem_lower {t : Text} {c : Char} (hc : c ∈ lower t) : IsLower c :=
  isLower_of_mem_lowerAfter hc

theorem lowerAfter_eq_flatMap {t : Text} (ht : '\u03a3' ∉ t) (before : Text) :
    lowerAfter before t = t.flatMap lowerChar := by
  induction t generalizing before with
  | nil => rfl
  | cons c rest ih =>
    rw [List.mem_cons, not_or] at ht
    obtain ⟨hc, hrest⟩ := ht
    rw [lowerAfter, if_neg (Ne.symm hc), ih hrest, List.flatMap_cons]

/-- A text without capital sigmas is lowered character by character. -/
theorem lower_eq_flatMap {t : Text} (ht : '\u03a3' ∉ t) : lower t = t.flatMap lowerChar :=
  lowerAfter_eq_flatMap ht []

/-- A text in lower case stays as it is. -/
theorem lower_eq_self {t : Text} (ht : ∀ c ∈ t, IsLower c) : lower t = t := by
  have hsigma : '\u03a3' ∉ t := fun h => absurd (ht _ h) (by decide +kernel)
  rw [lower_eq_flatMap hsigma]
  exact (List.flatMap_congr ht).trans (List.flatMap_singleton' t)

@[simp] theorem lower_lower (t : Text) : lower (lower t) = lower t :=
  lower_eq_self fun _ => isLower_of_mem_lower

theorem lower_append {a b : Text} (h : '\u03a3' ∉ a ++ b) :
    lower (a ++ b) = lower a ++ lower b := by
  have hparts := h
  rw [List.mem_append, not_or] at hparts
  obtain ⟨ha, hb⟩ := hparts
  rw [lower_eq_flatMap h, lower_eq_flatMap ha, lower_eq_flatMap hb, List.flatMap_append]

/-! ## White space -/

theorem isLower_of_isBlank {c : Char} (hc : isBlank c = true) : IsLower c :=
  (lowerChar_cases c).resolve_right fun h => by
    rw [h.1] at hc
    cases hc

theorem isBlank_of_mem_lowerChar {c d : Char} (hc : isBlank c = false) (hd : d ∈ lowerChar c) :
    isBlank d = false := by
  rcases lowerChar_cases c with hlower | ⟨-, himage⟩
  · rw [hlower] at hd
    rw [List.mem_singleton.1 hd, hc]
  · exact (himage d hd).2.1

/-! ## Empty texts -/

/-- The image of a character is never empty. -/
theorem mapCase_ne_nil {expansions : List (Nat × List Nat)} (h : ∀ e ∈ expansions, e.2 ≠ [])
    (runs : List CaseRun) (c : Char) : mapCase runs expansions c ≠ [] := by
  unfold mapCase
  split
  · rename_i image himage
    obtain ⟨before, after, hexpansions, -⟩ := List.lookup_eq_some_iff.1 himage
    have hmem : (c.toNat, image) ∈ expansions := by rw [hexpansions]; simp
    exact fun hnil => h _ hmem (List.map_eq_nil_iff.1 hnil)
  · exact List.cons_ne_nil _ _

theorem upper_eq_nil_iff (t : Text) : upper t = [] ↔ t = [] := by
  have himage : ∀ c, upperChar c ≠ [] := mapCase_ne_nil (by decide) upperRuns
  cases t with
  | nil => simp [upper]
  | cons c rest => simp [upper, himage]

theorem lower_eq_nil_iff (t : Text) : lower t = [] ↔ t = [] := by
  have himage : ∀ c, lowerChar c ≠ [] := mapCase_ne_nil (by decide) lowerRuns
  cases t with
  | nil => simp [lower, lowerAfter]
  | cons c rest =>
    rw [lower, lowerAfter]
    split <;> simp [himage]

/-! ## Letters -/

theorem exists_range {ranges : List (Nat × Nat)} {n : Nat} (h : inRanges ranges n = true) :
    ∃ range ∈ ranges, range.1 ≤ n ∧ n ≤ range.2 := by
  refine Decidable.byContradiction fun hnone => ?_
  rw [inRanges_eq_false fun range hrange => ?_] at h
  · cases h
  · refine Decidable.byContradiction fun hin => hnone ⟨range, hrange, ?_⟩
    omega

/-- Whether some ranges lie outside of all white space. -/
def avoidsBlanks (ranges : List (Nat × Nat)) : Bool :=
  ranges.all fun range => blankRanges.all fun blank => range.2 < blank.1 || blank.2 < range.1

theorem isBlank_of_inRanges {ranges : List (Nat × Nat)} {c : Char}
    (havoids : avoidsBlanks ranges = true) (h : inRanges ranges c.toNat = true) :
    isBlank c = false := by
  obtain ⟨range, hmem, hfirst, hlast⟩ := exists_range h
  refine inRanges_eq_false fun blank hblank => ?_
  have hapart := List.all_eq_true.1 (List.all_eq_true.1 havoids range hmem) blank hblank
  simp only [Bool.or_eq_true, decide_eq_true_eq] at hapart
  omega

/-- No letter or number is white space. -/
theorem isBlank_of_isAlphanumeric {c : Char} (h : isAlphanumeric c = true) : isBlank c = false := by
  rcases Bool.or_eq_true_iff.1 h with hletter | hnumeric
  · exact isBlank_of_inRanges (by decide +kernel : avoidsBlanks letterRanges = true) hletter
  · exact isBlank_of_inRanges (by decide +kernel : avoidsBlanks numericRanges = true) hnumeric

/-- White space has no case, and no look for a cased neighbour passes it. -/
theorem not_isCased_of_isBlank {c : Char} (h : isBlank c = true) :
    isCased c = false ∧ isCaseIgnorable c = false := by
  constructor
  · refine Bool.eq_false_iff.2 fun hcased => ?_
    rw [isBlank_of_inRanges (by decide +kernel : avoidsBlanks casedRanges = true) hcased] at h
    cases h
  · refine Bool.eq_false_iff.2 fun hignorable => ?_
    rw [isBlank_of_inRanges (by decide +kernel : avoidsBlanks caseIgnorableRanges = true)
      hignorable] at h
    cases h

end VoiceEdit.Text
