import VoiceEdit.Proofs.Substitution.Merging

/-!
# Runs that become what they say

* `spoken`: what a run of numbers says.
* `isFaithful`: the runs that become what they say.
* `merged_eq_spoken_iff`: there are no others.
* `merged_digits_iff`: among the runs of single digits they are those without a
  garbled zero (`Garbled`).
-/
namespace VoiceEdit.Substitution

open Text

/-- What a run of numbers says: 20, 30, … or 90 with a number from 1 to 9 right
behind it is their sum, every other number stands as it is. -/
def spoken : List Text → Text
  | [] => []
  | [d] => d
  | d :: e :: rest =>
    if isTens d && isUnit e then ofNat (digitsValue 0 d + digitsValue 0 e) ++ spoken rest
    else d ++ spoken (e :: rest)

/-- Whether some tens value stands right before a unit. -/
def hasPair : List Text → Bool
  | d :: e :: rest => isTens d && isUnit e || hasPair (e :: rest)
  | _ => false

/-- Whether a run becomes what it says. Zeros in front do not matter; behind them
one tens value may stand before a unit, if both are written without zeros in
front, or none at all and no garbled zero. -/
def isFaithful (run : List Text) : Bool :=
  match run.dropWhile fun d => digitsValue 0 d == 0 with
  | d :: e :: rest =>
    if isTens d && isUnit e then d.length == 2 && e.length == 1 && !hasPair rest
    else !hasPair (d :: e :: rest) && !hasGarbledZero (d :: e :: rest)
  | _ => true

/-- Digits among which a zero is lost: behind zeros a digit from 2 on, one zero
and another digit. -/
def Garbled (ds : Text) : Prop :=
  ∃ c c' rest, ds.dropWhile (· == '0') = c :: '0' :: c' :: rest ∧ c ≠ '1' ∧ c' ≠ '0'

variable {d e f : Text} {run rest : List Text}

/-! ## What a run says -/

theorem spoken_cons (h : isTens d = false) (rest : List Text) :
    spoken (d :: rest) = d ++ spoken rest := by
  cases rest with
  | nil => simp [spoken]
  | cons e rest => rw [spoken, h, Bool.false_and, if_neg Bool.false_ne_true]

/-- Without a tens value before a unit a run says its numbers one after the other. -/
theorem spoken_eq_flatten (h : hasPair run = false) : spoken run = run.flatten := by
  induction run with
  | nil => rfl
  | cons d rest ih =>
    cases rest with
    | nil => simp [spoken]
    | cons e rest =>
      rw [hasPair, Bool.or_eq_false_iff] at h
      rw [spoken, h.1, if_neg Bool.false_ne_true, ih h.2]
      rfl

theorem length_pair (hd : isDecimal d = true) (htens : isTens d = true) (he : isDecimal e = true)
    (hunit : isUnit e = true) :
    (ofNat (digitsValue 0 d + digitsValue 0 e)).length ≤ 2 ∧ 2 ≤ d.length ∧ 1 ≤ e.length := by
  have htens' := (isTens_iff hd).1 htens
  have hunit' := (isUnit_iff he).1 hunit
  obtain ⟨a, rfl, ha, -, -⟩ := eq_append_zero_of_isTens hd htens
  have hpos : 0 < a.length := List.length_pos_iff.2 (isDecimal_iff.1 ha).1
  refine ⟨(Nat.length_toDigits_le_iff (by decide) (by decide)).2 (by omega), ?_,
    List.length_pos_iff.2 (isDecimal_iff.1 he).1⟩
  rw [List.length_append, List.length_singleton]
  omega

/-- A run says no more digits than it has, and less if a tens value stands before
a unit. -/
theorem length_spoken (hrun : ∀ d ∈ run, isDecimal d = true) :
    (spoken run).length ≤ run.flatten.length ∧
      (hasPair run = true → (spoken run).length < run.flatten.length) := by
  induction run using spoken.induct with
  | case1 => simp [spoken, hasPair]
  | case2 d => simp [spoken, hasPair]
  | case3 d e rest hpair ih =>
    have hrest := ih fun f hf => hrun f (by simp [hf])
    obtain ⟨htens, hunit⟩ := Bool.and_eq_true_iff.1 hpair
    have hlength := length_pair (hrun d (by simp)) htens (hrun e (by simp)) hunit
    rw [spoken, if_pos hpair, List.length_append, List.flatten_cons, List.flatten_cons,
      List.length_append, List.length_append]
    omega
  | case4 d e rest hpair ih =>
    have hpair := Bool.eq_false_iff.2 hpair
    have hrest := ih fun f hf => hrun f (by simp_all)
    rw [spoken, if_neg (by simp [hpair]), hasPair, hpair, Bool.false_or, List.length_append,
      List.flatten_cons, List.length_append]
    refine ⟨by omega, fun hp => ?_⟩
    have := hrest.2 hp
    omega

theorem spoken_eq_flatten_iff (hrun : ∀ d ∈ run, isDecimal d = true) :
    spoken run = run.flatten ↔ hasPair run = false := by
  refine ⟨fun h => Bool.eq_false_iff.2 fun hpair => ?_, spoken_eq_flatten⟩
  have := (length_spoken hrun).2 hpair
  rw [h] at this
  exact Nat.lt_irrefl _ this

/-- Two digits are the decimal digits of ten times the first and the second. -/
theorem ofNat_pair {c c' : Char} (hc : c.isDigit = true) (hc' : c'.isDigit = true)
    (hpos : 0 < digitsValue 0 [c]) :
    ofNat (10 * digitsValue 0 [c] + digitsValue 0 [c']) = [c, c'] := by
  have hb := (toNat_of_isDigit hc).2
  have hb' := (toNat_of_isDigit hc').2
  have happend := Nat.toDigits_append_toDigits (b := 10) (n := digitsValue 0 [c])
    (d := digitsValue 0 [c']) (by decide) hpos (by omega)
  rw [ofNat, ← happend, Nat.toDigits_of_lt_base (by omega), Nat.toDigits_of_lt_base (by omega),
    digitChar_of_isDigit hc, digitChar_of_isDigit hc', List.singleton_append]

/-- A tens value and a unit without zeros in front merge into their sum. -/
theorem dropLast_append_eq_ofNat (hd : isDecimal d = true) (htens : isTens d = true)
    (he : isDecimal e = true) (hlength : d.length = 2 ∧ e.length = 1) :
    d.dropLast ++ e = ofNat (digitsValue 0 d + digitsValue 0 e) := by
  obtain ⟨a, rfl, ha, hlow, -⟩ := eq_append_zero_of_isTens hd htens
  obtain ⟨c, rfl⟩ : ∃ c, a = [c] := List.length_eq_one_iff.1 (by simpa using hlength.1)
  obtain ⟨c', rfl⟩ := List.length_eq_one_iff.1 hlength.2
  have hc := (isDecimal_iff.1 ha).2 c List.mem_cons_self
  have hc' := (isDecimal_iff.1 he).2 c' List.mem_cons_self
  rw [List.dropLast_concat, List.singleton_append, digitsValue_append, digitsValue_zero,
    List.length_singleton, Nat.pow_one, Nat.add_zero, Nat.mul_comm, ofNat_pair hc hc' (by omega)]

/-! ## The runs that become what they say -/

theorem merged_pair_eq_spoken_iff (hrun : ∀ g ∈ d :: e :: rest, isDecimal g = true)
    (hpair : (isTens d && isUnit e) = true) :
    merged (d :: e :: rest) = spoken (d :: e :: rest) ↔
      d.length = 2 ∧ e.length = 1 ∧ hasPair rest = false := by
  have hdd := hrun d (by simp)
  have hed := hrun e (by simp)
  have hrest : ∀ g ∈ rest, isDecimal g = true := fun g hg => hrun g (by simp [hg])
  obtain ⟨htens, hunit⟩ := Bool.and_eq_true_iff.1 hpair
  have hlength := length_pair hdd htens hed hunit
  have hspoken := length_spoken hrest
  rw [merged_pair hdd htens hed hunit hrest, spoken, if_pos hpair]
  constructor
  · intro h
    have hcount := congrArg List.length h
    rw [List.length_append, List.length_append, List.length_append, List.length_dropLast] at hcount
    refine ⟨by omega, by omega, Bool.eq_false_iff.2 fun hp => ?_⟩
    have := hspoken.2 hp
    omega
  · rintro ⟨hd, he, hp⟩
    rw [dropLast_append_eq_ofNat hdd htens hed ⟨hd, he⟩, spoken_eq_flatten hp]

/-- A number that goes on as it would behind one more zero is made of zeros. -/
theorem digitsValue_of_shift {a b : Text} (h : f ++ a = '0' :: (f ++ b)) : digitsValue 0 f = 0 := by
  induction f with
  | nil => rfl
  | cons c f ih =>
    obtain ⟨rfl, htail⟩ := List.cons_eq_cons.1 h
    rw [digitsValue_cons]
    exact ih htail

theorem merged_garbled_ne_spoken (hrun : ∀ g ∈ d :: e :: rest, isDecimal g = true)
    (hzero : hasGarbledZero (d :: e :: rest) = true) :
    merged (d :: e :: rest) ≠ spoken (d :: e :: rest) := by
  cases rest with
  | nil => cases hzero
  | cons f rest =>
    simp only [hasGarbledZero, Bool.and_eq_true, bne_iff_ne, beq_iff_eq] at hzero
    obtain ⟨⟨⟨hunit, hone⟩, rfl⟩, hfunit⟩ := hzero
    have hdd := hrun d (by simp)
    have hfd := hrun f (by simp)
    have hrest : ∀ g ∈ rest, isDecimal g = true := fun g hg => hrun g (by simp [hg])
    have hdvalue := (isUnit_iff hdd).1 hunit
    have hfvalue := (isUnit_iff hfd).1 hfunit
    rw [merged_garbled hdd hunit hone hfd hfunit hrest,
      spoken_cons (isTens_of_value_lt hdd (by omega)), spoken_cons rfl,
      spoken_cons (isTens_of_value_lt hfd (by omega)), List.append_assoc]
    intro h
    have := digitsValue_of_shift (List.append_cancel_left h)
    omega

/-- A run whose first number is not zero. -/
theorem merged_eq_spoken_iff_of_ne_zero (hrun : ∀ g ∈ d :: rest, isDecimal g = true)
    (hd : digitsValue 0 d ≠ 0) :
    merged (d :: rest) = spoken (d :: rest) ↔ isFaithful (d :: rest) = true := by
  have hdrop : (d :: rest).dropWhile (fun d => digitsValue 0 d == 0) = d :: rest := by
    simp [hd]
  rw [isFaithful, hdrop]
  cases rest with
  | nil => simp [merged, spoken, mergeDigits_of_not_isTens isTens_nil]
  | cons e rest =>
    by_cases hpair : (isTens d && isUnit e) = true
    · rw [merged_pair_eq_spoken_iff hrun hpair]
      simp [hpair, and_assoc]
    · have hpair := Bool.eq_false_iff.2 hpair
      cases hzero : hasGarbledZero (d :: e :: rest) with
      | true =>
        simp [hpair, hzero, merged_garbled_ne_spoken hrun hzero]
      | false =>
        rw [merged_flatten hrun hd hpair hzero, eq_comm, spoken_eq_flatten_iff hrun]
        simp [hpair, hzero]

/-- **Faithful runs.** A run of numbers becomes what it says if and only if it is
one of those that `isFaithful` names. -/
theorem merged_eq_spoken_iff (hrun : ∀ d ∈ run, isDecimal d = true) :
    merged run = spoken run ↔ isFaithful run = true := by
  induction run with
  | nil => simp [merged, spoken, isFaithful]
  | cons d rest ih =>
    by_cases hd : digitsValue 0 d = 0
    · -- a zero in front stands in front of both sides
      have hdd := hrun d List.mem_cons_self
      have hrest : ∀ g ∈ rest, isDecimal g = true := fun g hg => hrun g (List.mem_cons_of_mem d hg)
      have hdrop : isFaithful (d :: rest) = isFaithful rest := by
        simp [isFaithful, hd]
      rw [merged_zero_cons hdd hd hrest, spoken_cons (isTens_of_value_lt hdd (by omega)), hdrop,
        List.append_cancel_left_eq, ih hrest]
    · exact merged_eq_spoken_iff_of_ne_zero hrun hd

/-! ## Single digits -/

/-- Digits as numbers of one digit each. -/
def singles (ds : Text) : List Text := ds.map fun c => [c]

variable {ds : Text}

theorem isDecimal_of_mem_singles (h : IsDigits ds) : ∀ d ∈ singles ds, isDecimal d = true := by
  intro d hd
  obtain ⟨c, hc, rfl⟩ := List.mem_map.1 hd
  exact isDecimal_singleton (h c hc)

theorem isTens_singleton {c : Char} (h : c.isDigit = true) : isTens [c] = false :=
  isTens_of_value_lt (isDecimal_singleton h) (by have := (toNat_of_isDigit h).2; omega)

theorem isUnit_singleton {c : Char} (h : c.isDigit = true) : isUnit [c] = true ↔ c ≠ '0' := by
  have hc := (toNat_of_isDigit h).2
  rw [isUnit_iff (isDecimal_singleton h), ne_eq, digit_eq_iff h rfl, digitsValue_zero]
  omega

theorem hasPair_singles (h : IsDigits ds) : hasPair (singles ds) = false := by
  induction ds with
  | nil => rfl
  | cons c rest ih =>
    have hrest := ih fun x hx => h x (List.mem_cons_of_mem c hx)
    cases rest with
    | nil => rfl
    | cons c' rest =>
      have hc := isTens_singleton (h c List.mem_cons_self)
      simp only [singles, List.map_cons, hasPair] at hrest ⊢
      rw [hc, hrest, Bool.false_and, Bool.or_self]

theorem spoken_singles (h : IsDigits ds) : spoken (singles ds) = ds := by
  rw [spoken_eq_flatten (hasPair_singles h)]
  induction ds with
  | nil => rfl
  | cons c rest ih => simpa [singles] using ih fun x hx => h x (List.mem_cons_of_mem c hx)

theorem dropWhile_singles (h : IsDigits ds) :
    (singles ds).dropWhile (fun d => digitsValue 0 d == 0) = singles (ds.dropWhile (· == '0')) := by
  induction ds with
  | nil => rfl
  | cons c rest ih =>
    have hrest := ih fun x hx => h x (List.mem_cons_of_mem c hx)
    have hc : digitsValue 0 [c] = 0 ↔ c = '0' := by
      rw [digit_eq_iff (h c List.mem_cons_self) rfl, digitsValue_zero]
    by_cases hzero : c = '0'
    · simpa [singles, hc, hzero, digitsValue_zero] using hrest
    · simp [singles, hc, hzero]

theorem hasGarbledZero_singles {c : Char} {rest : Text} (h : IsDigits (c :: rest)) (hc : c ≠ '0') :
    hasGarbledZero (singles (c :: rest)) = true ↔
      c ≠ '1' ∧ ∃ c' rest', rest = '0' :: c' :: rest' ∧ c' ≠ '0' := by
  have hdigit := h c List.mem_cons_self
  have hunit := (isUnit_singleton hdigit).2 hc
  have hone : digitsValue 0 [c] = 1 ↔ c = '1' := by
    rw [digit_eq_iff hdigit rfl, digitsValue_one]
  match rest with
  | [] => simp [singles, hasGarbledZero]
  | [_] => simp [singles, hasGarbledZero]
  | z :: u :: rest' =>
    have hu := isUnit_singleton (h u (by simp))
    simp only [singles, List.map_cons, hasGarbledZero, hunit, Bool.true_and, Bool.and_eq_true,
      bne_iff_ne, ne_eq, hone, beq_iff_eq, List.cons.injEq, and_true, hu]
    constructor
    · rintro ⟨⟨hc, rfl⟩, hu⟩
      exact ⟨hc, u, rest', ⟨rfl, rfl, rfl⟩, hu⟩
    · rintro ⟨hc, c', rest'', ⟨rfl, rfl, rfl⟩, hu⟩
      exact ⟨⟨hc, rfl⟩, hu⟩

/-- A run of single digits becomes these digits unless a zero is lost. -/
theorem merged_digits_iff (h : IsDigits ds) : merged (singles ds) = ds ↔ ¬ Garbled ds := by
  have hfaithful := merged_eq_spoken_iff (isDecimal_of_mem_singles h)
  have hhead := List.head?_dropWhile_not (· == '0') ds
  have hdigits : IsDigits (ds.dropWhile (· == '0')) :=
    fun c hc => h c ((List.dropWhile_sublist _).subset hc)
  rw [spoken_singles h] at hfaithful
  rw [hfaithful, isFaithful, dropWhile_singles h, Garbled]
  generalize ds.dropWhile (· == '0') = kept at hhead hdigits
  match kept with
  | [] => simp [singles]
  | [_] => simp [singles]
  | c :: c' :: rest =>
    have hpair := hasPair_singles hdigits
    have htens := isTens_singleton (hdigits c List.mem_cons_self)
    have hgarbled := hasGarbledZero_singles hdigits (by simpa using hhead)
    simp only [singles, List.map_cons] at hpair hgarbled ⊢
    rw [htens, hpair, Bool.false_and, if_neg Bool.false_ne_true, Bool.not_false, Bool.true_and,
      Bool.not_eq_true', ← Bool.not_eq_true, hgarbled, not_congr]
    constructor
    · rintro ⟨hc, c'', rest', hrest, hc''⟩
      exact ⟨c, c'', rest', congrArg (c :: ·) hrest, hc, hc''⟩
    · rintro ⟨d, d', rest', hrest, hd, hd'⟩
      obtain ⟨rfl, htail⟩ := List.cons_eq_cons.1 hrest
      exact ⟨hd, d', rest', htail, hd'⟩

end VoiceEdit.Substitution
