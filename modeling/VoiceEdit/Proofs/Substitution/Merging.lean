import VoiceEdit.Proofs.Text.Digits

/-!
# Runs of numbers

Numbers next to each other merge from the left. What is looked at for 20, 30, …
or 90 is the number merged so far and not the one said last, so that a run can
become another number than was said.

* `merged`: what a run of numbers becomes.
* `merged_zero_cons`: zeros in front stay in front.
* `merged_pair`, `merged_garbled`, `merged_flatten`: behind them at most one merge
  happens, where the run begins with a tens value and a unit or with a garbled
  zero; everything else is written one after the other.
-/
namespace VoiceEdit.Substitution

open Text

/-- What a run of numbers becomes. -/
def merged (run : List Text) : Text := run.foldl mergeDigits []

/-- Whether a digit from 2 on and a zero stand right before a unit. -/
def hasGarbledZero : List Text → Bool
  | d :: e :: f :: _ => isUnit d && digitsValue 0 d != 1 && e == ['0'] && isUnit f
  | _ => false

variable {d e f : Text} {run rest : List Text}

/-! ## One merge -/

theorem mergeDigits_of_not_isTens (h : isTens d = false) (e : Text) : mergeDigits d e = d ++ e := by
  rw [mergeDigits, h, Bool.false_and, if_neg Bool.false_ne_true]

theorem mergeDigits_of_not_isUnit (d : Text) (h : isUnit e = false) : mergeDigits d e = d ++ e := by
  rw [mergeDigits, h, Bool.and_false, if_neg Bool.false_ne_true]

theorem mergeDigits_pair (hd : isTens d = true) (he : isUnit e = true) :
    mergeDigits d e = d.dropLast ++ e := by
  rw [mergeDigits, hd, he, Bool.and_self, if_pos rfl]

theorem isDigits_mergeDigits (hd : IsDigits d) (he : IsDigits e) : IsDigits (mergeDigits d e) := by
  unfold mergeDigits
  split
  · exact isDigits_append.2 ⟨fun c hc => hd c ((List.dropLast_sublist d).subset hc), he⟩
  · exact isDigits_append.2 ⟨hd, he⟩

theorem isTens_of_value_lt (hd : isDecimal d = true) (h : digitsValue 0 d < 20) : isTens d = false := by
  rw [Bool.eq_false_iff]
  intro htens
  have := (isTens_iff hd).1 htens
  omega

theorem isTens_nil : isTens [] = false := rfl

theorem merged_cons (d : Text) (rest : List Text) : merged (d :: rest) = rest.foldl mergeDigits d := by
  rw [merged, List.foldl_cons, mergeDigits_of_not_isTens isTens_nil, List.nil_append]

theorem merged_cons_cons (d e : Text) (rest : List Text) :
    merged (d :: e :: rest) = merged (mergeDigits d e :: rest) := by
  rw [merged_cons, merged_cons, List.foldl_cons]

/-! ## Zeros in front -/

variable {z : Text}

theorem digitsValue_zeros_append (hz : digitsValue 0 z = 0) (a : Text) :
    digitsValue 0 (z ++ a) = digitsValue 0 a := by
  rw [digitsValue_append, hz, Nat.zero_mul, Nat.zero_add]

theorem isTens_zeros_append (hz : IsDigits z) (hzero : digitsValue 0 z = 0) {a : Text}
    (ha : IsDigits a) (hne : a ≠ []) : isTens (z ++ a) = isTens a := by
  have hvalue := digitsValue_zeros_append hzero a
  have hdecimal : isDecimal (z ++ a) = true :=
    isDecimal_iff.2 ⟨List.append_ne_nil_of_right_ne_nil z hne, isDigits_append.2 ⟨hz, ha⟩⟩
  rw [Bool.eq_iff_iff, isTens_iff hdecimal, isTens_iff (isDecimal_iff.2 ⟨hne, ha⟩), hvalue]

theorem mergeDigits_zeros_append (hz : isDecimal z = true) (hzero : digitsValue 0 z = 0) {a : Text}
    (ha : IsDigits a) (e : Text) : mergeDigits (z ++ a) e = z ++ mergeDigits a e := by
  by_cases hne : a = []
  · have hzt := isTens_of_value_lt hz (by omega)
    rw [hne, List.append_nil, mergeDigits_of_not_isTens hzt, mergeDigits_of_not_isTens isTens_nil,
      List.nil_append]
  · rw [mergeDigits, mergeDigits, isTens_zeros_append (isDecimal_iff.1 hz).2 hzero ha hne]
    split
    · rw [List.dropLast_append_of_ne_nil hne, List.append_assoc]
    · rw [List.append_assoc]

theorem foldl_zeros_append (hz : isDecimal z = true) (hzero : digitsValue 0 z = 0) {a : Text}
    (ha : IsDigits a) (hrun : ∀ d ∈ run, isDecimal d = true) :
    run.foldl mergeDigits (z ++ a) = z ++ run.foldl mergeDigits a := by
  induction run generalizing a with
  | nil => rfl
  | cons d rest ih =>
    have hd := isDecimal_iff.1 (hrun d List.mem_cons_self)
    rw [List.foldl_cons, List.foldl_cons, mergeDigits_zeros_append hz hzero ha,
      ih (isDigits_mergeDigits ha hd.2) fun f hf => hrun f (List.mem_cons_of_mem d hf)]

/-- A zero in front stays in front. -/
theorem merged_zero_cons (hz : isDecimal z = true) (hzero : digitsValue 0 z = 0)
    (hrun : ∀ d ∈ run, isDecimal d = true) : merged (z :: run) = z ++ merged run := by
  have h := foldl_zeros_append hz hzero (a := []) (fun c hc => absurd hc List.not_mem_nil) hrun
  rw [List.append_nil] at h
  rw [merged_cons, h, merged]

/-! ## Numbers that are no tens value any more -/

/-- A number of at least two places that is no tens value; no digits behind it
make it one. -/
structure Settled (d : Text) : Prop where
  decimal : isDecimal d = true
  ten_le : 10 ≤ digitsValue 0 d
  not_tens : isTens d = false

theorem isDecimal_append (hd : isDecimal d = true) (he : isDecimal e = true) :
    isDecimal (d ++ e) = true := by
  have hd := isDecimal_iff.1 hd
  exact isDecimal_iff.2 ⟨List.append_ne_nil_of_left_ne_nil hd.1 e,
    isDigits_append.2 ⟨hd.2, (isDecimal_iff.1 he).2⟩⟩

theorem ten_mul_le_digitsValue_append (d : Text) (he : isDecimal e = true) :
    10 * digitsValue 0 d ≤ digitsValue 0 (d ++ e) := by
  have hpos : 0 < e.length := List.length_pos_iff.2 (isDecimal_iff.1 he).1
  have hpow : 10 ^ 1 ≤ 10 ^ e.length := Nat.pow_le_pow_right (by decide) hpos
  have hmul := Nat.mul_le_mul_left (digitsValue 0 d) hpow
  rw [digitsValue_append]
  omega

theorem settled_append (hd : isDecimal d = true) (hten : 10 ≤ digitsValue 0 d)
    (he : isDecimal e = true) : Settled (d ++ e) := by
  have hle := ten_mul_le_digitsValue_append d he
  have hdecimal := isDecimal_append hd he
  refine ⟨hdecimal, by omega, Bool.eq_false_iff.2 fun htens => ?_⟩
  have := (isTens_iff hdecimal).1 htens
  omega

/-- Digits behind a settled number are written behind it. -/
theorem foldl_settled (hd : Settled d) (hrun : ∀ e ∈ run, isDecimal e = true) :
    run.foldl mergeDigits d = d ++ run.flatten := by
  induction run generalizing d with
  | nil => rw [List.foldl_nil, List.flatten_nil, List.append_nil]
  | cons e rest ih =>
    have he := hrun e List.mem_cons_self
    rw [List.foldl_cons, mergeDigits_of_not_isTens hd.not_tens,
      ih (settled_append hd.decimal hd.ten_le he) fun f hf => hrun f (List.mem_cons_of_mem e hf),
      List.flatten_cons, List.append_assoc]

/-- Only one digit can stand behind another number up to 90. -/
theorem eq_singleton_of_append_le {a : Text} (ha : 1 ≤ digitsValue 0 a) (he : isDecimal e = true)
    (h : digitsValue 0 (a ++ e) ≤ 90) :
    ∃ c, e = [c] ∧ c.isDigit = true ∧ digitsValue 0 (a ++ e) = 10 * digitsValue 0 a + digitsValue 0 e := by
  obtain ⟨hne, hdigits⟩ := isDecimal_iff.1 he
  match e, hne with
  | [c], _ =>
    refine ⟨c, rfl, hdigits c List.mem_cons_self, ?_⟩
    rw [digitsValue_append, List.length_singleton, Nat.pow_one, Nat.mul_comm]
  | c :: c' :: rest, _ =>
    have hc : isDecimal [c] = true := isDecimal_iff.2 ⟨by simp, fun x hx => hdigits x (by simp_all)⟩
    have hrest : isDecimal (c' :: rest) = true :=
      isDecimal_iff.2 ⟨by simp, fun x hx => hdigits x (List.mem_cons_of_mem c hx)⟩
    have hone := ten_mul_le_digitsValue_append a hc
    have htwo := ten_mul_le_digitsValue_append (a ++ [c]) hrest
    rw [List.append_assoc, List.singleton_append] at htwo
    omega

/-- A tens value written in digits ends in a zero. -/
theorem eq_append_zero_of_isTens (hd : isDecimal d = true) (htens : isTens d = true) :
    ∃ a, d = a ++ ['0'] ∧ isDecimal a = true ∧ 2 ≤ digitsValue 0 a ∧ digitsValue 0 a ≤ 9 := by
  have hvalue := (isTens_iff hd).1 htens
  have hdigits := isDecimal_iff.1 hd
  obtain ⟨a, c, rfl⟩ : ∃ a c, d = a ++ [c] :=
    ⟨d.dropLast, d.getLast hdigits.1, (List.dropLast_concat_getLast hdigits.1).symm⟩
  have hsplit := isDigits_append.1 hdigits.2
  have hc := hsplit.2 c List.mem_cons_self
  have hbound := (toNat_of_isDigit hc).2
  rw [digitsValue_append, List.length_singleton, Nat.pow_one] at hvalue
  have hlast : c = '0' := (digit_eq_iff hc rfl).2 (by rw [digitsValue_zero]; omega)
  refine ⟨a, by rw [hlast], isDecimal_iff.2 ⟨?_, hsplit.1⟩, by omega, by omega⟩
  rintro rfl
  rw [digitsValue_nil] at hvalue
  omega

/-- A unit in the place of the zero of a tens value. -/
theorem settled_pair (hd : isDecimal d = true) (htens : isTens d = true) (he : isDecimal e = true)
    (hunit : isUnit e = true) : Settled (d.dropLast ++ e) := by
  obtain ⟨a, rfl, ha, hlow, -⟩ := eq_append_zero_of_isTens hd htens
  have he' := (isUnit_iff he).1 hunit
  have hle := ten_mul_le_digitsValue_append a he
  rw [List.dropLast_concat]
  refine ⟨isDecimal_append ha he, by omega, Bool.eq_false_iff.2 fun h => ?_⟩
  have hvalue := (isTens_iff (isDecimal_append ha he)).1 h
  obtain ⟨c, -, -, hsum⟩ := eq_singleton_of_append_le (by omega) he hvalue.2.1
  omega

/-! ## Where a run merges -/

/-- A unit right behind a tens value goes in the place of the zero, and whatever
follows is written behind it. -/
theorem merged_pair (hd : isDecimal d = true) (htens : isTens d = true) (he : isDecimal e = true)
    (hunit : isUnit e = true) (hrest : ∀ f ∈ rest, isDecimal f = true) :
    merged (d :: e :: rest) = d.dropLast ++ e ++ rest.flatten := by
  rw [merged_cons_cons, mergeDigits_pair htens hunit, merged_cons,
    foldl_settled (settled_pair hd htens he hunit) hrest]

theorem isDecimal_zero : isDecimal ['0'] = true := by decide

/-- A digit from 2 on with a zero behind it is taken for a tens value. -/
theorem isTens_append_zero (hd : isDecimal d = true) (hunit : isUnit d = true)
    (hone : digitsValue 0 d ≠ 1) : isTens (d ++ ['0']) = true := by
  have hvalue := (isUnit_iff hd).1 hunit
  rw [isTens_iff (isDecimal_append hd isDecimal_zero), digitsValue_append, digitsValue_zero,
    List.length_singleton]
  omega

/-- **The garbled zero.** Between a digit from 2 on and a unit a zero is lost. -/
theorem merged_garbled (hd : isDecimal d = true) (hunit : isUnit d = true)
    (hone : digitsValue 0 d ≠ 1) (hf : isDecimal f = true) (hfunit : isUnit f = true)
    (hrest : ∀ g ∈ rest, isDecimal g = true) :
    merged (d :: ['0'] :: f :: rest) = d ++ f ++ rest.flatten := by
  have hdt : isTens d = false := isTens_of_value_lt hd (by have := (isUnit_iff hd).1 hunit; omega)
  rw [merged_cons_cons, mergeDigits_of_not_isTens hdt,
    merged_pair (isDecimal_append hd isDecimal_zero) (isTens_append_zero hd hunit hone) hf hfunit hrest,
    List.dropLast_concat]

/-- A first number other than zero, where neither of the two happens. -/
theorem merged_flatten (hrun : ∀ g ∈ d :: e :: rest, isDecimal g = true) (hd : digitsValue 0 d ≠ 0)
    (hpair : (isTens d && isUnit e) = false) (hzero : hasGarbledZero (d :: e :: rest) = false) :
    merged (d :: e :: rest) = (d :: e :: rest).flatten := by
  have hdd := hrun d (by simp)
  have hed := hrun e (by simp)
  have hrest : ∀ g ∈ rest, isDecimal g = true := fun g hg => hrun g (by simp [hg])
  have hmerge : mergeDigits d e = d ++ e := by
    rw [mergeDigits, hpair, if_neg Bool.false_ne_true]
  have hflatten : (d :: e :: rest).flatten = d ++ e ++ rest.flatten := by simp
  rw [merged_cons_cons, hmerge, merged_cons, hflatten]
  by_cases hsettled : isTens (d ++ e) = false
  · have hten := ten_mul_le_digitsValue_append d hed
    exact foldl_settled ⟨isDecimal_append hdd hed, by omega, hsettled⟩ hrest
  · -- the two numbers together read as a tens value, so that a unit must not follow
    have htens := (isTens_iff (isDecimal_append hdd hed)).1 (by simpa using hsettled)
    obtain ⟨c, rfl, hc, hsum⟩ := eq_singleton_of_append_le (by omega) hed htens.2.1
    have hbound := (toNat_of_isDigit hc).2
    obtain rfl : c = '0' := (digit_eq_iff hc rfl).2 (by rw [digitsValue_zero]; omega)
    have hunit : isUnit d = true := (isUnit_iff hdd).2 (by omega)
    have hone : digitsValue 0 d ≠ 1 := by omega
    cases rest with
    | nil => simp
    | cons f rest =>
      have hfd := hrest f List.mem_cons_self
      have hfunit : isUnit f = false := by simpa [hasGarbledZero, hunit, hone] using hzero
      have hnext := settled_append (isDecimal_append hdd hed) (by omega) hfd
      rw [List.foldl_cons, mergeDigits_of_not_isUnit _ hfunit,
        foldl_settled hnext fun g hg => hrest g (List.mem_cons_of_mem f hg), List.flatten_cons,
        ← List.append_assoc]

end VoiceEdit.Substitution
