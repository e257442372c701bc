import Mathlib.Data.List.DropRight
import VoiceEdit.Text.Blank

/-!
# Trimming

Trimming drops white space and nothing else, so what is trimmed away from the ends of
a text can be told from what stands there.

* `countP_trim`, `countP_trimEnd`: every other character stays.
* `trim_eq_trim_iff`: where one text is cut at two places, the trimmed rests agree if
  and only if only white space lies between the cuts.
* `trim_trim`: what is trimmed stays so.
* `dropEndWhile_append_of_not`: what ends otherwise keeps its end.
-/
namespace VoiceEdit.Text

/-! ## What is kept -/

/-- Whether a character is no white space. -/
def isVisible (c : Char) : Bool := !isBlank c

theorem countP_dropWhile (t : Text) :
    (t.dropWhile isBlank).countP isVisible = t.countP isVisible := by
  induction t with
  | nil => rfl
  | cons c rest ih =>
    cases hc : isBlank c with
    | true =>
      have hvisible : ¬ isVisible c = true := by rw [isVisible, hc]; exact Bool.false_ne_true
      rw [List.dropWhile_cons_of_pos hc, ih, List.countP_cons_of_neg hvisible]
    | false => rw [List.dropWhile_cons_of_neg (by rw [hc]; exact Bool.false_ne_true)]

theorem countP_trimEnd (t : Text) : (trimEnd t).countP isVisible = t.countP isVisible := by
  rw [trimEnd, dropEndWhile, List.countP_reverse, countP_dropWhile, List.countP_reverse]

theorem countP_trim (t : Text) : (trim t).countP isVisible = t.countP isVisible := by
  rw [trim, countP_trimEnd, trimStart, countP_dropWhile]

theorem countP_eq_zero_iff (t : Text) : t.countP isVisible = 0 ↔ ∀ c ∈ t, isBlank c = true := by
  simp [List.countP_eq_zero, isVisible]

theorem mem_of_mem_dropEndWhile {p : Char → Bool} {c : Char} {t : Text}
    (hc : c ∈ dropEndWhile p t) : c ∈ t :=
  List.mem_reverse.1 ((List.dropWhile_sublist p).subset (List.mem_reverse.1 hc))

theorem mem_of_mem_trim {c : Char} {t : Text} (hc : c ∈ trim t) : c ∈ t :=
  (List.dropWhile_sublist isBlank).subset (mem_of_mem_dropEndWhile hc)

theorem mem_dropWhile_of_not {p : Char → Bool} {c : Char} {t : Text} (hc : c ∈ t)
    (hp : p c = false) : c ∈ t.dropWhile p := by
  rw [← List.takeWhile_append_dropWhile (p := p) (l := t)] at hc
  rcases List.mem_append.1 hc with hc | hc
  · rw [List.mem_takeWhile_imp hc] at hp
    cases hp
  · exact hc

/-- Trimming drops white space only. -/
theorem mem_trim_iff {c : Char} (hc : isBlank c = false) (t : Text) : c ∈ trim t ↔ c ∈ t := by
  refine ⟨mem_of_mem_trim, fun h => ?_⟩
  have hstart : c ∈ (trimStart t).reverse := List.mem_reverse.2 (mem_dropWhile_of_not h hc)
  exact List.mem_reverse.2 (mem_dropWhile_of_not hstart hc)

theorem trim_eq_nil_iff (t : Text) : trim t = [] ↔ ∀ c ∈ t, isBlank c = true := by
  constructor
  · intro h
    rw [← countP_eq_zero_iff, ← countP_trim, h, List.countP_nil]
  · intro h
    have hstart : trimStart t = [] := List.dropWhile_eq_nil_iff.2 h
    rw [trim, hstart]
    rfl

/-- What begins with no white space still does so without its ending. -/
theorem trimStart_trimEnd {t : Text} (h : trimStart t = t) : trimStart (trimEnd t) = trimEnd t := by
  have hprefix : trimEnd t <+: t := List.rdropWhile_prefix isBlank t
  refine List.dropWhile_eq_self_iff.2 fun hpos => ?_
  have hhead := List.dropWhile_eq_self_iff.1 h (Nat.lt_of_lt_of_le hpos hprefix.length_le)
  rwa [← hprefix.getElem hpos] at hhead

@[simp] theorem trim_trim (t : Text) : trim (trim t) = trim t := by
  have hstart : trimStart (trimStart t) = trimStart t := List.dropWhile_idempotent isBlank t
  rw [trim, trim, trimStart_trimEnd hstart]
  exact List.rdropWhile_idempotent isBlank (trimStart t)

/-- What ends in no character of a kind ends so after the characters of that kind at
its end are dropped. -/
theorem dropEndWhile_append_of_not {p : Char → Bool} {d : Text} (hne : d ≠ [])
    (hd : ∀ c ∈ d, p c = false) (a : Text) : dropEndWhile p (a ++ d) = a ++ d := by
  refine List.rdropWhile_eq_self_iff.2 fun hnil => ?_
  rw [List.getLast_append_of_right_ne_nil a d hne, hd _ (List.getLast_mem hne)]
  exact Bool.false_ne_true

/-! ## Cuts -/

theorem trim_append_eq_iff (a b : Text) : trim (a ++ b) = trim b ↔ ∀ c ∈ a, isBlank c = true := by
  constructor
  · intro h
    have hcount := congrArg (List.countP isVisible) h
    rw [countP_trim, countP_trim, List.countP_append] at hcount
    rw [← countP_eq_zero_iff]
    omega
  · intro h
    rw [trim, trimStart, List.dropWhile_append_of_pos h]
    rfl

theorem trimEnd_append_eq_iff (a b : Text) :
    trimEnd (a ++ b) = trimEnd a ↔ ∀ c ∈ b, isBlank c = true := by
  constructor
  · intro h
    have hcount := congrArg (List.countP isVisible) h
    rw [countP_trimEnd, countP_trimEnd, List.countP_append] at hcount
    rw [← countP_eq_zero_iff]
    omega
  · intro h
    rw [trimEnd, dropEndWhile, List.reverse_append,
      List.dropWhile_append_of_pos fun c hc => h c (List.mem_reverse.1 hc)]
    rfl

/-- Where one text is cut at two places, the trimmed rests agree if and only if only white
space lies between the cuts. -/
theorem trim_eq_trim_iff {a b c d : Text} (h : a ++ b = c ++ d) :
    trim b = trim d ↔ trimEnd a = trimEnd c := by
  rcases List.append_eq_append_iff.1 h with ⟨between, rfl, rfl⟩ | ⟨between, rfl, rfl⟩
  · rw [trim_append_eq_iff, eq_comm, trimEnd_append_eq_iff]
  · rw [eq_comm, trim_append_eq_iff, trimEnd_append_eq_iff]

end VoiceEdit.Text
