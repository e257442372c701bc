import Mathlib.Tactic.MkIffOfInductiveProp
import VoiceEdit.Identifier
import VoiceEdit.Proofs.Text.Casing
import VoiceEdit.Proofs.Text.Words
import VoiceEdit.Text.Utf8

/-!
# Texts that differ in the case of letters only

The letters `A` to `Z` are taken into lower case one by one, and nothing else is
touched. What the library reads of a character does not tell a letter from its capital,
so what it makes of a text changes in the same letters or not at all.

* `fold`: a text with the letters `A` to `Z` in lower case.
* `sameAsciiLetters_iff`: two texts differ in the case of these letters only.
* `forall_toLower`: a property of a character and its image is checked on 26 letters;
  `readAlike_toLower`: all that is read of a character stays.
* `lower_fold`, `collapse_fold`, `normalize_fold`, `dropUtf8?_fold`: texts.
* `Identifier.snake_fold`, `Identifier.camel_fold`: identifiers.
-/
namespace VoiceEdit

namespace Text

/-- A text with the letters `A` to `Z` in lower case. -/
def fold (t : Text) : Text := t.map Char.toLower

theorem sameAsciiLetters_iff {a b : Text} : sameAsciiLetters a b = true ↔ fold a = fold b :=
  beq_iff_eq

/-! ## Characters -/

/-- The letters `A` to `Z`. -/
def capital (n : Nat) : Char := Char.ofNat (65 + n)

/-- Only the letters `A` to `Z` change. -/
theorem forall_toLower {P : Char → Char → Prop} (hrefl : ∀ c, P c c)
    (hcapitals : ∀ n < 26, P (capital n).toLower (capital n)) (c : Char) : P c.toLower c := by
  by_cases hc : 65 ≤ c.toNat ∧ c.toNat ≤ 90
  · have hcapital : capital (c.toNat - 65) = c := by
      rw [capital, Nat.add_sub_of_le hc.1, Char.ofNat_toNat]
    rw [← hcapital]
    exact hcapitals _ (by omega)
  · have hsame : c.toLower = c := by
      unfold Char.toLower
      exact dif_neg fun h => hc h
    rw [hsame]
    exact hrefl c

/-- Two characters of which the same is read. -/
@[mk_iff]
structure ReadAlike (d c : Char) : Prop where
  blank : isBlank d = isBlank c
  trailingMark : Transcript.isTrailingMark d = Transcript.isTrailingMark c
  cased : isCased d = isCased c
  caseIgnorable : isCaseIgnorable d = isCaseIgnorable c
  lower : lowerChar d = lowerChar c
  upper : upperChar d = upperChar c
  utf8Size : d.utf8Size = c.utf8Size
  sigma : d = '\u03a3' ↔ c = '\u03a3'

instance (d c : Char) : Decidable (ReadAlike d c) := decidable_of_iff' _ (readAlike_iff d c)

theorem readAlike_toLower (c : Char) : ReadAlike c.toLower c :=
  forall_toLower (fun _ => ⟨rfl, rfl, rfl, rfl, rfl, rfl, rfl, .rfl⟩) (by decide +kernel) c

@[simp] theorem isBlank_toLower (c : Char) : isBlank c.toLower = isBlank c :=
  (readAlike_toLower c).blank

@[simp] theorem isTrailingMark_toLower (c : Char) :
    Transcript.isTrailingMark c.toLower = Transcript.isTrailingMark c :=
  (readAlike_toLower c).trailingMark

@[simp] theorem isCased_toLower (c : Char) : isCased c.toLower = isCased c :=
  (readAlike_toLower c).cased

@[simp] theorem isCaseIgnorable_toLower (c : Char) : isCaseIgnorable c.toLower = isCaseIgnorable c :=
  (readAlike_toLower c).caseIgnorable

@[simp] theorem lowerChar_toLower (c : Char) : lowerChar c.toLower = lowerChar c :=
  (readAlike_toLower c).lower

@[simp] theorem upperChar_toLower (c : Char) : upperChar c.toLower = upperChar c :=
  (readAlike_toLower c).upper

@[simp] theorem utf8Size_toLower (c : Char) : c.toLower.utf8Size = c.utf8Size :=
  (readAlike_toLower c).utf8Size

@[simp] theorem toLower_eq_sigma_iff (c : Char) : c.toLower = '\u03a3' ↔ c = '\u03a3' :=
  (readAlike_toLower c).sigma

/-- No letter `A` to `Z` is in lower case. -/
theorem toLower_of_isLower {c : Char} (h : IsLower c) : c.toLower = c :=
  forall_toLower (P := fun d c => IsLower c → d = c) (fun _ _ => rfl) (by decide +kernel) c h

/-! ## Texts -/

@[simp] theorem fold_nil : fold [] = [] := rfl

@[simp] theorem fold_cons (c : Char) (t : Text) : fold (c :: t) = c.toLower :: fold t := rfl

@[simp] theorem isEmpty_fold (t : Text) : (fold t).isEmpty = t.isEmpty := by
  cases t <;> rfl

/-- A text in lower case stays as it is. -/
theorem fold_eq_self {t : Text} (ht : ∀ c ∈ t, IsLower c) : fold t = t :=
  (List.map_congr_left fun c hc => toLower_of_isLower (ht c hc)).trans (List.map_id t)

@[simp] theorem utf8Length_fold (t : Text) : utf8Length (fold t) = utf8Length t := by
  induction t with
  | nil => rfl
  | cons c rest ih => simp [ih]

/-- A text is cut at the same offsets. -/
theorem dropUtf8?_fold (n : Nat) (t : Text) : dropUtf8? n (fold t) = (dropUtf8? n t).map fold := by
  induction t generalizing n with
  | nil => cases n <;> rfl
  | cons c rest ih =>
    cases n with
    | zero => rfl
    | succ n =>
      rw [fold_cons, dropUtf8?, dropUtf8?, utf8Size_toLower]
      split
      · exact ih _
      · rfl

section

variable {p : Char → Bool} (hp : ∀ c, p c.toLower = p c)
include hp

theorem dropWhile_fold (t : Text) : (fold t).dropWhile p = fold (t.dropWhile p) := by
  have hcomp : p ∘ Char.toLower = p := funext hp
  rw [fold, List.dropWhile_map, hcomp]
  rfl

theorem dropEndWhile_fold (t : Text) : dropEndWhile p (fold t) = fold (dropEndWhile p t) := by
  have hreverse : (fold t).reverse = fold t.reverse := List.map_reverse.symm
  rw [dropEndWhile, hreverse, dropWhile_fold hp]
  exact List.map_reverse.symm

end

theorem trim_fold (t : Text) : trim (fold t) = fold (trim t) := by
  rw [trim, trimStart, dropWhile_fold isBlank_toLower, trimEnd, dropEndWhile_fold isBlank_toLower]
  rfl

theorem consHead_fold (c : Char) (ts : List Text) :
    consHead c.toLower (ts.map fold) = (consHead c ts).map fold := by
  cases ts <;> rfl

theorem words_fold (t : Text) : words (fold t) = (words t).map fold := by
  induction t using words.induct with
  | case1 => rfl
  | case2 c hc => simp [fold, words, hc]
  | case3 c hc => simp [fold, words, hc]
  | case4 c d rest hc ih =>
    rw [words, if_pos hc, ← ih]
    simp [words, hc]
  | case5 c d rest hc hd ih =>
    rw [words, if_neg hc, if_pos hd, List.map_cons, ← ih]
    simp [words, hc, hd, fold]
  | case6 c d rest hc hd ih =>
    rw [words, if_neg hc, if_neg hd, ← consHead_fold, ← ih]
    simp [words, hc, hd]

theorem joinWords_fold (ws : List Text) : joinWords (ws.map fold) = fold (joinWords ws) := by
  induction ws with
  | nil => rfl
  | cons w rest ih =>
    cases rest with
    | nil => simp [joinWords]
    | cons v ws =>
      have hspace : ' '.toLower = ' ' := by decide
      rw [joinWords_cons_cons, List.map_cons, List.map_cons, joinWords_cons_cons, ← List.map_cons, ih]
      simp [fold, hspace]

/-! ## Lower case -/

theorem meetsCased_fold (t : Text) : meetsCased (fold t) = meetsCased t := by
  rw [meetsCased, dropWhile_fold isCaseIgnorable_toLower, meetsCased]
  cases t.dropWhile isCaseIgnorable <;> simp [fold]

theorem lowerAfter_fold (before t : Text) : lowerAfter (fold before) (fold t) = lowerAfter before t := by
  induction t generalizing before with
  | nil => rfl
  | cons c rest ih =>
    have hsigma : lowerSigma (fold before) (fold rest) = lowerSigma before rest := by
      rw [lowerSigma, meetsCased_fold, meetsCased_fold, lowerSigma]
    have hrest := ih (c :: before)
    rw [fold_cons] at hrest ⊢
    simp only [lowerAfter, hsigma, hrest, lowerChar_toLower, toLower_eq_sigma_iff]

@[simp] theorem lower_fold (t : Text) : lower (fold t) = lower t := lowerAfter_fold [] t

end Text

open Text

/-! ## Transcripts -/

namespace Transcript

theorem collapse_fold (t : Text) : collapse (fold t) = fold (collapse t) := by
  rw [collapse, trim_fold, dropTrailingMarks, dropEndWhile_fold isTrailingMark_toLower, words_fold,
    joinWords_fold]
  rfl

@[simp] theorem normalize_fold (t : Text) : normalize (fold t) = normalize t := by
  rw [normalize, collapse_fold, lower_fold, normalize]

end Transcript

/-! ## Identifiers -/

namespace Identifier

@[simp] theorem snake_fold (name : Text) : snake (fold name) = snake name := by
  have hwords : ((words name).map fold).map lower = (words name).map lower := by simp
  rw [snake, words_fold, hwords, snake]

@[simp] theorem capitalize_fold (w : Text) : capitalize (fold w) = capitalize w := by
  cases w with
  | nil => rfl
  | cons c rest => simp [capitalize, fold, List.flatMap_map]

@[simp] theorem camel_fold (name : Text) : camel (fold name) = camel name := by
  rw [camel, words_fold, camel]
  cases words name with
  | nil => rfl
  | cons first rest => simp [List.flatMap_map]

end Identifier

end VoiceEdit
