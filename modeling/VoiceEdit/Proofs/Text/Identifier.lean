import VoiceEdit.Identifier
import VoiceEdit.Proofs.Text.WordCasing

/-!
# Identifiers hold no white space

The words of a name hold none, no case brings any in, and what is put between the words is no
white space either. So whatever is said as a name, the identifier stays in one line.

* `isBlank_of_mem_upperChar`: upper case brings no white space in.
* `Identifier.visible_snake`, `Identifier.visible_upperSnake`, `Identifier.visible_pascal`: the
  identifiers that are made of a name.
-/
namespace VoiceEdit

namespace Text

/-- No character of a text is white space. -/
def Visible (t : Text) : Prop := ∀ c ∈ t, isBlank c = false

instance (t : Text) : Decidable (Visible t) :=
  inferInstanceAs (Decidable (∀ c ∈ t, isBlank c = false))

variable {c d : Char} {t u : Text}

theorem Visible.not_mem (ht : Visible t) (hc : isBlank c = true) : c ∉ t := by
  intro hmem
  rw [ht c hmem] at hc
  cases hc

theorem visible_append (ht : Visible t) (hu : Visible u) : Visible (t ++ u) :=
  List.forall_mem_append.2 ⟨ht, hu⟩

theorem visible_flatMap {α : Type} {l : List α} {f : α → Text} (h : ∀ a ∈ l, Visible (f a)) :
    Visible (l.flatMap f) := by
  intro c hc
  obtain ⟨a, ha, hca⟩ := List.mem_flatMap.1 hc
  exact h a ha c hca

theorem visible_intercalate {sep : Text} {ts : List Text} (hsep : Visible sep)
    (hts : ∀ t ∈ ts, Visible t) : Visible (List.intercalate sep ts) := by
  induction ts with
  | nil => exact fun c hc => absurd hc List.not_mem_nil
  | cons t rest ih =>
    obtain ⟨ht, hrest⟩ := List.forall_mem_cons.1 hts
    cases rest with
    | nil =>
      rw [List.intercalate_singleton]
      exact ht
    | cons u rest => exact visible_append ht (visible_append hsep (ih hrest))

/-! ## Upper case -/

/-- Nothing of upper case is white space: neither where a run of code points moves to nor what
a character expands to. -/
theorem upper_avoids_blanks :
    (∀ run ∈ upperRuns, ∀ range ∈ blankRanges,
      run.image run.last < range.1 ∨ range.2 < run.image run.first) ∧
    ∀ e ∈ upperExpansions, ∀ n ∈ e.2, isBlank (Char.ofNat n) = false := by
  decide +kernel

theorem isBlank_ofNat {n : Nat} (h : inRanges blankRanges n = false) :
    isBlank (Char.ofNat n) = false := by
  by_cases hvalid : n.isValidChar
  · have hcode : (Char.ofNat n).toNat = n := by
      rw [Char.ofNat, dif_pos hvalid]
      rfl
    rw [isBlank, hcode, h]
  · -- what is no code point is replaced by the first of all characters
    rw [Char.ofNat, dif_neg hvalid]
    decide

/-- Upper case brings no white space in. -/
theorem isBlank_of_mem_upperChar (hc : isBlank c = false) (hd : d ∈ upperChar c) :
    isBlank d = false := by
  obtain ⟨hruns, hexpansions⟩ := upper_avoids_blanks
  unfold upperChar mapCase at hd
  split at hd
  · rename_i image himage
    obtain ⟨n, hn, rfl⟩ := List.mem_map.1 hd
    obtain ⟨before, after, hsplit, -⟩ := List.lookup_eq_some_iff.1 himage
    have hmem : (c.toNat, image) ∈ upperExpansions := by
      rw [hsplit]
      simp
    exact hexpansions _ hmem n hn
  · obtain rfl := List.mem_singleton.1 hd
    by_cases hshift : shiftOf upperRuns c.toNat = 0
    · rw [hshift, Int.add_zero, Int.toNat_natCast, Char.ofNat_toNat, hc]
    · obtain ⟨run, hmem, ⟨hfirst, hlast, -⟩, hmoves⟩ := exists_run hshift
      apply isBlank_ofNat
      rw [hmoves]
      refine inRanges_eq_false fun range hrange => ?_
      have happart := hruns run hmem range hrange
      unfold CaseRun.image at happart
      omega

theorem visible_upper (ht : Visible t) : Visible (upper t) :=
  visible_flatMap fun c hc _ hd => isBlank_of_mem_upperChar (ht c hc) hd

end Text

namespace Identifier

open Text

theorem visible_capitalize {w : Text} (hw : Visible w) : Visible (capitalize w) := by
  cases w with
  | nil => exact hw
  | cons c rest =>
    obtain ⟨hc, hrest⟩ := List.forall_mem_cons.1 hw
    refine visible_append (fun _ hd => isBlank_of_mem_upperChar hc hd) ?_
    exact visible_flatMap fun d hd _ hmem => isBlank_of_mem_lowerChar (hrest d hd) hmem

theorem visible_snake (name : Text) : Visible (snake name) := by
  apply visible_intercalate
  · intro c hc
    obtain rfl := List.mem_singleton.1 hc
    rfl
  · intro w hw
    obtain ⟨v, hv, rfl⟩ := List.mem_map.1 hw
    exact (isWord_of_mem_words hv).lower.visible

theorem visible_upperSnake (name : Text) : Visible (upperSnake name) :=
  visible_upper (visible_snake name)

theorem visible_pascal (name : Text) : Visible (pascal name) :=
  visible_flatMap fun _ hw => visible_capitalize (isWord_of_mem_words hw).visible

end Identifier

end VoiceEdit
