import Mathlib.Data.List.Chain
import Mathlib.Data.List.SplitBy
import VoiceEdit.Dictation.Format

/-!
# Runs of spaces

Collapsing spaces is defined space by space. It replaces every run of spaces by one space, so
that no two are left in a row, and leaves a text without such runs as it is.

* `squeezed`, `collapseSpaces_eq_squeezed`: every run of spaces becomes one space.
* `isChain_collapseSpaces`, `collapseSpaces_of_isChain`: the texts that come out.
-/
namespace VoiceEdit.Dictation

open Text

/-- Whether two neighbours belong to one run of spaces. -/
def bothSpaces (c d : Char) : Bool := c == ' ' && d == ' '

/-- A text with every run of spaces replaced by one space. -/
def squeezed (t : Text) : Text := (t.splitBy bothSpaces).flatMap (List.take 1)

variable {t : Text} {c : Char}

theorem collapseSpaces_spaces (n : Nat) (t : Text) :
    collapseSpaces (List.replicate (n + 1) ' ' ++ t) = collapseSpaces (' ' :: t) := by
  induction n with
  | zero => rfl
  | succ n ih => exact ih

/-- What comes after something else than two spaces is collapsed by itself. -/
theorem collapseSpaces_cons (h : c ≠ ' ' ∨ t.head? ≠ some ' ') :
    collapseSpaces (c :: t) = c :: collapseSpaces t := by
  rw [collapseSpaces]
  rintro rest rfl rfl
  simp at h

theorem squeezed_cons (h : c ≠ ' ' ∨ t.head? ≠ some ' ') : squeezed (c :: t) = c :: squeezed t := by
  have happend : ([c] ++ t).splitBy bothSpaces = [[c]] ++ t.splitBy bothSpaces := by
    apply List.splitBy_append
    intro x hx y hy
    obtain rfl : c = x := Option.some.inj hx
    rcases h with h | h
    · simp [bothSpaces, h]
    · have hne : y ≠ ' ' := by
        rintro rfl
        exact h hy
      simp [bothSpaces, hne]
  rw [squeezed, ← List.singleton_append, happend]
  rfl

theorem squeezed_spaces (n : Nat) (h : t.head? ≠ some ' ') :
    squeezed (List.replicate (n + 1) ' ' ++ t) = ' ' :: squeezed t := by
  have hrun : (List.replicate (n + 1) ' ').splitBy bothSpaces = [List.replicate (n + 1) ' '] := by
    apply List.splitBy_of_isChain List.replicate_succ_ne_nil
    exact List.isChain_replicate_of_rel _ rfl
  have happend : (List.replicate (n + 1) ' ' ++ t).splitBy bothSpaces =
      (List.replicate (n + 1) ' ').splitBy bothSpaces ++ t.splitBy bothSpaces := by
    apply List.splitBy_append
    intro x _ y hy
    have hne : y ≠ ' ' := by
      rintro rfl
      exact h hy
    simp [bothSpaces, hne]
  rw [squeezed, happend, hrun]
  rfl

theorem exists_spaces (t : Text) :
    ∃ n rest, t = List.replicate n ' ' ++ rest ∧ rest.head? ≠ some ' ' := by
  induction t with
  | nil => exact ⟨0, [], rfl, nofun⟩
  | cons c t ih =>
    by_cases hc : c = ' '
    · obtain ⟨n, rest, rfl, hrest⟩ := ih
      exact ⟨n + 1, rest, by rw [hc]; rfl, hrest⟩
    · exact ⟨0, c :: t, rfl, fun h => hc (Option.some.inj h)⟩

/-- Spaces are collapsed run by run. -/
theorem collapseSpaces_eq_squeezed (t : Text) : collapseSpaces t = squeezed t := by
  -- on the length, as a whole run is taken off at once
  induction hlength : t.length using Nat.strongRecOn generalizing t with
  | ind n ih =>
    obtain ⟨count, rest, rfl, hrest⟩ := exists_spaces t
    rw [List.length_append, List.length_replicate] at hlength
    cases count with
    | zero =>
      cases rest with
      | nil => rfl
      | cons c rest =>
        have hc : c ≠ ' ' := fun hc => hrest (congrArg some hc)
        rw [List.length_cons] at hlength
        rw [List.replicate_zero, List.nil_append, collapseSpaces_cons (.inl hc),
          squeezed_cons (.inl hc), ih rest.length (by omega) rest rfl]
    | succ count =>
      rw [collapseSpaces_spaces, squeezed_spaces count hrest, collapseSpaces_cons (.inr hrest),
        ih rest.length (by omega) rest rfl]

theorem head?_collapseSpaces (t : Text) : (collapseSpaces t).head? = t.head? := by
  induction t using collapseSpaces.induct with
  | case1 rest ih => rw [collapseSpaces, ih]; rfl
  | case2 c rest h _ => rw [collapseSpaces]; rfl; exact h
  | case3 => rfl

/-- No two spaces are left in a row. -/
theorem isChain_collapseSpaces (t : Text) :
    (collapseSpaces t).IsChain fun c d => c ≠ ' ' ∨ d ≠ ' ' := by
  induction t using collapseSpaces.induct with
  | case1 rest ih => exact ih
  | case2 c rest h ih =>
    have hnext : c ≠ ' ' ∨ rest.head? ≠ some ' ' := by
      by_cases hc : c = ' '
      · refine .inr fun hhead => ?_
        obtain ⟨more, hmore⟩ := List.head?_eq_some_iff.1 hhead
        exact h more hc hmore
      · exact .inl hc
    rw [collapseSpaces_cons hnext]
    refine List.isChain_cons.2 ⟨fun d hd => ?_, ih⟩
    rw [head?_collapseSpaces] at hd
    rcases hnext with hc | hhead
    · exact .inl hc
    · refine .inr fun hspace => hhead ?_
      rw [← hspace]
      exact hd
  | case3 => exact .nil

/-- A text without two spaces in a row is left as it is. -/
theorem collapseSpaces_of_isChain (h : t.IsChain fun c d => c ≠ ' ' ∨ d ≠ ' ') :
    collapseSpaces t = t := by
  induction t with
  | nil => rfl
  | cons c rest ih =>
    obtain ⟨hnext, hrest⟩ := List.isChain_cons.1 h
    have hc : c ≠ ' ' ∨ rest.head? ≠ some ' ' := by
      by_cases hhead : rest.head? = some ' '
      · exact .inl ((hnext ' ' hhead).resolve_right fun h => h rfl)
      · exact .inr hhead
    rw [collapseSpaces_cons hc, ih hrest]

theorem collapseSpaces_of_not_mem (h : ' ' ∉ t) : collapseSpaces t = t := by
  apply collapseSpaces_of_isChain
  refine (List.pairwise_of_forall_mem_list fun c hc d _ => .inl ?_).isChain
  rintro rfl
  exact h hc

end VoiceEdit.Dictation
