import Mathlib.Data.List.SplitBy
import VoiceEdit.Proofs.Substitution.Runs

/-!
# Arguments from pieces

Numbers next to each other become one argument, and so do words next to each other;
every code is an argument of its own.

* `Piece.joins`, `Argument.ofGroup`: the groups of pieces and their arguments.
* `groups_induction`: pieces are taken off the front group by group.
* `gather_mergeNumbers`: the arguments of some pieces are those of their maximal
  groups, in order.
* `mergeNumbers_eq`: what merging makes of the groups.
-/
namespace VoiceEdit

/-- Whether two neighbours belong to one group: both are numbers, or both are words. -/
def Piece.joins : Piece → Piece → Bool
  | .number _, .number _ | .word _, .word _ => true
  | _, _ => false

theorem Piece.number_of_joins (d : Text) (piece : Piece)
    (h : (Piece.number d).joins piece = true) : ∃ e, piece = .number e := by
  cases piece with
  | number e => exact ⟨e, rfl⟩
  | _ => exact absurd h Bool.false_ne_true

theorem Piece.word_of_joins (w : Text) (piece : Piece)
    (h : (Piece.word w).joins piece = true) : ∃ u, piece = .word u := by
  cases piece with
  | word u => exact ⟨u, rfl⟩
  | _ => exact absurd h Bool.false_ne_true

namespace Argument

open Substitution

/-- The arguments of a group: numbers are merged, words are a fragment, and anything else
stands for itself. -/
def ofGroup (fillers : List Text) : List Piece → List Text
  | .number d :: rest => [merged (d :: rest.map Piece.text)]
  | .word w :: rest => fragment fillers (w :: rest.map Piece.text)
  | group => group.map Piece.text

variable {fillers : List Text} {after : List Piece}

theorem ofGroup_numbers (d : Text) (run : List Text) :
    ofGroup fillers ((d :: run).map .number) = [merged (d :: run)] := by
  rw [List.map_cons, ofGroup, List.map_map]
  exact congrArg (fun ds => [merged (d :: ds)]) (List.map_id run)

theorem ofGroup_words (w : Text) (ws : List Text) :
    ofGroup fillers ((w :: ws).map .word) = fragment fillers (w :: ws) := by
  rw [List.map_cons, ofGroup, List.map_map]
  exact congrArg (fun us => fragment fillers (w :: us)) (List.map_id ws)

/-! ## Words and numbers in front -/

theorem mergeNumbers_words (ws : List Text) (after : List Piece) :
    mergeNumbers (ws.map .word ++ after) = ws.map .word ++ mergeNumbers after := by
  induction ws with
  | nil => rfl
  | cons w ws ih => exact congrArg (Piece.word w :: ·) ih

theorem mergeNumbers_numbers (d : Text) (run : List Text)
    (hafter : ∀ e, after.head? ≠ some (.number e)) :
    mergeNumbers ((d :: run).map .number ++ after) =
      .number (merged (d :: run)) :: mergeNumbers after := by
  have h := mergeAfter_run d run after
  rw [mergeAfter_some _ hafter, ← merged_cons] at h
  exact h

theorem head?_mergeAfter (d : Text) (pieces : List Piece) :
    ∃ e, (mergeAfter (some d) pieces).head? = some (.number e) := by
  induction pieces generalizing d with
  | nil => exact ⟨d, rfl⟩
  | cons piece rest ih =>
    cases piece with
    | number e => exact ih _
    | code t => exact ⟨d, rfl⟩
    | special t => exact ⟨d, rfl⟩
    | word t => exact ⟨d, rfl⟩

/-- Merging brings no word to the front. -/
theorem head?_mergeNumbers (hafter : ∀ w, after.head? ≠ some (.word w)) (w : Text) :
    (mergeNumbers after).head? ≠ some (.word w) := by
  cases after with
  | nil => exact fun h => (nomatch h)
  | cons piece rest =>
    cases piece with
    | number d =>
      obtain ⟨e, he⟩ := head?_mergeAfter d rest
      change (mergeAfter (some d) rest).head? ≠ _
      rw [he]
      exact fun h => (nomatch h)
    | code t => exact fun h => (nomatch h)
    | special t => exact fun h => (nomatch h)
    | word t => exact absurd rfl (hafter t)

theorem gather_words (pending ws : List Text) (after : List Piece) :
    gather fillers pending (ws.map .word ++ after) = gather fillers (pending ++ ws) after := by
  induction ws generalizing pending with
  | nil => rw [List.append_nil]; rfl
  | cons w ws ih =>
    rw [List.map_cons, List.cons_append, gather, ih, List.append_assoc, List.singleton_append]

/-- A fragment ends where no word follows. -/
theorem gather_of_not_word (pending : List Text) (hafter : ∀ w, after.head? ≠ some (.word w)) :
    gather fillers pending after = fragment fillers pending ++ gather fillers [] after := by
  cases after with
  | nil => exact (List.append_nil _).symm
  | cons piece rest =>
    cases piece with
    | word w => exact absurd rfl (hafter w)
    | code t => rfl
    | number t => rfl
    | special t => rfl

/-! ## Groups in front -/

/-- The pieces of one kind in front of some pieces. -/
theorem exists_kind_run (kind : Text → Piece) (pieces : List Piece) :
    ∃ (run : List Text) (after : List Piece), pieces = run.map kind ++ after ∧
      ∀ t, after.head? ≠ some (kind t) := by
  induction pieces with
  | nil => exact ⟨[], [], rfl, fun t h => (nomatch h)⟩
  | cons piece rest ih =>
    by_cases hkind : ∃ t, piece = kind t
    · obtain ⟨t, rfl⟩ := hkind
      obtain ⟨run, after, rfl, hafter⟩ := ih
      exact ⟨t :: run, after, rfl, hafter⟩
    · exact ⟨[], piece :: rest, rfl, fun t ht => hkind ⟨t, Option.some.inj ht⟩⟩

/-- Pieces of a kind that joins itself only are a group where no more of them follow. -/
theorem splitBy_run {kind : Text → Piece} (hself : ∀ s t, (kind s).joins (kind t) = true)
    (hother : ∀ s piece, (kind s).joins piece = true → ∃ t, piece = kind t) (t : Text)
    (run : List Text) (hafter : ∀ t, after.head? ≠ some (kind t)) :
    ((t :: run).map kind ++ after).splitBy Piece.joins =
      (t :: run).map kind :: after.splitBy Piece.joins := by
  have hchain : ((t :: run).map kind).IsChain fun a b => a.joins b = true := by
    exact (List.pairwise_map.2 (List.pairwise_of_forall hself)).isChain
  have hne : (t :: run).map kind ≠ [] := List.cons_ne_nil _ _
  rw [List.splitBy_append, List.splitBy_of_isChain hne hchain, List.singleton_append]
  intro last hlast next hnext
  obtain ⟨s, -, rfl⟩ := List.mem_map.1 (List.mem_of_getLast? hlast)
  rw [Bool.eq_false_iff]
  intro hjoins
  obtain ⟨t, rfl⟩ := hother s next hjoins
  exact hafter t hnext

theorem splitBy_alone {piece : Piece} (h : ∀ next, piece.joins next = false) (after : List Piece) :
    (piece :: after).splitBy Piece.joins = [piece] :: after.splitBy Piece.joins := by
  have happend := List.splitBy_append (r := Piece.joins) (l := [piece]) (m := after) (by
    intro last hlast next _
    obtain rfl : piece = last := Option.some.inj hlast
    exact h next)
  exact happend

/-- Pieces are taken off the front group by group. -/
theorem groups_induction {motive : List Piece → Prop} (nil : motive [])
    (numbers : ∀ d run after, (∀ t, after.head? ≠ some (.number t)) → motive after →
      motive ((d :: run).map .number ++ after))
    (words : ∀ w ws after, (∀ t, after.head? ≠ some (.word t)) → motive after →
      motive ((w :: ws).map .word ++ after))
    (code : ∀ t after, motive after → motive (.code t :: after))
    (special : ∀ t after, motive after → motive (.special t :: after)) (pieces : List Piece) :
    motive pieces := by
  induction hlength : pieces.length using Nat.strongRecOn generalizing pieces with
  | ind n ih =>
    cases pieces with
    | nil => exact nil
    | cons piece rest =>
      rw [List.length_cons] at hlength
      cases piece with
      | number d =>
        obtain ⟨run, after, rfl, hafter⟩ := exists_kind_run .number rest
        rw [List.length_append] at hlength
        exact numbers d run after hafter (ih after.length (by omega) after rfl)
      | word w =>
        obtain ⟨ws, after, rfl, hafter⟩ := exists_kind_run .word rest
        rw [List.length_append] at hlength
        exact words w ws after hafter (ih after.length (by omega) after rfl)
      | code t => exact code t rest (ih rest.length (by omega) rest rfl)
      | special t => exact special t rest (ih rest.length (by omega) rest rfl)

/-- The arguments of some pieces are those of their maximal groups, in order. -/
theorem gather_mergeNumbers (fillers : List Text) (pieces : List Piece) :
    gather fillers [] (mergeNumbers pieces) =
      (pieces.splitBy Piece.joins).flatMap (ofGroup fillers) := by
  induction pieces using groups_induction with
  | nil => rfl
  | numbers d run after hafter ih =>
    rw [mergeNumbers_numbers d run hafter,
      splitBy_run (fun _ _ => rfl) Piece.number_of_joins d run hafter, List.flatMap_cons,
      ofGroup_numbers, ← ih]
    rfl
  | words w ws after hafter ih =>
    rw [mergeNumbers_words, gather_words, gather_of_not_word _ (head?_mergeNumbers hafter),
      splitBy_run (fun _ _ => rfl) Piece.word_of_joins w ws hafter, List.flatMap_cons,
      ofGroup_words, ← ih]
    rfl
  | code t after ih | special t after ih =>
    rw [splitBy_alone (fun _ => rfl), List.flatMap_cons, ← ih]
    rfl

/-- What a group of pieces becomes: numbers are merged into one. -/
def mergedGroup : List Piece → List Piece
  | .number d :: rest => [.number (merged (d :: rest.map Piece.text))]
  | group => group

theorem mergedGroup_numbers (d : Text) (run : List Text) :
    mergedGroup ((d :: run).map .number) = [.number (merged (d :: run))] := by
  rw [List.map_cons, mergedGroup, List.map_map]
  exact congrArg (fun ds => [Piece.number (merged (d :: ds))]) (List.map_id run)

/-- Merging merges every maximal group of numbers, and nothing else. -/
theorem mergeNumbers_eq (pieces : List Piece) :
    mergeNumbers pieces = (pieces.splitBy Piece.joins).flatMap mergedGroup := by
  induction pieces using groups_induction with
  | nil => rfl
  | numbers d run after hafter ih =>
    rw [mergeNumbers_numbers d run hafter,
      splitBy_run (fun _ _ => rfl) Piece.number_of_joins d run hafter, List.flatMap_cons,
      mergedGroup_numbers, ih]
    rfl
  | words w ws after hafter ih =>
    rw [mergeNumbers_words, splitBy_run (fun _ _ => rfl) Piece.word_of_joins w ws hafter,
      List.flatMap_cons, ih]
    rfl
  | code t after ih | special t after ih =>
    rw [splitBy_alone (fun _ => rfl), List.flatMap_cons, ← ih]
    rfl

end Argument

end VoiceEdit
