import VoiceEdit.Text.Basic

/-!
# Tables of phrases

A table binds phrases to values, each phrase at most once; its entries keep the
order in which they were bound.

* `get?_eq_some_iff`, `get?_perm`: a phrase has the value that it is bound to, in
  whatever order.
* `get?_overlay`: in one table laid over another, the upper one decides where it
  has the phrase.
* `overlay_assoc`, `overlay_self`: laying over is associative and idempotent, in
  the order of entries too.
-/
namespace VoiceEdit

/-- Phrases bound to values, no phrase twice. -/
structure PhraseTable (α : Type) where
  entries : List (Text × α)
  nodup : (entries.map Prod.fst).Nodup

namespace PhraseTable

variable {α : Type}

/-- The table without phrases. -/
def empty : PhraseTable α := ⟨[], List.nodup_nil⟩

/-- Whether a phrase is bound. -/
def contains (t : PhraseTable α) (phrase : Text) : Bool := t.entries.any fun e => e.1 == phrase

/-- The value of a phrase. -/
def get? (t : PhraseTable α) (phrase : Text) : Option α := t.entries.lookup phrase

/-- The bound values, in the order of their phrases. -/
def values (t : PhraseTable α) : List α := t.entries.map Prod.snd

/-- The phrases bound to values that satisfy `p`. -/
def phrasesWhere (t : PhraseTable α) (p : α → Bool) : List Text :=
  (t.entries.filter fun e => p e.2).map Prod.fst

theorem contains_iff {t : PhraseTable α} {phrase : Text} :
    t.contains phrase = true ↔ phrase ∈ t.entries.map Prod.fst := by
  simp [contains]

/-- `lower` with the bindings of `upper` laid over it. -/
def overlay (lower upper : PhraseTable α) : PhraseTable α where
  entries := lower.entries.filter (fun e => !upper.contains e.1) ++ upper.entries
  nodup := by
    rw [List.map_append, List.nodup_append]
    refine ⟨lower.nodup.sublist (List.filter_sublist.map _), upper.nodup, ?_⟩
    intro a ha b hb hab
    obtain ⟨e, he, rfl⟩ := List.mem_map.1 ha
    have hnot := (List.mem_filter.1 he).2
    rw [hab] at hnot
    simp [contains_iff.2 hb] at hnot

/-- Bind one phrase, anew if it is bound already. -/
def insert (t : PhraseTable α) (phrase : Text) (value : α) : PhraseTable α :=
  t.overlay ⟨[(phrase, value)], by simp⟩

/-- The table of some bindings; of two for one phrase the later holds. -/
def ofList (entries : List (Text × α)) : PhraseTable α :=
  entries.foldl (fun t e => t.insert e.1 e.2) empty

/-- A table with its phrases changed by `f`; of two that become equal the later
holds. -/
def mapPhrases (f : Text → Text) (t : PhraseTable α) : PhraseTable α :=
  ofList (t.entries.map fun e => (f e.1, e.2))

/-! ## Laws of laying over -/

@[ext] theorem ext {s t : PhraseTable α} (h : s.entries = t.entries) : s = t := by
  cases s; cases t; simp_all

theorem contains_overlay (lower upper : PhraseTable α) (phrase : Text) :
    (lower.overlay upper).contains phrase = (lower.contains phrase || upper.contains phrase) := by
  rw [Bool.eq_iff_iff]
  simp only [overlay, contains, List.any_append, List.any_filter, Bool.or_eq_true,
    List.any_eq_true, Bool.and_eq_true, Bool.not_eq_true']
  constructor
  · rintro (⟨e, he, _, h⟩ | h)
    · exact .inl ⟨e, he, h⟩
    · exact .inr h
  · rintro (⟨e, he, h⟩ | h)
    · by_cases hu : ∃ x ∈ upper.entries, (x.1 == phrase) = true
      · exact .inr hu
      · refine .inl ⟨e, he, ?_, h⟩
        rw [List.any_eq_false]
        intro x hx hxe
        exact hu ⟨x, hx, by simp_all⟩
    · exact .inr h

theorem lookup_filter_fst (p : Text → Bool) (phrase : Text) (entries : List (Text × α)) :
    (entries.filter fun e => p e.1).lookup phrase =
      if p phrase then entries.lookup phrase else none := by
  induction entries with
  | nil => simp
  | cons e rest ih =>
    obtain ⟨q, value⟩ := e
    by_cases hq : phrase = q
    · subst hq
      cases hp : p phrase
      · simpa [hp] using ih
      · simp [hp]
    · cases hp : p q <;> simp [hp, ih, List.lookup_cons, beq_false_of_ne hq]

theorem isSome_get? (t : PhraseTable α) (phrase : Text) :
    (t.get? phrase).isSome = t.contains phrase := by
  simp only [get?, contains]
  induction t.entries with
  | nil => rfl
  | cons e rest ih =>
    obtain ⟨q, value⟩ := e
    by_cases hq : phrase = q
    · simp [hq]
    · simp [List.lookup_cons, beq_false_of_ne hq, beq_false_of_ne (Ne.symm hq), ih]

/-- The value of a phrase is the one that it is bound to. -/
theorem get?_eq_some_iff (t : PhraseTable α) (phrase : Text) (value : α) :
    t.get? phrase = some value ↔ (phrase, value) ∈ t.entries := by
  obtain ⟨entries, hnodup⟩ := t
  simp only [get?]
  induction entries with
  | nil => simp
  | cons e rest ih =>
    obtain ⟨q, bound⟩ := e
    rw [List.map_cons, List.nodup_cons] at hnodup
    rw [List.lookup_cons, List.mem_cons, Prod.mk.injEq]
    by_cases hq : phrase = q
    · subst hq
      have hnot : (phrase, value) ∉ rest := fun h =>
        hnodup.1 (List.mem_map.2 ⟨_, h, rfl⟩)
      simp [hnot, eq_comm]
    · simp [beq_false_of_ne hq, hq, ih hnodup.2]

/-- The order of the entries decides nothing. -/
theorem get?_perm {s t : PhraseTable α} (h : s.entries.Perm t.entries) (phrase : Text) :
    s.get? phrase = t.get? phrase := by
  ext value
  rw [get?_eq_some_iff, get?_eq_some_iff, h.mem_iff]

/-- A phrase has the value of the upper table, or else that of the lower one. -/
theorem get?_overlay (lower upper : PhraseTable α) (phrase : Text) :
    (lower.overlay upper).get? phrase = (upper.get? phrase).or (lower.get? phrase) := by
  have hfilter := lookup_filter_fst (fun q => !upper.contains q) phrase lower.entries
  have hsome := upper.isSome_get? phrase
  simp only [get?] at hsome
  simp only [get?, overlay, List.lookup_append, hfilter, ← hsome]
  cases upper.entries.lookup phrase <;> simp

/-- Tables may be laid over one another in any grouping. -/
theorem overlay_assoc (a b c : PhraseTable α) :
    (a.overlay b).overlay c = a.overlay (b.overlay c) := by
  ext1
  simp only [overlay, List.filter_append, List.append_assoc, List.filter_filter]
  congr 2
  funext e
  have h := contains_overlay b c e.1
  simp only [overlay] at h
  simp [h, Bool.and_comm]

/-- A table laid over itself stays as it is. -/
theorem overlay_self (t : PhraseTable α) : t.overlay t = t := by
  ext1
  simp only [overlay, List.append_left_eq_self, List.filter_eq_nil_iff]
  intro e he
  simp only [Bool.not_eq_true', Bool.not_eq_false]
  exact contains_iff.2 (List.mem_map_of_mem he)

end PhraseTable

end VoiceEdit
