import VoiceEdit.Phrase

/-!
# Where a phrase stands

A phrase stands at a place of a text if it is written there and no word goes on into
it or out of it.

* `StandsBetween`, `StandsAt`, `StandsFirstAt`: the parts around a phrase, and the
  place where it begins.
* `splitAtPhrase?_eq_some`, `splitAtPhrase?_eq_none_iff`: the search finds the
  first place of a phrase, and nothing only where there is none.
-/
namespace VoiceEdit.Text

/-- A phrase stands on whole words between two parts of a text. -/
structure StandsBetween (text phrase before after : Text) : Prop where
  split : text = before ++ phrase ++ after
  left : ∀ c ∈ before.getLast?, isWordChar c = false
  right : ∀ c ∈ after.head?, isWordChar c = false

/-- A phrase stands on whole words with its first character at a place. -/
def StandsAt (text phrase : Text) (place : Nat) : Prop :=
  ∃ before after, StandsBetween text phrase before after ∧ before.length = place

/-- A phrase stands on whole words at a place, and nowhere before it. -/
def StandsFirstAt (text phrase : Text) (place : Nat) : Prop :=
  StandsAt text phrase place ∧ ∀ other, StandsAt text phrase other → place ≤ other

variable {text phrase before after : Text}

theorem isBoundary_iff (neighbour : Option Char) :
    isBoundary neighbour = true ↔ ∀ c ∈ neighbour, isWordChar c = false := by
  cases neighbour with
  | none => simp [isBoundary]
  | some c => simp [isBoundary]

/-- What is asked at one place of the search. -/
theorem standsAt_iff (phrase reversed rest : Text) :
    (phrase.isPrefixOf rest && isBoundary reversed.head? &&
        isBoundary (rest.drop phrase.length).head?) = true ↔
      StandsAt (reversed.reverse ++ rest) phrase reversed.length := by
  rw [Bool.and_eq_true, Bool.and_eq_true, isBoundary_iff, isBoundary_iff, List.isPrefixOf_iff_prefix]
  constructor
  · rintro ⟨⟨⟨after, rfl⟩, hleft⟩, hright⟩
    rw [List.drop_left] at hright
    refine ⟨reversed.reverse, after, ⟨?_, ?_, hright⟩, List.length_reverse⟩
    · rw [List.append_assoc]
    · rw [List.getLast?_reverse]
      exact hleft
  · rintro ⟨before, after, ⟨hsplit, hleft, hright⟩, hlength⟩
    rw [List.append_assoc] at hsplit
    obtain ⟨rfl, rfl⟩ := List.append_inj hsplit (by rw [List.length_reverse, hlength])
    rw [List.getLast?_reverse] at hleft
    rw [List.drop_left]
    exact ⟨⟨List.prefix_append phrase after, hleft⟩, hright⟩

/-- A phrase that is not empty does not stand at the end of a text. -/
theorem StandsAt.lt {place : Nat} (hne : phrase ≠ []) (h : StandsAt text phrase place) :
    place < text.length := by
  obtain ⟨before, after, ⟨rfl, -, -⟩, rfl⟩ := h
  have := List.length_pos_iff.2 hne
  rw [List.length_append, List.length_append]
  omega

/-- The two parts are those at the place where the phrase stands. -/
theorem StandsAt.between {before after : Text} (h : StandsAt text phrase before.length)
    (hsplit : text = before ++ phrase ++ after) : StandsBetween text phrase before after := by
  obtain ⟨before', after', ⟨hsplit', hleft, hright⟩, hlength⟩ := h
  rw [hsplit, List.append_assoc, List.append_assoc] at hsplit'
  obtain ⟨rfl, hrest⟩ := List.append_inj hsplit' hlength.symm
  obtain rfl := List.append_cancel_left hrest
  exact ⟨hsplit, hleft, hright⟩

/-- What the search from a place on finds: the first occurrence from there. -/
theorem splitFrom_spec (hne : phrase ≠ []) (reversed rest : Text) :
    match splitFrom phrase reversed rest with
    | some (before, after) => StandsBetween (reversed.reverse ++ rest) phrase before after ∧
        ∀ place, reversed.length ≤ place → StandsAt (reversed.reverse ++ rest) phrase place →
          before.length ≤ place
    | none => ∀ place, reversed.length ≤ place →
        ¬ StandsAt (reversed.reverse ++ rest) phrase place := by
  -- on what is left to search; the text as a whole stays the same
  induction rest generalizing reversed with
  | nil =>
    intro place hplace hstands
    have hlt := hstands.lt hne
    rw [List.append_nil, List.length_reverse] at hlt
    omega
  | cons c rest ih =>
    have hhere := standsAt_iff phrase reversed (c :: rest)
    unfold splitFrom
    by_cases hfound : (phrase.isPrefixOf (c :: rest) && isBoundary reversed.head? &&
        isBoundary ((c :: rest).drop phrase.length).head?) = true
    · rw [if_pos hfound]
      have hprefix : phrase <+: c :: rest := by
        rw [Bool.and_eq_true, Bool.and_eq_true] at hfound
        exact List.isPrefixOf_iff_prefix.1 hfound.1.1
      have hstands : StandsAt (reversed.reverse ++ c :: rest) phrase reversed.reverse.length := by
        rw [List.length_reverse]
        exact hhere.1 hfound
      refine ⟨hstands.between ?_, fun place hplace _ => ?_⟩
      · rw [List.append_assoc, List.prefix_iff_eq_append.1 hprefix]
      · rw [List.length_reverse]
        exact hplace
    · rw [if_neg hfound]
      have htext : (c :: reversed).reverse ++ rest = reversed.reverse ++ c :: rest := by
        rw [List.reverse_cons, List.append_assoc, List.singleton_append]
      have hlater : ∀ place, reversed.length ≤ place →
          StandsAt (reversed.reverse ++ c :: rest) phrase place →
          (c :: reversed).length ≤ place := by
        intro place hplace hstands
        have hother : reversed.length ≠ place := by
          rintro rfl
          exact hfound (hhere.2 hstands)
        rw [List.length_cons]
        omega
      have hnext := ih (c :: reversed)
      rw [htext] at hnext
      cases hrest : splitFrom phrase (c :: reversed) rest with
      | none =>
        rw [hrest] at hnext
        intro place hplace hstands
        exact hnext place (hlater place hplace hstands) hstands
      | some parts =>
        rw [hrest] at hnext
        obtain ⟨hbetween, hfirst⟩ := hnext
        refine ⟨hbetween, fun place hplace hstands => ?_⟩
        exact hfirst place (hlater place hplace hstands) hstands

/-- Nothing is found exactly where a phrase stands nowhere. -/
theorem splitAtPhrase?_eq_none_iff (text phrase : Text) :
    splitAtPhrase? text phrase = none ↔ phrase = [] ∨ ∀ place, ¬ StandsAt text phrase place := by
  unfold splitAtPhrase?
  split
  · rename_i hempty
    exact ⟨fun _ => .inl (List.isEmpty_iff.1 hempty), fun _ => rfl⟩
  rename_i hne
  rw [List.isEmpty_iff] at hne
  have hspec := splitFrom_spec hne [] text
  cases hfound : splitFrom phrase [] text with
  | none =>
    rw [hfound] at hspec
    exact ⟨fun _ => .inr fun place => hspec place (Nat.zero_le place), fun _ => rfl⟩
  | some parts =>
    rw [hfound] at hspec
    refine ⟨fun h => (nomatch h), ?_⟩
    rintro (hempty | hnowhere)
    · exact absurd hempty hne
    · exact absurd ⟨parts.1, parts.2, hspec.1, rfl⟩ (hnowhere parts.1.length)

/-- What is found are the parts around the first place of a phrase. -/
theorem splitAtPhrase?_eq_some_parts (h : splitAtPhrase? text phrase = some (before, after)) :
    phrase ≠ [] ∧ StandsBetween text phrase before after ∧
      StandsFirstAt text phrase before.length := by
  unfold splitAtPhrase? at h
  split at h
  · exact (nomatch h)
  rename_i hne
  rw [List.isEmpty_iff] at hne
  have hspec := splitFrom_spec hne [] text
  rw [h] at hspec
  obtain ⟨hbetween, hfirst⟩ := hspec
  exact ⟨hne, hbetween, ⟨before, after, hbetween, rfl⟩,
    fun place => hfirst place (Nat.zero_le place)⟩

/-- What is found is the first place of a phrase. -/
theorem splitAtPhrase?_eq_some (h : splitAtPhrase? text phrase = some (before, after)) :
    phrase ≠ [] ∧ StandsFirstAt text phrase before.length :=
  have ⟨hne, _, hfirst⟩ := splitAtPhrase?_eq_some_parts h
  ⟨hne, hfirst⟩

end VoiceEdit.Text
