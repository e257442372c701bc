import VoiceEdit.Proofs.Dictation.Segments
import VoiceEdit.Proofs.Dictation.SpaceRuns
import VoiceEdit.Proofs.Text.Collapsing

/-!
# The spaces of dictated text

Dictated text is written piece by piece, with a flag that says whether the next piece follows
without a space. What comes out depends on neighbours only: a space stands between two pieces
if and only if neither is a special character. Runs of spaces are then reduced to one.

* `rendered`, `Written.EndsWith`, `foldl_add`: pieces side by side; the piece written last is
  what the flag tells of.
* `isSolid_mergeNumbers`, `Segments.isSolid`: every other piece is seen.
* `format_spacing`: dictated text, from the segments of its words.
-/
namespace VoiceEdit.Dictation

open Text Transcript Substitution Argument

/-! ## Pieces side by side -/

/-- Whether a piece brings its own spaces. -/
def bringsSpaces : Piece → Bool
  | .special _ => true
  | _ => false

/-- What is written between two neighbours. -/
def separator (before piece : Piece) : Text :=
  if bringsSpaces before || bringsSpaces piece then [] else [' ']

/-- Pieces written one after the other behind a piece. -/
def renderedAfter (before : Piece) : List Piece → Text
  | [] => []
  | piece :: rest => separator before piece ++ piece.text ++ renderedAfter piece rest

/-- Pieces written one after the other. -/
def rendered : List Piece → Text
  | [] => []
  | piece :: rest => piece.text ++ renderedAfter piece rest

/-- What is written last: a piece that brings its own spaces is glued to the next, and any
other one has left something behind. -/
structure Written.EndsWith (w : Written) (piece : Piece) : Prop where
  glued : w.glued = bringsSpaces piece
  written : bringsSpaces piece = false → w.text ≠ []

/-- A piece that is seen, unless it is a special character. -/
def IsSolid (piece : Piece) : Prop := bringsSpaces piece = false → piece.text ≠ []

variable {w : Written} {before piece : Piece} {pieces : List Piece}

/-- One more piece is written with its separator, and is then the last one. -/
theorem Written.EndsWith.add (h : w.EndsWith before) (hsolid : IsSolid piece) :
    (w.add piece).text = w.text ++ separator before piece ++ piece.text ∧
      (w.add piece).EndsWith piece := by
  have hseparator : bringsSpaces piece = false →
      (if w.text.isEmpty || w.glued then [] else [' ']) = separator before piece := by
    intro hpiece
    rw [separator, hpiece, Bool.or_false, h.glued]
    cases hbefore : bringsSpaces before with
    | true => rw [Bool.or_true]
    | false => rw [List.isEmpty_eq_false_iff.2 (h.written hbefore), Bool.or_false]
  cases piece with
  | special s =>
    refine ⟨?_, rfl, nofun⟩
    rw [Written.add, separator, bringsSpaces, Bool.or_true, if_pos rfl, List.append_nil]
    rfl
  | code s | number s | word s =>
    refine ⟨by rw [← hseparator rfl]; rfl, rfl, fun _ => ?_⟩
    exact List.append_ne_nil_of_right_ne_nil _ (hsolid rfl)

/-- Behind a piece, all others are written with their separators. -/
theorem Written.EndsWith.foldl (h : w.EndsWith before) (hsolid : ∀ piece ∈ pieces, IsSolid piece) :
    (pieces.foldl Written.add w).text = w.text ++ renderedAfter before pieces := by
  induction pieces generalizing w before with
  | nil => exact (List.append_nil _).symm
  | cons piece rest ih =>
    obtain ⟨hpiece, hrest⟩ := List.forall_mem_cons.1 hsolid
    obtain ⟨htext, hends⟩ := h.add hpiece
    rw [List.foldl_cons, ih hends hrest, htext, renderedAfter, List.append_assoc, List.append_assoc,
      List.append_assoc]

theorem foldl_add (hsolid : ∀ piece ∈ pieces, IsSolid piece) :
    (pieces.foldl Written.add ⟨[], false⟩).text = rendered pieces := by
  cases pieces with
  | nil => rfl
  | cons piece rest =>
    obtain ⟨hpiece, hrest⟩ := List.forall_mem_cons.1 hsolid
    have hfirst : (Written.add ⟨[], false⟩ piece).text = piece.text ∧
        (Written.add ⟨[], false⟩ piece).EndsWith piece := by
      cases piece with
      | special s => exact ⟨rfl, rfl, nofun⟩
      | code s | number s | word s => exact ⟨rfl, rfl, hpiece⟩
    rw [List.foldl_cons, hfirst.2.foldl hrest, hfirst.1, rendered]

/-! ## The pieces of a text -/

theorem merged_ne_nil {d : Text} (hd : d ≠ []) (rest : List Text) : merged (d :: rest) ≠ [] := by
  rw [merged_cons]
  induction rest generalizing d with
  | nil => exact hd
  | cons e rest ih =>
    apply ih
    unfold mergeDigits
    split
    · rename_i hmerged
      have hunit := (Bool.and_eq_true_iff.1 hmerged).2
      have he : e ≠ [] := by
        rintro rfl
        exact absurd hunit (by decide)
      exact List.append_ne_nil_of_right_ne_nil _ he
    · exact List.append_ne_nil_of_left_ne_nil hd e

/-- Numbers that are merged are still seen. -/
theorem isSolid_mergeNumbers (hsolid : ∀ piece ∈ pieces, IsSolid piece) :
    ∀ piece ∈ mergeNumbers pieces, IsSolid piece := by
  intro piece hpiece
  rw [mergeNumbers_eq] at hpiece
  obtain ⟨group, hgroup, hpiece⟩ := List.mem_flatMap.1 hpiece
  have hmem : ∀ q ∈ group, IsSolid q := by
    intro q hq
    apply hsolid
    rw [← List.flatten_splitBy Piece.joins pieces]
    exact List.mem_flatten.2 ⟨group, hgroup, hq⟩
  unfold mergedGroup at hpiece
  split at hpiece
  · rename_i d rest
    rw [List.mem_singleton.1 hpiece]
    intro _
    exact merged_ne_nil (hmem _ List.mem_cons_self rfl) _
  · exact hmem piece hpiece

theorem Segments.isSolid {v : Vocabulary} {ws : List Text} {segments : List Segment}
    (h : Segments v ws segments) (hws : ∀ w ∈ ws, w ≠ []) :
    ∀ segment ∈ segments, IsSolid segment.piece := by
  induction h with
  | nil => exact fun _ h => absurd h List.not_mem_nil
  | phrase run rest r segments hne hmeans hlongest hrest ih =>
    refine List.forall_mem_cons.2 ⟨?_, ih fun w hw => hws w (List.mem_append_right _ hw)⟩
    cases hmeans with
    | special replacement hinserts => exact nofun
    | number n hcounts hno =>
      intro _
      exact (isDecimal_iff.1 (isDecimal_ofNat n)).1
  | word w rest segments hnone hrest ih =>
    obtain ⟨hw, hothers⟩ := List.forall_mem_cons.1 hws
    refine List.forall_mem_cons.2 ⟨fun _ => ?_, ih hothers⟩
    rw [Segment.piece]
    split
    · rename_i hdecimal
      exact (isDecimal_iff.1 hdecimal).1
    · exact hw

variable {v : Vocabulary} {text : Text} {segments : List Segment}

/-- Dictated text, from the segments of its words. -/
theorem format_eq (h : Segments v (words text) segments)
    (hscan : scan (phrases v) 0 (words text) = segments.map Segment.piece) :
    format v text = collapseSpaces (rendered (mergeNumbers (segments.map Segment.piece))) := by
  have hwords : ∀ w ∈ words text, w ≠ [] := fun w hw => (isWord_of_mem_words hw).ne_nil
  have hsolid := isSolid_mergeNumbers (List.forall_mem_map.2 (h.isSolid hwords))
  rw [format, substitute, hscan, foldl_add hsolid]

theorem not_infix_format (v : Vocabulary) (text : Text) : ¬ [' ', ' '] <:+: format v text := by
  intro hwithin
  have hchain := List.IsChain.infix (isChain_collapseSpaces _) hwithin
  rcases (List.isChain_cons_cons.1 hchain).1 with h | h
  · exact h rfl
  · exact h rfl

theorem rendered_words (ws : List Text) : rendered (ws.map .word) = joinWords ws := by
  induction ws with
  | nil => rfl
  | cons w rest ih =>
    cases rest with
    | nil =>
      rw [joinWords, List.intercalate_singleton]
      exact List.append_nil w
    | cons u rest =>
      rw [joinWords_cons_cons, ← ih]
      rfl

/-- Words that are neither phrases nor numbers are written with single spaces. -/
theorem format_of_phraseless (hnone : Phraseless v (words text))
    (hplain : ∀ w ∈ words text, isDecimal (dropTrailingMarks w) = false)
    (h : Segments v (words text) segments)
    (hscan : scan (phrases v) 0 (words text) = segments.map Segment.piece) :
    format v text = joinWords (words text) := by
  have hpieces : segments.map Segment.piece = (words text).map .word := by
    rw [hnone.segments_eq h, List.map_map]
    refine List.map_congr_left fun w hw => ?_
    have hword : ¬ isDecimal (dropTrailingMarks w) = true := by
      rw [hplain w hw]
      exact Bool.false_ne_true
    exact if_neg hword
  have hmerged : mergeNumbers ((words text).map .word) = (words text).map .word := by
    have h := mergeNumbers_words (words text) []
    rwa [List.append_nil, show mergeNumbers [] = [] from rfl, List.append_nil] at h
  have hchain : (joinWords (words text)).IsChain fun c d => c ≠ ' ' ∨ d ≠ ' ' := by
    refine (isChain_joinWords fun _ => isWord_of_mem_words).imp fun c d h => ?_
    have hspace : ∀ {c : Char}, isBlank c = false → c ≠ ' ' := by
      rintro c hc rfl
      exact absurd hc (by decide)
    exact h.imp hspace hspace
  rw [format_eq h hscan, hpieces, hmerged, rendered_words, collapseSpaces_of_isChain hchain]

/-- **The spaces of dictated text.** The words of a text are cut into the longest phrases for
special characters and numbers and into single words, in one way if no two phrases of a table are
the same words. Of that, with neighbouring numbers merged, the pieces are written one after the
other, with one space between two of them if neither is a special character and with nothing
between them otherwise, and every run of spaces is replaced by one space. There are no two spaces
in a row; and a text without phrases and numbers is its words with single spaces between them. -/
theorem format_spacing (v : Vocabulary) (text : Text) :
    (∃ segments, Segments v (words text) segments ∧
      (Distinct v → ∀ others, Segments v (words text) others → others = segments) ∧
      segments.flatMap Segment.words = words text ∧
      format v text = squeezed (rendered
        (((segments.map Segment.piece).splitBy Piece.joins).flatMap mergedGroup))) ∧
    ¬ [' ', ' '] <:+: format v text ∧
    (Phraseless v (words text) →
      (∀ w ∈ words text, isDecimal (dropTrailingMarks w) = false) →
      format v text = joinWords (words text)) := by
  obtain ⟨segments, hsegments, hscan⟩ := exists_segments v (words text)
  refine ⟨⟨segments, hsegments, ?_, hsegments.flatMap_words, ?_⟩, not_infix_format v text, ?_⟩
  · intro hdistinct others hothers
    exact hothers.unique hdistinct hsegments
  · rw [format_eq hsegments hscan, collapseSpaces_eq_squeezed, mergeNumbers_eq]
  · intro hnone hplain
    exact format_of_phraseless hnone hplain hsegments hscan

/-- A comma and a new line take the spaces around them away, two numbers merge, and a text
without phrases stays. -/
theorem format_spacing_comma :
    ∃ v : Vocabulary, Distinct v ∧
      (∃ segments, Segments v ["a", "Comma", "twenty", "one", "new", "line", "b"] segments ∧
        ∀ others, Segments v ["a", "Comma", "twenty", "one", "new", "line", "b"] others →
          others = segments) ∧
      format v "a Comma twenty one  new line b" = "a, 21\nb" ∧
      Phraseless v (words "Hello,   newer World!") ∧
      format v "Hello,   newer World!" = "Hello, newer World!" := by
  let v : Vocabulary :=
    { Vocabulary.empty with
      specialCharacters := .ofList [("comma", ", "), ("new line", "\n")]
      numberWords := .ofList [("twenty", 20), ("one", 1)] }
  have hdistinct : Distinct v := by
    constructor
    · unfold PhraseTable.Distinct
      decide +kernel
    · unfold PhraseTable.Distinct
      decide +kernel
  have hsaid : words "a Comma twenty one  new line b" =
      ["a", "Comma", "twenty", "one", "new", "line", "b"] := by decide +kernel
  obtain ⟨⟨segments, hsegments, hunique, -, -⟩, -, -⟩ :=
    format_spacing v "a Comma twenty one  new line b"
  rw [hsaid] at hsegments hunique
  have hnone : Phraseless v (words "Hello,   newer World!") :=
    ⟨by decide +kernel, by decide +kernel⟩
  obtain ⟨-, -, hplain⟩ := format_spacing v "Hello,   newer World!"
  have hwords : joinWords (words "Hello,   newer World!") = "Hello, newer World!" := by
    decide +kernel
  refine ⟨v, hdistinct, ⟨segments, hsegments, hunique hdistinct⟩, by decide +kernel, hnone, ?_⟩
  rw [hplain hnone (by decide +kernel), hwords]

end VoiceEdit.Dictation
