import VoiceEdit.Proofs.Command.TextKeeping

/-!
# Selecting a range

A range is named by two runs of movements, with `FROM` in front of the first or
not, and `TO` in front of the second. Both runs move one and the same cursor.

* `IsRange`: the tokens that name a range; `exists_isRange_iff`: they are those
  that are cut into two runs without a delimiter left over.
* `run_cursorAfter`: what a run of movements leads to.
* `selectTokens_range`: what is selected (`SelectsRange`).
-/
namespace VoiceEdit

open Editor Program

namespace Buffer

variable {b : Buffer} {anchor active : Position}

theorem check_of_inRow {p : Position} (h : p.InRow b.lines) : b.check p = .ok () :=
  if_pos ⟨h.line_lt, h.column_le⟩

/-- Two places of the text can be selected. -/
theorem select_of_inRow (hanchor : anchor.InRow b.lines) (hactive : active.InRow b.lines) :
    b.select anchor active = .ok ({ b with selection := ⟨anchor, active⟩ }.reveal active.line) := by
  rw [select, check_of_inRow hanchor, check_of_inRow hactive]
  rfl

theorem run_selection (hfocus : b.focused = true) :
    Program.run editor Editor.selection.run b = (.ok b.selection, b) :=
  editor_focused hfocus .selection

theorem run_cursor (hfocus : b.focused = true) :
    Program.run editor Editor.cursor.run b = (.ok b.selection.active, b) := by
  rw [Editor.cursor, run_chain, run_selection hfocus]
  rfl

theorem run_moveToLine (hfocus : b.focused = true) (n : Nat) :
    Program.run editor (Editor.moveToLine n).run b = b.act (b.moveToLine n) :=
  editor_focused hfocus (.moveToLine n)

theorem run_moveTo (hfocus : b.focused = true) (target : Target) :
    Program.run editor (Editor.moveTo target).run b = (.ok (), b.moveTo target) :=
  editor_focused hfocus (.moveTo target)

theorem run_lineText (hfocus : b.focused = true) {n : Nat} (hn : n < b.lines.length) :
    Program.run editor (Editor.lineText n).run b = (.ok (b.line n), b) := by
  have hanswer := editor_focused hfocus (.lineText n)
  rw [answer, lineText, List.getElem?_eq_getElem hn] at hanswer
  rw [line, List.getElem?_eq_getElem hn]
  exact hanswer

/-- Places that can be selected are selected. -/
theorem run_select (hfocus : b.focused = true) {after : Buffer}
    (h : b.select anchor active = .ok after) :
    Program.run editor (Outcome.ofAction (Editor.select anchor active)) b = (.success, after) := by
  have hanswer : Program.run editor (Editor.select anchor active).run b = (.ok (), after) := by
    have hact := editor_focused hfocus (.select anchor active)
    rw [answer, h] at hact
    exact hact
  rw [Outcome.ofAction, run_bind, hanswer]
  rfl

end Buffer

namespace Selecting

/-! ## The tokens of a range -/

/-- No token delimits a range. -/
def Undelimited (tokens : List Token) : Prop := ∀ t ∈ tokens, isDelimiter t = false

/-- A run, with or without a `FROM` in front. -/
def IsOpening (tokens run : List Token) : Prop :=
  tokens = run ∨ ∃ t, delimiter? t = some .rangeFrom ∧ tokens = t :: run

/-- Nothing, or a `TO` and a run. -/
def IsClosing (tokens run : List Token) : Prop :=
  (tokens = [] ∧ run = []) ∨ ∃ t, delimiter? t = some .rangeTo ∧ tokens = t :: run

/-- The tokens of a range, `[FROM] fromRun [TO toRun]`: no delimiter stands inside of a run. -/
structure IsRange (tokens fromRun toRun : List Token) : Prop where
  split : ∃ opening closing, tokens = opening ++ closing ∧ IsOpening opening fromRun ∧
    IsClosing closing toRun
  fromRun : Undelimited fromRun
  toRun : Undelimited toRun

variable {tokens fromRun toRun : List Token}

theorem delimiter?_of_not_isDelimiter {t : Token} (h : isDelimiter t = false) :
    delimiter? t = none := Option.not_isSome_iff_eq_none.1 (by rw [← isDelimiter, h]; decide)

/-- Whether a token begins the second run. -/
abbrev isTo (t : Token) : Bool := delimiter? t == some .rangeTo

/-- No `TO` stands in an opening. -/
theorem not_isTo_of_mem_opening {opening : List Token} (h : IsOpening opening fromRun)
    (hrun : Undelimited fromRun) : ∀ t ∈ opening, (!isTo t) = true := by
  have hplain : ∀ t ∈ fromRun, (!isTo t) = true := by
    intro t ht
    rw [isTo, delimiter?_of_not_isDelimiter (hrun t ht)]
    rfl
  rcases h with rfl | ⟨first, hfirst, rfl⟩
  · exact hplain
  · intro t ht
    rcases List.mem_cons.1 ht with rfl | ht
    · rw [isTo, hfirst]
      rfl
    · exact hplain t ht

/-- The tokens of a range are cut into its runs. -/
theorem IsRange.rangeRuns_eq (h : IsRange tokens fromRun toRun) :
    rangeRuns tokens = (fromRun, toRun) := by
  obtain ⟨⟨opening, closing, rfl, hopening, hclosing⟩, hfrom, hto⟩ := h
  have hopen := not_isTo_of_mem_opening hopening hfrom
  have hclose : closing.takeWhile (fun t => !isTo t) = [] ∧
      (closing.dropWhile fun t => !isTo t).drop 1 = toRun := by
    rcases hclosing with ⟨rfl, rfl⟩ | ⟨t, ht, rfl⟩
    · exact ⟨rfl, rfl⟩
    · simp [isTo, ht]
  have hruns : (opening ++ closing).takeWhile (fun t => !isTo t) = opening ∧
      ((opening ++ closing).dropWhile fun t => !isTo t).drop 1 = toRun := by
    rw [List.takeWhile_append_of_pos hopen, List.dropWhile_append_of_pos hopen, hclose.1,
      List.append_nil]
    exact ⟨rfl, hclose.2⟩
  unfold rangeRuns
  simp only
  rw [hruns.1, hruns.2]
  rcases hopening with rfl | ⟨first, hfirst, rfl⟩
  · cases opening with
    | nil => rfl
    | cons first rest => simp [delimiter?_of_not_isDelimiter (hfrom first List.mem_cons_self)]
  · simp [hfirst]

/-- Tokens are their two runs with the delimiters around them. -/
theorem rangeRuns_split (tokens : List Token) : ∃ opening closing, tokens = opening ++ closing ∧
    IsOpening opening (rangeRuns tokens).1 ∧ IsClosing closing (rangeRuns tokens).2 := by
  refine ⟨tokens.takeWhile fun t => !isTo t, tokens.dropWhile fun t => !isTo t,
    List.takeWhile_append_dropWhile.symm, ?_, ?_⟩
  · unfold rangeRuns
    simp only
    split
    · rename_i first rest hrun
      split
      · rename_i hfirst
        exact .inr ⟨first, beq_iff_eq.1 hfirst, hrun⟩
      · exact .inl rfl
    · rename_i hrun
      exact .inl hrun
  · have hto : (rangeRuns tokens).2 = (tokens.dropWhile fun t => !isTo t).drop 1 := by
      unfold rangeRuns
      simp only
      split
      · split <;> rfl
      · rfl
    rw [hto]
    cases hclosing : tokens.dropWhile fun t => !isTo t with
    | nil => exact .inl ⟨rfl, rfl⟩
    | cons t rest =>
      have ht := List.head?_dropWhile_not (fun t => !isTo t) tokens
      rw [hclosing] at ht
      refine .inr ⟨t, ?_, rfl⟩
      simpa using ht

/-- Tokens name a range unless a delimiter is left in one of their two runs. -/
theorem exists_isRange_iff (tokens : List Token) : (∃ fromRun toRun, IsRange tokens fromRun toRun) ↔
    ((rangeRuns tokens).1.any isDelimiter || (rangeRuns tokens).2.any isDelimiter) = false := by
  rw [Bool.or_eq_false_iff, List.any_eq_false, List.any_eq_false]
  constructor
  · rintro ⟨fromRun, toRun, h⟩
    rw [h.rangeRuns_eq]
    exact ⟨fun t ht => by simp [h.fromRun t ht], fun t ht => by simp [h.toRun t ht]⟩
  · rintro ⟨hfrom, hto⟩
    exact ⟨_, _, rangeRuns_split tokens, fun t ht => by simpa using hfrom t ht,
      fun t ht => by simpa using hto t ht⟩

/-! ## Runs of movements -/

/-- A buffer moved by some tokens; without tokens it stays as it is. -/
def movedBy (tokens : List Token) (b : Buffer) : Outcome × Buffer :=
  if tokens = [] then (.success, b) else (Movement.go tokens).run Buffer.editor b

variable {b : Buffer}

/-- Movements keep the text and the focus. -/
theorem kept_movedBy (h : b.WellFormed) (tokens : List Token) :
    Buffer.Kept b (movedBy tokens b).2 ∧ (movedBy tokens b).2.WellFormed := by
  unfold movedBy
  split
  · exact ⟨.refl b, h⟩
  · exact Buffer.kept_run (Movement.gentle_go tokens) h

/-- A run of movements leads to the cursor behind it, and to the fallback where it is empty. -/
theorem run_cursorAfter (h : b.WellFormed) (hfocus : b.focused = true) (tokens : List Token)
    (fallback : Position) :
    (cursorAfter tokens fallback).run Buffer.editor b =
      (if (movedBy tokens b).1 = .success then
        .ok (if tokens = [] then fallback else (movedBy tokens b).2.selection.active)
      else .error (movedBy tokens b).1, (movedBy tokens b).2) := by
  unfold cursorAfter
  by_cases hempty : tokens = []
  · simp [movedBy, hempty, Program.run]
  · have hmoved : movedBy tokens b = (Movement.go tokens).run Buffer.editor b := if_neg hempty
    have hfocused : (movedBy tokens b).2.focused = true :=
      (kept_movedBy h tokens).1.focused.trans hfocus
    rw [if_neg (fun h => hempty (List.isEmpty_iff.1 h)), run_bind, ← hmoved, if_neg hempty]
    by_cases hsuccess : (movedBy tokens b).1 = .success
    · have hgoes : Outcome.success.isSuccess = true := rfl
      rw [hsuccess, if_pos rfl, if_pos hgoes, run_bind, Buffer.run_cursor hfocused]
      rfl
    · rw [if_neg hsuccess, if_neg]
      · rfl
      · simpa [Outcome.isSuccess] using hsuccess

/-! ## The selected range -/

/-- A cursor that a run leads to lies in the text that the run started from. -/
theorem inRow_cursor (h : b.WellFormed) (tokens : List Token) {fallback : Position}
    (hfallback : fallback.InRow b.lines) :
    (if tokens = [] then fallback else (movedBy tokens b).2.selection.active).InRow b.lines := by
  obtain ⟨hkept, hwell⟩ := kept_movedBy h tokens
  split
  · exact hfallback
  · rw [← hkept.lines]
    exact hwell.active

/-- What the two runs of a range make of a buffer: the first that fails tells the
outcome and is the last, and if none does the selection reaches from where the
first led to where the second led. An empty run leads to the cursor before, and
to the end of the selection before. -/
structure SelectsRange (fromRun toRun : List Token) (b : Buffer) (result : Outcome × Buffer) :
    Prop where
  first_fails : (movedBy fromRun b).1 ≠ .success → result = movedBy fromRun b
  second_fails : (movedBy fromRun b).1 = .success →
    (movedBy toRun (movedBy fromRun b).2).1 ≠ .success →
      result = movedBy toRun (movedBy fromRun b).2
  selects : (movedBy fromRun b).1 = .success → (movedBy toRun (movedBy fromRun b).2).1 = .success →
    result.1 = .success ∧ result.2.text = b.text ∧ result.2.selection =
      ⟨if fromRun = [] then b.selection.active else (movedBy fromRun b).2.selection.active,
        if toRun = [] then b.selection.finish
        else (movedBy toRun (movedBy fromRun b).2).2.selection.active⟩

theorem selectsRange_selectRange (h : b.WellFormed) (hfocus : b.focused = true)
    (hrange : IsRange tokens fromRun toRun) :
    SelectsRange fromRun toRun b ((selectRange tokens).run Buffer.editor b) := by
  obtain ⟨hkept, hwell⟩ := kept_movedBy h fromRun
  have hfocused : (movedBy fromRun b).2.focused = true := hkept.focused.trans hfocus
  obtain ⟨hkept', hwell'⟩ := kept_movedBy hwell toRun
  have hinside := (exists_isRange_iff tokens).1 ⟨_, _, hrange⟩
  rw [hrange.rangeRuns_eq] at hinside
  unfold selectRange
  rw [hrange.rangeRuns_eq]
  simp only
  rewrite [hinside, if_neg Bool.false_ne_true, run_bind, Buffer.run_selection hfocus]
  simp only
  rewrite [run_bind, run_cursorAfter h hfocus]
  refine ⟨fun hfirst => ?_, fun hfirst hsecond => ?_, fun hfirst hsecond => ?_⟩
  · rewrite [if_neg hfirst]
    rfl
  · rw [if_pos hfirst]
    simp only
    rewrite [run_bind, run_cursorAfter hwell hfocused, if_neg hsecond]
    rfl
  · rw [if_pos hfirst]
    simp only
    rw [run_bind, run_cursorAfter hwell hfocused, if_pos hsecond]
    simp only
    -- both places lie in the text, which is still the one before the movements
    have hstart := inRow_cursor h fromRun h.active
    have hfinish := inRow_cursor hwell toRun (hkept.lines ▸ h.finish)
    rw [← hkept.lines, ← hkept'.lines] at hstart
    rw [← hkept'.lines] at hfinish
    have hselect := Buffer.select_of_inRow hstart hfinish
    rw [Buffer.run_select (hkept'.focused.trans hfocused) hselect]
    exact ⟨rfl, ((hkept.trans hkept').trans (Buffer.kept_select hselect)).text,
      Buffer.reveal_selection _ _⟩

/-- **A selected range.** Tokens with a delimiter that do not name a range are
turned down unasked; those that do select what their two runs of movements say. -/
theorem selectTokens_range {b : Buffer} (h : b.Reachable) (hfocus : b.focused = true)
    {tokens : List Token} (hdelimited : tokens.any isDelimiter = true) :
    ((¬ ∃ fromRun toRun, IsRange tokens fromRun toRun) →
      selectTokens tokens = .done .invalidArgument) ∧
    ∀ fromRun toRun, IsRange tokens fromRun toRun →
      SelectsRange fromRun toRun b ((selectTokens tokens).run Buffer.editor b) := by
  have hne : tokens.isEmpty = false := by
    cases tokens with
    | nil => cases hdelimited
    | cons t rest => rfl
  have hselect : selectTokens tokens = selectRange tokens := by
    rw [selectTokens, hne, if_neg Bool.false_ne_true, if_pos hdelimited]
  rw [hselect]
  refine ⟨fun hnone => ?_, fun fromRun toRun hrange => ?_⟩
  · rw [exists_isRange_iff, Bool.not_eq_false] at hnone
    exact if_pos hnone
  · exact selectsRange_selectRange h.wellFormed hfocus hrange

/-- "From two to end" on two lines, and "to from", which names no range. -/
theorem selectTokens_range_line :
    let line := Token.ofNumber 2
    let ending := Token.ofCode .direction "END"
    let opens := Token.ofCode .selector "FROM"
    let closes := Token.ofCode .selector "TO"
    selectTokens [closes, opens] = .done .invalidArgument ∧
      IsRange [opens, line, closes, ending] [line] [ending] ∧
      ∃ result, (selectTokens [opens, line, closes, ending]).run Buffer.editor (.ofText "one\ntwo") =
        result ∧ result.1 = .success ∧ result.2.text = "one\ntwo".toList ∧
          result.2.selection = ⟨⟨1, 0⟩, ⟨1, 3⟩⟩ := by
  intro line ending opens closes
  have hreachable := Buffer.Reachable.new "one\ntwo"
  have hrange : IsRange [opens, line, closes, ending] [line] [ending] := by
    refine ⟨⟨[opens, line], [closes, ending], rfl, .inr ⟨opens, by decide, rfl⟩,
      .inr ⟨closes, by decide, rfl⟩⟩, ?_, ?_⟩
    · unfold Undelimited
      decide
    · unfold Undelimited
      decide
  have hmisplaced : [closes, opens].any isDelimiter = true := by decide
  have hdelimited : [opens, line, closes, ending].any isDelimiter = true := by decide
  have hnone : ¬ ∃ fromRun toRun, IsRange [closes, opens] fromRun toRun := by
    rw [exists_isRange_iff]
    decide
  have hruns := (selectTokens_range hreachable rfl hdelimited).2 _ _ hrange
  obtain ⟨hsuccess, htext, hselection⟩ := hruns.selects (by decide +kernel) (by decide +kernel)
  exact ⟨(selectTokens_range hreachable rfl hmisplaced).1 hnone, hrange, _, rfl, hsuccess, htext,
    hselection.trans (by decide +kernel)⟩

end Selecting

end VoiceEdit
