import VoiceEdit.Command.Creation
import VoiceEdit.Proofs.Buffer.Timeline
import VoiceEdit.Proofs.Command.RangeSelection
import VoiceEdit.Proofs.Command.SingleCombination
import VoiceEdit.Proofs.Text.OpenEnded

/-!
# Blocks below the cursor

A block is written on lines of its own. Whatever is selected, the lines that were there stay as
they are, and those of the block come between the line of the cursor and the next.

* `Buffer.insert_lines`: lines put in behind the end of a line.
* `openEnded_template?`, `openEnded_namedTemplate?`: what is generated ends open, whatever the
  name, so that its lines are what it is cut into.
* `InsertsBelow`, `run_insertBelow`: what writing a block makes of a buffer.
* `Names`: the tokens of one block; `create_below`: what is done with them.
-/
namespace VoiceEdit

open Editor Program Text

namespace Buffer

variable {b : Buffer} {n : Nat} {added : List Text}

/-! ## Lines behind a line -/

theorem surround_nil (hne : added ≠ []) : surround [] [] added = added := by
  induction added with
  | nil => exact absurd rfl hne
  | cons l rest ih =>
    cases rest with
    | nil => simp [surround]
    | cons m ms => rw [surround, ih (List.cons_ne_nil m ms), List.nil_append]

/-- A line feed and the text of some lines are cut into an empty line and these. -/
theorem splitLines_feed (h : IsRow added) : splitLines ('\n' :: joinLines added) = [] :: added := by
  have hcut := splitAll_append_cons (List.not_mem_nil (a := '\n')) (joinLines added)
  rw [List.nil_append] at hcut
  rw [splitLines, hcut]
  exact congrArg ([] :: ·) (splitLines_joinLines h)

/-- A row that lines are put into behind a line, and the place at the end of them. -/
structure HoldsBelow (before : List Text) (n : Nat) (added : List Text) (after : Buffer) : Prop where
  lines : after.lines = before.take (n + 1) ++ added ++ before.drop (n + 1)
  caret : after.selection =
    .caret ⟨n + added.length, after.lineLength (n + added.length)⟩

/-- Lines put in at the end of a line come behind it. -/
theorem insert_lines (hcaret : b.selection.active = ⟨n, b.lineLength n⟩) (hn : n < b.lines.length)
    (hrow : IsRow added) : HoldsBelow b.lines n added (b.insert ('\n' :: joinLines added)) := by
  have hcut := splitLines_feed hrow
  have hlines : (b.insert ('\n' :: joinLines added)).lines =
      b.lines.take (n + 1) ++ added ++ b.lines.drop (n + 1) := by
    have hline : b.lines.take (n + 1) = b.lines.take n ++ [b.line n] := by
      rw [List.take_add_one, line, List.getElem?_eq_getElem hn]
      rfl
    have hhead : (b.line n).take (b.lineLength n) = b.line n := List.take_length
    have htail : (b.line n).drop (b.lineLength n) = [] := List.drop_length
    obtain ⟨l, rest, rfl⟩ := List.exists_cons_of_ne_nil hrow.1
    rw [insert, placeCaret_lines, hcaret, insertAt, hcut]
    simp only [checkpoint, surround]
    show b.lines.take n ++ ((b.line n).take (b.lineLength n) ++ []) ::
        surround [] ((b.line n).drop (b.lineLength n)) (l :: rest) ++ b.lines.drop (n + 1) = _
    rw [hhead, htail, surround_nil hrow.1, hline, List.append_nil]
    simp
  refine ⟨hlines, ?_⟩
  have hlast : (b.insert ('\n' :: joinLines added)).lineLength (n + added.length) =
      (added.getLast?.getD []).length := by
    have hpos : 0 < added.length := List.length_pos_iff.2 hrow.1
    have hindex : n + added.length - (n + 1) = added.length - 1 := by omega
    have hbefore : (b.lines.take (n + 1)).length = n + 1 := List.length_take_of_le hn
    rw [lineLength, line, hlines, List.append_assoc, List.getElem?_append_right (by omega), hbefore,
      hindex, List.getElem?_append_left (by omega), List.getLast?_eq_getElem?]
  rw [hlast, insert, placeCaret_selection, placeAfter_eq, hcut, hcaret]
  obtain ⟨l, rest, rfl⟩ := List.exists_cons_of_ne_nil hrow.1
  simp [List.getLast?_cons_cons]

end Buffer

namespace Creation

variable {construct : CodeObject} {template name : Text} {tokens : List Token} {b : Buffer}

/-! ## Templates -/

theorem openEnded_template? (h : template? construct = some template) : OpenEnded template := by
  unfold template? at h
  split at h <;> cases h <;> exact ⟨by decide, by decide, by decide⟩

/-- Whatever is said as a name, what is made of it ends open. -/
theorem openEnded_namedTemplate? (h : namedTemplate? construct name = some template) :
    OpenEnded template := by
  have hsnake := Identifier.visible_snake name
  have hupper := Identifier.visible_upperSnake name
  have hpascal := Identifier.visible_pascal name
  unfold namedTemplate? at h
  split at h <;> cases h
  · exact openEnded_append [] hsnake (by decide) (by decide) (by decide) (by decide)
  · exact openEnded_append [] hupper (by decide) (by decide) (by decide) (by decide)
  · exact openEnded_append [] hsnake (by decide) (by decide) (by decide) (by decide)
  · exact openEnded_append [] hsnake (by decide) (by decide) (by decide) (by decide)
  · exact openEnded_append "def " hsnake (by decide) (by decide) (by decide) (by decide)
  · exact openEnded_append "def " hsnake (by decide) (by decide) (by decide) (by decide)
  · exact openEnded_append "class " hpascal (by decide) (by decide) (by decide) (by decide)

/-! ## Writing a block -/

/-- The lines of a template, each that is not empty behind an indentation. -/
def blockLines (indentation template : Text) : List Text :=
  (splitLines template).map fun l => if l = [] then [] else indentation ++ l

/-- A block of lines below the line of the cursor: all other lines are as they were, the caret is
at the end of the block, and going back once restores the text. -/
structure InsertsBelow (b : Buffer) (template : Text) (after : Buffer) : Prop where
  below : Buffer.HoldsBelow b.lines b.selection.active.line
    (blockLines (indentation (b.line b.selection.active.line)) template) after
  clipboard : after.clipboard = b.clipboard
  undo : (Buffer.editor (.run .undo) after).2.text = b.text

theorem indented_eq (h : OpenEnded template) (indentation : Text) :
    indented indentation template = joinLines (blockLines indentation template) := by
  simp only [indented, blockLines, h.terminatedLines_eq, List.isEmpty_iff]

theorem isRow_blockLines {indentation : Text} (h : '\n' ∉ indentation) (template : Text) :
    IsRow (blockLines indentation template) := by
  obtain ⟨hne, hfeeds⟩ := isRow_splitLines template
  refine ⟨by simpa [blockLines] using hne, fun l hl => ?_⟩
  obtain ⟨k, hk, rfl⟩ := List.mem_map.1 hl
  split
  · exact List.not_mem_nil
  · rw [List.mem_append, not_or]
    exact ⟨h, hfeeds k hk⟩

/-- A block is written below the cursor. -/
theorem run_insertBelow (h : b.WellFormed) (hfocus : b.focused = true)
    (htemplate : OpenEnded template) : ∃ after,
      Program.run Buffer.editor (insertBelow template).run b = (.ok (), after) ∧
        InsertsBelow b template after := by
  have hline := h.line_lt
  let n := b.selection.active.line
  let place : Position := ⟨n, b.lineLength n⟩
  let atEnd := b.placeCaret place
  let text := '\n' :: indented (indentation (b.line n)) template
  have hfocused : atEnd.focused = true := (Buffer.placeCaret_focused b place).trans hfocus
  have hcaret : atEnd.selection.active = ⟨n, atEnd.lineLength n⟩ := by
    have hlength : atEnd.lineLength n = b.lineLength n := by
      rw [Buffer.lineLength, Buffer.line, Buffer.placeCaret_lines]
      rfl
    rw [hlength, Buffer.placeCaret_selection]
    rfl
  have hfeed : '\n' ∉ indentation (b.line n) := fun hmem =>
    Buffer.not_mem_line h.row n ((List.takeWhile_sublist _).subset hmem)
  have hbelow := Buffer.insert_lines hcaret (by rwa [Buffer.placeCaret_lines])
    (isRow_blockLines hfeed template)
  rw [← indented_eq htemplate, Buffer.placeCaret_lines] at hbelow
  have hedited := Buffer.edited_insert atEnd text
  refine ⟨atEnd.insert text, ?_, hbelow, ?_, ?_⟩
  · have hmove : Program.run Buffer.editor (moveTo .lineEnd).run b = (.ok (), atEnd) :=
      Buffer.editor_focused hfocus (.moveTo .lineEnd)
    have hinsert : Program.run Buffer.editor (Editor.insert text).run atEnd =
        (.ok (), atEnd.insert text) := Buffer.editor_focused hfocused (.insert text)
    rw [insertBelow, run_chain, Buffer.run_cursor hfocus]
    simp only
    rw [run_chain, Buffer.run_lineText hfocus hline]
    simp only
    rw [run_chain, hmove]
    exact hinsert
  · rw [Buffer.insert, Buffer.placeCaret_clipboard]
    exact Buffer.placeCaret_clipboard b place
  · rw [Buffer.text, (hedited.undo_restores hfocused).1, Buffer.placeCaret_lines, Buffer.text]

/-! ## The tokens of one block -/

/-- The tokens of one block, an object by itself or with a name on either side, and the template
that they name, if there is one. -/
inductive Names : List Token → Option Text → Prop
  | object {object : Token} (hobject : object.kind = .objectNoun) :
    Names [object] ((object.coded? CodeObject).bind template?)
  | named {object name : Token} {tokens : List Token} (hobject : object.kind = .objectNoun)
      (hname : name.kind = .unclassified) (hperm : tokens.Perm [object, name]) :
    Names tokens ((object.coded? CodeObject).bind (namedTemplate? · name.text))

variable {wanted : Option Text}

/-- What is done about a template that was named or not. -/
def writing : Option Text → EditorProgram Step
  | some template => Step.ofAction (insertBelow template)
  | none => Step.invalid

theorem Names.openEnded (h : Names tokens (some template)) : OpenEnded template := by
  generalize hwanted : some template = wanted at h
  cases h with
  | object _ =>
    obtain ⟨construct, -, htemplate⟩ := Option.bind_eq_some_iff.1 hwanted.symm
    exact openEnded_template? htemplate
  | named _ _ _ =>
    obtain ⟨construct, -, htemplate⟩ := Option.bind_eq_some_iff.1 hwanted.symm
    exact openEnded_namedTemplate? htemplate

theorem Names.isWindow (h : Names tokens wanted) : table.IsWindow tokens := by
  cases h with
  | @object object _ => exact RuleTable.isWindow_singleton table object
  | named hobject hname hperm =>
    refine RuleTable.isWindow_of_perm ?_ hperm
    rw [hobject, hname]
    decide

/-- The rule for such tokens writes the template that they name. -/
theorem Names.action (h : Names tokens wanted) : ∃ action,
    table.action? ((table.canonical tokens).map Token.kind) = some action ∧
      action (table.canonical tokens) = writing wanted := by
  cases h with
  | @object object hobject =>
    refine ⟨newTemplate, ?_, ?_⟩
    · show table.action? [object.kind] = some newTemplate
      rw [hobject]
      rfl
    · show newTemplate [object] = _
      rw [newTemplate]
      cases (object.coded? CodeObject).bind template? <;> rfl
  | @named object name _ hobject hname hperm =>
    have hcanonical : table.canonical tokens = [object, name] := by
      apply RuleTable.canonical_pair _ hperm
      rw [hobject, hname]
      decide
    rw [hcanonical]
    refine ⟨newNamedTemplate, ?_, ?_⟩
    · simp only [List.map_cons, List.map_nil, hobject, hname]
      rfl
    · rw [newNamedTemplate]
      cases (object.coded? CodeObject).bind (namedTemplate? · name.text) <;> rfl

/-- **Blocks come below and disturb nothing.** Tokens that name no template are turned down
unasked. Those of one that do are one combination, which writes the lines of the template below
the line of the cursor. -/
theorem create_below (h : b.Reachable) (hfocus : b.focused = true) (hnames : Names tokens wanted) :
    (wanted = none → create tokens = .done .invalidArgument) ∧
    ∀ template, wanted = some template → ∃ after,
      (create tokens).run Buffer.editor b = (.success, after) ∧
      ((table.carryOut tokens).run Buffer.editor b).1.applied.length = 1 ∧
      InsertsBelow b template after := by
  obtain ⟨action, haction, hwrites⟩ := hnames.action
  have hwindow := hnames.isWindow
  refine ⟨?_, ?_⟩
  · rintro rfl
    rw [create, RuleTable.carryOut_invalid hwindow haction hwrites]
    rfl
  · rintro template rfl
    obtain ⟨after, hrun, hinserts⟩ := run_insertBelow h.wellFormed hfocus hnames.openEnded
    have hstep : (action (table.canonical tokens)).run Buffer.editor b = (.done, after) := by
      rw [hwrites, writing, Step.ofAction, run_bind, hrun]
      rfl
    have hpass := (RuleTable.carryOut_single_iff hwindow haction).2 ⟨hstep, rfl⟩
    refine ⟨after, ?_, ?_, hinserts⟩
    · rw [create, run_bind, hpass]
      rfl
    · rw [hpass]
      rfl

/-- "Parse header function" below a line that is indented and selected, and a tuple, for which
there is no template. -/
theorem create_below_named :
    let b := (Buffer.editor (.select ⟨0, 3⟩ ⟨0, 0⟩) (.ofText "  x\ny")).2
    let tokens := [Token.ofText "Parse header", .ofCode .objectNoun "FUNCTION"]
    let template : Text := "def parse_header():\n    pass"
    b.Reachable ∧ Names tokens (some template) ∧
      (∃ after, (create tokens).run Buffer.editor b = (.success, after) ∧
        InsertsBelow b template after ∧
        after.text = "  x\n  def parse_header():\n      pass\ny".toList) ∧
      create [.ofCode .objectNoun "TUPLE"] = .done .invalidArgument := by
  intro b tokens template
  have hreachable : b.Reachable := .call (.new "  x\ny") _
  have hnames : Names tokens (some template) := by
    have hnamed := @Names.named (.ofCode .objectNoun "FUNCTION") (.ofText "Parse header") tokens
      rfl rfl (.swap _ _ [])
    have htemplate : ((Token.ofCode .objectNoun "FUNCTION").coded? CodeObject).bind
        (namedTemplate? · (Token.ofText "Parse header").text) = some template := by decide +kernel
    rwa [htemplate] at hnamed
  obtain ⟨after, hrun, -, hinserts⟩ :=
    (create_below hreachable rfl hnames).2 template rfl
  have htuple : Names [.ofCode .objectNoun "TUPLE"] none := .object rfl
  refine ⟨hreachable, hnames, ⟨after, hrun, hinserts, ?_⟩,
    (create_below hreachable rfl htuple).1 rfl⟩
  obtain rfl : _ = after := congrArg Prod.snd hrun
  decide +kernel

end Creation

end VoiceEdit
