import VoiceEdit.Command.Addition
import VoiceEdit.Proofs.Buffer.Stepping
import VoiceEdit.Proofs.Command.RangeSelection
import VoiceEdit.Proofs.Command.SingleCombination

/-!
# Code inside a line

A snippet takes the place of the selection. Where nothing is selected and the cursor abuts a
word, a space goes before it, and in the end the caret is left inside of it. Line breaks come
without a space.

* `Buffer.Abuts`, `run_needsSpace`: when a space is called for.
* `Piece`, `Adds`: what is added, and what that makes of a buffer seen as one piece of text;
  `run_addInline`: adding a snippet does so.
* `Names`, `run_carryOut`: the tokens of one piece, and what is done with them.
* `run_carryOutInTurn`: objects in a row are added one by one.
* `add_pieces`: both together.
-/
namespace VoiceEdit

open Editor Program Text

namespace Buffer

variable {b : Buffer}

/-! ## Before the cursor -/

/-- Nothing is selected, and the cursor stands right behind a character that is no white space. -/
structure Abuts (b : Buffer) : Prop where
  empty : b.selection.isEmpty = true
  column : b.selection.active.column ≠ 0
  visible : ∃ c, (b.line b.selection.active.line)[b.selection.active.column - 1]? = some c ∧
    isBlank c = false

/-- The character to the left of the cursor, if the cursor is not at the start of its line. -/
def charBefore (b : Buffer) : Option Char :=
  if b.selection.active.column = 0 then none
  else (b.line b.selection.active.line)[b.selection.active.column - 1]?

theorem run_charBeforeCursor (h : b.WellFormed) (hfocus : b.focused = true) :
    Program.run editor charBeforeCursor.run b = (.ok b.charBefore, b) := by
  rw [charBeforeCursor, run_chain, run_cursor hfocus, charBefore]
  simp only
  cases b.selection.active.column with
  | zero => rfl
  | succ column =>
    simp only
    rw [run_chain, run_lineText hfocus h.line_lt]
    rfl

theorem abuts_iff (b : Buffer) : Abuts b ↔ b.selection.isEmpty = true ∧
    (b.charBefore.map fun c => !isBlank c).getD false = true := by
  unfold charBefore
  split
  · rename_i hcolumn
    exact iff_of_false (fun h => h.column hcolumn) fun h => Bool.false_ne_true h.2
  · rename_i hcolumn
    constructor
    · rintro ⟨hempty, -, c, hc, hvisible⟩
      rw [hc, Option.map_some, Option.getD_some, hvisible]
      exact ⟨hempty, rfl⟩
    · rintro ⟨hempty, hvisible⟩
      cases hc : (b.line b.selection.active.line)[b.selection.active.column - 1]? with
      | none =>
        rw [hc] at hvisible
        exact absurd hvisible Bool.false_ne_true
      | some c =>
        rw [hc, Option.map_some, Option.getD_some, Bool.not_eq_true'] at hvisible
        exact ⟨hempty, hcolumn, c, hc, hvisible⟩

/-- A program leads to another buffer that can be reached, with the focus. -/
theorem Reachable.run {α : Type} (h : b.Reachable) (hfocus : b.focused = true) (p : EditorProgram α) :
    (p.run editor b).2.Reachable ∧ (p.run editor b).2.focused = true := by
  induction p generalizing b with
  | done a => exact ⟨h, hfocus⟩
  | ask q next ih =>
    exact ih _ (h.call q) ((h.wellFormed.focused_editor q).trans hfocus)

end Buffer

namespace FlatText

variable (f : FlatText)

/-- A caret some characters before the cursor. -/
def backUp (back : Nat) : FlatText := { f with anchor := f.active - back, active := f.active - back }

/-- A snippet in the place of the selection, behind a gap, with the caret inside of it. -/
def add (gap : Text) (s : Addition.Snippet) : FlatText :=
  { f with
    text := f.text.take f.start ++ gap ++ s.text ++ f.text.drop f.finish
    anchor := f.start + gap.length + s.text.length - s.back
    active := f.start + gap.length + s.text.length - s.back }

theorem backUp_replace (gap : Text) (s : Addition.Snippet) :
    (f.replace (gap ++ s.text)).backUp s.back = f.add gap s := by
  simp [backUp, replace, add, Nat.add_assoc]

end FlatText

namespace Addition

variable {b after : Buffer} {s : Snippet} {tokens : List Token}

theorem run_needsSpace (h : b.WellFormed) (hfocus : b.focused = true) : ∃ spaced : Bool,
    Program.run Buffer.editor needsSpace.run b = (.ok spaced, b) ∧
      (spaced = true ↔ b.Abuts) := by
  rw [Buffer.abuts_iff]
  refine ⟨b.selection.isEmpty && (b.charBefore.map fun c => !isBlank c).getD false, ?_,
    Bool.and_eq_true_iff⟩
  rw [needsSpace, run_chain, Buffer.run_selection hfocus]
  simp only
  cases b.selection.isEmpty with
  | false => rfl
  | true =>
    rw [if_pos rfl, run_chain, Buffer.run_charBeforeCursor h hfocus]
    rfl

/-! ## One piece -/

/-- What is added: line breaks or a snippet. -/
inductive Piece where
  | breaks (count : Nat)
  | snippet (s : Snippet)

/-- What adding a piece makes of a buffer: line breaks take the place of the selection, and so
does a snippet, with a space before it if the cursor abutted a word, and with the caret inside. -/
inductive Adds (b after : Buffer) : Piece → Prop
  | breaks (count : Nat) (hflat : after.flat = b.flat.replace (List.replicate count '\n')) :
    Adds b after (.breaks count)
  | apart {s : Snippet} (habuts : b.Abuts) (hinside : s.back ≤ s.text.length)
      (hflat : after.flat = b.flat.add [' '] s) : Adds b after (.snippet s)
  | joined {s : Snippet} (habuts : ¬ b.Abuts) (hinside : s.back ≤ s.text.length)
      (hflat : after.flat = b.flat.add [] s) : Adds b after (.snippet s)

theorem run_replace (hfocus : b.focused = true) (x : Text) :
    Program.run Buffer.editor (replace x).run b = (.ok (), b.replaceSelection x) :=
  Buffer.editor_focused hfocus (.replace x)

/-- Backing up from a caret takes it back along the text. -/
theorem run_backUp (h : b.WellFormed) (hfocus : b.focused = true)
    (hcaret : b.flat.anchor = b.flat.active) (back : Nat) : ∃ after,
      Program.run Buffer.editor (if back > 0 then moveBy .left back else pure ()).run b =
        (.ok (), after) ∧ after.flat = b.flat.backUp back := by
  cases back with
  | zero =>
    refine ⟨b, rfl, ?_⟩
    calc b.flat = { b.flat with anchor := b.flat.anchor } := rfl
      _ = b.flat.backUp 0 := by rw [hcaret]; rfl
  | succ back =>
    obtain ⟨p, -, hoffset, hmoved⟩ := Buffer.putsCaret_left h hfocus (back + 1)
    refine ⟨b.placeCaret p, hmoved, ?_⟩
    rw [Buffer.flat_placeCaret, hoffset]
    rfl

/-- A snippet is added at the selection. -/
theorem run_addInline (h : b.WellFormed) (hfocus : b.focused = true)
    (hinside : s.back ≤ s.text.length) : ∃ after,
      Program.run Buffer.editor (addInline s).run b = (.ok (), after) ∧
        Adds b after (.snippet s) := by
  obtain ⟨spaced, hspaced, habuts⟩ := run_needsSpace h hfocus
  let x := if spaced then ' ' :: s.text else s.text
  have hfocused : (b.replaceSelection x).focused = true :=
    (Buffer.edited_replaceSelection b x).focused.trans hfocus
  have hflat := Buffer.flat_replaceSelection h x
  obtain ⟨after, hback, hafter⟩ := run_backUp (h.replaceSelection x) hfocused
    (by rw [hflat]; rfl) s.back
  rw [hflat] at hafter
  refine ⟨after, ?_, ?_⟩
  · rw [addInline, run_chain, hspaced]
    simp only
    rw [run_chain, run_replace hfocus]
    exact hback
  · cases spaced with
    | true => exact .apart (habuts.1 rfl) hinside (hafter.trans (b.flat.backUp_replace [' '] s))
    | false =>
      have hjoined : ¬ b.Abuts := fun h => Bool.false_ne_true (habuts.2 h)
      exact .joined hjoined hinside (hafter.trans (b.flat.backUp_replace [] s))

/-! ## The tokens of one piece -/

theorem back_le_snippet? {construct : CodeObject} (h : snippet? construct = some s) :
    s.back ≤ s.text.length := by
  cases construct <;> cases h <;> decide

/-- Whatever is said as a name, the brackets behind it are part of the snippet. -/
theorem back_le_namedSnippet? {construct : CodeObject} {name : Text}
    (h : namedSnippet? construct name = some s) : s.back ≤ s.text.length := by
  unfold namedSnippet? at h
  split at h <;> cases h <;> simp

/-- The tokens of one piece: a line, or an object by itself or with a name on either side for
which there is a snippet. -/
inductive Names : List Token → Piece → Prop
  | line {object : Token} (hobject : object.kind = .objectNoun)
      (hline : object.coded? EditorObject = some .line) : Names [object] (.breaks 1)
  | blankLine {object : Token} (hobject : object.kind = .objectNoun)
      (hline : object.coded? EditorObject = some .blankLine) : Names [object] (.breaks 2)
  | object {object : Token} {s : Snippet} (hobject : object.kind = .objectNoun)
      (hsnippet : (object.coded? CodeObject).bind snippet? = some s) : Names [object] (.snippet s)
  | named {object name : Token} {tokens : List Token} {s : Snippet}
      (hobject : object.kind = .objectNoun) (hname : name.kind = .unclassified)
      (hperm : tokens.Perm [object, name])
      (hsnippet : (object.coded? CodeObject).bind (namedSnippet? · name.text) = some s) :
    Names tokens (.snippet s)

variable {piece : Piece}

/-- What is done about a piece. -/
def adding : Piece → EditorAction Unit
  | .breaks count => replace (List.replicate count '\n')
  | .snippet s => addInline s

theorem run_adding (h : b.WellFormed) (hfocus : b.focused = true) (hnames : Names tokens piece) :
    ∃ after, Program.run Buffer.editor (adding piece).run b = (.ok (), after) ∧
      Adds b after piece := by
  have hbreaks : ∀ count, ∃ after, Program.run Buffer.editor (adding (.breaks count)).run b =
      (.ok (), after) ∧ Adds b after (.breaks count) :=
    fun count => ⟨_, run_replace hfocus _, .breaks count (Buffer.flat_replaceSelection h _)⟩
  cases hnames with
  | line _ _ => exact hbreaks 1
  | blankLine _ _ => exact hbreaks 2
  | object _ hsnippet =>
    obtain ⟨construct, -, hs⟩ := Option.bind_eq_some_iff.1 hsnippet
    exact run_addInline h hfocus (back_le_snippet? hs)
  | named _ _ _ hsnippet =>
    obtain ⟨construct, -, hs⟩ := Option.bind_eq_some_iff.1 hsnippet
    exact run_addInline h hfocus (back_le_namedSnippet? hs)

theorem code_eq_of_ofCode? {α : Type} [Coded α] {t : Text} {a : α} (h : ofCode? t = some a) :
    code a = t := by
  have hfound := List.find?_some h
  exact beq_iff_eq.1 hfound

/-- No object of the editor has the code of a construct. -/
theorem editorObject?_of_codeObject? {object : Token} {construct : CodeObject}
    (h : object.coded? CodeObject = some construct) : object.coded? EditorObject = none := by
  unfold Token.coded? at h ⊢
  split at h
  · rw [← code_eq_of_ofCode? h]
    cases construct <;> decide
  · cases h

theorem Names.isWindow (h : Names tokens piece) : table.IsWindow tokens := by
  cases h with
  | line _ _ | blankLine _ _ | object _ _ => exact RuleTable.isWindow_singleton table _
  | named hobject hname hperm _ =>
    refine RuleTable.isWindow_of_perm ?_ hperm
    rw [hobject, hname]
    decide

theorem action?_object {object : Token} (hobject : object.kind = .objectNoun) :
    table.action? ((table.canonical [object]).map Token.kind) = some addSnippet := by
  show table.action? [object.kind] = some addSnippet
  rw [hobject]
  rfl

/-- The rule for such tokens adds the piece that they name. -/
theorem Names.action (h : Names tokens piece) : ∃ action,
    table.action? ((table.canonical tokens).map Token.kind) = some action ∧
      action (table.canonical tokens) = Step.ofAction (adding piece) := by
  cases h with
  | @line object hobject hline =>
    refine ⟨addSnippet, action?_object hobject, ?_⟩
    show addSnippet [object] = _
    rw [addSnippet, hline]
    rfl
  | @blankLine object hobject hline =>
    refine ⟨addSnippet, action?_object hobject, ?_⟩
    show addSnippet [object] = _
    rw [addSnippet, hline]
    rfl
  | @object object s hobject hsnippet =>
    refine ⟨addSnippet, action?_object hobject, ?_⟩
    show addSnippet [object] = _
    obtain ⟨construct, hconstruct, -⟩ := Option.bind_eq_some_iff.1 hsnippet
    rw [addSnippet, editorObject?_of_codeObject? hconstruct, hsnippet]
    rfl
  | @named object name _ s hobject hname hperm hsnippet =>
    have hcanonical : table.canonical tokens = [object, name] := by
      apply RuleTable.canonical_pair _ hperm
      rw [hobject, hname]
      decide
    rw [hcanonical]
    refine ⟨addNamedSnippet, ?_, ?_⟩
    · simp only [List.map_cons, List.map_nil, hobject, hname]
      rfl
    · rw [addNamedSnippet, hsnippet]
      rfl

/-- Tokens that name a piece are one combination, which adds it. -/
theorem run_carryOut (h : b.WellFormed) (hfocus : b.focused = true) (hnames : Names tokens piece) :
    ∃ after a, (table.carryOut tokens).run Buffer.editor b = (⟨.success, [a]⟩, after) ∧
      Adds b after piece := by
  obtain ⟨action, haction, hadds⟩ := hnames.action
  obtain ⟨after, hrun, hafter⟩ := run_adding h hfocus hnames
  have hstep : (action (table.canonical tokens)).run Buffer.editor b = (.done, after) := by
    rw [hadds, Step.ofAction, run_bind, hrun]
    rfl
  exact ⟨after, _, (RuleTable.carryOut_single_iff hnames.isWindow haction).2 ⟨hstep, rfl⟩, hafter⟩

/-! ## Several pieces -/

theorem honest_invalid : RuleTable.Honest Step.invalid := fun h => nomatch h

theorem honest_table : table.All fun action => ∀ tokens, RuleTable.Honest (action tokens) := by
  refine RuleTable.all_empty _ _ |>.bind _ (fun tokens => ?_) |>.bind _ (fun tokens => ?_)
  · unfold addSnippet
    split
    · split
      · exact RuleTable.never_ofAction _
      · exact RuleTable.never_ofAction _
      · exact honest_invalid
      · split
        · exact RuleTable.never_ofAction _
        · exact honest_invalid
    · exact honest_invalid
  · unfold addNamedSnippet
    split
    · split
      · exact RuleTable.never_ofAction _
      · exact honest_invalid
    · exact honest_invalid

/-- A buffer after adding what some tokens say one by one. -/
def addedOneByOne (tokens : List Token) (b : Buffer) : Buffer :=
  tokens.foldl (fun b token => ((add [token]).run Buffer.editor b).2) b

/-- Tokens of one piece each are added one by one. -/
theorem run_carryOutInTurn (h : b.Reachable) (hfocus : b.focused = true)
    (hnames : ∀ token ∈ tokens, ∃ piece, Names [token] piece) : ∃ applied,
      (table.carryOutInTurn (tokens.map fun token => [token])).run Buffer.editor b =
        (⟨.success, applied⟩, addedOneByOne tokens b) := by
  induction tokens generalizing b with
  | nil => exact ⟨[], rfl⟩
  | cons token rest ih =>
    obtain ⟨piece, hpiece⟩ := hnames token List.mem_cons_self
    obtain ⟨next, a, hrun, -⟩ := run_carryOut h.wellFormed hfocus hpiece
    have hnext : ((table.carryOut [token]).run Buffer.editor b).2 = next := by rw [hrun]
    have hfold : addedOneByOne (token :: rest) b = addedOneByOne rest next := by
      rw [addedOneByOne, List.foldl_cons, add, run_bind, hrun]
      rfl
    obtain ⟨hreachable, hfocused⟩ := h.run hfocus (table.carryOut [token])
    rw [hnext] at hreachable hfocused
    obtain ⟨applied, hrest⟩ :=
      ih hreachable hfocused fun t ht => hnames t (List.mem_cons_of_mem token ht)
    refine ⟨a :: applied, ?_⟩
    rw [List.map_cons, RuleTable.carryOutInTurn, run_bind, hrun, RuleTable.andThen, if_pos rfl,
      run_bind, hrest, hfold]
    rfl

theorem Names.kind_eq {token : Token} (h : Names [token] piece) : token.kind = .objectNoun := by
  generalize htokens : [token] = tokens at h
  cases h with
  | line hobject _ | blankLine hobject _ | object hobject _ =>
    rwa [(List.cons.inj htokens).1]
  | named _ _ hperm _ =>
    rw [← htokens] at hperm
    exact absurd hperm.length_eq (by simp)

/-- **Code comes inside the line.** Tokens of one piece are one combination, which puts it in the
place of the selection. Objects in a row are several pieces, which is the same as to add one
after the other. -/
theorem add_pieces (h : b.Reachable) (hfocus : b.focused = true) :
    (∀ tokens piece, Names tokens piece → ∃ after,
      (add tokens).run Buffer.editor b = (.success, after) ∧
      ((table.carryOut tokens).run Buffer.editor b).1.applied.length = 1 ∧
      Adds b after piece) ∧
    ∀ tokens, tokens ≠ [] → (∀ token ∈ tokens, ∃ piece, Names [token] piece) →
      table.carryOut tokens = table.carryOutInTurn (tokens.map fun token => [token]) ∧
      (add tokens).run Buffer.editor b = (.success, addedOneByOne tokens b) := by
  refine ⟨fun tokens piece hnames => ?_, fun tokens hne hnames => ?_⟩
  · obtain ⟨after, a, hpass, hadds⟩ := run_carryOut h.wellFormed hfocus hnames
    refine ⟨after, ?_, ?_, hadds⟩
    · rw [add, run_bind, hpass]
      rfl
    · rw [hpass]
      rfl
  · have hkind : ∀ token ∈ tokens, token.kind = .objectNoun := by
      intro token htoken
      obtain ⟨piece, hpiece⟩ := hnames token htoken
      exact hpiece.kind_eq
    have hturn := RuleTable.carryOut_singletons honest_table hne hkind
    obtain ⟨applied, hrun⟩ := run_carryOutInTurn h hfocus hnames
    refine ⟨hturn, ?_⟩
    rw [add, hturn, run_bind, hrun]
    rfl

/-- Behind "x": a list, a call of "Total sum", and a range inside of a list. -/
theorem add_pieces_brackets :
    let b := (Buffer.editor (.moveTo .lineEnd) (.ofText "x")).2
    let list := Token.ofCode .objectNoun "LIST"
    let range := Token.ofCode .objectNoun "RANGE"
    let call := [Token.ofText "Total sum", .ofCode .objectNoun "FUNCTION"]
    b.Reachable ∧ b.Abuts ∧
      Names [list] (.snippet ⟨"[]", 1⟩) ∧ Names call (.snippet ⟨"total_sum()", 1⟩) ∧
      (∃ after, (add [list]).run Buffer.editor b = (.success, after) ∧
        Adds b after (.snippet ⟨"[]", 1⟩) ∧ after.flat = ⟨"x []".toList, 3, 3, []⟩) ∧
      (∃ after, (add call).run Buffer.editor b = (.success, after) ∧
        Adds b after (.snippet ⟨"total_sum()", 1⟩) ∧
        after.flat = ⟨"x total_sum()".toList, 12, 12, []⟩) ∧
      (add [list, range]).run Buffer.editor b = (.success, addedOneByOne [list, range] b) ∧
      (addedOneByOne [list, range] b).flat = ⟨"x [ range()]".toList, 10, 10, []⟩ := by
  intro b list range call
  have hreachable : b.Reachable := .call (.new "x") _
  have habuts : b.Abuts := ⟨by decide +kernel, by decide +kernel, 'x', by decide +kernel⟩
  have hlist : Names [list] (.snippet ⟨"[]", 1⟩) := .object rfl (by decide +kernel)
  have hrange : Names [range] (.snippet ⟨"range()", 1⟩) := .object rfl (by decide +kernel)
  have hcall : Names call (.snippet ⟨"total_sum()", 1⟩) :=
    .named rfl rfl (.swap _ _ []) (by decide +kernel)
  obtain ⟨hone, hrow⟩ := add_pieces hreachable rfl
  obtain ⟨after, hrun, -, hadds⟩ := hone [list] _ hlist
  obtain ⟨after', hrun', -, hadds'⟩ := hone call _ hcall
  have hboth : ∀ token ∈ [list, range], ∃ piece, Names [token] piece := by
    rintro token (_ | ⟨_, _ | ⟨_, ⟨⟩⟩⟩)
    · exact ⟨_, hlist⟩
    · exact ⟨_, hrange⟩
  refine ⟨hreachable, habuts, hlist, hcall, ⟨after, hrun, hadds, ?_⟩, ⟨after', hrun', hadds', ?_⟩,
    (hrow [list, range] (List.cons_ne_nil _ _) hboth).2, by decide +kernel⟩
  · obtain rfl : _ = after := congrArg Prod.snd hrun
    decide +kernel
  · obtain rfl : _ = after' := congrArg Prod.snd hrun'
    decide +kernel

end Addition

end VoiceEdit
