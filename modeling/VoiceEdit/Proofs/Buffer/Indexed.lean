import VoiceEdit.Proofs.Buffer.WellFormed
import VoiceEdit.Proofs.Text.Offsets

/-!
# A buffer that looks before it reads

Lines are kept in an array and characters in UTF-8, so every access is by an
index that may be out of range and every cut by a byte offset that may fall
inside a character or behind another. Here the same edits give no result when
that happens.

* `indexedEditor`: the editor with every index and every offset looked at.
* `indexedEditor_eq`: on a buffer that makes sense it is the editor itself, so no
  index is ever out of range.
* `editor_refused`: a refused call leaves everything but the list of commands as
  it was.
* `Reachable.safe`: both hold after any run of calls.
-/
namespace VoiceEdit

namespace Text

/-! ## Stretches of lines -/

/-- The lines from one index to before another, if there are such. -/
def sliceLines? (ls : List Text) (i j : Nat) : Option (List Text) :=
  if i ≤ j ∧ j ≤ ls.length then some ((ls.take j).drop i) else none

/-- Other lines in the place of those from one index to another, if there are
such. -/
def spliceLines? (ls : List Text) (first last : Nat) (new : List Text) : Option (List Text) :=
  if first ≤ last + 1 ∧ last < ls.length then some (ls.take first ++ new ++ ls.drop (last + 1))
  else none

end Text

namespace Buffer

open Text Position

/-! ## Reading and editing by index -/

/-- The text between two places. -/
def textBetween? (b : Buffer) (start finish : Position) : Option Text :=
  if start.line = finish.line then do
    let l ← b.lines[start.line]?
    sliceUtf8? l (byteAt l start.column) (byteAt l finish.column)
  else do
    let first ← b.lines[start.line]?
    let head ← dropUtf8? (byteAt first start.column) first
    let middle ← sliceLines? b.lines (start.line + 1) finish.line
    let last ← b.lines[finish.line]?
    let tail ← takeUtf8? (byteAt last finish.column) last
    return joinLines (head :: (middle ++ [tail]))

/-- The selected text. -/
def selectedText? (b : Buffer) : Option Text := b.textBetween? b.selection.start b.selection.finish

/-- Take out the text between two places. -/
def deleteBetween? (b : Buffer) (start finish : Position) : Option Buffer := do
  let first ← b.lines[start.line]?
  let head ← takeUtf8? (byteAt first start.column) first
  let last ← b.lines[finish.line]?
  let tail ← dropUtf8? (byteAt last finish.column) last
  let lines ← spliceLines? b.lines start.line finish.line [head ++ tail]
  return { b with lines }

/-- Put a text in at a place. -/
def insertAt? (b : Buffer) (p : Position) (t : Text) : Option Buffer := do
  let l ← b.lines[p.line]?
  let head ← takeUtf8? (byteAt l p.column) l
  let tail ← dropUtf8? (byteAt l p.column) l
  let lines ← spliceLines? b.lines p.line p.line (surround head tail (splitLines t))
  return { b with lines }

/-- The first blank line of those with some indices, which are looked at in turn. -/
def firstBlankLine? (b : Buffer) : List Nat → Option (Option Nat)
  | [] => some none
  | n :: rest => do
    let l ← b.lines[n]?
    if l.all isBlank then return some n else b.firstBlankLine? rest

/-- The place of a destination. -/
def targetPosition? (b : Buffer) (target : Target) : Option Position := do
  let n := b.selection.active.line
  let l ← b.lines[n]?
  match target with
  | .lineStart => return ⟨n, 0⟩
  | .lineEnd => return ⟨n, l.length⟩
  | .lineFirstNonBlank => return ⟨n, (indentation l).length⟩
  | .lineLastNonBlank => return ⟨n, (trimEnd l).length⟩
  | .previousBlankLine => return ⟨(← b.firstBlankLine? (List.range n).reverse).getD 0, 0⟩
  | .nextBlankLine =>
    let behind := List.range' (n + 1) (b.lines.length - (n + 1))
    return ⟨(← b.firstBlankLine? behind).getD b.lastLine, 0⟩
  | other => return b.targetPosition other

/-- Insert a text at the cursor. -/
def insert? (b : Buffer) (t : Text) : Option Buffer := do
  let p := b.selection.active
  let edited ← b.checkpoint.insertAt? p t
  return edited.placeCaret (placeAfter p t)

/-- Put a text in the place of the selection. -/
def replaceSelection? (b : Buffer) (t : Text) : Option Buffer := do
  let start := b.selection.start
  let emptied ← b.checkpoint.deleteBetween? start b.selection.finish
  let edited ← emptied.insertAt? start t
  return edited.placeCaret (placeAfter start t)

/-- Move the selected text to the clipboard. -/
def cut? (b : Buffer) : Option Buffer := do
  let start := b.selection.start
  let clipboard ← b.selectedText?
  let edited ← { b with clipboard }.checkpoint.deleteBetween? start b.selection.finish
  return edited.placeCaret start

/-- Delete the selection, or the character after the cursor. -/
def delete? (b : Buffer) : Option Buffer := do
  let start := b.selection.start
  let finish := if b.selection.isEmpty then b.stepRight start else b.selection.finish
  let edited ← if start = finish then some b else b.checkpoint.deleteBetween? start finish
  return edited.placeCaret start

/-- What a command does; those not named here read no line by its index. -/
def command? (b : Buffer) : EditorCommand → Option (Except EditorError Buffer)
  | .copy => do return .ok { b with clipboard := ← b.selectedText? }
  | .cut => do return .ok (← b.cut?)
  | .paste => do return .ok (← b.replaceSelection? b.clipboard)
  | .delete => do return .ok (← b.delete?)
  | other => some (b.command other)

/-- A focused buffer's answer to a request. -/
def indexedAnswer : (q : Editor.Request) → Buffer → Option (Editor.interface.Reply q × Buffer)
  | .moveTo target, b => do return (.ok (), b.placeCaret (← b.targetPosition? target))
  | .insert t, b => do return (.ok (), ← b.insert? t)
  | .replace t, b => do return (.ok (), ← b.replaceSelection? t)
  | .run c, b => do
    let noted := { b with ran := b.ran ++ [c] }
    match ← noted.command? c with
    | .ok after => return (.ok (), after)
    | .error e => return (.error e, noted)
  | other, b => some (answer other b)

/-- The editor with every index and every offset looked at. -/
def indexedEditor (q : Editor.Request) (b : Buffer) : Option (Editor.interface.Reply q × Buffer) :=
  if b.focused then indexedAnswer q b else some (.error .noActiveEditor, b)

/-! ## Nothing is out of range -/

variable {b : Buffer} {p q : Position}

theorem line_le_of_precedes (h : p.precedes q = true) : p.line ≤ q.line := by
  rw [precedes_iff] at h
  omega

theorem textBetween?_eq (hp : p.InRow b.lines) (hq : q.InRow b.lines) (hpq : p.precedes q = true) :
    b.textBetween? p q = some (b.textBetween p q) := by
  have hp' := getElem?_line hp.line_lt
  have hq' := getElem?_line hq.line_lt
  have hlt := hq.line_lt
  have hle := line_le_of_precedes hpq
  rw [precedes_iff] at hpq
  unfold textBetween? textBetween
  split
  · rw [hp']
    exact sliceUtf8?_byteAt _ (by omega)
  · have hmiddle : sliceLines? b.lines (p.line + 1) q.line =
        some ((b.lines.take q.line).drop (p.line + 1)) := if_pos ⟨by omega, by omega⟩
    simp [hp', hq', hmiddle, dropUtf8?_byteAt, takeUtf8?_byteAt]

theorem deleteBetween?_eq (hp : p.InRow b.lines) (hq : q.InRow b.lines) (hpq : p.precedes q = true) :
    b.deleteBetween? p q = some (b.deleteBetween p q) := by
  have hlt := hq.line_lt
  have hle := line_le_of_precedes hpq
  have hsplice : ∀ new, spliceLines? b.lines p.line q.line new =
      some (b.lines.take p.line ++ new ++ b.lines.drop (q.line + 1)) :=
    fun new => if_pos ⟨by omega, hlt⟩
  unfold deleteBetween? deleteBetween
  rw [getElem?_line hp.line_lt, getElem?_line hlt]
  simp [takeUtf8?_byteAt, dropUtf8?_byteAt, hsplice]

theorem insertAt?_eq (hp : p.InRow b.lines) (t : Text) : b.insertAt? p t = some (b.insertAt p t) := by
  have hsplice : ∀ new, spliceLines? b.lines p.line p.line new =
      some (b.lines.take p.line ++ new ++ b.lines.drop (p.line + 1)) :=
    fun new => if_pos ⟨Nat.le_succ _, hp.line_lt⟩
  unfold insertAt? insertAt
  rw [getElem?_line hp.line_lt]
  simp [takeUtf8?_byteAt, dropUtf8?_byteAt, hsplice]

/-- A search over lines that exist. -/
theorem firstBlankLine?_eq {ns : List Nat} (h : ∀ n ∈ ns, n < b.lines.length) :
    b.firstBlankLine? ns = some (ns.find? b.isBlankLine) := by
  induction ns with
  | nil => rfl
  | cons n rest ih =>
    have hrest := ih fun m hm => h m (List.mem_cons_of_mem n hm)
    have hblank : b.isBlankLine n = (b.line n).all isBlank := rfl
    unfold firstBlankLine?
    rw [getElem?_line (h n List.mem_cons_self), Option.bind_eq_bind, Option.bind_some, List.find?_cons,
      hblank]
    cases (b.line n).all isBlank with
    | true => rfl
    | false => exact hrest

/-- The lines behind the cursor's are those that the search for the next blank
line considers. -/
theorem blankLineAfter_eq {n : Nat} (hn : n < b.lines.length) : b.blankLineAfter n =
    ((List.range' (n + 1) (b.lines.length - (n + 1))).find? b.isBlankLine).getD b.lastLine := by
  have hsplit : List.range b.lines.length =
      List.range' 0 (n + 1) ++ List.range' (n + 1) (b.lines.length - (n + 1)) := by
    have hlen : b.lines.length = n + 1 + (b.lines.length - (n + 1)) := by omega
    have happend := List.range'_append_1 (s := 0) (m := n + 1) (n := b.lines.length - (n + 1))
    rw [Nat.zero_add] at happend
    rw [happend, ← hlen, List.range_eq_range']
  have hbefore : (List.range' 0 (n + 1)).find? (fun m => n < m && b.isBlankLine m) = none := by
    rw [List.find?_eq_none]
    intro m hm
    have := List.mem_range'_1.1 hm
    simp; omega
  have hbehind : (List.range' (n + 1) (b.lines.length - (n + 1))).find?
      (fun m => n < m && b.isBlankLine m) =
        (List.range' (n + 1) (b.lines.length - (n + 1))).find? b.isBlankLine := by
    rw [← List.head?_filter, ← List.head?_filter]
    refine congrArg List.head? (List.filter_congr fun m hm => ?_)
    have hlt : n < m := by
      have := List.mem_range'_1.1 hm
      omega
    simp [hlt]
  rw [blankLineAfter, hsplit, List.find?_append, hbefore, hbehind, Option.none_or]

theorem targetPosition?_eq (h : b.WellFormed) (target : Target) :
    b.targetPosition? target = some (b.targetPosition target) := by
  have hline := h.line_lt
  unfold targetPosition?
  simp only [getElem?_line hline, Option.bind_eq_bind, Option.bind_some]
  cases target with
  | previousBlankLine =>
    have hbefore : ∀ n ∈ (List.range b.selection.active.line).reverse, n < b.lines.length := by
      intro n hn
      have := List.mem_range.1 (List.mem_reverse.1 hn)
      omega
    simp [firstBlankLine?_eq hbefore, targetPosition, blankLineBefore]
  | nextBlankLine =>
    have hbehind : ∀ n ∈ List.range' (b.selection.active.line + 1)
        (b.lines.length - (b.selection.active.line + 1)), n < b.lines.length := by
      intro n hn
      have := List.mem_range'_1.1 hn
      omega
    simp [firstBlankLine?_eq hbehind, targetPosition, blankLineAfter_eq hline]
  | _ => rfl

theorem selectedText?_eq (h : b.WellFormed) : b.selectedText? = some b.selectedText :=
  textBetween?_eq h.start h.finish b.selection.start_precedes_finish

theorem insert?_eq (h : b.WellFormed) (t : Text) : b.insert? t = some (b.insert t) := by
  have hedit := insertAt?_eq (b := b.checkpoint) h.active t
  simp [insert?, Buffer.insert, hedit]

theorem replaceSelection?_eq (h : b.WellFormed) (t : Text) :
    b.replaceSelection? t = some (b.replaceSelection t) := by
  have hempty := deleteBetween?_eq (b := b.checkpoint) h.start h.finish
    b.selection.start_precedes_finish
  have hstart := inRow_deleteBetween (b := b.checkpoint) h.start b.selection.finish
  have hedit := insertAt?_eq hstart t
  simp [replaceSelection?, Buffer.replaceSelection, hempty, hedit]

theorem cut?_eq (h : b.WellFormed) : b.cut? = some b.cut := by
  have hselected := selectedText?_eq h
  have hempty := deleteBetween?_eq (b := { b with clipboard := b.selectedText }.checkpoint)
    h.start h.finish b.selection.start_precedes_finish
  simp [cut?, Buffer.cut, hselected, hempty]

theorem delete?_eq (h : b.WellFormed) : b.delete? = some b.delete := by
  have hstart : b.selection.start.InRow b.lines := h.start
  have hedit : ∀ finish, finish.InRow b.lines → b.selection.start.precedes finish = true →
      b.checkpoint.deleteBetween? b.selection.start finish =
        some (b.checkpoint.deleteBetween b.selection.start finish) :=
    fun finish hf hle => deleteBetween?_eq (b := b.checkpoint) hstart hf hle
  unfold delete? Buffer.delete
  cases b.selection.isEmpty with
  | true =>
    have he := hedit _ (inRow_stepRight hstart) precedes_stepRight
    by_cases hend : b.selection.start = b.stepRight b.selection.start
    · simp [← hend]
    · simp [hend, he]
  | false =>
    have he := hedit _ h.finish b.selection.start_precedes_finish
    by_cases hend : b.selection.start = b.selection.finish
    · simp [hend]
    · simp [hend, he]

theorem command?_eq (h : b.WellFormed) (c : EditorCommand) : b.command? c = some (b.command c) := by
  cases c with
  | copy => simp [command?, Buffer.command, selectedText?_eq h]
  | cut => simp [command?, Buffer.command, cut?_eq h]
  | paste => simp [command?, Buffer.command, replaceSelection?_eq h]
  | delete => simp [command?, Buffer.command, delete?_eq h]
  | _ => rfl

/-- **No index is out of range.** On a buffer that makes sense, looking at every
index and every offset changes nothing. -/
theorem indexedEditor_eq (h : b.WellFormed) (q : Editor.Request) :
    indexedEditor q b = some (editor q b) := by
  unfold indexedEditor editor
  split
  · cases q with
    | moveTo target =>
      simp only [indexedAnswer, targetPosition?_eq h, Option.bind_eq_bind, Option.bind_some]; rfl
    | insert t => simp only [indexedAnswer, insert?_eq h, Option.bind_eq_bind, Option.bind_some]; rfl
    | replace t =>
      simp only [indexedAnswer, replaceSelection?_eq h, Option.bind_eq_bind, Option.bind_some]; rfl
    | run c =>
      have hcommand := command?_eq (h.noted (b.ran ++ [c])) c
      simp only [indexedAnswer, answer, Buffer.run, hcommand, Option.bind_eq_bind, Option.bind_some]
      cases ({ b with ran := b.ran ++ [c] } : Buffer).command c <;> rfl
    | _ => rfl
  · rfl

/-! ## Refused calls -/

/-- A refused call leaves everything but the list of commands as it was. -/
theorem editor_refused {q : Editor.Request} {e : EditorError} (h : (editor q b).1 = .error e) :
    (editor q b).2 = { b with ran := (editor q b).2.ran } := by
  have hact : ∀ {r : Except EditorError Buffer}, (b.act r).1 = .error e → (b.act r).2 = b := by
    intro r hr
    cases r with
    | ok b' => cases hr
    | error e' => rfl
  unfold editor at h ⊢
  split at h
  · rename_i hfocus
    rw [if_pos hfocus]
    cases q with
    | lineCount => rfl
    | lineText n => rfl
    | selection => rfl
    | moveToLine n => simp only [answer] at h ⊢; rw [hact h]
    | moveBy direction count => simp only [answer] at h ⊢; rw [hact h]
    | moveTo target => cases h
    | select anchor active => simp only [answer] at h ⊢; rw [hact h]
    | insert t => cases h
    | replace t => cases h
    | run c =>
      simp only [answer, Buffer.run] at h ⊢
      split at h
      · cases h
      · rfl
  · rename_i hfocus
    rw [if_neg hfocus]

/-! ## Every run of calls -/

/-- After any run of calls the buffer makes sense and is the buffer of its text;
no call on it reads out of range, nor does its selected text; and a call that it
refuses changes nothing but the list of commands. -/
theorem Reachable.safe (h : Reachable b) :
    b.WellFormed ∧ (ofText b.text).lines = b.lines ∧ b.selectedText? = some b.selectedText ∧
      (∀ q, indexedEditor q b = some (editor q b)) ∧
      ∀ q e, (editor q b).1 = .error e → (editor q b).2 = { b with ran := (editor q b).2.ran } :=
  ⟨h.wellFormed, splitLines_joinLines h.wellFormed.present.row, selectedText?_eq h.wellFormed,
    indexedEditor_eq h.wellFormed, fun _ _ => editor_refused⟩

/-- A selection across a line feed, replaced by two lines. -/
theorem safe_twoLines :
    ∃ b, Reachable b ∧ b.lines = ["ax".toList, "yd".toList] ∧ b.WellFormed ∧
      b.selectedText? = some [] ∧ ∀ q, indexedEditor q b = some (editor q b) := by
  have h := ((Reachable.new "ab\ncd").call (.select ⟨0, 1⟩ ⟨1, 1⟩)).call (.replace "x\ny")
  obtain ⟨hwell, -, hselected, hindexed, -⟩ := h.safe
  exact ⟨_, h, by decide +kernel, hwell, hselected.trans (by decide +kernel), hindexed⟩

end Buffer

end VoiceEdit
