import VoiceEdit.Proofs.Buffer.FlatText
import VoiceEdit.Proofs.Buffer.Timeline

/-!
# Texts written one after the other

Each text takes the place of the selection and leaves the caret behind it, so the
first one replaces what was selected and each later one follows the one before.

* `Buffer.writeAll`: a buffer after some texts.
* `flat_writeAll`: that is, after all of them as one.
* `stands_times_undo`: as many steps back as there were texts lead to where they
  began.
-/
namespace VoiceEdit

open Text

namespace FlatText

variable {f : FlatText}

/-- A text after another is the two as one. -/
theorem replace_replace (h : f.start ≤ f.text.length) (x y : Text) :
    (f.replace x).replace y = f.replace (x ++ y) := by
  have hlength : (f.text.take f.start ++ x).length = f.start + x.length := by
    rw [List.length_append, List.length_take_of_le h]
  have hstart : (f.replace x).start = f.start + x.length := Nat.min_self _
  have hfinish : (f.replace x).finish = f.start + x.length := Nat.max_self _
  have hbefore : (f.replace x).text.take (f.start + x.length) = f.text.take f.start ++ x :=
    List.take_left' hlength
  have hafter : (f.replace x).text.drop (f.start + x.length) = f.text.drop f.finish :=
    List.drop_left' hlength
  rw [replace, hstart, hfinish, hbefore, hafter]
  simp [replace, Nat.add_assoc]

theorem start_replace_le (h : f.start ≤ f.text.length) (x : Text) :
    (f.replace x).start ≤ (f.replace x).text.length := by
  have hstart : (f.replace x).start = f.start + x.length := Nat.min_self _
  rw [hstart, replace, List.length_append, List.length_append, List.length_take_of_le h]
  omega

/-- Texts one after the other are all of them as one. -/
theorem foldl_replace (h : f.start ≤ f.text.length) (x : Text) (texts : List Text) :
    (x :: texts).foldl replace f = f.replace (x :: texts).flatten := by
  induction texts generalizing f x with
  | nil => simp
  | cons y rest ih =>
    rw [List.foldl_cons, ih (start_replace_le h x), replace_replace h]
    rfl

end FlatText

namespace Buffer

variable {b : Buffer}

/-- A buffer after some texts were written one after the other. -/
def writeAll (b : Buffer) (texts : List Text) : Buffer := texts.foldl replaceSelection b

@[simp] theorem writeAll_cons (b : Buffer) (x : Text) (texts : List Text) :
    b.writeAll (x :: texts) = (b.replaceSelection x).writeAll texts := rfl

theorem writeAll_append (b : Buffer) (texts others : List Text) :
    b.writeAll (texts ++ others) = (b.writeAll texts).writeAll others := List.foldl_append

theorem focused_replaceSelection (b : Buffer) (x : Text) :
    (b.replaceSelection x).focused = b.focused := (edited_replaceSelection b x).focused

theorem focused_writeAll (b : Buffer) (texts : List Text) :
    (b.writeAll texts).focused = b.focused := by
  induction texts generalizing b with
  | nil => rfl
  | cons x rest ih => rw [writeAll_cons, ih, focused_replaceSelection]

theorem WellFormed.writeAll (h : b.WellFormed) (texts : List Text) : (b.writeAll texts).WellFormed := by
  induction texts generalizing b with
  | nil => exact h
  | cons x rest ih => exact ih (h.replaceSelection x)

theorem foldl_flat_writeAll (h : b.WellFormed) (texts : List Text) :
    (b.writeAll texts).flat = texts.foldl FlatText.replace b.flat := by
  induction texts generalizing b with
  | nil => rfl
  | cons x rest ih =>
    rw [writeAll_cons, ih (h.replaceSelection x), flat_replaceSelection h, List.foldl_cons]

/-- Written texts stand side by side where the selection was. -/
theorem flat_writeAll (h : b.WellFormed) {texts : List Text} (hne : texts ≠ []) :
    (b.writeAll texts).flat = b.flat.replace texts.flatten := by
  obtain ⟨x, rest, rfl⟩ := List.exists_cons_of_ne_nil hne
  have hstart : b.flat.start ≤ b.flat.text.length :=
    Nat.le_trans b.flat.start_le_finish h.finish_le
  rw [foldl_flat_writeAll h, FlatText.foldl_replace hstart]

/-! ## Back to where it began -/

/-- A buffer stands where another one stood: with its text and selection, and with
all that it could go back to. -/
structure Stands (b b' : Buffer) : Prop where
  lines : b'.lines = b.lines
  selection : b'.selection = b.selection
  undo : b'.undo = b.undo
  focused : b'.focused = b.focused

theorem Stands.refl (b : Buffer) : Stands b b := ⟨rfl, rfl, rfl, rfl⟩

/-- One step back takes one text away. -/
theorem Stands.undo_replace {b' : Buffer} {x : Text} (hfocus : b.focused = true)
    (h : Stands (b.replaceSelection x) b') : Stands b (editor (.run .undo) b').2 := by
  have hfocused : b'.focused = true := by rw [h.focused, focused_replaceSelection, hfocus]
  have hundo : b'.undo = b.snapshot :: b.undo := by rw [h.undo, (edited_replaceSelection b x).undo]
  rw [undo_something hfocused hundo]
  exact ⟨rfl, rfl, rfl, by rw [hfocused, hfocus]⟩

/-- As many steps back as there were texts lead to where they began. -/
theorem Stands.times_undo {b' : Buffer} {texts : List Text} (hfocus : b.focused = true)
    (h : Stands (b.writeAll texts) b') : Stands b (times .undo texts.length b') := by
  induction texts generalizing b with
  | nil => exact h
  | cons x rest ih =>
    have hrest := ih (by rw [focused_replaceSelection, hfocus]) h
    rw [List.length_cons, times_succ]
    exact hrest.undo_replace hfocus

end Buffer

end VoiceEdit
