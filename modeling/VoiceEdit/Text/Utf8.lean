import VoiceEdit.Text.Basic

/-!
# Offsets in UTF-8

* `utf8Length`: the number of bytes of a text.
* `dropUtf8?`: what follows a byte offset, if the offset lies between two
  characters (`dropUtf8?_append`).
* `toUtf8`, `ofUtf8?`: the bytes that encode a text, and the text that some bytes
  encode (`ofUtf8?_toUtf8`).
-/
namespace VoiceEdit.Text

/-- The number of bytes of a text in UTF-8. -/
def utf8Length (t : Text) : Nat := t.foldr (fun c n => c.utf8Size + n) 0

/-- What follows the first `n` bytes of a text, if these end at a character. -/
def dropUtf8? : Nat → Text → Option Text
  | 0, t => some t
  | _ + 1, [] => none
  | n + 1, c :: rest => if c.utf8Size ≤ n + 1 then dropUtf8? (n + 1 - c.utf8Size) rest else none

/-- The text that some bytes encode, if they are UTF-8. -/
def ofUtf8? (bytes : ByteArray) : Option Text := (String.fromUTF8? bytes).map String.toList

/-- The bytes that encode a text. -/
def toUtf8 (t : Text) : ByteArray := (String.ofList t).toUTF8

/-! ## Laws -/

@[simp] theorem utf8Length_nil : utf8Length [] = 0 := rfl

@[simp] theorem utf8Length_cons (c : Char) (t : Text) :
    utf8Length (c :: t) = c.utf8Size + utf8Length t := rfl

@[simp] theorem utf8Length_append (a b : Text) :
    utf8Length (a ++ b) = utf8Length a + utf8Length b := by
  induction a with
  | nil => simp
  | cons c rest ih => simp [ih, Nat.add_assoc]

/-- Reading back the bytes of a text gives the text. -/
@[simp] theorem ofUtf8?_toUtf8 (t : Text) : ofUtf8? (toUtf8 t) = some t := by
  have h : (String.ofList t).toUTF8.IsValidUTF8 := (String.ofList t).isValidUTF8
  rw [ofUtf8?, toUtf8, String.fromUTF8?, dif_pos h]
  exact congrArg some String.toList_ofList

/-- Dropping the bytes of a beginning leaves the rest. -/
theorem dropUtf8?_append (a b : Text) : dropUtf8? (utf8Length a) (a ++ b) = some b := by
  induction a with
  | nil => simp [dropUtf8?]
  | cons c rest ih =>
    have hc : 0 < c.utf8Size := Char.utf8Size_pos c
    obtain ⟨n, hn⟩ : ∃ n, c.utf8Size + utf8Length rest = n + 1 :=
      ⟨c.utf8Size + utf8Length rest - 1, by omega⟩
    have hle : c.utf8Size ≤ n + 1 := by omega
    have hrest : n + 1 - c.utf8Size = utf8Length rest := by omega
    simp [hn, dropUtf8?, hle, hrest, ih]

end VoiceEdit.Text
