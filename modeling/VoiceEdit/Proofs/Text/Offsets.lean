import VoiceEdit.Text.Utf8

/-!
# Cuts at byte offsets

An offset in bytes cuts a text where it lies between two characters, and then in one way only. The
columns of a line have such offsets.

* `takeUtf8?`, `sliceUtf8?`: what stands before an offset, and between two.
* `dropUtf8?_eq_some_iff`, `append_inj_of_utf8Length`: where an offset cuts.
* `exists_eq_append_of_le`: of two cuts the one at the greater offset is the later one.
* `takeUtf8?_byteAt`, `dropUtf8?_byteAt`, `sliceUtf8?_byteAt`: cuts at columns.
-/
namespace VoiceEdit.Text

/-! ## Cuts -/

/-- The first `n` bytes of a text, if these end at a character. -/
def takeUtf8? : Nat → Text → Option Text
  | 0, _ => some []
  | _ + 1, [] => none
  | n + 1, c :: rest =>
    if c.utf8Size ≤ n + 1 then (takeUtf8? (n + 1 - c.utf8Size) rest).map (c :: ·) else none

/-- The bytes from one offset to another, if the offsets are in order and each
lies between two characters. -/
def sliceUtf8? (t : Text) (i j : Nat) : Option Text :=
  if i ≤ j then (takeUtf8? j t).bind (dropUtf8? i) else none

theorem takeUtf8?_append (a b : Text) : takeUtf8? (utf8Length a) (a ++ b) = some a := by
  induction a with
  | nil => simp [takeUtf8?]
  | cons c rest ih =>
    have hc : 0 < c.utf8Size := Char.utf8Size_pos c
    obtain ⟨n, hn⟩ : ∃ n, c.utf8Size + utf8Length rest = n + 1 :=
      ⟨c.utf8Size + utf8Length rest - 1, by omega⟩
    have hle : c.utf8Size ≤ n + 1 := by omega
    have hrest : n + 1 - c.utf8Size = utf8Length rest := by omega
    simp [hn, takeUtf8?, hle, hrest, ih]

theorem dropUtf8?_eq_some_iff {n : Nat} {t b : Text} :
    dropUtf8? n t = some b ↔ ∃ a, t = a ++ b ∧ utf8Length a = n := by
  constructor
  · intro h
    induction t generalizing n with
    | nil =>
      cases n with
      | zero =>
        obtain rfl := Option.some.inj h
        exact ⟨[], rfl, rfl⟩
      | succ n => cases h
    | cons c rest ih =>
      cases n with
      | zero =>
        obtain rfl := Option.some.inj h
        exact ⟨[], rfl, rfl⟩
      | succ n =>
        rw [dropUtf8?] at h
        split at h
        · rename_i hsize
          obtain ⟨a, rfl, hlength⟩ := ih h
          refine ⟨c :: a, rfl, ?_⟩
          rw [utf8Length_cons, hlength]
          omega
        · cases h
  · rintro ⟨a, rfl, rfl⟩
    exact dropUtf8?_append a b

/-- A text is cut at an offset in one way only. -/
theorem append_inj_of_utf8Length {a b c d : Text} (h : a ++ b = c ++ d)
    (hlength : utf8Length a = utf8Length c) : a = c ∧ b = d := by
  have hb := dropUtf8?_append a b
  rw [h, hlength, dropUtf8?_append] at hb
  obtain rfl := Option.some.inj hb
  exact ⟨List.append_cancel_right h, rfl⟩

/-- Of two cuts of a text the one at the greater offset is the later one. -/
theorem exists_eq_append_of_le {a b c d : Text} (h : a ++ b = c ++ d)
    (hle : utf8Length a ≤ utf8Length c) : ∃ m, c = a ++ m ∧ b = m ++ d := by
  rcases List.append_eq_append_iff.1 h with hlater | ⟨m, rfl, rfl⟩
  · exact hlater
  · -- the other way round the cuts are at one offset
    rw [utf8Length_append] at hle
    have hsame : utf8Length (c ++ m) = utf8Length c := by
      rw [utf8Length_append]
      omega
    obtain ⟨hc, hd⟩ := append_inj_of_utf8Length h hsame
    exact ⟨[], by rw [List.append_nil, hc], hd⟩

/-! ## Columns -/

/-- The offset of a column; beyond the end it is the end. -/
def byteAt (t : Text) (column : Nat) : Nat := utf8Length (t.take column)

theorem takeUtf8?_byteAt (t : Text) (c : Nat) : takeUtf8? (byteAt t c) t = some (t.take c) := by
  have h := takeUtf8?_append (t.take c) (t.drop c)
  rwa [List.take_append_drop] at h

theorem dropUtf8?_byteAt (t : Text) (c : Nat) : dropUtf8? (byteAt t c) t = some (t.drop c) := by
  have h := dropUtf8?_append (t.take c) (t.drop c)
  rwa [List.take_append_drop] at h

theorem byteAt_take (t : Text) {c d : Nat} (h : c ≤ d) : byteAt (t.take d) c = byteAt t c := by
  rw [byteAt, List.take_take, Nat.min_eq_left h, byteAt]

theorem byteAt_mono (t : Text) {c d : Nat} (h : c ≤ d) : byteAt t c ≤ byteAt t d := by
  have hd : t.take d = (t.take d).take c ++ (t.take d).drop c := (List.take_append_drop c _).symm
  rw [List.take_take, Nat.min_eq_left h] at hd
  rw [byteAt, byteAt, hd, utf8Length_append]
  exact Nat.le_add_right _ _

theorem sliceUtf8?_byteAt (t : Text) {c d : Nat} (h : c ≤ d) :
    sliceUtf8? t (byteAt t c) (byteAt t d) = some ((t.take d).drop c) := by
  rw [sliceUtf8?, if_pos (byteAt_mono t h), takeUtf8?_byteAt, Option.bind_some, ← byteAt_take t h,
    dropUtf8?_byteAt]

end VoiceEdit.Text
