import VoiceEdit.Text.Basic

/-!
# Readers

A reader takes a beginning off a text or refuses it.

* `Reader.many`: a reader repeated until it refuses; it ends because it is tried
  at most once for every character left.
-/
namespace VoiceEdit.Toml

/-- Takes a beginning off a text, or refuses it. -/
abbrev Reader : Type → Type := StateT Text Option

namespace Reader

variable {α β : Type}

/-- Read one character that satisfies `p`. -/
def charWhere (p : Char → Bool) : Reader Char := fun s =>
  match s with
  | c :: rest => if p c then some (c, rest) else none
  | [] => none

/-- Read one given character. -/
def char (c : Char) : Reader Unit := do discard (charWhere (· == c))

/-- Read a given text. -/
def literal (t : Text) : Reader Unit := fun s =>
  if t.isPrefixOf s then some ((), s.drop t.length) else none

/-- Read the longest run of characters that satisfy `p`. -/
def run (p : Char → Bool) : Reader Text := fun s => some (s.takeWhile p, s.dropWhile p)

/-- Read the longest run of characters that satisfy `p`, at least one. -/
def run1 (p : Char → Bool) : Reader Text := do
  let t ← run p
  if t.isEmpty then failure else return t

/-- Look at the text left. -/
def rest : Reader Text := get

/-- The results of a reader tried at most `n` times, and the text left. -/
def manyIn (p : Reader α) : Nat → Text → List α × Text
  | 0, s => ([], s)
  | n + 1, s =>
    match p s with
    | none => ([], s)
    | some (a, rest) =>
      let (others, left) := manyIn p n rest
      (a :: others, left)

/-- Read with `p` until it refuses. -/
def many (p : Reader α) : Reader (List α) := fun s => some (manyIn p s.length s)

/-- Read with `p` once and then, each time behind a separator, until the
separator does not follow. -/
def separated (p : Reader α) (separator : Reader β) : Reader (List α) := do
  let first ← p
  let others ← many (do discard separator; p)
  return first :: others

/-- Read only at the end of the text. -/
def atEnd : Reader Unit := fun s => if s.isEmpty then some ((), s) else none

end Reader

end VoiceEdit.Toml
