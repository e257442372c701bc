import VoiceEdit.CommandLine.Disk

/-!
# A console on paper

A desk answers the console's requests without a system: from a disk and a text
that stands for standard input. It keeps what is printed and told.

* `Desk.answer`: the answers of a desk.
-/
namespace VoiceEdit.Console

open Text

/-- A disk, what is left of standard input, and what was written so far. -/
structure Desk where
  disk : Disk
  input : Text
  printed : Text
  /-- The lines on standard error. -/
  told : List Text

namespace Desk

/-- A desk at which nothing was read or written yet. -/
def new (disk : Disk) (input : Text) : Desk := ⟨disk, input, [], []⟩

/-- The next line of standard input, and the desk after it is read. -/
def nextLine (d : Desk) : LineFound × Desk :=
  if d.input.isEmpty then (.closed, d)
  else
    (.line (d.input.takeWhile (· != '\n')),
      { d with input := (d.input.dropWhile (· != '\n')).drop 1 })

/-- Read under a name; what is read of standard input is gone from it. -/
def fetch (d : Desk) (name : Text) : FileFound × Desk :=
  (d.disk.find d.input name, if d.disk.isInput name then { d with input := [] } else d)

/-- Write under a name. -/
def store (d : Desk) (name contents : Text) : Option Text × Desk :=
  match d.disk.store name contents with
  | .ok disk => (none, { d with disk })
  | .error reason => (some reason, d)

/-- The answers of a desk, where no time passes. -/
def answer : Handler Console.interface Desk
  | .fetch name, d => d.fetch name
  | .store name contents, d => d.store name contents
  | .readLine _, d => d.nextLine
  | .print text, d => ((), { d with printed := d.printed ++ text })
  | .tell line, d => ((), { d with told := d.told ++ [line] })
  | .clock, d => ((0 : Nat), d)

end Desk

end VoiceEdit.Console
