import VoiceEdit.CommandLine.Console
import VoiceEdit.Text.Utf8

/-!
# Disks

A disk as a finite list of what stands at which place. Names lead from the root,
or from a directory that one is at home in, step by step; every step but the last
has to end at a directory.

* `Disk.resolve?`: the place that a name leads to.
* `Disk.find`, `Disk.store`: reading and writing under a name.
-/
namespace VoiceEdit.Console

open Text

/-- Where something stands on a disk: the names that lead to it from the root. -/
abbrev Place := List Text

/-- What stands at a place. -/
inductive Entry where
  | directory
  | file (contents : ByteArray)
  /-- A device that is empty and forgets what is written to it. -/
  | null
  /-- A device that holds what is still unread of standard input. -/
  | input

/-- What stands where, and the directory that names start from. -/
structure Disk where
  entries : List (Place × Entry)
  home : Place

namespace Disk

/-- Whether something stands below a place, or one is at home there or below it. -/
def leadsOn (d : Disk) (place : Place) : Bool :=
  place.isPrefixOf d.home ||
    d.entries.any fun e => place.isPrefixOf e.1 && place.length < e.1.length

/-- What stands at a place. -/
def entry? (d : Disk) (place : Place) : Option Entry :=
  if d.leadsOn place then some .directory else d.entries.lookup place

/-- Whether a directory stands at a place. -/
def isDirectory (d : Disk) (place : Place) : Bool :=
  match d.entry? place with
  | some .directory => true
  | _ => false

/-- The place that is one step from a directory. -/
def step (place : Place) (part : Text) : Place :=
  if part = [] ∨ part = ['.'] then place
  else if part = ['.', '.'] then place.dropLast
  else place ++ [part]

/-- The place to which some steps lead, all of them from directories. -/
def walk? (d : Disk) (place : Place) : List Text → Option Place
  | [] => some place
  | part :: rest => if d.isDirectory place then d.walk? (step place part) rest else none

/-- The place that a name leads to; a name that starts with a slash leads from the
root, and one that ends with a slash only to a directory. -/
def resolve? (d : Disk) (name : Text) : Option Place :=
  d.walk? (if name.head? = some '/' then [] else d.home) (splitAll '/' name)

/-- What is read under a name; `unread` is what is left of standard input. -/
def find (d : Disk) (unread name : Text) : FileFound :=
  match (d.resolve? name).bind d.entry? with
  | none => .missing
  | some .directory => .unreadable
  | some (.file contents) => .bytes contents
  | some .null => .bytes .empty
  | some .input => .bytes (toUtf8 unread)

/-- Whether standard input is read under a name. -/
def isInput (d : Disk) (name : Text) : Bool :=
  match (d.resolve? name).bind d.entry? with
  | some .input => true
  | _ => false

/-- The disk after a text is written under a name, or why it cannot be. -/
def store (d : Disk) (name contents : Text) : Except Text Disk :=
  match d.resolve? name with
  | none => .error "the directory does not exist"
  | some place =>
    match d.entry? place with
    | some .directory => .error "it is a directory"
    | some .null | some .input => .ok d
    | some (.file _) | none =>
      .ok { d with
        entries := (place, .file (toUtf8 contents)) :: d.entries.filter fun e => e.1 != place }

/-- The text of a file, if it is a file and holds text. -/
def text? (d : Disk) (name : Text) : Option Text :=
  match (d.resolve? name).bind d.entry? with
  | some (.file contents) => ofUtf8? contents
  | _ => none

end Disk

end VoiceEdit.Console
