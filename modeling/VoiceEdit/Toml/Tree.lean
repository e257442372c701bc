import VoiceEdit.Toml.Value

/-!
# Tables under construction

A configuration file names a table in pieces: by headers, by the headers of
tables inside it, and by dotted keys. A table remembers how it came about, because
each way of naming it closes others.

* `Tree.assign?`: a value under a dotted key.
* `Tree.openTable?`, `Tree.openArray?`: what headers name.
* `Tree.value`: the finished table.
-/
namespace VoiceEdit.Toml

/-- How a table came about. -/
inductive Origin where
  /-- By a header of its own. -/
  | header
  /-- By the header of a table inside it. -/
  | implied
  /-- By a dotted key. -/
  | dotted
  deriving DecidableEq, Repr

/-- A table under construction, or something in it. -/
inductive Tree where
  | leaf (value : Value)
  | table (origin : Origin) (entries : List (Text × Tree))
  /-- An array whose items are tables named by headers. -/
  | tables (items : List Tree)

namespace Tree

/-- Put something under a key, in the place of what is there. -/
def put (key : Text) (tree : Tree) : List (Text × Tree) → List (Text × Tree)
  | [] => [(key, tree)]
  | (k, t) :: rest => if k = key then (k, tree) :: rest else (k, t) :: put key tree rest

/-- Change the table at the end of a path. Tables that are missing come about on
the way; the last table of an array stands for the array. A dotted key does not
lead into a table with a header. -/
def change? (viaKey : Bool) (f : Tree → Option Tree) : List Text → Tree → Option Tree
  | [], t => f t
  | key :: path, table origin entries =>
    let next : Option Tree := match entries.lookup key with
      | none => change? viaKey f path (table (if viaKey then .dotted else .implied) [])
      | some (leaf _) => none
      | some (tables items) =>
        items.getLast?.bind fun last =>
          (change? viaKey f path last).map fun last => tables (items.dropLast ++ [last])
      | some (table o inner) =>
        if viaKey ∧ o = .header then none else change? viaKey f path (table o inner)
    next.map fun t => table origin (put key t entries)
  | _, _ => none

/-- Put a value under a new key of a table; `isNested` tells whether a dotted key
led to the table. -/
def assignHere? (isNested : Bool) (key : Text) (value : Value) : Tree → Option Tree
  | table origin entries =>
    if decide (origin = .dotted) ≠ isNested ∨ (entries.lookup key).isSome then none
    else some (table origin (entries ++ [(key, leaf value)]))
  | _ => none

/-- Put a value under a dotted key of a table. -/
def assignIn? (key : List Text) (value : Value) (t : Tree) : Option Tree := do
  let last ← key.getLast?
  change? true (assignHere? (1 < key.length) last value) key.dropLast t

/-- Put a value under a dotted key of the table at a path. -/
def assign? (path key : List Text) (value : Value) (t : Tree) : Option Tree :=
  change? false (assignIn? key value) path t

/-- Give a table its header. -/
def openHere? (key : Text) : Tree → Option Tree
  | table origin entries =>
    match entries.lookup key with
    | none => some (table origin (put key (table .header []) entries))
    | some (table .implied inner) => some (table origin (put key (table .header inner) entries))
    | _ => none
  | _ => none

/-- Start another table of an array. -/
def openItem? (key : Text) : Tree → Option Tree
  | table origin entries =>
    match entries.lookup key with
    | none => some (table origin (put key (tables [table .header []]) entries))
    | some (tables items) =>
      some (table origin (put key (tables (items ++ [table .header []])) entries))
    | _ => none
  | _ => none

/-- Give the table at a path its header. -/
def openTable? (path : List Text) (t : Tree) : Option Tree := do
  let last ← path.getLast?
  change? false (openHere? last) path.dropLast t

/-- Start another table of the array at a path. -/
def openArray? (path : List Text) (t : Tree) : Option Tree := do
  let last ← path.getLast?
  change? false (openItem? last) path.dropLast t

mutual

/-- The value of a finished tree. -/
def value : Tree → Value
  | leaf v => v
  | table _ entries => .table (entryValues entries)
  | tables items => .array (itemValues items)

/-- The values of the entries of a finished table. -/
def entryValues : List (Text × Tree) → List (Text × Value)
  | [] => []
  | (k, t) :: rest => (k, value t) :: entryValues rest

/-- The values of the items of a finished array. -/
def itemValues : List Tree → List Value
  | [] => []
  | t :: rest => value t :: itemValues rest

end

/-- The table of some values under dotted keys. -/
def ofPairs? (pairs : List (List Text × Value)) : Option Tree :=
  pairs.foldlM (fun t (key, v) => assignIn? key v t) (table .header [])

end Tree

end VoiceEdit.Toml
