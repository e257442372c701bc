import VoiceEdit.Toml.Scalar
import VoiceEdit.Toml.Tree

/-!
# Configuration files

* `Toml.value`: a value, nested to a bounded depth.
* `Toml.parse?`: the table that a file describes, if it is well formed.
-/
namespace VoiceEdit.Toml

open Reader

/-- How deeply arrays and tables may be nested in a value. -/
def maxDepth : Nat := 79

/-- The items of an array after its bracket, of which a comma may follow the
last. -/
def arrayItems (item : Reader Value) : Reader Value := do
  let items ← many do
    gap
    let v ← item
    gap
    (char ',') <|> (do if (← rest).head? = some ']' then return else failure)
    return v
  gap
  char ']'
  return .array items

/-- The entries of a table in braces, after the first brace. -/
def inlineEntries (item : Reader Value) : Reader Value := do
  let pair : Reader (List Text × Value) := do
    let k ← key
    char '='
    blanks
    let v ← item
    blanks
    return (k, v)
  blanks
  let pairs ← optional (separated pair (char ','))
  char '\x7d'
  match Tree.ofPairs? (pairs.getD []) with
  | some t => return t.value
  | none => failure

/-- A value without others in it. -/
def scalar : Reader Value :=
  (.string <$> string) <|>
    (.dateTime <$> dateTime) <|>
    (do float; return .float) <|>
    (.integer <$> integer) <|>
    (do literal "true"; return .boolean true) <|>
    (do literal "false"; return .boolean false)

/-- A value in which arrays and tables are nested at most so deeply. -/
def value : Nat → Reader Value
  | 0 => scalar
  | depth + 1 => do
    match (← rest).head? with
    | some '[' => do char '['; arrayItems (value depth)
    | some '\x7b' => do char '\x7b'; inlineEntries (value depth)
    | _ => scalar

/-! ## Statements -/

/-- A line of a file. -/
inductive Statement where
  /-- A line without content. -/
  | nothing
  | openTable (path : List Text)
  | openArray (path : List Text)
  | assign (key : List Text) (value : Value)

/-- The header of a table of an array. -/
def arrayHeader : Reader Statement := do
  literal ['[', '[']
  let path ← key
  literal [']', ']']
  return .openArray path

/-- The header of a table. -/
def tableHeader : Reader Statement := do
  char '['
  let path ← key
  char ']'
  return .openTable path

/-- A value under a key. -/
def assignment : Reader Statement := do
  let k ← key
  char '='
  blanks
  return .assign k (← value maxDepth)

/-- A line of a file, with its end. -/
def statement : Reader Statement := do
  blanks
  let s ← arrayHeader <|> tableHeader <|> assignment <|> pure .nothing
  if (← rest).isEmpty then
    match s with
    | .nothing => failure
    | _ => return s
  else
    lineEnd
    return s

/-- The lines of a whole file. -/
def statements : Reader (List Statement) := do
  discard (optional (char '\ufeff'))
  let ss ← many statement
  blanks
  atEnd
  return ss

/-- A file read so far: its table, and the table that keys belong to. -/
structure Progress where
  root : Tree
  path : List Text

/-- Read on by one line. -/
def Progress.step? (p : Progress) : Statement → Option Progress
  | .nothing => some p
  | .openTable path => do return ⟨← p.root.openTable? path, path⟩
  | .openArray path => do return ⟨← p.root.openArray? path, path⟩
  | .assign k v => do return { p with root := ← p.root.assign? p.path k v }

/-- The table that a file describes, if the file is well formed. -/
def parse? (file : Text) : Option Value := do
  let (ss, _) ← statements file
  let p ← ss.foldlM Progress.step? ⟨.table .header [], []⟩
  return p.root.value

end VoiceEdit.Toml
