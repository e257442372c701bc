import VoiceEdit.Command.Basic
import VoiceEdit.Identifier

/-!
# Generating code inside a line

An object becomes a snippet at the cursor, apart from the word before it by a
space; where the snippet holds brackets, the cursor is left between them. A name
next to the object, on either side of it, is worked into the snippet.
-/
namespace VoiceEdit.Addition

open Editor Text

/-- Code to insert, and how many characters the cursor then backs up. -/
structure Snippet where
  text : Text
  back : Nat
  deriving DecidableEq, Repr

/-- The snippet of an object without a name. -/
def snippet? : CodeObject → Option Snippet
  | .importing => some ⟨"import", 0⟩
  | .returning => some ⟨"return", 0⟩
  | .list => some ⟨"[]", 1⟩
  | .tuple => some ⟨"()", 1⟩
  | .dictionary | .set => some ⟨"\x7b\x7d", 1⟩
  | .ifBranch => some ⟨"if", 0⟩
  | .elseIf => some ⟨"elif", 0⟩
  | .elseBranch => some ⟨"else", 0⟩
  | .whileLoop => some ⟨"while", 0⟩
  | .forEach => some ⟨"for element in iterable:", 0⟩
  | .forLoop => some ⟨"for", 0⟩
  | .membership => some ⟨"in", 0⟩
  | .range => some ⟨"range()", 1⟩
  | .print => some ⟨"print()", 1⟩
  | .input => some ⟨"input()", 1⟩
  | .opening => some ⟨"open()", 1⟩
  | .tryBlock => some ⟨"try:", 0⟩
  | .exceptBlock => some ⟨"except:", 0⟩
  | .variable => some ⟨"variable", 0⟩
  | .typeOf => some ⟨"type()", 1⟩
  | .integer => some ⟨"int", 0⟩
  | .float => some ⟨"float", 0⟩
  | .string => some ⟨"str", 0⟩
  | .boolean => some ⟨"bool", 0⟩
  | .noneValue => some ⟨"None", 0⟩
  | _ => none

/-- The snippet of an object with a name. -/
def namedSnippet? (construct : CodeObject) (name : Text) : Option Snippet :=
  match construct with
  | .constant | .object => some ⟨Identifier.upperSnake name, 0⟩
  | .classDefinition => some ⟨Identifier.pascal name, 0⟩
  | .method | .function => some ⟨Identifier.snake name ++ "()", 1⟩
  | .list | .tuple | .dictionary | .set => some ⟨Identifier.snake name ++ "[]", 1⟩
  | .parameter | .argument | .key | .value | .variable => some ⟨Identifier.snake name, 0⟩
  | _ => none

/-- Whether text at the cursor has to stand apart from what is before it. -/
def needsSpace : EditorAction Bool := do
  if (← selection).isEmpty then
    return ((← charBeforeCursor).map fun c => !isBlank c).getD false
  else return false

/-- Replace the selection by a snippet and back up into it. -/
def addInline (s : Snippet) : EditorAction Unit := do
  let spaced ← needsSpace
  replace (if spaced then ' ' :: s.text else s.text)
  if s.back > 0 then moveBy .left s.back

/-- `ObjectNoun`. -/
def addSnippet : TokenAction
  | [object] =>
    match object.coded? EditorObject with
    | some .line => Step.ofAction (replace ['\n'])
    | some .blankLine => Step.ofAction (replace ['\n', '\n'])
    | some _ => Step.invalid
    | none =>
      match (object.coded? CodeObject).bind snippet? with
      | some s => Step.ofAction (addInline s)
      | none => Step.invalid
  | _ => Step.invalid

/-- `ObjectNoun·Unclassified`. -/
def addNamedSnippet : TokenAction
  | [object, name] =>
    match (object.coded? CodeObject).bind (namedSnippet? · name.text) with
    | some s => Step.ofAction (addInline s)
    | none => Step.invalid
  | _ => Step.invalid

/-- The combinations of code inside a line. -/
def table : RuleTable TokenAction :=
  (RuleTable.empty "ADD" [.objectNoun, .unclassified])
    |>.bind [.objectNoun] addSnippet
    |>.bind [.objectNoun, .unclassified] addNamedSnippet

/-- Generate snippets as some tokens say. -/
def add (tokens : List Token) : EditorProgram Outcome :=
  (table.carryOut tokens).bind fun r => .done r.outcome

end VoiceEdit.Addition
