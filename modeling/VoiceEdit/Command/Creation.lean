import VoiceEdit.Command.Basic
import VoiceEdit.Identifier

/-!
# Generating blocks of code

An object becomes a template on new lines below the cursor, indented like the
cursor's line. A name next to the object, on either side of it, is worked into
the template.
-/
namespace VoiceEdit.Creation

open Editor Text

/-- The template of an object without a name. -/
def template? : CodeObject → Option Text
  | .classDefinition =>
    some "class MyClass:\n    def __init__(self):\n        pass\n\n    def method1(self):\n        pass"
  | .function => some "def my_function():\n    pass"
  | .method => some "def my_method(self):\n    pass"
  | .constant => some "MY_CONSTANT = None"
  | .dictionary => some "my_dict = \x7b\x7d"
  | .ifBranch => some "if condition:\n    pass"
  | .elseIf => some "elif condition:\n    pass"
  | .elseBranch => some "else:\n    pass"
  | .tryBlock => some "try:\n    pass\nexcept Exception:\n    pass"
  | .importing => some "import module_name"
  | .key => some "my_dict['key'] = value"
  | .value => some "my_dict[key] = 'value'"
  | .list => some "my_list = []"
  | .print => some "print(\"Hello, World!\")"
  | .input => some "user_input = input(\"Enter a value: \")"
  | .returning => some "return value"
  | .variable => some "my_variable = None"
  | .whileLoop => some "while condition:\n    pass"
  | .forLoop => some "for i in range(len(my_list)):\n    pass"
  | .forEach => some "for key, value in my_dict.items():\n    pass"
  | _ => none

/-- The template of an object with a name. -/
def namedTemplate? (construct : CodeObject) (name : Text) : Option Text :=
  match construct with
  | .variable => some (Identifier.snake name ++ " = None")
  | .constant => some (Identifier.upperSnake name ++ " = None")
  | .dictionary => some (Identifier.snake name ++ " = \x7b\x7d")
  | .list => some (Identifier.snake name ++ " = []")
  | .function => some ("def " ++ Identifier.snake name ++ "():\n    pass")
  | .method => some ("def " ++ Identifier.snake name ++ "(self):\n    pass")
  | .classDefinition =>
    some ("class " ++ Identifier.pascal name ++ ":\n    def __init__(self):\n        pass")
  | _ => none

/-- The lines of a template, each that is not empty behind an indentation. -/
def indented (indentation template : Text) : Text :=
  joinLines ((terminatedLines template).map fun l => if l.isEmpty then [] else indentation ++ l)

/-- Write a template on new lines below the cursor. -/
def insertBelow (template : Text) : EditorAction Unit := do
  let current ← lineText (← cursor).line
  moveTo .lineEnd
  insert ('\n' :: indented (indentation current) template)

/-- `ObjectNoun`. -/
def newTemplate : TokenAction
  | [object] =>
    match (object.coded? CodeObject).bind template? with
    | some template => Step.ofAction (insertBelow template)
    | none => Step.invalid
  | _ => Step.invalid

/-- `ObjectNoun·Unclassified`. -/
def newNamedTemplate : TokenAction
  | [object, name] =>
    match (object.coded? CodeObject).bind (namedTemplate? · name.text) with
    | some template => Step.ofAction (insertBelow template)
    | none => Step.invalid
  | _ => Step.invalid

/-- The combinations of generated blocks. -/
def table : RuleTable TokenAction :=
  (RuleTable.empty "NEW" [.objectNoun, .unclassified])
    |>.bind [.objectNoun] newTemplate
    |>.bind [.objectNoun, .unclassified] newNamedTemplate

/-- Generate blocks as some tokens say. -/
def create (tokens : List Token) : EditorProgram Outcome :=
  (table.carryOut tokens).bind fun r => .done r.outcome

end VoiceEdit.Creation
