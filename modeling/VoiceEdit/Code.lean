import VoiceEdit.Text.Basic

/-!
# Canonical codes

Every spoken phrase of the vocabulary stands for a code in capital letters
(`LINE`, `UP`, `TO_START`). Codes are the only thing that the classifier, the
substitution of phrases and the commands agree on; phrases are configurable,
codes are not.

* `Coded`: a type whose values all have a code.
* `ofCode?`: reads a code back.
-/
namespace VoiceEdit

/-- A finite type whose values are named by distinct codes. -/
class Coded (α : Type) where
  /-- Every value, in declaration order. -/
  all : List α
  /-- The code of a value. -/
  code : α → Text

export Coded (code)

/-- The value that a code names. -/
def ofCode? {α : Type} [Coded α] (t : Text) : Option α := Coded.all.find? fun a => code a == t

/-- Where the cursor may go. -/
inductive Direction where
  | up | down | left | right | start | finish | next | previous
  deriving DecidableEq, Repr

instance : Coded Direction where
  all := [.up, .down, .left, .right, .start, .finish, .next, .previous]
  code
    | .up => "UP" | .down => "DOWN" | .left => "LEFT" | .right => "RIGHT"
    | .start => "START" | .finish => "END" | .next => "NEXT" | .previous => "PREVIOUS"

/-- Absolute directions name a destination, so a count never applies to them. -/
def Direction.isAbsolute : Direction → Bool
  | .start | .finish | .next | .previous => true
  | _ => false

/-- Objects that the editor itself knows. -/
inductive EditorObject where
  | line | file | viewPort | blankLine | tab | definition | page
  deriving DecidableEq, Repr

instance : Coded EditorObject where
  all := [.line, .file, .viewPort, .blankLine, .tab, .definition, .page]
  code
    | .line => "LINE" | .file => "FILE" | .viewPort => "VIEW_PORT" | .blankLine => "BLANK_LINE"
    | .tab => "TAB" | .definition => "DEFINITION" | .page => "PAGE"

/-- Constructs of program text that can be generated. -/
inductive CodeObject where
  | classDefinition | constant | dictionary | elseBranch | elseIf | float | function | ifBranch
  | importing | input | integer | key | list | method | print | string | value | variable
  | whileLoop | forLoop | forEach | returning | tuple | set | range | tryBlock | exceptBlock
  | boolean | noneValue | typeOf | opening | membership | parameter | argument | object
  deriving DecidableEq, Repr

instance : Coded CodeObject where
  all := [
    .classDefinition, .constant, .dictionary, .elseBranch, .elseIf, .float, .function, .ifBranch,
    .importing, .input, .integer, .key, .list, .method, .print, .string, .value, .variable,
    .whileLoop, .forLoop, .forEach, .returning, .tuple, .set, .range, .tryBlock, .exceptBlock,
    .boolean, .noneValue, .typeOf, .opening, .membership, .parameter, .argument, .object]
  code
    | .classDefinition => "CLASS" | .constant => "CONSTANT" | .dictionary => "DICTIONARY"
    | .elseBranch => "ELSE" | .elseIf => "ELIF" | .float => "FLOAT" | .function => "FUNCTION"
    | .ifBranch => "IF" | .importing => "IMPORT" | .input => "INPUT" | .integer => "INTEGER"
    | .key => "KEY" | .list => "LIST" | .method => "METHOD" | .print => "PRINT"
    | .string => "STRING" | .value => "VALUE" | .variable => "VARIABLE" | .whileLoop => "WHILE"
    | .forLoop => "FOR" | .forEach => "FOR_EACH" | .returning => "RETURN" | .tuple => "TUPLE"
    | .set => "SET" | .range => "RANGE" | .tryBlock => "TRY" | .exceptBlock => "EXCEPT"
    | .boolean => "BOOLEAN" | .noneValue => "NONE" | .typeOf => "TYPE" | .opening => "OPEN"
    | .membership => "IN" | .parameter => "PARAMETER" | .argument => "ARGUMENT"
    | .object => "OBJECT"

/-- Qualifiers of a selection; the last two delimit a range. -/
inductive Selector where
  | all | more | less | toStart | toEnd | rangeFrom | rangeTo
  deriving DecidableEq, Repr

instance : Coded Selector where
  all := [.all, .more, .less, .toStart, .toEnd, .rangeFrom, .rangeTo]
  code
    | .all => "ALL" | .more => "MORE" | .less => "LESS" | .toStart => "TO_START"
    | .toEnd => "TO_END" | .rangeFrom => "FROM" | .rangeTo => "TO"

/-- What to do with the editor's suggestions. -/
inductive SuggestionQualifier where
  | show | accept
  deriving DecidableEq, Repr

instance : Coded SuggestionQualifier where
  all := [.show, .accept]
  code
    | .show => "SHOW" | .accept => "ACCEPT"

/-- What to do with the terminal. -/
inductive TerminalAction where
  | new | show | hide | clear | kill | focusNext | focusPrevious | selectAll | scrollUp | scrollDown
  deriving DecidableEq, Repr

instance : Coded TerminalAction where
  all := [.new, .show, .hide, .clear, .kill, .focusNext, .focusPrevious, .selectAll, .scrollUp,
    .scrollDown]
  code
    | .new => "NEW" | .show => "SHOW" | .hide => "HIDE" | .clear => "CLEAR" | .kill => "KILL"
    | .focusNext => "FOCUS_NEXT" | .focusPrevious => "FOCUS_PREVIOUS" | .selectAll => "SELECT_ALL"
    | .scrollUp => "SCROLL_UP" | .scrollDown => "SCROLL_DOWN"

/-- The commands that a trigger phrase can name. -/
inductive CommandName where
  | go | select | new | add | suggestion | terminal | snakeCase | camelCase
  | saveFile | saveFileAs | newFile | newWindow | closeTab | closeWindow | openFile
  | copy | cut | paste | undo | redo | format | breakpoint | settings | delete
  | dictate | dictatePlain | spell | spellUppercase | stop | stopDictating
  deriving DecidableEq, Repr

instance : Coded CommandName where
  all := [
    .go, .select, .new, .add, .suggestion, .terminal, .snakeCase, .camelCase,
    .saveFile, .saveFileAs, .newFile, .newWindow, .closeTab, .closeWindow, .openFile,
    .copy, .cut, .paste, .undo, .redo, .format, .breakpoint, .settings, .delete,
    .dictate, .dictatePlain, .spell, .spellUppercase, .stop, .stopDictating]
  code
    | .go => "GO" | .select => "SELECT" | .new => "NEW" | .add => "ADD"
    | .suggestion => "SUGGESTION" | .terminal => "TERMINAL" | .snakeCase => "SNAKE_CASE"
    | .camelCase => "CAMEL_CASE" | .saveFile => "SAVE_FILE" | .saveFileAs => "SAVE_FILE_AS"
    | .newFile => "NEW_FILE" | .newWindow => "NEW_WINDOW" | .closeTab => "CLOSE_TAB"
    | .closeWindow => "CLOSE_WINDOW" | .openFile => "OPEN" | .copy => "COPY" | .cut => "CUT"
    | .paste => "PASTE" | .undo => "UNDO" | .redo => "REDO" | .format => "FORMAT"
    | .breakpoint => "BREAKPOINT" | .settings => "SETTINGS" | .delete => "DELETE"
    | .dictate => "DICTATE" | .dictatePlain => "DICTATE_WITHOUT_SPECIAL_CHARACTERS"
    | .spell => "SPELL" | .spellUppercase => "SPELL_UPPERCASE" | .stop => "STOP"
    | .stopDictating => "STOP_DICTATING"

end VoiceEdit
