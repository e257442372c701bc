import VoiceEdit.Code
import VoiceEdit.Vocabulary.Basic

/-!
# The built-in English vocabulary

The phrases that are known before any configuration is read, grouped by what
they stand for.
-/
namespace VoiceEdit.Vocabulary

/-- Phrases for directions. -/
def englishDirections : Direction → List Text
  | .up => ["up", "upwards"] | .down => ["down", "downwards"] | .left => ["left"]
  | .right => ["right"] | .start => ["start", "beginning"] | .finish => ["end"]
  | .next => ["next", "forward"] | .previous => ["previous", "back"]

/-- Phrases for the objects of the editor. -/
def englishEditorObjects : EditorObject → List Text
  | .line => ["line", "lines", "row"] | .file => ["file", "document"]
  | .viewPort => ["view port", "viewport", "screen"]
  | .blankLine => ["blank line", "blank lines", "empty line"] | .tab => ["tab", "tabs"]
  | .definition => ["definition"] | .page => ["page", "pages"]

/-- Phrases for constructs of program text. -/
def englishCodeObjects : CodeObject → List Text
  | .classDefinition => ["class"] | .constant => ["constant"]
  | .dictionary => ["dictionary", "dict"] | .elseBranch => ["else"]
  | .elseIf => ["else if", "elif"] | .float => ["float"] | .function => ["function"]
  | .ifBranch => ["if"] | .importing => ["import"] | .input => ["input"]
  | .integer => ["integer"] | .key => ["key"] | .list => ["list"] | .method => ["method"]
  | .print => ["print"] | .string => ["string"] | .value => ["value"] | .variable => ["variable"]
  | .whileLoop => ["while", "while loop"] | .forLoop => ["for", "for loop"]
  | .forEach => ["for each"] | .returning => ["return"] | .tuple => ["tuple"] | .set => ["set"]
  | .range => ["range"] | .tryBlock => ["try"] | .exceptBlock => ["except"]
  | .boolean => ["boolean"] | .noneValue => ["none"] | .typeOf => ["type"] | .opening => ["open"]
  | .membership => ["in"] | .parameter => ["parameter"] | .argument => ["argument"]
  | .object => ["object"]

/-- Phrases for selection qualifiers. -/
def englishSelectors : Selector → List Text
  | .all => ["all", "everything"] | .more => ["more", "grow"] | .less => ["less", "shrink"]
  | .toStart => ["to start", "to the start", "to beginning", "to the beginning"]
  | .toEnd => ["to end", "to the end"] | .rangeFrom => ["from"] | .rangeTo => ["to", "until"]

/-- Phrases for what to do with suggestions. -/
def englishSuggestionQualifiers : SuggestionQualifier → List Text
  | .show => ["show"] | .accept => ["accept", "take"]

/-- Phrases for what to do with the terminal. -/
def englishTerminalActions : TerminalAction → List Text
  | .new => ["new"] | .show => ["show", "open"] | .hide => ["hide", "close"]
  | .clear => ["clear"] | .kill => ["kill"] | .focusNext => ["next"]
  | .focusPrevious => ["previous"] | .selectAll => ["select all"] | .scrollUp => ["scroll up"]
  | .scrollDown => ["scroll down"]

/-- Whole utterances that are commands. -/
def englishExactTriggers : CommandName → List Text
  | .stop => ["stop", "stop listening"] | .stopDictating => ["stop dictating", "end dictation"]
  | .dictate => ["dictate", "start dictating"]
  | .dictatePlain => ["dictate plain", "plain dictation"] | .spell => ["spell"]
  | .spellUppercase => ["spell uppercase", "spell capitals"] | .saveFile => ["save", "save file"]
  | .saveFileAs => ["save as", "save file as"] | .newFile => ["new file"]
  | .newWindow => ["new window"] | .closeTab => ["close tab"] | .closeWindow => ["close window"]
  | .openFile => ["open file"] | .copy => ["copy"] | .cut => ["cut"] | .paste => ["paste"]
  | .undo => ["undo"] | .redo => ["redo"] | .format => ["format", "format document"]
  | .breakpoint => ["breakpoint", "toggle breakpoint"]
  | .settings => ["settings", "open settings"] | .delete => ["delete"] | _ => []

/-- Phrases that start a command with arguments. -/
def englishParameterizedTriggers : CommandName → List Text
  | .go => ["go", "go to", "jump", "jump to", "move"] | .select => ["select"]
  | .new => ["new", "create"] | .add => ["add", "insert"]
  | .suggestion => ["suggest", "suggestion", "suggestions"] | .terminal => ["terminal"]
  | .snakeCase => ["snake case"] | .camelCase => ["camel case"] | _ => []

/-- Words for 0 to 19, in order. -/
def englishUnits : List Text := [
  "zero", "one", "two", "three", "four", "five", "six", "seven", "eight", "nine", "ten",
  "eleven", "twelve", "thirteen", "fourteen", "fifteen", "sixteen", "seventeen", "eighteen",
  "nineteen"]

/-- Words for 20 to 90 in steps of ten, in order. -/
def englishTens : List Text := [
  "twenty", "thirty", "forty", "fifty", "sixty", "seventy", "eighty", "ninety"]

/-- Phrases for characters, with the spacing that each brings along. -/
def englishSpecialCharacters : List (String × String) := [
  ("plus", "+"), ("minus", "-"), ("times", "*"), ("asterisk", "*"), ("divided by", "/"),
  ("slash", "/"), ("backslash", "\\"), ("equals", "="), ("double equals", "=="),
  ("not equals", "!="), ("less than", "<"), ("greater than", ">"), ("percent", "%"),
  ("comma", ", "), ("period", ". "), ("dot", "."), ("colon", ":"), ("semicolon", ";"),
  ("question mark", "?"), ("exclamation mark", "!"), ("open paren", "("), ("close paren", ")"),
  ("open bracket", "["), ("close bracket", "]"), ("open brace", "\x7b"), ("close brace", "\x7d"),
  ("quote", "\""), ("single quote", "'"), ("underscore", "_"), ("hash", "#"), ("at sign", "@"),
  ("ampersand", "&"), ("pipe", "|"), ("tilde", "~"), ("caret", "^"), ("dollar sign", "$"),
  ("space", " "), ("new line", "\n"), ("tab key", "\t")]

/-- Words that may stand in front of a name without belonging to it. -/
def englishFillerWords : List Text := [
  "to", "the", "of", "a", "an", "by", "called", "named"]

/-- Every phrase of the values of a type, bound to the value's code. -/
def bindings {α : Type} [Coded α] (phrases : α → List Text) : List (Text × Text) :=
  Coded.all.flatMap fun a => (phrases a).map fun phrase => (phrase, code a)

/-- Words in order, bound to the multiples of `step` from `first` times `step` on. -/
def numbered (first step : Nat) (words : List Text) : List (Text × Nat) :=
  words.zipIdx.map fun (word, i) => (word, (first + i) * step)

/-- The vocabulary that holds before any configuration. -/
def english : Vocabulary where
  directions := .ofList (bindings englishDirections)
  objectNouns := .ofList (bindings englishEditorObjects ++ bindings englishCodeObjects)
  selectors := .ofList (bindings englishSelectors)
  suggestionQualifiers := .ofList (bindings englishSuggestionQualifiers)
  terminalActions := .ofList (bindings englishTerminalActions)
  numberWords := .ofList (numbered 0 1 englishUnits ++ numbered 2 10 englishTens)
  specialCharacters := .ofList (englishSpecialCharacters.map fun (p, r) => (p.toList, r.toList))
  exactTriggers := .ofList (bindings englishExactTriggers)
  parameterizedTriggers := .ofList (bindings englishParameterizedTriggers)
  fillerWords := englishFillerWords

end VoiceEdit.Vocabulary
