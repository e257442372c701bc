import VoiceEdit.Substitution
import VoiceEdit.Token

/-!
# Arguments of commands

The text after a trigger becomes a list of raw arguments: codes, numbers and
fragments of free text. Each command admits only the categories of its profile,
so that `for` stays a word where the cursor moves and becomes `FOR` where code
is generated.

* `Argument.raws`: the raw arguments of a text under a profile.
* `Argument.tokens`: the same, classified.
-/
namespace VoiceEdit

open Text

/-- Which object nouns a profile admits. -/
inductive ObjectFilter where
  | all | editorOnly | codeOnly
  deriving DecidableEq, Repr

/-- The categories of phrases that a command's arguments are read with. -/
structure Profile where
  categories : List Category
  objects : ObjectFilter
  deriving DecidableEq, Repr

namespace Profile

/-- Arguments of cursor movements. -/
def movement : Profile := ⟨[.directions, .objectNouns], .editorOnly⟩

/-- Arguments of selections. -/
def selection : Profile := ⟨[.directions, .objectNouns, .selectors], .editorOnly⟩

/-- Arguments of generated blocks of code. -/
def creation : Profile := ⟨[.objectNouns], .codeOnly⟩

/-- Arguments of code generated inside a line. -/
def addition : Profile := ⟨[.objectNouns], .all⟩

/-- Arguments about suggestions. -/
def suggestion : Profile := ⟨[.suggestionQualifiers], .all⟩

/-- Arguments about the terminal. -/
def terminal : Profile := ⟨[.terminalActions], .all⟩

/-- Whether a profile admits a code of a category. -/
def admits (p : Profile) (category : Category) (code : Text) : Bool :=
  if category = .objectNouns then
    match p.objects with
    | .all => true
    | .editorOnly => (ofCode? code : Option EditorObject).isSome
    | .codeOnly => (ofCode? code : Option CodeObject).isSome
  else true

/-- The phrases of a vocabulary that a profile admits, category by category,
and last the number words. -/
def phrases (p : Profile) (v : Vocabulary) : Substitution.Phrases :=
  let codes := p.categories.flatMap fun category =>
    ((v.phrases category).entries.filter fun e => p.admits category e.2).map
      fun e => (e.1, Replacement.code e.2)
  Substitution.phrasesOf (codes ++ Substitution.numberPhrases v)

end Profile

namespace Argument

/-- The argument of a fragment of free text: its words without leading filler
words, or nothing if no word is left. -/
def fragment (fillers : List Text) (words : List Text) : List Text :=
  let kept := words.dropWhile fun w => fillers.any fun f => sameAsciiLetters f w
  if kept.isEmpty then [] else [joinWords kept]

/-- The arguments of some pieces after the words `pending` of a fragment. -/
def gather (fillers : List Text) (pending : List Text) : List Piece → List Text
  | [] => fragment fillers pending
  | .word w :: rest => gather fillers (pending ++ [w]) rest
  | piece :: rest => fragment fillers pending ++ piece.text :: gather fillers [] rest

/-- The raw arguments of a text. -/
def raws (p : Profile) (v : Vocabulary) (text : Text) : List Text :=
  gather v.fillerWords [] (Substitution.substitute (p.phrases v) (Transcript.normalize text))

/-- The classified arguments of a text. -/
def tokens (p : Profile) (v : Vocabulary) (text : Text) : List Token :=
  (raws p v text).map (Token.classify v)

end Argument

end VoiceEdit
