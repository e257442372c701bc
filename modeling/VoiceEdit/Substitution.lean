import VoiceEdit.Transcript
import VoiceEdit.Vocabulary.Basic

/-!
# Phrases replaced by what they stand for

A text is read word by word. Where phrases start, the one with the most words is
replaced by what it stands for; a word of decimal digits becomes a number; every
other word stays. Numbers next to each other then merge.

* `substitute`: the pieces of a text, numbers merged.
* `mergeNumbers`: `20` to `90` in tens absorb a following `1` to `9`; all other
  neighbours are written one after the other.
-/
namespace VoiceEdit

open Text Transcript

/-- A part of a text after substitution. -/
inductive Piece where
  | code (code : Text)
  | number (digits : Text)
  | special (replacement : Text)
  | word (word : Text)
  deriving DecidableEq, Repr

/-- What a phrase stands for. -/
inductive Replacement where
  | code (code : Text)
  | number (n : Nat)
  | special (replacement : Text)
  deriving DecidableEq, Repr

/-- The text of a piece. -/
def Piece.text : Piece → Text
  | code t | number t | special t | word t => t

/-- The piece that a replacement becomes. -/
def Replacement.piece : Replacement → Piece
  | code c => .code c
  | number n => .number (Text.ofNat n)
  | special s => .special s

namespace Substitution

/-- Phrases as lists of words, in the order in which equal phrases take
precedence. -/
abbrev Phrases := List (List Text × Replacement)

/-- The words of a phrase as they are compared. -/
def phraseWords (phrase : Text) : List Text := (words phrase).map lower

/-- Bindings as lists of words; phrases without a word are left out. -/
def phrasesOf (bindings : List (Text × Replacement)) : Phrases :=
  (bindings.map fun b => (phraseWords b.1, b.2)).filter fun p => !p.1.isEmpty

/-- The number phrases of a vocabulary. -/
def numberPhrases (v : Vocabulary) : List (Text × Replacement) :=
  v.numberWords.entries.map fun e => (e.1, .number e.2)

/-- A spoken word as it is compared with the words of phrases. -/
def wordKey (word : Text) : Text := dropTrailingMarks (lower word)

/-- Of the phrases that start some words, the first among those with the most
words: the count of its words, and what it stands for. -/
def longestMatch (phrases : Phrases) (keys : List Text) : Option (Nat × Replacement) :=
  phrases.foldl (fun best (phrase, replacement) =>
    if phrase.isPrefixOf keys && best.all (fun b => b.1 < phrase.length) then
      some (phrase.length, replacement)
    else best) none

/-- A word at which no phrase starts. -/
def plainPiece (word : Text) : Piece :=
  if isDecimal (wordKey word) then .number (wordKey word) else .word word

/-- The pieces of some words, of which the first `covered` belong to the phrase
before them. -/
def scan (phrases : Phrases) (covered : Nat) : List Text → List Piece
  | [] => []
  | word :: rest =>
    match covered with
    | covered + 1 => scan phrases covered rest
    | 0 =>
      match longestMatch phrases ((word :: rest).map wordKey) with
      | some (count, replacement) => replacement.piece :: scan phrases (count - 1) rest
      | none => plainPiece word :: scan phrases 0 rest

/-- Whether digits read as 20, 30, … or 90. -/
def isTens (digits : Text) : Bool :=
  match decimal? digits with
  | some n => 20 ≤ n && n ≤ 90 && n % 10 == 0
  | none => false

/-- Whether digits read as 1 to 9. -/
def isUnit (digits : Text) : Bool :=
  match decimal? digits with
  | some n => 1 ≤ n && n ≤ 9
  | none => false

/-- Two neighbouring numbers as one. -/
def mergeDigits (before digits : Text) : Text :=
  if isTens before && isUnit digits then before.dropLast ++ digits else before ++ digits

/-- Merge numbers into the number before them, from the left; `number` is the
number just read, if any. -/
def mergeAfter (number : Option Text) : List Piece → List Piece
  | [] => (number.map Piece.number).toList
  | .number digits :: rest =>
    mergeAfter (some ((number.map (mergeDigits · digits)).getD digits)) rest
  | piece :: rest => (number.map Piece.number).toList ++ piece :: mergeAfter none rest

/-- Pieces with neighbouring numbers merged. -/
def mergeNumbers (pieces : List Piece) : List Piece := mergeAfter none pieces

/-- The pieces of a text under some phrases. -/
def substitute (phrases : Phrases) (text : Text) : List Piece :=
  mergeNumbers (scan phrases 0 (words text))

end Substitution

end VoiceEdit
