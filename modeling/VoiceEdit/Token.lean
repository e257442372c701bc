import VoiceEdit.Code
import VoiceEdit.Vocabulary.Basic

/-!
# Tokens

A raw argument text becomes a typed token: a number, a canonical code of one of
four categories, or free text.

* `Token.classify`: numbers win over codes; a code that several categories share
  lands in the first of them in a fixed order.
* `combinationKey`: the kinds of some tokens as one name, such as
  `Number·ObjectNoun·Direction`.
-/
namespace VoiceEdit

/-- What a token is to the combination rules. -/
inductive TokenKind where
  | number | direction | objectNoun | selector | suggestionQualifier | unclassified
  deriving DecidableEq, Repr

/-- The name of a kind. -/
def TokenKind.shown : TokenKind → Text
  | number => "Number"
  | direction => "Direction"
  | objectNoun => "ObjectNoun"
  | selector => "Selector"
  | suggestionQualifier => "SuggestionQualifier"
  | unclassified => "Unclassified"

/-- What a token carries. -/
inductive TokenValue where
  | number (n : Nat)
  | code (code : Text)
  | text (text : Text)
  deriving DecidableEq, Repr

/-- A classified piece of an argument. -/
structure Token where
  kind : TokenKind
  value : TokenValue
  deriving DecidableEq, Repr

namespace Token

/-- The token of a number. -/
def ofNumber (n : Nat) : Token := ⟨.number, .number n⟩

/-- The token of a code of some kind. -/
def ofCode (kind : TokenKind) (code : Text) : Token := ⟨kind, .code code⟩

/-- The token of free text. -/
def ofText (text : Text) : Token := ⟨.unclassified, .text text⟩

/-- The number that a token carries. -/
def number? (t : Token) : Option Nat :=
  match t.value with
  | .number n => some n
  | _ => none

/-- The value of a coded type that a token's code names. -/
def coded? (α : Type) [Coded α] (t : Token) : Option α :=
  match t.value with
  | .code c => ofCode? c
  | _ => none

/-- The text of a token, whatever it carries. -/
def text (t : Token) : Text :=
  match t.value with
  | .number n => Text.ofNat n
  | .code c => c
  | .text t => t

/-- A token as diagnostics show it: `Number(3)`. -/
def shown (t : Token) : Text := t.kind.shown ++ "(" ++ t.text ++ ")"

/-- The categories in which a code is looked for, in order. -/
def codeKinds : List (Category × TokenKind) := [
  (.directions, .direction), (.objectNouns, .objectNoun), (.selectors, .selector),
  (.suggestionQualifiers, .suggestionQualifier)]

/-- The token of one raw argument text. -/
def classify (v : Vocabulary) (raw : Text) : Token :=
  match Text.decimal? raw with
  | some n => ofNumber n
  | none =>
    match codeKinds.find? fun (category, _) => v.hasCode category raw with
    | some (_, kind) => ofCode kind raw
    | none => ofText raw

end Token

/-- The kinds of a combination as one name. -/
def combinationKey (kinds : List TokenKind) : Text :=
  List.intercalate ['\u00b7'] (kinds.map TokenKind.shown)

/-- Tokens side by side, as explanations show them. -/
def showTokens (tokens : List Token) : Text := Text.joinWords (tokens.map Token.shown)

end VoiceEdit
