import VoiceEdit.Outcome
import VoiceEdit.Program
import VoiceEdit.Token

/-!
# Combinations of tokens

A command's tokens are consumed from the left in windows of one to three. A rule
is bound to the kinds of a window in the table's canonical order, so that
`5 DOWN` and `DOWN 5` meet the same rule; the tokens left over are never
reordered. An action may decline its window because one token does not apply to
the others; then the first token in canonical order runs alone and the rest run
together.

* `RuleTable.windowSize`: how many tokens the next window takes.
* `RuleTable.resolve`: the program that asks for actions to be carried out,
  window by window, until one fails or the tokens are used up.
-/
namespace VoiceEdit

/-- What an action made of its tokens. -/
inductive Step where
  | done
  /-- One of the tokens does not apply to the others. -/
  | declined
  | failed (outcome : Outcome)
  deriving DecidableEq, Repr

/-- The rules of one command, by the kinds of the tokens that they take. -/
structure RuleTable (α : Type) where
  name : Text
  /-- The canonical order; a kind missing from it comes last. -/
  order : List TokenKind
  rules : List (List TokenKind × α)

/-- A combination that ran: its kinds and the number of its tokens. -/
structure Applied where
  key : List TokenKind
  consumed : Nat
  deriving DecidableEq, Repr

/-- How a list of tokens was resolved. -/
structure Resolution where
  outcome : Outcome
  applied : List Applied
  deriving DecidableEq, Repr

/-- An action to be carried out on some tokens. -/
structure Invocation (α : Type) where
  key : List TokenKind
  action : α
  tokens : List Token

/-- Programs that ask for actions to be carried out. -/
abbrev Invocation.interface (α : Type) : Interface := ⟨Invocation α, fun _ => Step⟩

/-! ## Stable sorting by rank -/

/-- Put an element in front of the first element that does not rank below it. -/
def insertRanked {β : Type} (rank : β → Nat) (b : β) : List β → List β
  | [] => [b]
  | c :: rest => if rank b ≤ rank c then b :: c :: rest else c :: insertRanked rank b rest

/-- Sort by rank; elements of one rank keep their order. -/
def sortRanked {β : Type} (rank : β → Nat) : List β → List β
  | [] => []
  | b :: rest => insertRanked rank b (sortRanked rank rest)

namespace RuleTable

variable {α : Type}

/-- The table without rules. -/
def empty (name : Text) (order : List TokenKind) : RuleTable α := ⟨name, order, []⟩

/-- The place of a kind in the canonical order. -/
def rank (t : RuleTable α) (kind : TokenKind) : Nat := t.order.idxOf kind

/-- Kinds in canonical order. -/
def canonicalKinds (t : RuleTable α) (kinds : List TokenKind) : List TokenKind :=
  sortRanked t.rank kinds

/-- Tokens in the canonical order of their kinds. -/
def canonical (t : RuleTable α) (tokens : List Token) : List Token :=
  sortRanked (fun token => t.rank token.kind) tokens

/-- Bind an action to kinds given in any order; it replaces the action that is
bound to the same kinds. -/
def bind (t : RuleTable α) (kinds : List TokenKind) (action : α) : RuleTable α :=
  { t with
    rules := t.rules.filter (fun r => r.1 != t.canonicalKinds kinds) ++
      [(t.canonicalKinds kinds, action)] }

/-- The action bound to some kinds. -/
def action? (t : RuleTable α) (kinds : List TokenKind) : Option α :=
  t.rules.lookup (t.canonicalKinds kinds)

/-- Whether an action is bound to some kinds. -/
def binds (t : RuleTable α) (kinds : List TokenKind) : Bool := (t.action? kinds).isSome

/-- Whether one kind may stand before another. -/
def inOrder (t : RuleTable α) (a b : TokenKind) : Bool := t.rank a ≤ t.rank b

/-- The names of the bound combinations, in ascending order. -/
def keys (t : RuleTable α) : List Text :=
  (t.rules.map fun r => combinationKey r.1).mergeSort fun a b => !decide (b < a)

/-- The number of tokens that the next window takes, by the kinds of the tokens
left. Three different kinds with a rule go together. Otherwise the first token
runs alone if the next two share another kind, if it is out of order before a
pair that is in order and has a rule, or if the next token is of its own kind;
in all other cases the first two go together. -/
def windowSize (t : RuleTable α) : List TokenKind → Nat
  | a :: b :: c :: _ =>
    if a ≠ b ∧ b ≠ c ∧ a ≠ c ∧ t.binds [a, b, c] then 3
    else if b = c ∧ a ≠ b then 1
    else if a ≠ b ∧ !t.inOrder a b ∧ t.inOrder b c ∧ t.binds [b, c] then 1
    else if a ≠ b then 2 else 1
  | [a, b] => if a ≠ b then 2 else 1
  | _ => 1

/-- Carry out what is bound to one token alone. -/
def runAlone (t : RuleTable α) (token : Token) :
    Program (Invocation.interface α) (Except Outcome (List Applied)) :=
  match t.action? [token.kind] with
  | none => .done (.error .invalidArgument)
  | some action =>
    .ask ⟨[token.kind], action, [token]⟩ fun
      | .done => .done (.ok [⟨[token.kind], 1⟩])
      | .declined => .done (.error .invalidArgument)
      | .failed outcome => .done (.error outcome)

/-- Carry out what is bound to some tokens in canonical order; if the action
declines them, the first runs alone and then the others together. -/
def runTogether (t : RuleTable α) :
    List Token → Program (Invocation.interface α) (Except Outcome (List Applied))
  | [] => .done (.error .invalidArgument)
  | token :: rest =>
    let kinds := (token :: rest).map Token.kind
    match t.action? kinds with
    | none => .done (.error .invalidArgument)
    | some action =>
      .ask ⟨kinds, action, token :: rest⟩ fun
        | .done => .done (.ok [⟨kinds, kinds.length⟩])
        | .failed outcome => .done (.error outcome)
        | .declined =>
          if rest.isEmpty then .done (.error .invalidArgument)
          else
            (t.runAlone token).bind fun
              | .error outcome => .done (.error outcome)
              | .ok first =>
                (t.runTogether rest).bind fun
                  | .error outcome => .done (.error outcome)
                  | .ok others => .done (.ok (first ++ others))

/-- Resolve tokens of which the first `covered` belong to the window before. A
window that fails ends the pass; what ran before it stands. -/
def resolveFrom (t : RuleTable α) (covered : Nat) :
    List Token → Program (Invocation.interface α) Resolution
  | [] => .done ⟨.success, []⟩
  | token :: rest =>
    match covered with
    | covered + 1 => t.resolveFrom covered rest
    | 0 =>
      let size := t.windowSize ((token :: rest).map Token.kind)
      (t.runTogether (t.canonical ((token :: rest).take size))).bind fun
        | .error outcome => .done ⟨outcome, []⟩
        | .ok applied =>
          (t.resolveFrom (size - 1) rest).bind fun others =>
            .done ⟨others.outcome, applied ++ others.applied⟩

/-- Resolve a command's tokens; a command without tokens is invalid. -/
def resolve (t : RuleTable α) (tokens : List Token) :
    Program (Invocation.interface α) Resolution :=
  if tokens.isEmpty then .done ⟨.invalidArgument, []⟩ else t.resolveFrom 0 tokens

end RuleTable

end VoiceEdit
