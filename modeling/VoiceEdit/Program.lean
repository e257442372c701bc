/-!
# Programs that ask

A program is a finite computation that asks questions of an interface and goes
on with the answers. It says nothing of who answers: the same program runs on a
buffer, on an editor that fails on purpose, or on paper as a list of questions
and answers.

* `Program.run`: a program answered by a handler with a state.
* `Program.runIn`: the same in a monad.
* `Program.via`: a program whose questions are answered by other programs.
* `Program.Runs`: the questions and answers that lead a program to a result, for
  any answers at all.
-/
namespace VoiceEdit

/-- What may be asked, and what kind of answer each question has. -/
structure Interface where
  Request : Type
  Reply : Request → Type

/-- A computation that asks questions of an interface. -/
inductive Program (I : Interface) (α : Type) where
  | done (value : α)
  | ask (request : I.Request) (next : I.Reply request → Program I α)

/-- Who answers questions, with a state of its own. -/
abbrev Handler (I : Interface) (σ : Type) : Type := (q : I.Request) → σ → I.Reply q × σ

namespace Program

variable {I J : Interface} {α β σ : Type}

/-- Go on with the result of a program. -/
def bind : Program I α → (α → Program I β) → Program I β
  | done a, f => f a
  | ask q next, f => ask q fun r => (next r).bind f

instance : Monad (Program I) where
  pure := done
  bind := bind

/-- Ask one question. -/
def request (q : I.Request) : Program I (I.Reply q) := ask q done

/-- The result of a program and the state in which its handler is left. -/
def run (handler : Handler I σ) : Program I α → σ → α × σ
  | done a, s => (a, s)
  | ask q next, s => (next (handler q s).1).run handler (handler q s).2

/-- The result of a program whose questions are answered in a monad, from a
state. -/
def runIn {m : Type → Type} [Monad m] (answer : (q : I.Request) → σ → m (I.Reply q × σ)) :
    Program I α → σ → m (α × σ)
  | done a, s => pure (a, s)
  | ask q next, s => do
    let (r, s) ← answer q s
    (next r).runIn answer s

/-- A program with every question answered by a program of another interface. -/
def via (answer : (q : I.Request) → Program J (I.Reply q)) : Program I α → Program J α
  | done a => done a
  | ask q next => (answer q).bind fun r => (next r).via answer

/-- A question together with its answer. -/
abbrev Event (I : Interface) : Type := (q : I.Request) × I.Reply q

/-- A program asks these questions in this order, is given these answers and
ends with this result. -/
inductive Runs : Program I α → List (Event I) → α → Prop
  | done (a : α) : Runs (done a) [] a
  | ask {q : I.Request} {next : I.Reply q → Program I α} {r : I.Reply q}
      {events : List (Event I)} {a : α} (rest : Runs (next r) events a) :
      Runs (ask q next) (⟨q, r⟩ :: events) a

end Program

end VoiceEdit
