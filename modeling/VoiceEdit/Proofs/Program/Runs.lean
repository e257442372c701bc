import VoiceEdit.Proofs.Program.Refusal

/-!
# Taking runs apart

A run of a program is taken apart along the program: a program that is done has
asked nothing, one that asks has its first answer in front, and a program that
goes on with another has the two runs one after the other.

* `runs_bind_iff`: a run of `p.bind f` is a run of `p` and one of `f`; `run_bind` and
  `trace_bind` say so of the run by a handler.
* `run_via`: a program whose questions are answered by programs is run by running
  these.
* `Asks.of_mem_trace`: what a handler is asked is what the program may ask.
* `Asks.run`: what all requests of a program keep, its run keeps.
-/
namespace VoiceEdit.Program

variable {I J : Interface} {α β σ : Type} {events : List (Event I)}

theorem runs_done_iff {a b : α} : (done a : Program I α).Runs events b ↔ events = [] ∧ b = a := by
  constructor
  · intro h
    cases h
    exact ⟨rfl, rfl⟩
  · rintro ⟨rfl, rfl⟩
    exact .done b

theorem runs_ask_iff {q : I.Request} {next : I.Reply q → Program I α} {a : α} :
    (ask q next).Runs events a ↔
      ∃ r rest, events = ⟨q, r⟩ :: rest ∧ (next r).Runs rest a := by
  constructor
  · intro h
    cases h with
    | ask rest => exact ⟨_, _, rfl, rest⟩
  · rintro ⟨r, rest, rfl, h⟩
    exact .ask h

/-- A run of a program that goes on is a run of its first part, then one of what
follows the result of that part. -/
theorem runs_bind_iff {p : Program I α} {f : α → Program I β} {b : β} :
    (p.bind f).Runs events b ↔
      ∃ before after a, events = before ++ after ∧ p.Runs before a ∧ (f a).Runs after b := by
  constructor
  · intro h
    induction p generalizing events with
    | done a => exact ⟨[], events, a, rfl, .done a, h⟩
    | ask q next ih =>
      obtain ⟨r, rest, rfl, hrest⟩ := runs_ask_iff.1 h
      obtain ⟨before, after, a, rfl, hp, hf⟩ := ih r hrest
      exact ⟨⟨q, r⟩ :: before, after, a, rfl, .ask hp, hf⟩
  · rintro ⟨before, after, a, rfl, hp, hf⟩
    induction hp with
    | done a => exact hf
    | ask _ ih => exact .ask (ih hf)

theorem run_bind (handler : Handler I σ) (p : Program I α) (f : α → Program I β) (s : σ) :
    (p.bind f).run handler s = (f (p.run handler s).1).run handler (p.run handler s).2 := by
  induction p generalizing s with
  | done a => rfl
  | ask q next ih => exact ih _ _

theorem trace_bind (handler : Handler I σ) (p : Program I α) (f : α → Program I β) (s : σ) :
    (p.bind f).trace handler s =
      p.trace handler s ++ (f (p.run handler s).1).trace handler (p.run handler s).2 := by
  induction p generalizing s with
  | done a => rfl
  | ask q next ih => exact congrArg (List.cons _) (ih _ _)

/-- A chain goes on from where its first part ends, unless that part was refused. -/
theorem run_chain {ε : Type} (handler : Handler I σ) (x : ExceptT ε (Program I) α)
    (f : α → ExceptT ε (Program I) β) (s : σ) :
    Program.run handler (x >>= f).run s =
      match Program.run handler x.run s with
      | (.ok a, s) => Program.run handler (f a).run s
      | (.error e, s) => (.error e, s) := by
  refine (run_bind handler x.run (ExceptT.bindCont f) s).trans ?_
  rcases Program.run handler x.run s with ⟨r, s'⟩
  cases r <;> rfl

/-- To answer by programs is to have these programs run by whoever answers them. -/
theorem run_via (handler : Handler J σ) (answer : (q : I.Request) → Program J (I.Reply q))
    (p : Program I α) (s : σ) :
    (p.via answer).run handler s = p.run (fun q s => (answer q).run handler s) s := by
  induction p generalizing s with
  | done a => rfl
  | ask q next ih =>
    rw [via, run_bind]
    exact ih _ _

/-- An event of a program that a handler answers is a question that the program
may ask, with an answer of that handler. -/
theorem Asks.of_mem_trace {P : I.Request → Prop} {p : Program I α} (hp : p.Asks P)
    {handler : Handler I σ} {s : σ} {e : Event I} (he : e ∈ p.trace handler s) :
    P e.1 ∧ ∃ s, e.2 = (handler e.1 s).1 := by
  induction p generalizing s with
  | done a => exact absurd he List.not_mem_nil
  | ask q next ih =>
    rcases List.mem_cons.1 he with rfl | he
    · exact ⟨hp.1, s, rfl⟩
    · exact ih _ (hp.2 _) he

theorem Asks.mono {P Q : I.Request → Prop} {p : Program I α} (hp : p.Asks P)
    (h : ∀ q, P q → Q q) : p.Asks Q := by
  induction p with
  | done a => trivial
  | ask q next ih => exact ⟨h q hp.1, fun r => ih r (hp.2 r)⟩

/-- What a program may ask is what the programs may ask that answer its questions. -/
theorem Asks.via {P : I.Request → Prop} {Q : J.Request → Prop} {p : Program I α}
    {answer : (q : I.Request) → Program J (I.Reply q)} (hp : p.Asks P)
    (hanswer : ∀ q, P q → (answer q).Asks Q) : (p.via answer).Asks Q := by
  induction p with
  | done a => trivial
  | ask q next ih => exact (hanswer q hp.1).bind fun r => ih r (hp.2 r)

/-- What every request of a program keeps, a run of the program keeps. -/
theorem Asks.run {P : I.Request → Prop} {p : Program I α} (hp : p.Asks P) {handler : Handler I σ}
    {Keeps : σ → Prop} (hstep : ∀ q s, P q → Keeps s → Keeps (handler q s).2) {s : σ}
    (hs : Keeps s) : Keeps (p.run handler s).2 := by
  induction p generalizing s with
  | done a => exact hs
  | ask q next ih => exact ih _ (hp.2 _) (hstep q s hp.1 hs)

end VoiceEdit.Program
