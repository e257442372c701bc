import VoiceEdit.Program

/-!
# Programs that are refused

Three properties of a program, for any answers at all. Each is kept when one
program goes on with another (`bind`) and when the questions of one are answered
by others (`via`).

* `Asks`: every request it may make has a property.
* `StopsAt`: a refusal is its last answer, and its result tells the refusal.
* `Earns`: it makes no claim unless some answer counted for it.

`StopsAt.of_runs` and `Earns.of_runs` read the last two off a trace; the answers
of a handler make one (`runs_trace`).
-/
namespace VoiceEdit.Program

variable {I J : Interface} {α β ε δ : Type}

/-! ## Three properties -/

/-- Every request that a program may make has a property. -/
def Asks (P : I.Request → Prop) : Program I α → Prop
  | done _ => True
  | ask q next => P q ∧ ∀ r, (next r).Asks P

/-- A refusal ends a program at once, with a result that tells it. -/
def StopsAt (refused : (q : I.Request) → I.Reply q → ε → Prop) (tells : ε → α → Prop) :
    Program I α → Prop
  | done _ => True
  | ask q next => ∀ r, (next r).StopsAt refused tells ∧
      ∀ e, refused q r e → ∃ a, next r = done a ∧ tells e a

/-- A program makes no claim before some reply has counted. -/
def Earns (counts : (q : I.Request) → I.Reply q → Prop) (claims : α → Prop) : Program I α → Prop
  | done a => ¬ claims a
  | ask q next => ∀ r, ¬ counts q r → (next r).Earns counts claims

section Bind

variable {P : I.Request → Prop} {refused : (q : I.Request) → I.Reply q → ε → Prop}
  {counts : (q : I.Request) → I.Reply q → Prop} {p : Program I α} {f : α → Program I β}

/-! ## One program after another -/

theorem Asks.bind (hp : p.Asks P) (hf : ∀ a, (f a).Asks P) : (p.bind f).Asks P := by
  induction p with
  | done a => exact hf a
  | ask q next ih => exact ⟨hp.1, fun r => ih r (hp.2 r)⟩

/-- What turns the result for a refusal into the next one at once. -/
theorem passes {told : ε → α} {told' : ε → β} (h : ∀ e, f (told e) = done (told' e)) :
    ∀ e a, a = told e → ∃ b, f a = done b ∧ b = told' e := by
  rintro e _ rfl
  exact ⟨told' e, h e, rfl⟩

/-- What follows must pass a refusal on without another request. -/
theorem StopsAt.bind {tells : ε → α → Prop} {tells' : ε → β → Prop} (hp : p.StopsAt refused tells)
    (hpass : ∀ e a, tells e a → ∃ b, f a = done b ∧ tells' e b)
    (hf : ∀ a, (f a).StopsAt refused tells') : (p.bind f).StopsAt refused tells' := by
  induction p with
  | done a => exact hf a
  | ask q next ih =>
    intro r
    obtain ⟨hr, hlast⟩ := hp r
    refine ⟨ih r hr, fun e he => ?_⟩
    obtain ⟨a, ha, htells⟩ := hlast e he
    obtain ⟨b, hb, htells'⟩ := hpass e a htells
    refine ⟨b, ?_, htells'⟩
    show (next r).bind f = done b
    rw [ha]
    exact hb

/-- What follows must earn its claim where the first program made none. -/
theorem Earns.bind {claims : α → Prop} {claims' : β → Prop} (hp : p.Earns counts claims)
    (hf : ∀ a, ¬ claims a → (f a).Earns counts claims') : (p.bind f).Earns counts claims' := by
  induction p with
  | done a => exact hf a hp
  | ask q next ih => exact fun r hr => ih r (hp r hr)

end Bind

section Via

variable {P : I.Request → Prop} {p : Program I α} {answer : (q : I.Request) → Program J (I.Reply q)}

/-! ## One program for the questions of another -/

/-- The answering programs turn a refusal `e` into the refusal `g e`. -/
theorem StopsAt.via {refused : (q : I.Request) → I.Reply q → ε → Prop} {tells : ε → α → Prop}
    {refused' : (q : J.Request) → J.Reply q → δ → Prop} {g : δ → ε} (hasks : p.Asks P)
    (hp : p.StopsAt refused tells)
    (hanswer : ∀ q, P q → (answer q).StopsAt refused' fun e r => refused q r (g e)) :
    (p.via answer).StopsAt refused' fun e => tells (g e) := by
  induction p with
  | done a => trivial
  | ask q next ih =>
    refine (hanswer q hasks.1).bind (fun e r hr => ?_) fun r => ih r (hasks.2 r) (hp r).1
    obtain ⟨a, ha, htells⟩ := (hp r).2 (g e) hr
    exact ⟨a, by rw [ha]; rfl, htells⟩

theorem Earns.via {counts : (q : I.Request) → I.Reply q → Prop} {claims : α → Prop}
    {counts' : (q : J.Request) → J.Reply q → Prop} (hasks : p.Asks P) (hp : p.Earns counts claims)
    (hanswer : ∀ q, P q → (answer q).Earns counts' (counts q)) :
    (p.via answer).Earns counts' claims := by
  induction p with
  | done a => exact hp
  | ask q next ih =>
    exact (hanswer q hasks.1).bind fun r hr => ih r (hasks.2 r) (hp r hr)

end Via

/-! ## Traces -/

variable {p : Program I α} {events : List (Event I)} {a : α}

/-- The events of a program that a handler answers. -/
def trace {σ : Type} (handler : Handler I σ) : Program I α → σ → List (Event I)
  | done _, _ => []
  | ask q next, s => ⟨q, (handler q s).1⟩ :: (next (handler q s).1).trace handler (handler q s).2

theorem runs_trace {σ : Type} (handler : Handler I σ) (p : Program I α) (s : σ) :
    p.Runs (p.trace handler s) (p.run handler s).1 := by
  induction p generalizing s with
  | done a => exact .done a
  | ask q next ih => exact .ask (ih _ _)

/-- A refusal is the last event, and the result tells it. -/
theorem StopsAt.of_runs {refused : (q : I.Request) → I.Reply q → ε → Prop} {tells : ε → α → Prop}
    (hp : p.StopsAt refused tells) (h : p.Runs events a) {before after : List (Event I)}
    {q : I.Request} {r : I.Reply q} {e : ε} (hevents : events = before ++ ⟨q, r⟩ :: after)
    (hr : refused q r e) : after = [] ∧ tells e a := by
  -- the refusal is the first answer, or one in the rest of the run
  induction h generalizing before with
  | done a => exact absurd hevents (by simp)
  | @ask q' next r' events a rest ih =>
    cases before with
    | nil =>
      obtain ⟨hevent, rfl⟩ := List.cons_eq_cons.1 hevents
      cases hevent
      obtain ⟨b, hb, htells⟩ := (hp r).2 e hr
      rw [hb] at rest
      cases rest
      exact ⟨rfl, htells⟩
    | cons event before => exact ih (hp r').1 (List.cons_eq_cons.1 hevents).2

/-- A claim is made only after an answer that counted. -/
theorem Earns.of_runs {counts : (q : I.Request) → I.Reply q → Prop} {claims : α → Prop}
    (hp : p.Earns counts claims) (h : p.Runs events a) (ha : claims a) :
    ∃ event ∈ events, counts event.1 event.2 := by
  induction h with
  | done a => exact absurd ha hp
  | @ask q next r events a rest ih =>
    by_cases hr : counts q r
    · exact ⟨⟨q, r⟩, List.mem_cons_self, hr⟩
    · obtain ⟨event, hmem, hcounts⟩ := ih (hp r hr) ha
      exact ⟨event, List.mem_cons_of_mem _ hmem, hcounts⟩

end VoiceEdit.Program
