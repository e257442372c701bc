import VoiceEdit.Proofs.Program.Refusal

/-!
# Programs in sequence

Equations between programs: both sides ask for the same in the same order and come to the
same result, whatever they are answered.

* `bind_assoc`, `via_bind`: three programs in sequence, and two whose questions are answered
  by programs.
* `Never`: a program that does not come to some results, whatever it is answered.
* `Never.bind_congr`: what follows a program matters only for the results that it comes to.
-/
namespace VoiceEdit.Program

variable {I J : Interface} {α β γ : Type}

theorem bind_assoc (p : Program I α) (f : α → Program I β) (g : β → Program I γ) :
    (p.bind f).bind g = p.bind fun a => (f a).bind g := by
  induction p with
  | done a => rfl
  | ask q next ih =>
    simp only [bind]
    congr 1
    funext r
    exact ih r

/-- Who answers the questions of two programs in sequence answers those of the one and then
those of the other. -/
theorem via_bind (answer : (q : I.Request) → Program J (I.Reply q)) (p : Program I α)
    (f : α → Program I β) :
    (p.bind f).via answer = (p.via answer).bind fun a => (f a).via answer := by
  induction p with
  | done a => rfl
  | ask q next ih =>
    simp only [bind, via]
    rw [bind_assoc]
    congr 1
    funext r
    exact ih r

/-- A program that earns a claim earns a weaker one, and earns it by weaker answers. -/
theorem Earns.mono {counts counts' : (q : I.Request) → I.Reply q → Prop} {claims claims' : α → Prop}
    {p : Program I α} (hp : p.Earns counts claims) (hcounts : ∀ q r, counts q r → counts' q r)
    (hclaims : ∀ a, claims' a → claims a) : p.Earns counts' claims' := by
  induction p with
  | done a => exact mt (hclaims a) hp
  | ask q next ih =>
    intro r hr
    exact ih r (hp r (mt (hcounts q r) hr))

/-- A program comes to none of some results, whatever it is answered. -/
abbrev Never (claims : α → Prop) (p : Program I α) : Prop := p.Earns (fun _ _ => False) claims

theorem never_false (p : Program I α) : p.Never fun _ => False := by
  induction p with
  | done a => exact id
  | ask q next ih => exact fun r _ => ih r

/-- Two programs that agree on the results that a program comes to may follow it in each
other's place. -/
theorem Never.bind_congr {claims : α → Prop} {p : Program I α} {f g : α → Program I β}
    (hp : p.Never claims) (h : ∀ a, ¬ claims a → f a = g a) : p.bind f = p.bind g := by
  induction p with
  | done a => exact h a hp
  | ask q next ih =>
    simp only [bind]
    congr 1
    funext r
    exact ih r (hp r id)

end VoiceEdit.Program
