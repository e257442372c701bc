import VoiceEdit.Proofs.Buffer.Timeline
import VoiceEdit.Proofs.Command.Movement
import VoiceEdit.Proofs.Program.Runs

/-!
# Programs that leave the text alone

Most requests read or move and change no text. A program that makes no others
leaves the text of a buffer and everything remembered of it as they were.

* `Request.keepsText`: the requests that neither edit nor go back or forth.
* `Gentle`: a program that makes no others.
* `Buffer.kept_run`: what it leaves of a buffer.
* `Movement.gentle_go`: moving the cursor is such a program, for any tokens.
-/
namespace VoiceEdit

open Editor Program

/-! ## Requests and programs -/

/-- Whether a command neither edits a text nor restores another one. -/
def EditorCommand.keepsText : EditorCommand → Bool
  | .cut | .paste | .delete | .format | .undo | .redo => false
  | _ => true

/-- Whether a request neither edits a text nor restores another one. -/
def Editor.Request.keepsText : Request → Bool
  | .insert _ | .replace _ => false
  | .run c => c.keepsText
  | _ => true

theorem keepsText_of_moves {q : Request} (h : q.moves = true) : q.keepsText = true := by
  cases q with
  | insert t => cases h
  | replace t => cases h
  | run c =>
    cases c with
    | cut | paste | delete | format | undo | redo => cases h
    | _ => rfl
  | _ => rfl

variable {α : Type}

/-- A program that makes only requests that keep the text. -/
def Gentle (p : EditorProgram α) : Prop := p.Asks fun (q : Request) => q.keepsText = true

theorem gentle_done (a : α) : Gentle (.done a) := trivial

theorem gentle_step {q : Request} (h : q.keepsText = true) : Gentle (Step.ofAction (call q)) := by
  refine ⟨h, fun r => ?_⟩
  cases r <;> trivial

/-- A resolution is gentle if the actions of its table are. -/
theorem RuleTable.gentle_carryOut {t : RuleTable TokenAction}
    (ht : t.All fun action => ∀ tokens, Gentle (action tokens)) (tokens : List Token) :
    Gentle (t.carryOut tokens) :=
  (asks_resolve tokens).via fun i ⟨_, hi⟩ => ht _ hi i.tokens

/-! ## What is left of a buffer -/

namespace Buffer

variable {b : Buffer}

theorem isEdit_of_keepsText {q : Request} (h : q.keepsText = true) : b.isEdit q = false := by
  cases q with
  | insert t => cases h
  | replace t => cases h
  | run c =>
    cases c with
    | cut | paste | delete | format => cases h
    | _ => rfl
  | _ => rfl

/-- A gentle program keeps the text, the focus and all that is remembered. -/
theorem kept_run {p : EditorProgram α} (hp : Gentle p) (h : b.WellFormed) :
    Kept b (p.run editor b).2 ∧ (p.run editor b).2.WellFormed := by
  have hstep : ∀ (q : Request) (b' : Buffer), q.keepsText = true → Kept b b' ∧ b'.WellFormed →
      Kept b (editor q b').2 ∧ (editor q b').2.WellFormed := by
    rintro q b' hq ⟨hkept, hwell⟩
    have hundo : q ≠ .run .undo := by rintro rfl; cases hq
    have hredo : q ≠ .run .redo := by rintro rfl; cases hq
    exact ⟨hkept.trans (kept_editor hwell (isEdit_of_keepsText hq) hundo hredo),
      wellFormed_editor hwell q⟩
  exact Asks.run hp hstep ⟨.refl b, h⟩

end Buffer

/-! ## Moving the cursor -/

namespace Movement

theorem MovesOnce.gentle {p : EditorProgram Step} (h : MovesOnce p) : Gentle p := by
  cases h with
  | declined => exact gentle_done Step.declined
  | invalid => exact gentle_done (Step.failed .invalidArgument)
  | request q hq => exact gentle_step (keepsText_of_moves hq)

/-- Moving the cursor changes no text, whatever the tokens. -/
theorem gentle_go (tokens : List Token) : Gentle (go tokens) :=
  (RuleTable.gentle_carryOut (fun r hr tokens => (movesOnce_table r hr tokens).gentle) tokens).bind
    fun _ => trivial

end Movement

end VoiceEdit
