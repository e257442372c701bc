import VoiceEdit.Editor.Basic

/-!
# Editors under observation

An editor behind a recorder keeps the list of the requests that acted on it, and
may be made to refuse one of them.

* `Recorded.editor`: the recorded editor; requests that only read pass unseen.
-/
namespace VoiceEdit

/-- A refusal planned for one of the acting requests, counted from 1. -/
structure PlannedFailure where
  number : Nat
  error : EditorError

/-- An editor's state with the acting requests made so far. -/
structure Recorded (σ : Type) where
  inner : σ
  requests : List Editor.Request

namespace Recorded

variable {σ : Type}

/-- An editor whose acting requests are recorded, and one of which may be
refused. -/
def editor (inner : Handler Editor.interface σ) (plan : Option PlannedFailure) :
    Handler Editor.interface (Recorded σ) := fun (q : Editor.Request) r =>
  if Editor.Request.isMutating q then
    let requests := r.requests ++ [q]
    match plan.filter fun p => p.number == requests.length with
    | some p => (.error p.error, { r with requests })
    | none => ((inner q r.inner).1, ⟨(inner q r.inner).2, requests⟩)
  else ((inner q r.inner).1, { r with inner := (inner q r.inner).2 })

end Recorded

end VoiceEdit
