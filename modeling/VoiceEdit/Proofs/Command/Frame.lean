import VoiceEdit.Explanation
import VoiceEdit.Proofs.Buffer.Clipboard
import VoiceEdit.Proofs.Command.Requests
import VoiceEdit.Proofs.Command.TextKeeping

/-!
# What commands leave alone

A command that edits nothing leaves the text, and all that is remembered of it,
as they were; one that copies nothing leaves the clipboard. Both follow from what
the commands may ask for, so they hold of runs that fail half-way, of declined
and divided combinations and of ranges as of any other.

* `CommandName.edits`, `CommandName.copies`: the commands that do.
* `Buffer.clipboard_run`: programs that leave the clipboard.
* `Command.dispatch_frame`: what a transcript leaves alone.
-/
namespace VoiceEdit

open Editor Program

/-! ## Commands and their requests -/

/-- Whether a command edits the text or restores another one. -/
def CommandName.edits : CommandName → Bool
  | .new | .add | .snakeCase | .camelCase => true
  | .cut | .paste | .undo | .redo | .format | .delete => true
  | _ => false

/-- Whether a command copies the selection. -/
def CommandName.copies : CommandName → Bool
  | .copy | .cut => true
  | _ => false

theorem keepsText_of_reads {q : Request} (h : q.isMutating = false) : q.keepsText = true := by
  cases q <;> first | rfl | cases h

theorem keepsClipboard_of_reads {q : Request} (h : q.isMutating = false) :
    q.keepsClipboard = true := by
  cases q <;> first | rfl | cases h

theorem keepsText_of_selects {q : Request} (h : q.selects = true) : q.keepsText = true := by
  cases q with
  | run c => cases c <;> first | rfl | cases h
  | select anchor active => rfl
  | _ => cases h

theorem keepsClipboard_of_moves {q : Request} (h : q.moves = true) : q.keepsClipboard = true := by
  cases q with
  | run c => cases c <;> first | rfl | cases h
  | _ => rfl

theorem keepsClipboard_of_selects {q : Request} (h : q.selects = true) :
    q.keepsClipboard = true := by
  cases q with
  | run c => cases c <;> first | rfl | cases h
  | _ => rfl

namespace CommandName

variable {name : CommandName} {q : Request}

/-- The acts of a command that edits nothing keep the text. -/
theorem keepsText_of_acts (h : name.edits = false) (hq : name.acts q = true) :
    q.keepsText = true := by
  cases hgrammar : name.grammar with
  | none =>
    obtain ⟨c, rfl, hc⟩ := (Workbench.acts_run hgrammar q).1 hq
    cases name <;> first | cases h; done | cases hgrammar; done | cases hc <;> rfl
  | _ =>
    cases name with
    | go => exact keepsText_of_moves hq
    | select =>
      rcases Bool.or_eq_true_iff.1 hq with hmoves | hselects
      · exact keepsText_of_moves hmoves
      · exact keepsText_of_selects hselects
    | suggestion | terminal =>
      cases q with
      | run c => cases c <;> first | rfl | cases hq
      | _ => cases hq
    | new | add | snakeCase | camelCase => cases h
    | _ => cases hgrammar

/-- The acts of a command that copies nothing keep the clipboard. -/
theorem keepsClipboard_of_acts (h : name.copies = false) (hq : name.acts q = true) :
    q.keepsClipboard = true := by
  cases hgrammar : name.grammar with
  | none =>
    obtain ⟨c, rfl, hc⟩ := (Workbench.acts_run hgrammar q).1 hq
    cases name <;> first | cases h; done | cases hgrammar; done | cases hc <;> rfl
  | _ =>
    cases name with
    | go => exact keepsClipboard_of_moves hq
    | select =>
      rcases Bool.or_eq_true_iff.1 hq with hmoves | hselects
      · exact keepsClipboard_of_moves hmoves
      · exact keepsClipboard_of_selects hselects
    | suggestion | terminal | new | add | snakeCase | camelCase =>
      cases q with
      | run c => cases c <;> first | rfl | cases hq
      | _ => rfl
    | _ => cases hgrammar

theorem keepsText_of_may (h : name.edits = false) (hq : name.May q) : q.keepsText = true := by
  cases hmut : q.isMutating with
  | false => exact keepsText_of_reads hmut
  | true => exact keepsText_of_acts h (hq hmut)

theorem keepsClipboard_of_may (h : name.copies = false) (hq : name.May q) :
    q.keepsClipboard = true := by
  cases hmut : q.isMutating with
  | false => exact keepsClipboard_of_reads hmut
  | true => exact keepsClipboard_of_acts h (hq hmut)

end CommandName

/-! ## What is left of a buffer -/

namespace Buffer

variable {b : Buffer}

/-- A program that never copies leaves the clipboard alone. -/
theorem clipboard_run {α : Type} {p : EditorProgram α}
    (hp : p.Asks fun (q : Request) => q.keepsClipboard = true) :
    (p.run editor b).2.clipboard = b.clipboard := by
  have hstep : ∀ (q : Request) (b' : Buffer), q.keepsClipboard = true →
      b'.clipboard = b.clipboard → (editor q b').2.clipboard = b.clipboard :=
    fun q b' hq hb' => (clipboard_editor hq).trans hb'
  exact Asks.run hp hstep rfl

/-- Nothing of a text or of what is remembered of it has changed. -/
structure SameText (b b' : Buffer) : Prop where
  text : b'.text = b.text
  undo : b'.undo = b.undo
  redo : b'.redo = b.redo

theorem Kept.sameText {b' : Buffer} (h : Kept b b') : SameText b b' := ⟨h.text, h.undo, h.redo⟩

end Buffer

/-! ## Transcripts -/

namespace Command

/-- A transcript asks for the acts of the command it holds and for no others. -/
theorem asks_dispatch {may : Request → Prop} (v : Vocabulary) (transcript : Text)
    (h : ∀ name, (Explanation.of v transcript).command = some name → ∀ q, name.May q → may q) :
    (dispatch v transcript).Asks may := by
  unfold Explanation.of at h
  unfold dispatch
  cases htrigger : Trigger.find? v transcript with
  | none => trivial
  | some trigger =>
    cases hname : (ofCode? trigger.command : Option CommandName) with
    | none => simp only [hname]; trivial
    | some name =>
      simp only [hname]
      exact (confined_execute v name _).asks.mono (h name (by simp [htrigger, hname]))

/-- Only editing commands edit, and only `COPY` and `CUT` copy. -/
theorem dispatch_frame {b : Buffer} (h : b.Reachable) (v : Vocabulary) (transcript : Text) :
    let named := (Explanation.of v transcript).command
    let after := ((dispatch v transcript).run Buffer.editor b).2
    ((∀ name, named = some name → name.edits = false) → Buffer.SameText b after) ∧
      ((∀ name, named = some name → name.copies = false) → after.clipboard = b.clipboard) ∧
      ∀ tokens, Buffer.SameText b ((Movement.go tokens).run Buffer.editor b).2 ∧
        Buffer.SameText b ((Selecting.selectTokens tokens).run Buffer.editor b).2 := by
  have hsame : ∀ {α : Type} {p : EditorProgram α}, Gentle p →
      Buffer.SameText b (p.run Buffer.editor b).2 :=
    fun hp => (Buffer.kept_run hp h.wellFormed).1.sameText
  refine ⟨fun hedits => hsame ?_, fun hcopies => Buffer.clipboard_run ?_, fun tokens =>
    ⟨hsame ?_, hsame ?_⟩⟩
  · exact asks_dispatch v transcript fun name hname q => CommandName.keepsText_of_may (hedits name hname)
  · exact asks_dispatch v transcript fun name hname q =>
      CommandName.keepsClipboard_of_may (hcopies name hname)
  · exact (Movement.confined_go tokens).asks.mono fun q => CommandName.keepsText_of_may rfl
  · exact (Selecting.confined_selectTokens tokens).asks.mono fun q => CommandName.keepsText_of_may rfl

/-- A pass that moves first and then fails. -/
theorem dispatch_frame_halfWay :
    ∃ v b, Buffer.Reachable b ∧ b.undo ≠ [] ∧ b.clipboard ≠ [] ∧
      let run := (dispatch v "go down 9 banana").run Buffer.editor b
      run.1 = .ofOutcome .invalidArgument ∧ run.2.selection ≠ b.selection ∧
        Buffer.SameText b run.2 ∧ run.2.clipboard = b.clipboard := by
  have h := ((((Buffer.Reachable.new "ab\ncd").call (.insert "x\n")).call (.run .selectAll)).call
    (.run .copy)).call (.moveTo .fileStart)
  let v : Vocabulary :=
    { Vocabulary.empty with
      directions := .ofList [("down", "DOWN")]
      parameterizedTriggers := .ofList [("go", "GO")] }
  have hnamed : (Explanation.of v "go down 9 banana").command = some .go := by decide +kernel
  obtain ⟨hsame, hclipboard, -⟩ := dispatch_frame h v "go down 9 banana"
  refine ⟨v, _, h, by decide +kernel, by decide +kernel, by decide +kernel, by decide +kernel,
    hsame fun name hname => ?_, hclipboard fun name hname => ?_⟩
  · rw [hnamed] at hname
    cases hname
    rfl
  · rw [hnamed] at hname
    cases hname
    rfl

end Command

end VoiceEdit
