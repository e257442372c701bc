import VoiceEdit.Proofs.Buffer.Writing
import VoiceEdit.Proofs.Dictation.Contents
import VoiceEdit.Proofs.Session.Replay

/-!
# Dictated and spelled text

While text is dictated or spelled and no stop phrase is heard, the contents of the
utterances are written in order, each once, and nothing else is.

* `Session.contents`: the contents of some utterances.
* `handledBy_content`: what one utterance does.
* `handleAll_content`: what any number of them do.
* `writes_contents`: the text, the caret, the outcomes and the way back.
-/
namespace VoiceEdit.Session

open Program Dictation

variable {s : Session} {b : Buffer} {u : Text} {utterances : List Text}

/-- The contents of those among some utterances that have any, in order. -/
def contents (s : Session) (utterances : List Text) : List Text :=
  (utterances.filter (hasContent s.state.mode)).map (content s.vocabulary s.state)

/-- No stop phrase is heard in some utterances. -/
def Unstopped (s : Session) (utterances : List Text) : Prop :=
  ∀ u ∈ utterances, stopTransition? s.vocabulary s.isTolerant u = none

/-- The outcome of an utterance without a stop phrase. -/
def contentOutcome (s : Session) (u : Text) : Outcome :=
  if hasContent s.state.mode u then .success else emptyOutcome u

theorem contents_append (s : Session) (before rest : List Text) :
    s.contents (before ++ rest) = s.contents before ++ s.contents rest := by
  rw [contents, List.filter_append, List.map_append]
  rfl

/-! ## One utterance -/

/-- A focused buffer writes a content, and says so. -/
theorem run_write (hfocus : b.focused = true) (state : DictationState) (text : Text) :
    (write state text).run Buffer.editor b = (.staying state .success, b.replaceSelection text) := by
  have hanswer := Buffer.editor_focused hfocus (.replace text)
  rw [write, Program.run_bind]
  show (Interpretation.staying state (Outcome.ofCall (Buffer.editor (.replace text) b).1),
    (Buffer.editor (.replace text) b).2) = _
  rw [hanswer]
  rfl

/-- An utterance outside of commands keeps the state and writes its content, if any. -/
theorem handledBy_content (hmode : s.state.mode ≠ .command) (hfocus : b.focused = true)
    (hstop : stopTransition? s.vocabulary s.isTolerant u = none) :
    handledBy Buffer.editor (s, b) u =
      (s.settle u 0 (.staying s.state (s.contentOutcome u)), b.writeAll (s.contents [u])) := by
  rw [handledBy_eq, respond, interpret_eq_write hmode hstop, contentOutcome, contents]
  cases hu : hasContent s.state.mode u with
  | true =>
    rw [if_pos rfl, if_pos rfl, run_write hfocus, List.filter_cons_of_pos hu]
    rfl
  | false =>
    rw [if_neg Bool.false_ne_true, if_neg Bool.false_ne_true,
      List.filter_cons_of_neg (by rw [hu]; exact Bool.false_ne_true)]
    rfl

/-! ## Any number of utterances -/

/-- Utterances outside of commands change nothing of a session but its counts, and
write their contents. -/
theorem handleAll_content (hmode : s.state.mode ≠ .command) (hfocus : b.focused = true)
    (hunstopped : s.Unstopped utterances) :
    ∃ stats, handleAll Buffer.editor (s, b) utterances =
      ({ s with stats }, b.writeAll (s.contents utterances)) := by
  induction utterances generalizing s b with
  | nil => exact ⟨s.stats, rfl⟩
  | cons u rest ih =>
    obtain ⟨hstop, hrest⟩ := List.forall_mem_cons.1 hunstopped
    have hnext : afterUtterance Buffer.editor (s, b) u =
        ({ s with stats := s.stats.record s.state.mode (s.contentOutcome u) 0 },
          b.writeAll (s.contents [u])) := by
      rw [afterUtterance, handledBy_content hmode hfocus hstop]
      rfl
    have hfocused : (b.writeAll (s.contents [u])).focused = true := by
      rw [Buffer.focused_writeAll, hfocus]
    obtain ⟨stats, hall⟩ :=
      ih (s := { s with stats := s.stats.record s.state.mode (s.contentOutcome u) 0 }) hmode hfocused hrest
    have hcontents : s.contents (u :: rest) = s.contents [u] ++ s.contents rest :=
      contents_append s [u] rest
    refine ⟨stats, ?_⟩
    rw [handleAll_cons, hnext, hall, hcontents, Buffer.writeAll_append]
    rfl

/-- So does every first part of them, behind which the buffer can be written to. -/
theorem handleAll_content_before {before rest : List Text} (hmode : s.state.mode ≠ .command)
    (hfocus : b.focused = true) (hunstopped : s.Unstopped (before ++ rest)) :
    ∃ stats, handleAll Buffer.editor (s, b) before = ({ s with stats }, b.writeAll (s.contents before)) ∧
      (b.writeAll (s.contents before)).focused = true := by
  have hbefore : s.Unstopped before := fun u hu => hunstopped u (List.mem_append_left _ hu)
  obtain ⟨stats, hall⟩ := handleAll_content hmode hfocus hbefore
  exact ⟨stats, hall, by rw [Buffer.focused_writeAll, hfocus]⟩

/-- **Contents are written once and in order.** While text is dictated or spelled,
utterances without a stop phrase keep the mode and its flags. Their contents stand
side by side where the selection was, with the caret behind them; without any, the
buffer is as it was. Each utterance is a success and adds its content alone, or has
none and does nothing. And from any of them on, as many steps back as there are
contents lead to where the buffer stood before it. -/
theorem writes_contents (hb : b.Reachable) (hfocus : b.focused = true)
    (hmode : s.state.mode ≠ .command) (hunstopped : s.Unstopped utterances) :
    let after := handleAll Buffer.editor (s, b)
    let written := s.contents utterances
    (after utterances).1.state = s.state ∧
      (written = [] → (after utterances).2 = b) ∧
      (written ≠ [] →
        (after utterances).2.text =
          b.text.take b.flat.start ++ written.flatten ++ b.text.drop b.flat.finish ∧
        (after utterances).2.selection.isEmpty = true ∧
        (after utterances).2.flat.active = b.flat.start + written.flatten.length) ∧
      (∀ before u rest, utterances = before ++ u :: rest →
        let handled := handledBy Buffer.editor (after before) u
        handled.1.interpretation = .staying s.state (s.contentOutcome u) ∧
          handled.2 = (after before).2.writeAll (s.contents [u])) ∧
      ∀ before rest, utterances = before ++ rest →
        Buffer.Stands (after before).2
          (Buffer.times .undo (s.contents rest).length (after utterances).2) := by
  intro after written
  have hwell := hb.wellFormed
  obtain ⟨stats, hall⟩ := handleAll_content hmode hfocus hunstopped
  have hafter : (after utterances).2 = b.writeAll written := congrArg Prod.snd hall
  have hstate : (after utterances).1.state = s.state := congrArg (fun x => x.1.state) hall
  refine ⟨hstate, fun hnone => ?_, fun hsome => ?_, ?_, ?_⟩
  · rw [hafter, hnone]
    rfl
  · have hflat := Buffer.flat_writeAll hwell hsome
    have hactive := congrArg FlatText.active hflat
    have hanchor := congrArg FlatText.anchor hflat
    rw [hafter]
    refine ⟨congrArg FlatText.text hflat, ?_, hactive⟩
    refine (hwell.writeAll written).isEmpty_iff.2 ?_
    rw [hflat]
    exact (Nat.min_self _).trans (Nat.max_self _).symm
  · rintro before u rest rfl
    have hstop := hunstopped u (List.mem_append_right _ List.mem_cons_self)
    obtain ⟨stats', hpast, hfocused⟩ := handleAll_content_before hmode hfocus hunstopped
    have hhandled := handledBy_content (s := { s with stats := stats' }) hmode hfocused hstop
    simp only [after, hpast, hhandled]
    exact ⟨rfl, rfl⟩
  · rintro before rest rfl
    obtain ⟨stats', hpast, hfocused⟩ := handleAll_content_before hmode hfocus hunstopped
    have hstands : Buffer.Stands ((b.writeAll (s.contents before)).writeAll (s.contents rest))
        (after (before ++ rest)).2 := by
      rw [hafter, ← Buffer.writeAll_append, ← contents_append]
      exact .refl _
    simp only [after, hpast]
    exact hstands.times_undo hfocused

/-- Capitals spelled over a selection, with two utterances that hold no letter. -/
theorem writes_contents_spelled :
    ∃ (s : Session) (b : Buffer), s.state.mode = .spell ∧ b.text = "ab\ncd".toList ∧
      b.selectedText = "b\nc".toList ∧
      let utterances : List Text := ["hello world", " ", "?!", "take 2"]
      let after := (handleAll Buffer.editor (s, b) utterances).2
      s.contents utterances = ["HW".toList, "T2".toList] ∧ after.text = "aHWT2d".toList ∧
        after.flat.active = 5 ∧
        (handledBy Buffer.editor (handleAll Buffer.editor (s, b) ["hello world", " "])
          "?!").1.interpretation.outcome = .invalidArgument ∧
        (Buffer.times .undo 1 after).text = "aHWd".toList ∧
        (Buffer.times .undo 2 after).text = "ab\ncd".toList := by
  let s : Session := { Session.new .empty false with state := DictationState.initial.apply (.spell true) }
  let utterances : List Text := ["hello world", " ", "?!", "take 2"]
  have hb := (Buffer.Reachable.new "ab\ncd").call (.select ⟨0, 1⟩ ⟨1, 1⟩)
  have hunstopped : s.Unstopped utterances := by
    unfold Unstopped
    decide +kernel
  have hcontents : s.contents utterances = ["HW".toList, "T2".toList] := by decide +kernel
  have hlast : s.contents ["take 2"] = ["T2".toList] := by decide +kernel
  obtain ⟨-, -, hwritten, heach, hback⟩ :=
    writes_contents hb (by decide +kernel) (by decide : s.state.mode ≠ .command) hunstopped
  obtain ⟨htext, -, hactive⟩ := hwritten (by rw [hcontents]; decide)
  obtain ⟨hsilent, -⟩ := heach ["hello world", " "] "?!" ["take 2"] rfl
  have hone := (hback ["hello world", " ", "?!"] ["take 2"] rfl).lines
  have htwo := (hback [] utterances rfl).lines
  rw [hlast] at hone
  rw [hcontents] at htwo htext hactive
  refine ⟨s, _, rfl, by decide +kernel, by decide +kernel, hcontents, htext.trans (by decide +kernel),
    hactive.trans (by decide +kernel), ?_, ?_, ?_⟩
  · rw [hsilent]
    decide +kernel
  · exact (congrArg Text.joinLines hone).trans (by decide +kernel)
  · exact (congrArg Text.joinLines htwo).trans (by decide +kernel)

end VoiceEdit.Session
