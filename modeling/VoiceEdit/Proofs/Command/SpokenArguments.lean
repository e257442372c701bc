import VoiceEdit.Proofs.Command.LongestTrigger
import VoiceEdit.Proofs.Text.Offsets
import VoiceEdit.Proofs.Text.WordCasing

/-!
# The arguments of a trigger, as spoken

What follows a trigger is taken from the transcript in its spoken case, at the byte
offset where the trigger ends in lower case. Both transcripts being of one length does
not make that the same place: characters that shrink in lower case make up for others
that grow, and then words are lost or heard twice.

* `CutElsewhere`: the offset cuts the spoken transcript at another place.
* `lower_argumentText_iff`: what follows the trigger is kept exactly where it does not.
* `find?_arguments`: the same for the trigger of a transcript.
-/
namespace VoiceEdit.Trigger

open Text

/-! ## One candidate -/

/-- The transcript is as long as in lower case, and cut at the byte offset at which `head`
ends. -/
structure IsCut (spoken head a b : Text) : Prop where
  sameLength : utf8Length spoken = utf8Length (lower spoken)
  split : spoken = a ++ b
  offset : utf8Length a = utf8Length head

theorem IsCut.unique {spoken head a b a' b' : Text} (h : IsCut spoken head a b)
    (h' : IsCut spoken head a' b') : a = a' ∧ b = b' :=
  append_inj_of_utf8Length (h.split.symm.trans h'.split) (h.offset.trans h'.offset.symm)

/-- The transcript is cut at the byte offset at which `head` ends in lower case, but what
ends there in lower case is not `head`. -/
def CutElsewhere (spoken head : Text) : Prop :=
  ∃ a b, IsCut spoken head a b ∧ trimEnd (lower a) ≠ trimEnd head

theorem utf8Length_lower {t : Text} (hsigma : '\u03a3' ∉ t)
    (hsizes : ∀ c ∈ t, utf8Length (lowerChar c) = c.utf8Size) :
    utf8Length (lower t) = utf8Length t := by
  rw [lower_eq_flatMap hsigma]
  clear hsigma
  induction t with
  | nil => rfl
  | cons c rest ih =>
    obtain ⟨hc, hrest⟩ := List.forall_mem_cons.1 hsizes
    rw [List.flatMap_cons, utf8Length_append, hc, ih hrest, utf8Length_cons]

/-- Where no character changes its size in lower case, offsets agree. -/
theorem not_cutElsewhere {spoken head rest : Text} (hsigma : '\u03a3' ∉ spoken)
    (hsizes : ∀ c ∈ spoken, utf8Length (lowerChar c) = c.utf8Size)
    (hsplit : lower spoken = head ++ rest) : ¬ CutElsewhere spoken head := by
  rintro ⟨a, b, ⟨-, rfl, hoffset⟩, hne⟩
  have ha : utf8Length (lower a) = utf8Length a :=
    utf8Length_lower (fun h => hsigma (List.mem_append_left b h))
      (fun c hc => hsizes c (List.mem_append_left b hc))
  rw [lower_append hsigma] at hsplit
  exact hne (congrArg trimEnd (append_inj_of_utf8Length hsplit (ha.trans hoffset)).1)

variable {spoken : Text} {c : Candidate}

theorem argumentText_of_isCut {a b : Text} (h : IsCut spoken (c.before ++ c.phrase) a b) :
    argumentText spoken (lower spoken) c = trim b := by
  have hdrop : dropUtf8? (utf8Length c.before + utf8Length c.phrase) spoken = some b :=
    dropUtf8?_eq_some_iff.2 ⟨a, h.split, h.offset.trans (utf8Length_append _ _)⟩
  simp only [argumentText, if_pos h.sameLength, hdrop, Option.getD_some]

theorem argumentText_of_not_isCut (h : ¬ ∃ a b, IsCut spoken (c.before ++ c.phrase) a b) :
    argumentText spoken (lower spoken) c = trim c.after := by
  unfold argumentText
  split
  · rename_i hlength
    cases hdrop : dropUtf8? (utf8Length c.before + utf8Length c.phrase) spoken with
    | none => rfl
    | some b =>
      obtain ⟨a, hsplit, hoffset⟩ := dropUtf8?_eq_some_iff.1 hdrop
      exact absurd ⟨a, b, hlength, hsplit, hoffset.trans (utf8Length_append _ _).symm⟩ h
  · rfl

/-- In lower case the arguments are what follows the trigger, unless the offset cuts the
spoken transcript elsewhere. -/
theorem lower_argumentText_iff (hsigma : '\u03a3' ∉ spoken)
    (hsplit : lower spoken = c.before ++ c.phrase ++ c.after) :
    lower (argumentText spoken (lower spoken) c) = trim c.after ↔
      ¬ CutElsewhere spoken (c.before ++ c.phrase) := by
  by_cases hcut : ∃ a b, IsCut spoken (c.before ++ c.phrase) a b
  · obtain ⟨a, b, h⟩ := hcut
    have helsewhere : CutElsewhere spoken (c.before ++ c.phrase) ↔
        trimEnd (lower a) ≠ trimEnd (c.before ++ c.phrase) := by
      constructor
      · rintro ⟨a', b', h', hne⟩
        rw [(h.unique h').1]
        exact hne
      · exact fun hne => ⟨a, b, h, hne⟩
    have hparts : lower a ++ lower b = c.before ++ c.phrase ++ c.after := by
      rw [← hsplit, h.split, lower_append (h.split ▸ hsigma)]
    rw [argumentText_of_isCut h, lower_trim, helsewhere, not_not, trim_eq_trim_iff hparts]
  · have hlower : lower (trim c.after) = trim c.after := by
      refine lower_eq_self fun d hd => isLower_of_mem_lower (t := spoken) ?_
      rw [hsplit]
      exact List.mem_append_right _ (mem_of_mem_trim hd)
    rw [argumentText_of_not_isCut hcut]
    exact ⟨fun _ ⟨a, b, h, _⟩ => hcut ⟨a, b, h⟩, fun _ => hlower⟩

/-! ## The trigger of a transcript -/

/-- A candidate has the parts around the first place of its phrase. -/
theorem mem_candidates_parts {v : Vocabulary} {said : Text} {c : Candidate}
    (h : c ∈ candidates v said) :
    StandsBetween said c.phrase c.before c.after ∧ StandsFirstAt said c.phrase c.before.length := by
  obtain ⟨binding, -, hcandidate⟩ := List.mem_filterMap.1 h
  obtain ⟨⟨before, after⟩, hsplit, rfl⟩ := Option.map_eq_some_iff.1 hcandidate
  exact (splitAtPhrase?_eq_some_parts hsplit).2

theorem find?_eq_some_of_inexact {v : Vocabulary} {transcript : Text} {trigger : Trigger}
    (h : find? v transcript = some trigger) (hinexact : trigger.isExact = false) :
    let spoken := Transcript.collapse transcript
    ∃ c ∈ candidates v (lower spoken),
      trigger = ⟨c.phrase, c.command, argumentText spoken (lower spoken) c, false⟩ := by
  intro spoken
  have hsaid' : Transcript.normalize transcript = lower spoken := rfl
  by_cases hsaid : Transcript.normalize transcript = []
  · rw [find?_of_silent hsaid] at h
    exact (nomatch h)
  cases hexact : v.exactTriggers.get? (Transcript.normalize transcript) with
  | some command =>
    rw [find?_of_exact hsaid hexact] at h
    obtain rfl := Option.some.inj h
    exact (nomatch hinexact)
  | none =>
    rw [find?_of_inexact hsaid hexact, hsaid'] at h
    obtain ⟨c, hbest, rfl⟩ := Option.map_eq_some_iff.1 h
    exact ⟨c, (best_eq_some hbest).1, rfl⟩

/-- The arguments of a trigger in a transcript without capital sigmas: in lower case they
are what follows the trigger, except where offsets cut the spoken transcript elsewhere; they
stand there in the spoken case, or else in lower case. -/
theorem find?_arguments {v : Vocabulary} {transcript : Text} {trigger : Trigger}
    (hsigma : '\u03a3' ∉ transcript) (hfound : find? v transcript = some trigger)
    (hinexact : trigger.isExact = false) :
    let spoken := Transcript.collapse transcript
    ∃ before after, lower spoken = before ++ trigger.phrase ++ after ∧
      StandsFirstAt (lower spoken) trigger.phrase before.length ∧
      (lower trigger.arguments = trim after ↔ ¬ CutElsewhere spoken (before ++ trigger.phrase)) ∧
      (trigger.arguments = trim after ∨
        ∃ a b, IsCut spoken (before ++ trigger.phrase) a b ∧ trigger.arguments = trim b) ∧
      ((∀ c ∈ spoken, utf8Length (lowerChar c) = c.utf8Size) →
        lower trigger.arguments = trim after) := by
  have hspoken : '\u03a3' ∉ Transcript.collapse transcript := fun h =>
    (mem_of_mem_collapse h).elim (by decide) hsigma
  obtain ⟨c, hmem, rfl⟩ := find?_eq_some_of_inexact hfound hinexact
  dsimp only
  generalize Transcript.collapse transcript = spoken at hspoken hmem ⊢
  obtain ⟨hbetween, hfirst⟩ := mem_candidates_parts hmem
  have harguments := lower_argumentText_iff hspoken hbetween.split
  refine ⟨c.before, c.after, hbetween.split, hfirst, harguments, ?_, fun hsizes => ?_⟩
  · by_cases hcut : ∃ a b, IsCut spoken (c.before ++ c.phrase) a b
    · obtain ⟨a, b, hcut⟩ := hcut
      exact .inr ⟨a, b, hcut, argumentText_of_isCut hcut⟩
    · exact .inl (argumentText_of_not_isCut hcut)
  · exact harguments.2 (not_cutElsewhere hspoken hsizes hbetween.split)

/-- The case of what follows "go" is kept. -/
theorem find?_arguments_spokenCase :
    ∃ v : Vocabulary, find? v "Please GO Up." = some ⟨"go", "GO", "Up", false⟩ ∧
      ∃ before after, lower (Transcript.collapse "Please GO Up.") = before ++ "go" ++ after ∧
        lower "Up" = trim after := by
  let v : Vocabulary := { Vocabulary.empty with parameterizedTriggers := .ofList [("go", "GO")] }
  have hfound : find? v "Please GO Up." = some ⟨"go", "GO", "Up", false⟩ := by decide +kernel
  have hsizes : (Transcript.collapse "Please GO Up.").all
      (fun c => utf8Length (lowerChar c) == c.utf8Size) = true := by decide +kernel
  obtain ⟨before, after, hsplit, -, -, -, hkept⟩ := find?_arguments (by decide) hfound rfl
  exact ⟨v, hfound, before, after, hsplit,
    hkept fun c hc => beq_iff_eq.1 (List.all_eq_true.1 hsizes c hc)⟩

/-- Two letters that grow before "go" and two that shrink after it: a word is lost. -/
theorem find?_loses_word :
    ∃ (v : Vocabulary) (trigger : Trigger) (before after : Text),
      let transcript : Text := "\u0130\u0130 go a \u1e9e\u1e9e"
      let said := lower (Transcript.collapse transcript)
      '\u03a3' ∉ transcript ∧ find? v transcript = some trigger ∧ trigger.isExact = false ∧
        said = before ++ trigger.phrase ++ after ∧
        StandsFirstAt said trigger.phrase before.length ∧
        trim after = "a \u00df\u00df" ∧ lower trigger.arguments = "\u00df\u00df" := by
  let v : Vocabulary := { Vocabulary.empty with parameterizedTriggers := .ofList [("go", "GO")] }
  let before : Text := "i\u0307i\u0307 "
  let after : Text := " a \u00df\u00df"
  have hparts : splitAtPhrase? (lower (Transcript.collapse "\u0130\u0130 go a \u1e9e\u1e9e")) "go" =
      some (before, after) := by decide +kernel
  obtain ⟨-, hbetween, hfirst⟩ := splitAtPhrase?_eq_some_parts hparts
  exact ⟨v, ⟨"go", "GO", "\u1e9e\u1e9e", false⟩, before, after, by decide, by decide +kernel, rfl,
    hbetween.split, hfirst, by decide +kernel, by decide +kernel⟩

end VoiceEdit.Trigger
