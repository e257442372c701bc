import VoiceEdit.Command.Execution
import VoiceEdit.Proofs.Command.SpokenArguments
import VoiceEdit.Proofs.Substitution.Segmentation
import VoiceEdit.Proofs.Text.NumberLast

/-!
# Commands with a number at the end

A vocabulary without digits does not see a number at the end of a transcript: the
trigger is the one of the words in front, the arguments are theirs and the number.

* `Vocabulary.Numberless`: no digit stands in a trigger, and no code is a number.
* `find?_number_last`: the trigger and what follows it.
* `scan_concat`, `tokens_number_last`: the pieces and the tokens of arguments that
  end in a number.
* `dispatch_number_last`: the command that is run, and its tokens.
-/
namespace VoiceEdit

open Text

/-- No digit stands in a trigger, and no code is a number. -/
structure Vocabulary.Numberless (v : Vocabulary) : Prop where
  exactTriggers : ∀ e ∈ v.exactTriggers.entries, ∀ c ∈ e.1, c.isDigit = false
  parameterizedTriggers : ∀ e ∈ v.parameterizedTriggers.entries, IsNumberless e.1
  codes : ∀ category, ∀ code ∈ (v.phrases category).values, isDecimal code = false

variable {v : Vocabulary} {ws : List Text} {d : Text}

/-! ## The trigger -/

namespace Trigger

/-- A candidate with a text behind what follows it. -/
def Candidate.followedBy (d : Text) (c : Candidate) : Candidate := { c with after := c.after ++ d }

theorem Candidate.beats_followedBy (d : Text) (a b : Candidate) :
    (a.followedBy d).beats (b.followedBy d) = a.beats b := rfl

/-- What follows the candidates does not decide between them. -/
theorem best_followedBy (d : Text) (candidates : List Candidate) :
    best (candidates.map (Candidate.followedBy d)) = (best candidates).map (Candidate.followedBy d) := by
  cases candidates with
  | nil => rfl
  | cons b rest =>
    induction rest generalizing b with
    | nil => rfl
    | cons c rest ih =>
      rw [best_cons_cons, ← ih, List.map_cons, List.map_cons, List.map_cons, best_cons_cons,
        Candidate.beats_followedBy]
      split <;> rfl

theorem candidates_number_last (hv : v.Numberless) (hd : IsDigits d) :
    candidates v (spaced ws ++ d) =
      (candidates v (spaced ws)).map (Candidate.followedBy d) := by
  rw [candidates, candidates, List.map_filterMap]
  refine List.filterMap_congr fun e he => ?_
  rw [candidate?, candidate?, splitAtPhrase?_append_digits (hv.parameterizedTriggers e he) hd,
    Option.map_map, Option.map_map]
  rfl

theorem exactTriggers_number_last (hv : v.Numberless) (hd : isDecimal d = true) (t : Text) :
    v.exactTriggers.get? (t ++ d) = none := by
  obtain ⟨hne, hdigits⟩ := isDecimal_iff.1 hd
  obtain ⟨c, rest, rfl⟩ := List.exists_cons_of_ne_nil hne
  refine Option.eq_none_iff_forall_ne_some.2 fun command hbound => ?_
  have hmem := (PhraseTable.get?_eq_some_iff _ _ _).1 hbound
  have hnot := hv.exactTriggers _ hmem c (List.mem_append_right t List.mem_cons_self)
  rw [hdigits c List.mem_cons_self] at hnot
  cases hnot

/-- In a transcript without upper case the arguments are what follows the trigger. -/
theorem argumentText_of_lower {said : Text} {c : Candidate} (hlower : lower said = said)
    (hsplit : said = c.before ++ c.phrase ++ c.after) : argumentText said said c = trim c.after := by
  have hcut : IsCut said (c.before ++ c.phrase) (c.before ++ c.phrase) c.after :=
    ⟨by rw [hlower], hsplit, rfl⟩
  have harguments := argumentText_of_isCut hcut
  rwa [hlower] at harguments

/-- The trigger in front of a number is the one that the words in front of it hold. -/
theorem find?_number_last (hv : v.Numberless) (hws : ∀ w ∈ ws, IsQuiet w)
    (hd : isDecimal d = true) :
    find? v (spaced ws ++ d) = (best (candidates v (spaced ws))).map fun c =>
      ⟨c.phrase, c.command, trimStart c.after ++ d, false⟩ := by
  have hcollapse := collapse_spaced_append hws hd
  have hnormalize := normalize_spaced_append hws hd
  have hsaid : spaced ws ++ d ≠ [] :=
    fun hnil => (isQuiet_of_isDecimal hd).ne_nil (List.append_eq_nil_iff.1 hnil).2
  have hexact := exactTriggers_number_last hv hd (spaced ws)
  rw [find?_of_inexact (by rwa [hnormalize]) (by rwa [hnormalize]), hnormalize, hcollapse,
    candidates_number_last hv (isDecimal_iff.1 hd).2, best_followedBy, Option.map_map]
  refine Option.map_congr fun c hc => ?_
  have hsplit := (mem_candidates_parts (best_eq_some hc).1).1.split
  have hlower : lower (spaced ws ++ d) = spaced ws ++ d := by
    rw [← hcollapse]
    exact hnormalize.trans hcollapse.symm
  have harguments : argumentText (spaced ws ++ d) (spaced ws ++ d) (c.followedBy d) =
      trim (c.followedBy d).after := by
    refine argumentText_of_lower hlower ?_
    rw [hsplit, List.append_assoc]
    rfl
  rw [Function.comp_apply, harguments, Candidate.followedBy, trim_append_digits hd]

end Trigger

/-! ## The arguments -/

namespace Substitution

/-- No word of a phrase is a number. -/
def Numberless (phrases : Phrases) : Prop := ∀ q ∈ phrases, ∀ w ∈ q.1, isDecimal w = false

theorem wordKey_digits (hd : isDecimal d = true) : wordKey d = d := by
  obtain ⟨hne, hdigits⟩ := isDecimal_iff.1 hd
  have hmarks := dropEndWhile_append_of_not hne
    (fun c hc => not_isTrailingMark_of_isDigit (hdigits c hc)) []
  rw [wordKey, lower_eq_self (isQuiet_of_isDecimal hd).lower]
  exact hmarks

variable {phrases : Phrases} {keys : List Text}

theorem Numberless.prefix_concat_iff (hphrases : Numberless phrases) (hd : isDecimal d = true)
    {q : List Text × Replacement} (hq : q ∈ phrases) : q.1 <+: keys ++ [d] ↔ q.1 <+: keys := by
  rw [List.prefix_concat_iff, or_iff_right]
  intro hall
  have hnot := hphrases q hq d (by rw [hall]; exact List.mem_append_right keys List.mem_cons_self)
  rw [hd] at hnot
  cases hnot

/-- No phrase reaches into a number behind the words. -/
theorem longestMatch_concat_digits (hphrases : Numberless phrases) (hd : isDecimal d = true) :
    longestMatch phrases (keys ++ [d]) = longestMatch phrases keys := by
  refine List.foldl_ext _ _ none fun best q hq => ?_
  have hstarts : q.1.isPrefixOf (keys ++ [d]) = q.1.isPrefixOf keys := by
    rw [Bool.eq_iff_iff, List.isPrefixOf_iff_prefix, List.isPrefixOf_iff_prefix]
    exact hphrases.prefix_concat_iff hd hq
  simp only [hstarts]

/-- A number behind the words is a piece of its own. -/
theorem scan_concat (hphrases : Numberless phrases) (hd : isDecimal d = true)
    (hne : ∀ q ∈ phrases, q.1 ≠ []) {covered : Nat} (hcovered : covered ≤ ws.length) :
    scan phrases covered (ws ++ [d]) = scan phrases covered ws ++ [.number d] := by
  induction ws generalizing covered with
  | nil =>
    have hnone : longestMatch phrases [d] = none := by
      have hspec := longestMatch_spec phrases []
      rw [← List.nil_append [d], longestMatch_concat_digits hphrases hd]
      cases hmatch : longestMatch phrases [] with
      | none => rfl
      | some found =>
        rw [hmatch] at hspec
        obtain ⟨run, -, hstarts, hfound, -⟩ := hspec
        exact absurd (List.prefix_nil.1 hstarts) (hne _ (mem_of_lookup hfound))
    obtain rfl := Nat.le_zero.1 hcovered
    simp only [List.nil_append, scan, List.map_cons, List.map_nil, wordKey_digits hd, hnone, plainPiece,
      hd, if_true]
  | cons w rest ih =>
    cases covered with
    | succ covered => exact ih (Nat.le_of_succ_le_succ hcovered)
    | zero =>
      have hkeys : (w :: (rest ++ [d])).map wordKey = (w :: rest).map wordKey ++ [d] := by
        rw [List.map_cons, List.map_append, List.map_singleton, wordKey_digits hd]
        rfl
      have hspec := longestMatch_spec phrases ((w :: rest).map wordKey)
      rw [List.cons_append, scan, scan, hkeys, longestMatch_concat_digits hphrases hd]
      cases hmatch : longestMatch phrases ((w :: rest).map wordKey) with
      | none => exact congrArg (plainPiece w :: ·) (ih (Nat.zero_le _))
      | some found =>
        -- a phrase covers words in front of the number only
        rw [hmatch] at hspec
        obtain ⟨run, hcount, hstarts, -, -⟩ := hspec
        have hle := hstarts.length_le
        rw [List.length_map, List.length_cons] at hle
        exact congrArg (found.2.piece :: ·) (ih (by omega))

end Substitution

namespace Argument

open Substitution

/-- Codes and a number are the arguments that they say. -/
theorem gather_codes_number (fillers : List Text) (codes : List Text) (d : Text) :
    gather fillers [] (mergeNumbers (codes.map .code ++ [.number d])) = codes ++ [d] := by
  induction codes with
  | nil => rfl
  | cons code rest ih => exact congrArg (code :: ·) ih

/-- Codes in front of a number are the arguments of the words in front of it. -/
theorem tokens_number_last {p : Profile} {codes : List Text} (hp : Numberless (p.phrases v))
    (hws : ∀ w ∈ ws, IsQuiet w) (hd : isDecimal d = true)
    (hscan : scan (p.phrases v) 0 ws = codes.map .code) :
    tokens p v (spaced ws ++ d) = (codes ++ [d]).map (Token.classify v) := by
  rw [tokens, raws, substitute, normalize_spaced_append hws hd, words_spaced_digits hws hd,
    scan_concat hp hd (fun q hq => ne_nil_of_mem_phrases hq) (Nat.zero_le _), hscan,
    gather_codes_number]

end Argument

/-- The token of digits: a number, or free text where they are worth more than a word
holds. -/
def Token.ofDigits (d : Text) : Token :=
  if digitsValue 0 d ≤ maxWord then ofNumber (digitsValue 0 d) else ofText d

theorem Token.classify_digits (hv : v.Numberless) (hd : isDecimal d = true) :
    classify v d = ofDigits d := by
  have hnone (category : Category) : v.hasCode category d = false := by
    rw [Bool.eq_false_iff]
    intro hcode
    have hnot := hv.codes category d (List.contains_iff_mem.1 hcode)
    rw [hd] at hnot
    cases hnot
  unfold classify ofDigits decimal?
  rw [hd, Bool.true_and]
  by_cases hword : digitsValue 0 d ≤ maxWord
  · simp only [hword, decide_true, if_true]
  · simp only [hword, decide_false, Bool.false_eq_true, if_false, hnone, codeKinds, List.find?_cons,
      List.find?_nil]

/-! ## The command -/

namespace Command

/-- Words name a command, and words that are left for it. -/
structure Names (v : Vocabulary) (ws : List Text) (name : CommandName) (rest : List Text) : Prop where
  quiet : ∀ w ∈ ws, IsQuiet w
  quiet_rest : ∀ w ∈ rest, IsQuiet w
  found : (Trigger.best (Trigger.candidates v (spaced ws))).map
    (fun c => (ofCode? c.command, trimStart c.after)) = some (some name, spaced rest)

variable {name : CommandName} {rest : List Text}

/-- In front of a number they name the same command, and the number is left too. -/
theorem Names.dispatch_eq (hv : v.Numberless) (h : Names v ws name rest) (hd : isDecimal d = true) :
    dispatch v (spaced ws ++ d) = execute v name (spaced rest ++ d) := by
  obtain ⟨c, hbest, hparts⟩ := Option.map_eq_some_iff.1 h.found
  obtain ⟨hname, hrest⟩ := Prod.mk.inj hparts
  simp only [Command.dispatch, Trigger.find?_number_last hv h.quiet hd, hbest, Option.map_some,
    hname, hrest]

/-- A command that reads tokens is run with the codes that the words are and the number. -/
theorem dispatch_number_last (hv : v.Numberless) (h : Names v ws name rest)
    (hd : isDecimal d = true) {p : Profile} (hgrammar : name.grammar = .tokenSequence p)
    (hphrases : Substitution.Numberless (p.phrases v)) {codes : List Text}
    (hscan : Substitution.scan (p.phrases v) 0 rest = codes.map .code) :
    Command.dispatch v (spaced ws ++ d) =
      (runTokens name (codes.map (Token.classify v) ++ [Token.ofDigits d])).bind fun o =>
        .done (.ofOutcome o) := by
  rw [h.dispatch_eq hv hd, execute, hgrammar]
  simp only
  rw [trim_spaced_append h.quiet_rest hd,
    Argument.tokens_number_last hphrases h.quiet_rest hd hscan, List.map_append, List.map_singleton,
    Token.classify_digits hv hd]

end Command

end VoiceEdit
