import Mathlib.Data.List.Induction
import VoiceEdit.Proofs.Text.Digits
import VoiceEdit.Proofs.Text.WordCasing
import VoiceEdit.Substitution

/-!
# Words cut into longest phrases

The words of a text are cut, from the first to the last, into the longest phrases
that start where the one before ends, and into single words where no phrase starts.
Nothing is skipped and nothing is read twice.

* `longestMatch_spec`: the phrase that is looked up is the longest, and the first of
  those with its words.
* `Segment`: a phrase or a word; `plainPiece_eq`: what a word becomes.
* `Cut`: how some words are cut; `Cut.unique`: in one way.
* `Reads`: what the phrases that are looked up stand for; `exists_cut`: words are read as
  they are cut.
-/
namespace VoiceEdit

open Text Transcript Substitution

/-! ## The longest phrase -/

theorem longestMatch_concat (phrases : Phrases) (q : List Text × Replacement) (keys : List Text) :
    longestMatch (phrases ++ [q]) keys =
      if q.1.isPrefixOf keys && (longestMatch phrases keys).all (fun b => b.1 < q.1.length) then
        some (q.1.length, q.2)
      else longestMatch phrases keys := by
  rw [longestMatch, List.foldl_append]
  rfl

/-- Some words start with a phrase, stand for what the first phrase with these words stands
for, and are no fewer than those of any other phrase that starts there. -/
structure IsLongest (phrases : Phrases) (keys run : List Text) (r : Replacement) : Prop where
  starts : run <+: keys
  found : phrases.lookup run = some r
  longest : ∀ q ∈ phrases, q.1 <+: keys → q.1.length ≤ run.length

/-- The longest phrase is looked up, and nothing is found only if no phrase starts there. -/
theorem longestMatch_spec (phrases : Phrases) (keys : List Text) :
    match longestMatch phrases keys with
    | some (count, r) => ∃ run, run.length = count ∧ IsLongest phrases keys run r
    | none => ∀ q ∈ phrases, ¬ q.1 <+: keys := by
  induction phrases using List.reverseRecOn with
  | nil => exact fun q hq => absurd hq List.not_mem_nil
  | append_singleton phrases q ih =>
    rw [longestMatch_concat]
    by_cases htaken : (q.1.isPrefixOf keys &&
        (longestMatch phrases keys).all fun b => b.1 < q.1.length) = true
    · rw [if_pos htaken]
      obtain ⟨hstarts, hlonger⟩ := Bool.and_eq_true_iff.1 htaken
      -- what was found so far is shorter, and so is everything that starts there
      have hshorter : ∀ o ∈ phrases, o.1 <+: keys → o.1.length < q.1.length := by
        intro o ho hprefix
        cases hbest : longestMatch phrases keys with
        | none =>
          rw [hbest] at ih
          exact absurd hprefix (ih o ho)
        | some best =>
          rw [hbest] at ih hlonger
          obtain ⟨run, hcount, hrun⟩ := ih
          have hle := hrun.longest o ho hprefix
          have hlt : best.1 < q.1.length := of_decide_eq_true hlonger
          omega
      refine ⟨q.1, rfl, List.isPrefixOf_iff_prefix.1 hstarts, ?_, fun o ho hprefix => ?_⟩
      · have hnone : phrases.lookup q.1 = none := by
          refine List.lookup_eq_none_iff.2 fun o ho => bne_iff_ne.2 fun heq => ?_
          have hlt := hshorter o ho (heq ▸ List.isPrefixOf_iff_prefix.1 hstarts)
          rw [heq] at hlt
          exact Nat.lt_irrefl _ hlt
        rw [List.lookup_append, hnone, Option.none_or, List.lookup_cons_self]
      · rcases List.mem_append.1 ho with ho | ho
        · exact Nat.le_of_lt (hshorter o ho hprefix)
        · rw [List.mem_singleton.1 ho]
    · rw [if_neg htaken]
      cases hbest : longestMatch phrases keys with
      | none =>
        rw [hbest] at ih htaken
        intro o ho hprefix
        rcases List.mem_append.1 ho with ho | ho
        · exact ih o ho hprefix
        · rw [List.mem_singleton.1 ho] at hprefix
          exact htaken (Bool.and_eq_true_iff.2 ⟨List.isPrefixOf_iff_prefix.2 hprefix, rfl⟩)
      | some best =>
        rw [hbest] at ih htaken
        obtain ⟨run, hcount, hstarts, hfound, hlongest⟩ := ih
        refine ⟨run, hcount, hstarts, ?_, fun o ho hprefix => ?_⟩
        · rw [List.lookup_append, hfound, Option.some_or]
        · rcases List.mem_append.1 ho with ho | ho
          · exact hlongest o ho hprefix
          · rw [List.mem_singleton.1 ho] at hprefix ⊢
            refine Nat.le_of_not_lt fun hlt => htaken ?_
            rw [hcount] at hlt
            exact Bool.and_eq_true_iff.2
              ⟨List.isPrefixOf_iff_prefix.2 hprefix, decide_eq_true hlt⟩

theorem mem_of_lookup {phrases : Phrases} {keys : List Text} {r : Replacement}
    (h : phrases.lookup keys = some r) : (keys, r) ∈ phrases := by
  obtain ⟨before, after, rfl, -⟩ := List.lookup_eq_some_iff.1 h
  exact List.mem_append_right _ List.mem_cons_self

/-- Some words have one longest phrase at their start. -/
theorem IsLongest.unique {phrases : Phrases} {keys run run' : List Text} {r r' : Replacement}
    (h : IsLongest phrases keys run r) (h' : IsLongest phrases keys run' r') :
    run = run' ∧ r = r' := by
  have hle := h.longest _ (mem_of_lookup h'.found) h'.starts
  have hle' := h'.longest _ (mem_of_lookup h.found) h.starts
  have hprefix := List.prefix_of_prefix_length_le h.starts h'.starts hle'
  obtain rfl := hprefix.eq_of_length (Nat.le_antisymm hle' hle)
  exact ⟨rfl, Option.some.inj (h.found.symm.trans h'.found)⟩

/-! ## Segments -/

/-- A part of a text: a phrase, with what it stands for, or a word. -/
inductive Segment where
  | phrase (run : List Text) (replacement : Replacement)
  | word (word : Text)
  deriving DecidableEq, Repr

/-- The words of a segment. -/
def Segment.words : Segment → List Text
  | .phrase run _ => run
  | .word w => [w]

/-- What a segment becomes; a word of digits, up to marks at its end, is a number. -/
def Segment.piece : Segment → Piece
  | .phrase _ r => r.piece
  | .word w => if isDecimal (dropTrailingMarks w) then .number (dropTrailingMarks w) else .word w

/-- How some words are cut: into a phrase where one starts, the longest one, and into a
single word where none does. -/
inductive Cut (key : Text → Text) (means : List Text → Replacement → Prop) :
    List Text → List Segment → Prop where
  | nil : Cut key means [] []
  | phrase (run rest : List Text) (r : Replacement) (segments : List Segment) (hne : run ≠ [])
      (hmeans : means (run.map key) r)
      (hlongest : ∀ longer s, longer <+: (run ++ rest).map key → means longer s →
        longer.length ≤ run.length)
      (hrest : Cut key means rest segments) :
      Cut key means (run ++ rest) (.phrase run r :: segments)
  | word (w : Text) (rest : List Text) (segments : List Segment)
      (hnone : ∀ run r, run ≠ [] → run <+: (w :: rest).map key → ¬ means run r)
      (hrest : Cut key means rest segments) :
      Cut key means (w :: rest) (.word w :: segments)

variable {key key' : Text → Text} {means : List Text → Replacement → Prop} {ws : List Text}
  {segments others : List Segment}

/-- Segments are all of the words, in order. -/
theorem Cut.flatMap_words (h : Cut key means ws segments) :
    segments.flatMap Segment.words = ws := by
  induction h with
  | nil => rfl
  | phrase run rest r segments hne hmeans hlongest hrest ih =>
    rw [List.flatMap_cons, ih]
    rfl
  | word w rest segments hnone hrest ih =>
    rw [List.flatMap_cons, ih]
    rfl

/-- Words that are compared alike are cut alike. -/
theorem Cut.congr (hkey : ∀ w ∈ ws, key w = key' w) (h : Cut key means ws segments) :
    Cut key' means ws segments := by
  induction h with
  | nil => exact .nil
  | phrase run rest r segments hne hmeans hlongest hrest ih =>
    obtain ⟨hrun, hothers⟩ := List.forall_mem_append.1 hkey
    rw [List.map_congr_left hrun] at hmeans
    rw [List.map_congr_left hkey] at hlongest
    exact .phrase run rest r segments hne hmeans hlongest (ih hothers)
  | word w rest segments hnone hrest ih =>
    rw [List.map_congr_left hkey] at hnone
    exact .word w rest segments hnone (ih (List.forall_mem_cons.1 hkey).2)

theorem map_prefix_map_append (key : Text → Text) (run rest : List Text) :
    run.map key <+: (run ++ rest).map key := by
  rw [List.map_append]
  exact List.prefix_append _ _

/-- Where words stand for one thing, they are cut in one way. -/
theorem Cut.unique (hunique : ∀ keys r s, means keys r → means keys s → r = s)
    (h : Cut key means ws segments) (h' : Cut key means ws others) : segments = others := by
  induction h generalizing others with
  | nil =>
    generalize hws : ([] : List Text) = ws at h'
    cases h' with
    | nil => rfl
    | phrase run' rest' r' segments' hne' =>
      exact absurd (List.append_eq_nil_iff.1 hws.symm).1 hne'
    | word w' rest' => exact (nomatch hws)
  | phrase run rest r segments hne hmeans hlongest hrest ih =>
    generalize hws : run ++ rest = ws at h'
    cases h' with
    | nil => exact absurd (List.append_eq_nil_iff.1 hws).1 hne
    | phrase run' rest' r' segments' hne' hmeans' hlongest' hrest' =>
      have hle := hlongest' (run.map key) r (hws ▸ map_prefix_map_append key run rest) hmeans
      have hle' := hlongest (run'.map key) r' (hws ▸ map_prefix_map_append key run' rest') hmeans'
      rw [List.length_map] at hle hle'
      obtain ⟨rfl, rfl⟩ := List.append_inj hws (Nat.le_antisymm hle hle')
      rw [hunique _ r r' hmeans hmeans', ih hrest']
    | word w' rest' segments' hnone' =>
      have hnil : run.map key ≠ [] := mt List.map_eq_nil_iff.1 hne
      exact absurd hmeans (hnone' _ r hnil (hws ▸ map_prefix_map_append key run rest))
  | word w rest segments hnone hrest ih =>
    generalize hws : w :: rest = ws at h'
    cases h' with
    | nil => exact (nomatch hws)
    | phrase run' rest' r' segments' hne' hmeans' =>
      have hnil : run'.map key ≠ [] := mt List.map_eq_nil_iff.1 hne'
      exact absurd hmeans' (hnone _ r' hnil (hws ▸ map_prefix_map_append key run' rest'))
    | word w' rest' segments' _ hrest' =>
      obtain ⟨rfl, rfl⟩ := List.cons_eq_cons.1 hws
      rw [ih hrest']

/-! ## Words by themselves -/

theorem isCaseless_isDigit : IsCaseless Char.isDigit :=
  isCaseless_of_le (by decide) fun _ =>
    forall_digits (P := fun c => isCased c = false ∧ IsLower c ∧ c.toNat ≤ 0x60) (by decide +kernel)

theorem isDecimal_lower (t : Text) : isDecimal (lower t) = isDecimal t := by
  have hempty : (lower t).isEmpty = t.isEmpty := by
    rw [Bool.eq_iff_iff, List.isEmpty_iff, List.isEmpty_iff, lower_eq_nil_iff]
  rw [isDecimal, hempty, isCaseless_isDigit.all_lower, isDecimal]

/-- Whether a word is a number, and which, is not changed by lower case. -/
theorem plainPiece_eq (w : Text) : plainPiece w = (Segment.word w).piece := by
  have hkey : wordKey w = lower (dropTrailingMarks w) :=
    isCaseless_isTrailingMark.dropEndWhile_lower w
  rw [plainPiece, Segment.piece, hkey, isDecimal_lower]
  split
  · rename_i hdecimal
    have hdigits := (isDecimal_iff.1 hdecimal).2
    rw [lower_eq_self fun c hc => isCaseless_isDigit.stays c (hdigits c hc)]
  · rfl

/-! ## Reading -/

theorem ne_nil_of_mem_phrasesOf {bindings : List (Text × Replacement)}
    {q : List Text × Replacement} (h : q ∈ phrasesOf bindings) : q.1 ≠ [] := by
  have hkept := (List.mem_filter.1 h).2
  rintro hnil
  rw [hnil] at hkept
  exact absurd hkept Bool.false_ne_true

/-- The phrases that are looked up have words, and these stand for what is found. -/
structure Reads (phrases : Phrases) (means : List Text → Replacement → Prop) : Prop where
  ne_nil : ∀ q ∈ phrases, q.1 ≠ []
  found : ∀ keys r, keys ≠ [] → phrases.lookup keys = some r → means keys r
  missed : ∀ keys r, keys ≠ [] → means keys r → phrases.lookup keys ≠ none

theorem scan_eq_scan_drop (phrases : Phrases) (covered : Nat) (ws : List Text) :
    scan phrases covered ws = scan phrases 0 (ws.drop covered) := by
  induction covered generalizing ws with
  | zero => rfl
  | succ covered ih =>
    cases ws with
    | nil => rfl
    | cons w rest => rw [scan, ih, List.drop_succ_cons]

/-- Words are cut in some way, which is the way in which they are read. -/
theorem exists_cut {phrases : Phrases} (h : Reads phrases means) (ws : List Text) :
    ∃ segments, Cut wordKey means ws segments ∧
      scan phrases 0 ws = segments.map Segment.piece := by
  have hmem : ∀ keys r, keys ≠ [] → means keys r → ∃ s, (keys, s) ∈ phrases := by
    intro keys r hne hmeans
    obtain ⟨s, hs⟩ := Option.ne_none_iff_exists'.1 (h.missed keys r hne hmeans)
    exact ⟨s, mem_of_lookup hs⟩
  -- on the number of words, as a whole phrase is taken off at once
  induction hlength : ws.length using Nat.strongRecOn generalizing ws with
  | ind n ih =>
    cases ws with
    | nil => exact ⟨[], .nil, rfl⟩
    | cons w rest =>
      have hspec := longestMatch_spec phrases ((w :: rest).map wordKey)
      rw [scan]
      cases hmatch : longestMatch phrases ((w :: rest).map wordKey) with
      | none =>
        rw [hmatch] at hspec
        obtain ⟨segments, hsegments, hscan⟩ := ih rest.length (by rw [← hlength]; simp) rest rfl
        refine ⟨.word w :: segments, .word w rest segments ?_ hsegments, ?_⟩
        · intro run r hne hprefix hmeans
          obtain ⟨s, hs⟩ := hmem run r hne hmeans
          exact hspec _ hs hprefix
        · rw [List.map_cons, ← hscan, ← plainPiece_eq]
      | some found =>
        obtain ⟨count, r⟩ := found
        rw [hmatch] at hspec
        obtain ⟨run, rfl, hstarts, hfound, hlongest⟩ := hspec
        have hne := h.ne_nil _ (mem_of_lookup hfound)
        obtain ⟨m, hm⟩ := Nat.exists_eq_succ_of_ne_zero fun h => hne (List.length_eq_zero_iff.1 h)
        -- the words of the phrase, and what is left to read behind them
        have hsplit : w :: rest = (w :: rest.take m) ++ rest.drop m := by
          rw [List.cons_append, List.take_append_drop]
        have hrun : (w :: rest.take m).map wordKey = run := by
          rw [List.prefix_iff_eq_take.1 hstarts, hm, ← List.map_take, List.take_succ_cons]
        have hcount : run.length = (w :: rest.take m).length := by
          rw [← hrun, List.length_map]
        have hmeans : means ((w :: rest.take m).map wordKey) r := by
          rw [hrun]
          exact h.found run r hne hfound
        obtain ⟨segments, hsegments, hscan⟩ := ih (rest.drop m).length
          (by rw [← hlength, List.length_drop, List.length_cons]; omega) (rest.drop m) rfl
        refine ⟨.phrase (w :: rest.take m) r :: segments, ?_, ?_⟩
        · rw [hsplit]
          refine .phrase _ _ r segments (List.cons_ne_nil _ _) hmeans ?_ hsegments
          intro longer s hprefix hlonger
          rw [← hsplit] at hprefix
          rw [← hcount]
          by_cases hnil : longer = []
          · rw [hnil]
            exact Nat.zero_le _
          · obtain ⟨o, ho⟩ := hmem longer s hnil hlonger
            exact hlongest _ ho hprefix
        · rw [List.map_cons, ← hscan]
          dsimp only
          rw [scan_eq_scan_drop, hm]
          rfl

end VoiceEdit
