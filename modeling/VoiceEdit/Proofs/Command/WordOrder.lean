import VoiceEdit.Proofs.Command.GivingUp
import VoiceEdit.Proofs.Command.Passes

/-!
# The order of words

How many tokens are taken together is read off the order in which they are said. What is done
with them is not: their rule is looked up, and they are handed to its action and divided if it
declines them, in canonical order, which does not depend on the order of words as long as the
kinds are different and at most one of them is missing from it.

* `Ranked`: tokens of such kinds; `Ranked.eq_of_rank`: no two of them rank alike.
* `canonical_of_perm`, `binds_of_perm`: their canonical order and their rule.
* `resolve_triple`, `resolve_pair`: three tokens with a rule, whatever stands behind them, and
  two tokens that are all there is.
* `resolve_word_order`: in any order, they are resolved alike.
-/
namespace VoiceEdit.RuleTable

open Program

variable {α : Type} {t : RuleTable α} {tokens window other rest : List Token}

/-! ## Tokens with ranks of their own -/

/-- The kinds of some tokens are different, and at most one of them is missing from the
canonical order. -/
structure Ranked (t : RuleTable α) (tokens : List Token) : Prop where
  distinct : (tokens.map Token.kind).Nodup
  known : (tokens.filter fun token => token.kind ∉ t.order).length ≤ 1

theorem rank_inj {a b : TokenKind} (h : a ∈ t.order ∨ b ∈ t.order) (hrank : t.rank a = t.rank b) :
    a = b := by
  rcases h with h | h
  · exact (List.idxOf_inj h).1 hrank
  · exact ((List.idxOf_inj h).1 hrank.symm).symm

/-- A token is known by its rank. -/
theorem Ranked.eq_of_rank (h : t.Ranked tokens) {a b : Token} (ha : a ∈ tokens) (hb : b ∈ tokens)
    (hrank : t.rank a.kind = t.rank b.kind) : a = b := by
  by_cases hknown : a.kind ∈ t.order ∨ b.kind ∈ t.order
  · exact List.inj_on_of_nodup_map h.distinct ha hb (rank_inj hknown hrank)
  · -- both are missing from the order, and of those there is only one
    have hmissing := h.known
    have ha' : a ∈ tokens.filter fun token => token.kind ∉ t.order := by
      apply List.mem_filter.2
      exact ⟨ha, decide_eq_true fun hmem => hknown (.inl hmem)⟩
    have hb' : b ∈ tokens.filter fun token => token.kind ∉ t.order := by
      apply List.mem_filter.2
      exact ⟨hb, decide_eq_true fun hmem => hknown (.inr hmem)⟩
    generalize (tokens.filter fun token => token.kind ∉ t.order) = missing at hmissing ha' hb'
    cases missing with
    | nil => exact absurd ha' List.not_mem_nil
    | cons first others =>
      have hnil : others = [] := by
        apply List.length_eq_zero_iff.1
        simp only [List.length_cons] at hmissing
        omega
      subst hnil
      rw [List.mem_singleton.1 ha', List.mem_singleton.1 hb']

theorem Ranked.perm (h : t.Ranked tokens) (hperm : other.Perm tokens) : t.Ranked other where
  distinct := (hperm.map Token.kind).nodup_iff.2 h.distinct
  known := by
    rw [(hperm.filter _).length_eq]
    exact h.known

/-- Ranked tokens have one canonical order. -/
theorem canonical_of_perm (h : t.Ranked tokens) (hperm : other.Perm tokens) :
    t.canonical other = t.canonical tokens := by
  have hsame : (t.canonical other).Perm (t.canonical tokens) :=
    (t.canonical_perm other).trans (hperm.trans (t.canonical_perm tokens).symm)
  refine List.Perm.eq_of_pairwise ?_ (t.inOrder_canonical other) (t.inOrder_canonical tokens) hsame
  intro a b ha hb hab hba
  have ha' : a ∈ tokens := hperm.mem_iff.1 ((t.canonical_perm other).mem_iff.1 ha)
  have hb' : b ∈ tokens := (t.canonical_perm tokens).mem_iff.1 hb
  exact h.eq_of_rank ha' hb' (Nat.le_antisymm hab hba)

/-- Ranked tokens have one rule. -/
theorem binds_of_perm (h : t.Ranked tokens) (hperm : other.Perm tokens) :
    t.binds (other.map Token.kind) = t.binds (tokens.map Token.kind) := by
  rw [← t.binds_canonical other, canonical_of_perm h hperm, t.binds_canonical]

/-! ## Their windows -/

/-- Three different kinds with a rule are one window, whatever stands behind them. -/
theorem windowSize_triple (hdistinct : (window.map Token.kind).Nodup) (hlength : window.length = 3)
    (hbinds : t.binds (window.map Token.kind) = true) (rest : List Token) :
    t.windowSize ((window ++ rest).map Token.kind) = window.length := by
  obtain ⟨a, b, c, rfl⟩ := List.length_eq_three.1 hlength
  simp only [List.map_cons, List.map_nil, List.nodup_cons, List.mem_cons, List.not_mem_nil,
    or_false, not_or] at hdistinct
  obtain ⟨⟨hab, hac⟩, hbc, -⟩ := hdistinct
  simp only [List.cons_append, List.nil_append, List.map_cons, windowSize]
  exact if_pos ⟨hab, hbc, hac, hbinds⟩

/-- Two different kinds with nothing behind them are one window. -/
theorem isWindow_pair (hdistinct : (window.map Token.kind).Nodup) (hlength : window.length = 2) :
    t.IsWindow window := by
  obtain ⟨a, b, rfl⟩ := List.length_eq_two.1 hlength
  have hab : a.kind ≠ b.kind := by simpa using hdistinct
  exact ⟨List.cons_ne_nil a [b], if_pos hab⟩

/-- Three ranked tokens with a rule are resolved alike in any order. -/
theorem resolve_triple (h : t.Ranked window) (hperm : other.Perm window)
    (hlength : window.length = 3) (hbinds : t.binds (window.map Token.kind) = true)
    (rest : List Token) : t.resolve (other ++ rest) = t.resolve (window ++ rest) := by
  have hother : other.length = 3 := hperm.length_eq.trans hlength
  have hbinds' : t.binds (other.map Token.kind) = true := (binds_of_perm h hperm).trans hbinds
  have hsize := windowSize_triple h.distinct hlength hbinds rest
  have hsize' := windowSize_triple (h.perm hperm).distinct hother hbinds' rest
  rw [resolve_window (List.ne_nil_of_length_eq_add_one hother) hsize',
    resolve_window (List.ne_nil_of_length_eq_add_one hlength) hsize, canonical_of_perm h hperm]

/-- Two ranked tokens are resolved alike in either order, with a rule or without. -/
theorem resolve_pair (h : t.Ranked window) (hperm : other.Perm window)
    (hlength : window.length = 2) : t.resolve other = t.resolve window := by
  have hother : other.length = 2 := hperm.length_eq.trans hlength
  rw [(isWindow_pair (h.perm hperm).distinct hother).resolve_eq,
    (isWindow_pair h.distinct hlength).resolve_eq, canonical_of_perm h hperm]

/-- **The order of words.** Whatever the actions of a table do, and whoever carries them out:
three tokens of different kinds with a rule are resolved alike in every order, with the same
tokens behind them, and so are two tokens of different kinds that are all there is, with a rule
or without. At most one of the kinds may be missing from the canonical order. -/
theorem resolve_word_order (t : RuleTable α) {window other : List Token} (h : t.Ranked window)
    (hperm : other.Perm window) :
    (window.length = 3 → t.binds (window.map Token.kind) = true →
      ∀ rest, t.resolve (other ++ rest) = t.resolve (window ++ rest)) ∧
    (window.length = 2 → t.resolve other = t.resolve window) :=
  ⟨resolve_triple h hperm, resolve_pair h hperm⟩

/-- Objects are missing from the order, and a count goes with no object and direction. -/
def countsAside : RuleTable Step :=
  (empty "counts" [.number, .direction])
    |>.bind [.number] .done
    |>.bind [.direction, .objectNoun] .done
    |>.bind [.objectNoun, .direction, .number] .declined

/-- Three words in two orders, with a count behind them, and two of them in either order. -/
theorem resolve_word_order_declined :
    let count := Token.ofNumber 5
    let line := Token.ofCode .objectNoun "LINE"
    let ending := Token.ofCode .direction "END"
    countsAside.resolve [line, count, ending, count] =
        countsAside.resolve [count, ending, line, count] ∧
      countsAside.resolve [line, count] = countsAside.resolve [count, line] := by
  intro count line ending
  have htriple : countsAside.Ranked [count, ending, line] := ⟨by decide, by decide⟩
  have hpair : countsAside.Ranked [count, line] := ⟨by decide, by decide⟩
  have hperm : [line, count, ending].Perm [count, ending, line] := by decide
  have hswap : [line, count].Perm [count, line] := by decide
  have hall := (resolve_word_order countsAside htriple hperm).1 rfl (by decide +kernel)
  exact ⟨hall [count], (resolve_word_order countsAside hpair hswap).2 rfl⟩

/-- Of two kinds that are both missing from the order, each order of words has a rule of its
own. -/
example :
    let kinds := [TokenKind.selector, .unclassified]
    let t : RuleTable Step := (empty "selectors" []).bind kinds .done
    t.binds kinds = true ∧ t.binds kinds.reverse = false := by
  decide +kernel

end VoiceEdit.RuleTable
