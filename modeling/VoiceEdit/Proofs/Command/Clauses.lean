import VoiceEdit.Proofs.Command.Passes

/-!
# Several clauses at once

"Two left three down" is two clauses without a word between them. Counts come first in a
clause, so where it ends can be told from the kinds of three tokens: no window of cursor
movement reaches into the next clause.

* `IsClause`: a count, perhaps an object, and a direction.
* `IsClause.windowSize_append`: a clause is a window, also in front of another.
* `carryOut_flatten`: clauses at once are resolved one after the other.
* `runs_moves`: counts with relative directions, on an editor that grants what it is asked.
* `carryOut_clauses`: both together.
-/
namespace VoiceEdit.Movement

open Editor Program RuleTable

/-! ## Clauses -/

/-- A count, perhaps an object, and a direction, whatever they carry. -/
inductive IsClause : List Token → Prop
  | count {count direction : Token} (hcount : count.kind = .number)
      (hdirection : direction.kind = .direction) : IsClause [count, direction]
  | object {count object direction : Token} (hcount : count.kind = .number)
      (hobject : object.kind = .objectNoun) (hdirection : direction.kind = .direction) :
      IsClause [count, object, direction]

variable {clause next rest : List Token}

/-- A clause starts with a count. -/
theorem IsClause.kinds (h : IsClause clause) :
    ∃ others, clause.map Token.kind = .number :: others := by
  cases h with
  | count hcount hdirection =>
    simp only [List.map_cons, hcount]
    exact ⟨_, rfl⟩
  | object hcount hobject hdirection =>
    simp only [List.map_cons, hcount]
    exact ⟨_, rfl⟩

theorem IsClause.isWindow (h : IsClause clause) : table.IsWindow clause := by
  cases h with
  | count hcount hdirection =>
    refine ⟨List.cons_ne_nil _ _, ?_⟩
    simp only [List.map_cons, List.map_nil, hcount, hdirection]
    rfl
  | object hcount hobject hdirection =>
    refine ⟨List.cons_ne_nil _ _, ?_⟩
    simp only [List.map_cons, List.map_nil, hcount, hobject, hdirection]
    rfl

/-- A clause is a window, also in front of another. -/
theorem IsClause.windowSize_append (h : IsClause clause) (hnext : IsClause next)
    (rest : List Token) :
    table.windowSize ((clause ++ (next ++ rest)).map Token.kind) = clause.length := by
  obtain ⟨others, hothers⟩ := hnext.kinds
  cases h with
  | count hcount hdirection =>
    -- a direction between two counts goes with the one before it
    simp only [List.map_append, List.map_cons, List.map_nil, hcount, hdirection, hothers]
    rfl
  | object hcount hobject hdirection =>
    simp only [List.map_append, List.map_cons, List.map_nil, hcount, hobject, hdirection]
    rfl

/-- Clauses at once are resolved one after the other. -/
theorem carryOut_flatten {clauses : List (List Token)} (hne : clauses ≠ [])
    (h : ∀ clause ∈ clauses, IsClause clause) :
    table.carryOut clauses.flatten = table.carryOutInTurn clauses := by
  refine InWindows.carryOut_flatten honest_table ?_
  induction clauses with
  | nil => exact absurd rfl hne
  | cons clause others ih =>
    obtain ⟨hclause, hothers⟩ := List.forall_mem_cons.1 h
    cases others with
    | nil => exact .last hclause.isWindow
    | cons next rest =>
      have hnext : IsClause next := hothers next List.mem_cons_self
      refine .cons hclause.isWindow ?_ (ih (List.cons_ne_nil next rest) hothers)
      rw [List.flatten_cons]
      exact hclause.windowSize_append hnext rest.flatten

/-! ## Counts with relative directions -/

/-- The clause of a count and a direction. -/
def countClause (move : Nat × Direction) : List Token :=
  [.ofNumber move.1, .ofCode .direction (code move.2)]

/-- The request of a count and a direction. -/
def countRequest (move : Nat × Direction) : Request := .moveBy move.2 move.1

theorem isClause_countClause (move : Nat × Direction) : IsClause (countClause move) :=
  .count rfl rfl

/-- How a movement by a count ends. -/
def countResolution : Except EditorError Unit → Resolution
  | .ok _ => ⟨.success, [⟨[.number, .direction], 2⟩]⟩
  | .error e => ⟨.ofEditorError e, []⟩

/-- A count with a relative direction is one request. -/
theorem carryOut_countClause {move : Nat × Direction} (h : move.2.isAbsolute = false) :
    table.carryOut (countClause move) =
      .ask (countRequest move) fun r => .done (countResolution r) := by
  obtain ⟨count, direction⟩ := move
  cases direction with
  | up | down | left | right =>
    apply congrArg (Program.ask _)
    funext r
    cases r <;> rfl
  | start | finish | next | previous => cases h

/-- Clauses of counts with relative directions are as many requests, in order, on an editor
that grants what it is asked. -/
theorem runs_moves {moves : List (Nat × Direction)} (h : ∀ move ∈ moves, move.2.isAbsolute = false)
    {events : List (Event Editor.interface)} {r : Resolution}
    (hruns : (table.carryOutInTurn (moves.map countClause)).Runs events r)
    (hgranted : ∀ e ∈ events, ∃ a, e.2 = .ok a) :
    events.map Sigma.fst = moves.map countRequest ∧
      r = ⟨.success, moves.map fun _ => ⟨[.number, .direction], 2⟩⟩ := by
  induction moves generalizing events r with
  | nil =>
    obtain ⟨rfl, rfl⟩ := runs_done_iff.1 hruns
    exact ⟨rfl, rfl⟩
  | cons move moves ih =>
    obtain ⟨hmove, hmoves⟩ := List.forall_mem_cons.1 h
    simp only [List.map_cons, carryOutInTurn, carryOut_countClause hmove, Program.bind] at hruns
    obtain ⟨reply, left, rfl, hleft⟩ := runs_ask_iff.1 hruns
    obtain ⟨⟨a, ha⟩, hothers⟩ := List.forall_mem_cons.1 hgranted
    have hreply : reply = .ok a := ha
    simp only [hreply, countResolution, andThen, if_true] at hleft
    obtain ⟨before, after, others, rfl, hrest, hlast⟩ := runs_bind_iff.1 hleft
    obtain ⟨rfl, rfl⟩ := runs_done_iff.1 hlast
    rw [List.append_nil] at hothers ⊢
    obtain ⟨hevents, rfl⟩ := ih hmoves hrest hothers
    refine ⟨?_, rfl⟩
    simp only [List.map_cons, hevents]

/-! ## Both together -/

/-- **Clauses at once.** Clauses of cursor movement, said at once, ask for the same and end with
the same outcome and steps as if they were said one after the other, up to the first that fails.
Counts with relative directions are requests to move by these counts in these directions, in
order, on an editor that grants them. -/
theorem carryOut_clauses {clauses : List (List Token)} (hne : clauses ≠ [])
    (h : ∀ clause ∈ clauses, IsClause clause) :
    table.carryOut clauses.flatten = table.carryOutInTurn clauses ∧
    ∀ moves : List (Nat × Direction), clauses = moves.map countClause →
      (∀ move ∈ moves, move.2.isAbsolute = false) →
      ∀ {σ : Type} (editor : Handler Editor.interface σ) (s : σ),
        let events := (table.carryOut clauses.flatten).trace editor s
        (∀ e ∈ events, ∃ a, e.2 = .ok a) →
          events.map Sigma.fst = moves.map countRequest ∧
            ((table.carryOut clauses.flatten).run editor s).1 =
              ⟨.success, moves.map fun _ => ⟨[.number, .direction], 2⟩⟩ := by
  have hturn := carryOut_flatten hne h
  refine ⟨hturn, ?_⟩
  intro moves hmoves hrelative σ editor s events hgranted
  have hruns : (table.carryOut clauses.flatten).Runs events _ := runs_trace editor _ s
  rw [hturn, hmoves] at hruns
  rw [hturn, hmoves]
  exact runs_moves hrelative hruns hgranted

/-- "Two left three down" in a buffer. -/
theorem carryOut_clauses_leftDown :
    let clauses := [(2, Direction.left), (3, Direction.down)].map countClause
    let b := Buffer.ofText "one\ntwo"
    (∀ clause ∈ clauses, IsClause clause) ∧
      table.carryOut clauses.flatten = table.carryOutInTurn clauses ∧
      ((table.carryOut clauses.flatten).trace Buffer.editor b).map Sigma.fst =
        [.moveBy .left 2, .moveBy .down 3] ∧
      ((table.carryOut clauses.flatten).run Buffer.editor b).1.outcome = .success := by
  intro clauses b
  have hne : clauses ≠ [] := List.cons_ne_nil _ _
  have hclauses : ∀ clause ∈ clauses, IsClause clause := by
    intro clause hclause
    obtain ⟨move, -, rfl⟩ := List.mem_map.1 hclause
    exact isClause_countClause move
  have hrelative : ∀ move ∈ [(2, Direction.left), (3, Direction.down)],
      move.2.isAbsolute = false := by decide
  have hgranted : ∀ e ∈ (table.carryOut clauses.flatten).trace Buffer.editor b,
      ∃ a, e.2 = .ok a := by
    intro e he
    rcases List.mem_cons.1 he with rfl | he
    · exact ⟨(), rfl⟩
    · rw [List.mem_singleton.1 he]
      exact ⟨(), rfl⟩
  obtain ⟨hturn, hmoves⟩ := carryOut_clauses hne hclauses
  obtain ⟨hrequests, hresolution⟩ := hmoves _ rfl hrelative Buffer.editor b hgranted
  exact ⟨hclauses, hturn, hrequests, congrArg Resolution.outcome hresolution⟩

end VoiceEdit.Movement
