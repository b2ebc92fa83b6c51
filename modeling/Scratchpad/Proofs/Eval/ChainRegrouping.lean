import Scratchpad.Proofs.Eval.ForAsWhile
import Scratchpad.Proofs.Eval.UnitSteps

/-! Chains can be regrouped. The first segment of a chain inside a chain is evaluated on the
receiver that it would have without the grouping: on the one of the whole chain if the group comes
first, and otherwise on the value of the segment before it. So only the segments matter, in their
order.
-/

namespace Scratchpad

variable {ω α : Type}

namespace SameEnd

variable {first second third : Except Stop α × State ω}

/-- Ending the same does not depend on which run is first. -/
theorem symm (same : SameEnd first second) : SameEnd second first :=
  ⟨same.1.symm, same.2.symm⟩

/-- Runs that end like one run end the same. -/
theorem trans (same : SameEnd first second) (same' : SameEnd second third) : SameEnd first third :=
  ⟨same.1.trans same'.1, same.2.trans same'.2⟩

/-- Of two runs that end alike, both have enough fuel or neither.
Witness: running out of fuel is an end of its own, that no error and no value is like.
-/
theorem finished (same : SameEnd first second) (enough : second.1 ≠ .error .outOfFuel)
    : first.1 ≠ .error .outOfFuel := by
  obtain ⟨results, _⟩ := same
  intro spent
  rw [spent] at results
  rcases ended : second.1 with stop | value
  · rw [ended] at results
    cases stop with
    | outOfFuel => exact enough ended
    | error failure => cases results
    | danglingNode => cases results
  · rw [ended] at results
    cases results

end SameEnd

-----------------------------------------------------------------------------------------
-- Groups of segments
-----------------------------------------------------------------------------------------

/-- The second list has the segments of the first one after some of its groups have been opened. A
group is a chain of at least one segment; groups nest no deeper than the given number.
-/
inductive Arena.Flattens (arena : Arena) : Nat → List ExprId → List ExprId → Prop
  | nil {depth} : arena.Flattens depth [] []
  | keep {depth segment rest flat} (after : arena.Flattens depth rest flat)
    : arena.Flattens depth (segment :: rest) (segment :: flat)
  | opened {depth group segments inner rest flat}
    (isGroup : arena.exprKind? group = some (.chain segments)) (nonempty : segments ≠ [])
    (inside : arena.Flattens depth segments inner) (after : arena.Flattens (depth + 1) rest flat)
    : arena.Flattens (depth + 1) (group :: rest) (inner ++ flat)

namespace Arena.Flattens

variable {arena : Arena} {depth : Nat} {segments flat : List ExprId}

/-- A chain without an opened group is flattened to itself.
Witness: by induction on its segments, each of which is kept.
-/
theorem refl (arena : Arena) (depth : Nat) (segments : List ExprId)
    : arena.Flattens depth segments segments := by
  induction segments with
  | nil => exact .nil
  | cons segment rest ih => exact .keep ih

/-- Opening one group anywhere in a chain.
Witness: by induction on the segments before it, which are kept.
-/
theorem group {ys : List ExprId} {inner : ExprId}
    (isGroup : arena.exprKind? inner = some (.chain ys)) (nonempty : ys ≠ []) (xs zs : List ExprId)
    : arena.Flattens 1 (xs ++ [inner] ++ zs) (xs ++ ys ++ zs) := by
  rw [List.append_assoc, List.append_assoc]
  induction xs with
  | nil =>
      rw [List.nil_append, List.nil_append]
      exact .opened isGroup nonempty (.refl arena 0 ys) (.refl arena 1 zs)
  | cons segment rest ih => exact .keep ih

/-- No group is lost, since none is empty. -/
theorem eq_nil_iff (flattens : arena.Flattens depth segments flat) : flat = [] ↔ segments = [] := by
  induction flattens with
  | nil => rfl
  | keep => simp
  | opened _ nonempty _ _ inside _ => simp [inside, nonempty]

end Arena.Flattens

/-- Two chains over the same segments in one arena, which differ in how these are grouped. -/
structure Regrouping (arena : Arena) where
  first : ExprId
  second : ExprId
  grouped : List ExprId
  regrouped : List ExprId
  flat : List ExprId
  depth : Nat
  depth' : Nat
  isFirst : arena.exprKind? first = some (.chain grouped)
  isSecond : arena.exprKind? second = some (.chain regrouped)
  flattens : arena.Flattens depth grouped flat
  flattens' : arena.Flattens depth' regrouped flat

/-- The same two chains in the other order. -/
def Regrouping.symm {arena : Arena} (chains : Regrouping arena) : Regrouping arena :=
  {
    first := chains.second
    second := chains.first
    grouped := chains.regrouped
    regrouped := chains.grouped
    flat := chains.flat
    depth := chains.depth'
    depth' := chains.depth
    isFirst := chains.isSecond
    isSecond := chains.isFirst
    flattens := chains.flattens'
    flattens' := chains.flattens
  }

/-- A node whose kind is known is held by the arena. -/
theorem Arena.holds_of_exprKind? {arena : Arena} {id : ExprId} {kind : ExprKind}
    (known : arena.exprKind? id = some kind)
    : arena.Holds (.expr id) := by
  obtain ⟨expr, found, _⟩ := exists_of_exprKind? known
  by_contra unheld
  rw [expr?_eq_none.mpr unheld] at found
  cases found

-----------------------------------------------------------------------------------------
-- Segments in order
-----------------------------------------------------------------------------------------

namespace Machine

variable {again : Job → Eval ω Value} {arena : Arena}

/-- On a value, later segments are a chain of their own. -/
theorem chainFrom_eq_chain {segments : List ExprId} (nonempty : segments ≠ []) (current : Value)
    : chainFrom again arena current segments = chain again arena (some current) segments := by
  cases segments with
  | nil => exact absurd rfl nonempty
  | cons segment rest => rfl

/-- A chain on a value goes on with its second part from where the first part led.
Witness: by induction on the first part.
-/
theorem chainFrom_append (current : Value) (ys zs : List ExprId)
    : chainFrom again arena current (ys ++ zs)
      = chainFrom again arena current ys >>= fun value => chainFrom again arena value zs := by
  induction ys generalizing current with
  | nil => simp [chainFrom]
  | cons segment rest ih => simp [chainFrom, ih]

/-- A chain goes on where its first segments have led. -/
theorem chain_append {ys : List ExprId} (nonempty : ys ≠ []) (receiver : Option Value)
    (zs : List ExprId)
    : chain again arena receiver (ys ++ zs)
      = chain again arena receiver ys >>= fun value => chainFrom again arena value zs := by
  cases ys with
  | nil => exact absurd rfl nonempty
  | cons segment rest => simp [chain, chainFrom_append]

variable {m : Machine ω} {short : Prop} {fuel more depth : Nat} {segments flat : List ExprId}

/-- A group that the second run evaluates as one node ends like its segments.
Witness: the second run opens the group with one step less and hands its receiver to the segments;
the span of the group does not matter.
-/
theorem group_alike {group : ExprId} {first : Except Stop Value × State ω} {receiver : Option Value}
    {state : State ω} (isGroup : arena.exprKind? group = some (.chain segments))
    (spare : Spare short fuel more (depth + 1))
    (inside
      : ∀ {less}, Spare short fuel less depth
        → AlikeEnds short Eq first ((chain (m.run less) arena receiver segments).run state))
    : AlikeEnds short Eq first ((m.run more (.eval arena group receiver)).run state) := by
  obtain ⟨expr, found, kind⟩ := Arena.exists_of_exprKind? isGroup
  cases more with
  | zero => exact .secondSpent spare.not_short
  | succ less =>
      rw [run, perform, found]
      show AlikeEnds short Eq first
        ((Eval.atSpan expr.span (m.evalExpr (m.run less) arena expr receiver)).run state)
      rw [evalExpr, kind]
      exact (inside spare.nested).atSpan_right expr.span

/-- A chain ends like the one whose groups have been opened, by induction on how they were.
Witness: a segment that is kept is the same job in both; a group that is opened is one node of the
second run, and the sequence of its segments in the first.
-/
theorem chain_alike (flattens : arena.Flattens depth segments flat)
    (spare : Spare short fuel more depth) (receiver : Option Value) (state : State ω)
    : AlikeEnds short Eq ((chain (m.run fuel) arena receiver flat).run state)
        ((chain (m.run more) arena receiver segments).run state) := by
  -- What follows a segment or a group is empty in both chains or a chain on the value before it.
  have later {depth more : Nat} {rest flat : List ExprId} (after : arena.Flattens depth rest flat)
      (alike
        : ∀ receiver state,
            AlikeEnds short Eq ((chain (m.run fuel) arena receiver flat).run state)
              ((chain (m.run more) arena receiver rest).run state))
      (current : Value) (state : State ω)
      : AlikeEnds short Eq ((chainFrom (m.run fuel) arena current flat).run state)
          ((chainFrom (m.run more) arena current rest).run state) := by
    by_cases none : rest = []
    · rw [none, after.eq_nil_iff.mpr none]
      exact .refl _
    · rw [chainFrom_eq_chain none, chainFrom_eq_chain (mt after.eq_nil_iff.mp none)]
      exact alike (some current) state
  induction flattens generalizing more receiver state with
  | nil => exact .refl _
  | @keep depth segment rest flat after ih =>
      have starts := spare.job m (.eval arena segment receiver) state
      refine starts.bind fun {value _ between} _ same => ?_
      subst same
      exact later after (ih spare) value between
  | @opened depth group segments inner rest flat isGroup nonempty inside after ihInside ihAfter =>
      rw [chain_append (mt inside.eq_nil_iff.mp nonempty)]
      have groups
          : AlikeEnds short Eq ((chain (m.run fuel) arena receiver inner).run state)
              ((m.run more (.eval arena group receiver)).run state) :=
        group_alike isGroup spare fun spare => ihInside spare receiver state
      refine groups.bind fun {value _ between} _ same => ?_
      subst same
      exact later after (ihAfter spare) value between

/-- Where one of the two chains ends, so does the other, on fuel for the groups that it has more:
both end like the segments alone do on the fuel of the first.
-/
theorem regrouped_sameEnd (m : Machine ω) (chains : Regrouping arena) (receiver : Option Value)
    (state : State ω) {fuel : Nat}
    (finished
      : ((m.run fuel (.eval arena chains.first receiver)).run state).1 ≠ .error .outOfFuel)
    : SameEnd ((m.run fuel (.eval arena chains.first receiver)).run state)
        ((m.run (fuel + (chains.depth' + 1)) (.eval arena chains.second receiver)).run state) := by
  have scarce : Spare False fuel fuel (chains.depth + 1) := ⟨False.elim, fun _ => le_rfl⟩
  have ample : Spare True fuel (fuel + (chains.depth' + 1)) (chains.depth' + 1) :=
    ⟨fun _ => le_rfl, fun never => (never ⟨⟩).elim⟩
  have opened
      : SameEnd ((chain (m.run fuel) arena receiver chains.flat).run state)
          ((m.run fuel (.eval arena chains.first receiver)).run state) := by
    refine (group_alike chains.isFirst scarce fun spare => ?_).sameEnd False.elim fun _ => finished
    exact chain_alike chains.flattens spare receiver state
  refine opened.symm.trans ?_
  refine (group_alike chains.isSecond ample fun spare => ?_).sameEnd (fun _ => ?_)
    fun never => (never ⟨⟩).elim
  · exact chain_alike chains.flattens' spare receiver state
  · exact opened.finished finished

/-- Two chains over the same segments end alike on every receiver, ambient or explicit, however the
segments are grouped, as long as no group is empty. Where one of them ends, so does the other, on a
little more fuel at most. In a sound program both end, with the same value or with errors of the
same cause, and in the same state.
-/
theorem chains_can_be_regrouped (m : Machine ω) {arena : Arena} (chains : Regrouping arena)
    (receiver : Option Value) (state : State ω)
    : (∀ fuel,
        ((m.run fuel (.eval arena chains.first receiver)).run state).1 ≠ .error .outOfFuel
        → SameEnd ((m.run fuel (.eval arena chains.first receiver)).run state)
            ((m.run (fuel + (chains.depth' + 1)) (.eval arena chains.second receiver)).run state))
      ∧ (∀ fuel,
        ((m.run fuel (.eval arena chains.second receiver)).run state).1 ≠ .error .outOfFuel
        → SameEnd ((m.run fuel (.eval arena chains.second receiver)).run state)
            ((m.run (fuel + (chains.depth + 1)) (.eval arena chains.first receiver)).run state))
      ∧ (arena.Sound → state.heap.Sound
        → ∃ (first second : Except EvalError Value) (later : State ω),
            first.mapError (·.cause) = second.mapError (·.cause)
            ∧ ∀ fuel ≥ fuelFor arena state,
                (m.run fuel (.eval arena chains.first receiver)).run state
                  = (first.mapError .error, later)
                ∧ (m.run fuel (.eval arena chains.second receiver)).run state
                  = (second.mapError .error, later)) := by
  refine ⟨fun fuel => ?_, fun fuel => ?_, fun sound heap => ?_⟩
  · exact m.regrouped_sameEnd chains receiver state
  · exact m.regrouped_sameEnd chains.symm receiver state
  · have held := Arena.holds_of_exprKind? chains.isFirst
    have held' := Arena.holds_of_exprKind? chains.isSecond
    obtain ⟨first, later, ran⟩ :=
      m.ends_of_sound (.eval arena chains.first receiver) sound held heap
    obtain ⟨second, later', ran'⟩ :=
      m.ends_of_sound (.eval arena chains.second receiver) sound held' heap
    have ended := ran (fuelFor arena state) le_rfl
    have ended' := ran' (fuelFor arena state + (chains.depth' + 1)) (Nat.le_add_right _ _)
    have finished
        : ((m.run (fuelFor arena state) (.eval arena chains.first receiver)).run state).1
          ≠ .error .outOfFuel := by
      rw [ended]
      cases first <;> simp [Except.mapError]
    have alike := m.regrouped_sameEnd chains receiver state finished
    rw [ended, ended'] at alike
    obtain ⟨same, rfl⟩ := alike
    refine ⟨first, second, later, ?_, fun fuel enough => ⟨ran fuel enough, ran' fuel enough⟩⟩
    cases first <;> cases second <;> simp_all [Except.mapError, Stop.unplaced]

/-- The chains `items.((this).length)` and `items.this.length`, at the last two indices. -/
def groupedLength : Arena :=
  {
    exprs :=
      #[
        { kind := .ident ⟨3⟩ },
        { kind := .ident Name.this },
        { kind := .ident Name.length },
        { kind := .chain [⟨1⟩] },
        { kind := .chain [⟨3⟩, ⟨2⟩] },
        { kind := .chain [⟨0⟩, ⟨4⟩] },
        { kind := .chain [⟨0⟩, ⟨1⟩, ⟨2⟩] }
      ]
  }

/-- One group inside another, and none. -/
def lengthRegrouping : Regrouping groupedLength where
  first := ⟨5⟩
  second := ⟨6⟩
  grouped := [⟨0⟩, ⟨4⟩]
  regrouped := [⟨0⟩, ⟨1⟩, ⟨2⟩]
  flat := [⟨0⟩, ⟨1⟩, ⟨2⟩]
  depth := 2
  depth' := 0
  isFirst := rfl
  isSecond := rfl
  flattens := by
    have isGroup : groupedLength.exprKind? ⟨3⟩ = some (.chain [⟨1⟩]) := rfl
    have inner := Arena.Flattens.group isGroup (List.cons_ne_nil _ _) [] [⟨2⟩]
    exact .keep (.opened rfl (List.cons_ne_nil _ _) inner .nil)
  flattens' := .refl groupedLength 0 _

/-- Both chains give the length of the array, although a variable is called `length` too.
Witness: the chain is computed, and its regrouping ends like it.
-/
theorem groupedLength_regrouped
    : groupedLength.Sound
      ∧ (twoItems 7 8 [(Name.length, .int 9)]).heap.Sound
      ∧ ((assigner.run 4 (.eval groupedLength ⟨5⟩ none)).run
          (twoItems 7 8 [(Name.length, .int 9)])).1
        ≠ .error .outOfFuel
      ∧ (assigner.eval groupedLength ⟨5⟩).run (twoItems 7 8 [(Name.length, .int 9)])
        = (.ok (.int 2), twoItems 7 8 [(Name.length, .int 9)])
      ∧ (assigner.eval groupedLength ⟨6⟩).run (twoItems 7 8 [(Name.length, .int 9)])
        = (.ok (.int 2), twoItems 7 8 [(Name.length, .int 9)]) := by
  have sound : groupedLength.Sound := Arena.sound_of_ranked NodeId.index (by decide)
  have heap : (twoItems 7 8 [(Name.length, .int 9)]).heap.Sound := by
    intro closure member
    exact absurd member (Array.not_mem_empty closure)
  have ended
      : (assigner.run 4 (.eval groupedLength ⟨5⟩ none)).run (twoItems 7 8 [(Name.length, .int 9)])
        = (.ok (.int 2), twoItems 7 8 [(Name.length, .int 9)]) :=
    rfl
  have finished
      : ((assigner.run 4 (.eval groupedLength ⟨5⟩ none)).run
          (twoItems 7 8 [(Name.length, .int 9)])).1
        ≠ .error .outOfFuel := by
    rw [ended]
    simp
  have started
      : (assigner.eval groupedLength ⟨5⟩).run (twoItems 7 8 [(Name.length, .int 9)])
        = (.ok (.int 2), twoItems 7 8 [(Name.length, .int 9)]) := by
    rw [run_eval]
    exact (assigner.run_eq_of_le finished (by decide)).trans ended
  obtain ⟨_, _, ends⟩ :=
    chains_can_be_regrouped assigner lengthRegrouping none (twoItems 7 8 [(Name.length, .int 9)])
  obtain ⟨first, second, later, same, ran⟩ := ends sound heap
  obtain ⟨grouped, flat⟩ := ran _ le_rfl
  rw [← run_eval, show lengthRegrouping.first = ⟨5⟩ from rfl, started] at grouped
  rw [← run_eval] at flat
  cases first with
  | error failure => cases grouped
  | ok value =>
      cases grouped
      cases second with
      | error failure => cases same
      | ok value =>
          cases same
          exact ⟨sound, heap, finished, started, flat⟩

end Machine

end Scratchpad
