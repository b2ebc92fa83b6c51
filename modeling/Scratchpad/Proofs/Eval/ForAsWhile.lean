import Scratchpad.Proofs.Eval.BreakDiscipline
import Scratchpad.Proofs.Eval.LoopCeiling
import Scratchpad.Proofs.Eval.Spans
import Scratchpad.Proofs.Eval.Termination

/-! A for-loop does what a block does that has its initial statements and then a while-loop with
the updates at the end of the body. The block nests deeper, so the two are compared on different
amounts of fuel.
-/

namespace Scratchpad

variable {ω α β γ δ : Type}

/-- An action whose value is dropped gives one wherever it ends well. -/
theorem Eval.exists_of_run_discard {action : Eval ω α} {state later : State ω} {ended : PUnit}
    (ran : (discard action).run state = (.ok ended, later))
    : ∃ value, action.run state = (.ok value, later) := by
  replace ran : (action >>= fun _ => pure PUnit.unit : Eval ω PUnit).run state = _ := ran
  obtain ⟨value, _, ran, ended⟩ := exists_of_run_bind ran
  cases ended
  exact ⟨value, ran⟩

-----------------------------------------------------------------------------------------
-- Ends that are alike
-----------------------------------------------------------------------------------------

/-- The same value, or errors that differ in their places only, in the same state. -/
def SameEnd (first second : Except Stop α × State ω) : Prop :=
  first.1.mapError Stop.unplaced = second.1.mapError Stop.unplaced ∧ first.2 = second.2

/-- Two runs end alike, unless the one that may runs out of fuel: the first under the given
condition, and otherwise the second. Their values are only said to agree.
-/
inductive AlikeEnds (short : Prop) (Agree : α → β → Prop)
    : Except Stop α × State ω → Except Stop β × State ω → Prop
  | value {value value' later} (agree : Agree value value')
    : AlikeEnds short Agree (.ok value, later) (.ok value', later)
  | stop {stop stop' later} (same : stop.unplaced = stop'.unplaced)
    : AlikeEnds short Agree (.error stop, later) (.error stop', later)
  | firstSpent {later ended} (may : short) : AlikeEnds short Agree (.error .outOfFuel, later) ended
  | secondSpent {ended later} (may : ¬short)
    : AlikeEnds short Agree ended (.error .outOfFuel, later)

namespace AlikeEnds

variable {short : Prop} {Agree : α → β → Prop} {state : State ω}

/-- An end is like itself. -/
theorem refl (ended : Except Stop α × State ω) : AlikeEnds short Eq ended ended := by
  rcases ended with ⟨stop | value, later⟩
  · exact .stop rfl
  · exact .value rfl

/-- Nothing is excused where the run that may run out of fuel does not.
Witness: the two excuses are the only ends that are alike and not the same.
-/
theorem sameEnd {first second : Except Stop α × State ω} (alike : AlikeEnds short Eq first second)
    (finished : short → first.1 ≠ .error .outOfFuel)
    (finished' : ¬short → second.1 ≠ .error .outOfFuel)
    : SameEnd first second := by
  cases alike with
  | value agree => exact ⟨congrArg Except.ok agree, rfl⟩
  | stop same => exact ⟨congrArg Except.error same, rfl⟩
  | firstSpent may => exact absurd rfl (finished may)
  | secondSpent may => exact absurd rfl (finished' may)

/-- Sequences end alike if what follows does, wherever the first action leads.
Witness: if the first actions give values, the rest goes on from one state; otherwise they stop
alike, and so do the sequences.
-/
theorem bind {Agree' : γ → δ → Prop} {first : Eval ω α} {second : Eval ω β}
    {next : α → Eval ω γ} {next' : β → Eval ω δ}
    (start : AlikeEnds short Agree (first.run state) (second.run state))
    (rest
      : ∀ {value value' later}, first.run state = (.ok value, later) → Agree value value'
        → AlikeEnds short Agree' ((next value).run later) ((next' value').run later))
    : AlikeEnds short Agree' ((first >>= next).run state) ((second >>= next').run state) := by
  rw [Eval.run_bind, Eval.run_bind]
  generalize first.run state = ended at start rest
  generalize second.run state = ended' at start
  cases start with
  | value agree => exact rest rfl agree
  | stop same => exact .stop same
  | firstSpent may => exact .firstSpent may
  | secondSpent may => exact .secondSpent may

/-- An action whose value is not needed.
Witness: dropping a value adds nothing to the end of an action but the value it ends with.
-/
theorem discard {action : Eval ω α} {ended : Except Stop β × State ω}
    (alike : AlikeEnds short Agree (action.run state) ended)
    : AlikeEnds short (fun _ _ => True) ((discard action).run state) ended := by
  show AlikeEnds short _ ((action >>= fun _ => pure PUnit.unit : Eval ω PUnit).run state) ended
  rw [Eval.run_bind]
  generalize action.run state = first at alike
  cases alike with
  | value _ => exact .value trivial
  | stop same => exact .stop same
  | firstSpent may => exact .firstSpent may
  | secondSpent may => exact .secondSpent may

/-- Putting a span on an error of the second run leaves the ends alike.
Witness: errors are compared without their spans.
-/
theorem atSpan_right {first : Except Stop α × State ω} {second : Eval ω β}
    (alike : AlikeEnds short Agree first (second.run state)) (span : Span)
    : AlikeEnds short Agree first ((Eval.atSpan span second).run state) := by
  rw [Eval.run_atSpan]
  generalize second.run state = ended at alike
  cases alike with
  | value agree => exact .value agree
  | stop same => exact .stop (same.trans (Stop.unplaced_withSpan span _).symm)
  | firstSpent may => exact .firstSpent may
  | secondSpent may => exact .secondSpent may

/-- Putting a span on an error of the first run leaves the ends alike.
Witness: errors are compared without their spans.
-/
theorem atSpan_left {first : Eval ω α} {second : Except Stop β × State ω}
    (alike : AlikeEnds short Agree (first.run state) second) (span : Span)
    : AlikeEnds short Agree ((Eval.atSpan span first).run state) second := by
  rw [Eval.run_atSpan]
  generalize first.run state = ended at alike
  cases alike with
  | value agree => exact .value agree
  | stop same => exact .stop ((Stop.unplaced_withSpan span _).trans same)
  | firstSpent may => exact .firstSpent may
  | secondSpent may => exact .secondSpent may

/-- Loops end alike whose passes do, by induction on the passes that are left.
Witness: alike passes carry on with the same value from one state, so that the room left and the
request to cancel are the same as well.
-/
theorem iterate {ι : Type} {pass pass' : ι → Eval ω (Option ι)}
    (each
      : ∀ carried (state : State ω),
          AlikeEnds short Eq ((pass carried).run state) ((pass' carried).run state))
    (limit left : Nat) (carried : ι) (state : State ω)
    : AlikeEnds short Eq ((iterate limit pass left carried).run state)
        ((iterate limit pass' left carried).run state) := by
  induction left generalizing carried state with
  | zero =>
      unfold Scratchpad.iterate
      refine (each carried state).bind fun {next? _ later} _ same => ?_
      subst same
      exact .refl _
  | succ left ih =>
      unfold Scratchpad.iterate
      refine (each carried state).bind fun {next? _ later} _ same => ?_
      subst same
      cases next? with
      | none => exact .refl _
      | some next => exact (AlikeEnds.refl _).bind fun _ _ => ih next _

/-- Loops of one machine end alike whose passes do.
Witness: both have the limit of the machine, and end with the same value.
-/
theorem loop (m : Machine ω) {ι : Type} {pass pass' : ι → Eval ω (Option ι)} (start : ι)
    (each
      : ∀ carried (state : State ω),
          AlikeEnds short Eq ((pass carried).run state) ((pass' carried).run state))
    (state : State ω)
    : AlikeEnds short Eq ((m.loop pass start).run state) ((m.loop pass' start).run state) :=
  (AlikeEnds.iterate each _ _ start state).bind fun _ _ => .refl _

end AlikeEnds

-----------------------------------------------------------------------------------------
-- Fuel on both sides
-----------------------------------------------------------------------------------------

/-- How the fuel of two runs compares. If the first may run short, the second has so much more; if
the second may, it has no more than the first.
-/
structure Spare (short : Prop) (fuel more room : Nat) : Prop where
  ample : short → fuel + room ≤ more
  scarce : ¬short → more ≤ fuel

namespace Spare

variable {short : Prop} {fuel more room : Nat}

/-- A node that only the second run has takes up some of the room.
Witness: by arithmetic; the node costs one step of the second run and one of the room.
-/
theorem nested (spare : Spare short fuel (more + 1) (room + 1)) : Spare short fuel more room := by
  refine ⟨fun may => ?_, fun may => ?_⟩
  · have ample := spare.ample may
    omega
  · have scarce := spare.scarce may
    omega

/-- Opening a node in both runs leaves the room between them as it is.
Witness: by arithmetic; each run has one step less.
-/
theorem opened (spare : Spare short (fuel + 1) (more + 1) room) : Spare short fuel more room := by
  refine ⟨fun may => ?_, fun may => ?_⟩
  · have ample := spare.ample may
    omega
  · have scarce := spare.scarce may
    omega

/-- Some of the room may be left unused. -/
theorem less (spare : Spare short fuel more (room + 1)) : Spare short fuel more room := by
  refine ⟨fun may => ?_, spare.scarce⟩
  have ample := spare.ample may
  omega

/-- Without fuel, the second run is the one that may run short. -/
theorem not_short (spare : Spare short fuel 0 (room + 1)) : ¬short := by
  intro may
  have ample := spare.ample may
  omega

variable (m : Machine ω)

/-- Both runs do a job alike.
Witness: if the run with less fuel finishes, the other one does the same; otherwise its end is
excused.
-/
theorem job (spare : Spare short fuel more room) (job : Job) (state : State ω)
    : AlikeEnds short Eq ((m.run fuel job).run state) ((m.run more job).run state) := by
  by_cases may : short
  · by_cases spent : ((m.run fuel job).run state).1 = .error .outOfFuel
    · generalize (m.run fuel job).run state = ended at spent
      rcases ended with ⟨result, later⟩
      cases spent
      exact .firstSpent may
    · have ample := spare.ample may
      rw [m.run_eq_of_le spent (by omega : fuel ≤ more)]
      exact .refl _
  · by_cases spent : ((m.run more job).run state).1 = .error .outOfFuel
    · generalize (m.run more job).run state = ended at spent
      rcases ended with ⟨result, later⟩
      cases spent
      exact .secondSpent may
    · rw [m.run_eq_of_le spent (spare.scarce may)]
      exact .refl _

/-- The second run executes a statement that the first one does without.
Witness: the second run opens the statement with one step less, and a span of an error does not
matter.
-/
theorem exec {Agree : α → Value → Prop} {first : Except Stop α × State ω} {arena : Arena}
    {id : StmtId} {stmt : Stmt} {state : State ω} (found : arena.stmt? id = some stmt)
    (spare : Spare short fuel more (room + 1))
    (inside
      : ∀ {less}, Spare short fuel less room
        → AlikeEnds short Agree first ((m.execStmt (m.run less) arena stmt).run state))
    : AlikeEnds short Agree first ((m.run more (.exec arena id)).run state) := by
  cases more with
  | zero => exact .secondSpent spare.not_short
  | succ less =>
      rw [Machine.run, Machine.perform, found]
      exact (inside spare.nested).atSpan_right stmt.span

end Spare

-----------------------------------------------------------------------------------------
-- The two loops
-----------------------------------------------------------------------------------------

namespace Arena

/-- What kind of statement a node is. -/
def stmtKind? (arena : Arena) (id : StmtId) : Option StmtKind := (arena.stmt? id).map (·.kind)

/-- A statement whose kind is known is in the arena, with some span. -/
theorem exists_of_stmtKind? {arena : Arena} {id : StmtId} {kind : StmtKind}
    (known : arena.stmtKind? id = some kind)
    : ∃ span, arena.stmt? id = some { kind, span } := by
  obtain ⟨stmt, found, rfl⟩ := Option.map_eq_some_iff.mp known
  exact ⟨stmt.span, found⟩

/-- A node of a known kind is in the arena. -/
theorem holds_of_stmtKind? {arena : Arena} {id : StmtId} {kind : StmtKind}
    (known : arena.stmtKind? id = some kind)
    : arena.Holds (.stmt id) := by
  obtain ⟨span, found⟩ := exists_of_stmtKind? known
  by_contra unheld
  rw [stmt?_eq_none.mpr unheld] at found
  cases found

/-- Whether one node stands for a condition that may be missing: the condition itself, or else the
literal `true`.
-/
def StandsFor (arena : Arena) (cond : ExprId) : Option ExprId → Prop
  | some given => cond = given
  | none => ∃ expr, arena.expr? cond = some expr ∧ expr.kind = .literal (.bool true)

end Arena

/-- A for-loop and the block that it stands for, in one arena over the same nodes. -/
structure Desugaring (arena : Arena) where
  init : List StmtId
  cond? : Option ExprId
  update : List ExprId
  body : StmtId
  forLoop : StmtId
  cond : ExprId
  updates : List StmtId
  inner : StmtId
  whileLoop : StmtId
  block : StmtId
  isFor : arena.stmtKind? forLoop = some (.forLoop init cond? update body)
  isCond : arena.StandsFor cond cond?
  areUpdates : List.Forall₂ (fun id stmt => arena.stmtKind? stmt = some (.expr id)) update updates
  isInner : arena.stmtKind? inner = some (.block (body :: updates))
  isWhile : arena.stmtKind? whileLoop = some (.whileLoop cond inner)
  isBlock : arena.stmtKind? block = some (.block (init ++ [whileLoop]))

namespace Machine

/-- Where these statements are executed one after the other, none of them leaves a break
pending.
-/
def LeavesNoBreak (m : Machine ω) (arena : Arena) : List StmtId → State ω → Prop
  | [], _ => True
  | id :: rest, state =>
    ∀ fuel value later, (m.run fuel (.exec arena id)).run state = (.ok value, later)
      → later.context.breakPending = false ∧ m.LeavesNoBreak arena rest later

variable (m : Machine ω)

/-- Statements without a free break leave none.
Witness: by induction on the statements; a break that is pending after one of them would come from a
free break in it.
-/
theorem leavesNoBreak_of_not_freeBreak {arena : Arena} {init : List StmtId}
    (unfree : ∀ id ∈ init, ¬arena.FreeBreak id) {state : State ω}
    (calm : state.context.breakPending = false)
    : m.LeavesNoBreak arena init state := by
  induction init generalizing state with
  | nil => trivial
  | cons id rest ih =>
      intro fuel value later ran
      have kept : later.context.breakPending = false := by
        refine Bool.eq_false_iff.mpr fun pending => unfree id (by simp) ?_
        simpa [ran, pending] using m.exec_breaksOnly fuel arena id state calm
      exact ⟨kept, ih (fun other member => unfree other (by simp [member])) kept⟩

/-- Runs the body of a loop and then, unless a break is pending, the given action. -/
def bodyUnlessBroken (again : Job → Eval ω Value) (arena : Arena) (body : StmtId)
    (next : Eval ω Unit)
    : Eval ω Unit := do
  let _ ← again (.exec arena body)
  let state ← get
  if state.context.breakPending then pure () else next

/-- A break may as well be taken after the action that it skips, if that action leaves none.
Witness: if the body leaves a break, both skip the action and take it. If it leaves none, the action
leaves none either, so that nothing is taken after it.
-/
theorem run_bodyThen_late {again : Job → Eval ω Value} {arena : Arena} {body : StmtId}
    {next : Eval ω Unit} (calm : Coupling.calm.Couples next next) (state : State ω)
    : (bodyThen again arena body next).run state
      = (do
          bodyUnlessBroken again arena body next
          if ← Eval.takeBreak then pure none else pure (some ())).run state := by
  simp only [bodyThen, bodyUnlessBroken, Eval.run_bind]
  rcases (again (.exec arena body)).run state with ⟨stop | value, later⟩
  · rfl
  · cases flag : later.context.breakPending with
    | true => simp [flag]
    | false =>
        have kept := (calm.keeps flag).1
        simp only [Eval.run_takeBreak, Eval.run_get, flag]
        show (some <$> next).run (later.withBreak false) = _
        rw [State.withBreak_eq_self flag, map_eq_pure_bind, Eval.run_bind]
        simp only [Bool.false_eq_true, if_false]
        generalize next.run later = ended at kept
        rcases ended with ⟨stop | ⟨⟩, last⟩
        · rfl
        · replace kept : last.context.breakPending = false := kept
          simp only [kept]
          exact congrArg (Prod.mk _) (State.withBreak_eq_self kept).symm

variable {m} {arena : Arena} {short : Prop} {fuel more : Nat}

/-- A missing condition holds like the literal `true`.
Witness: the literal is evaluated in one step of the room, to `true` and without effects.
-/
theorem condition_alike {cond : ExprId} {cond? : Option ExprId}
    (stands : arena.StandsFor cond cond?) (spare : Spare short fuel more 1) (state : State ω)
    : AlikeEnds short Eq ((m.condition (m.run fuel) arena cond?).run state)
        ((m.condition (m.run more) arena (some cond)).run state) := by
  cases cond? with
  | some given =>
      obtain rfl : cond = given := stands
      refine (spare.job m _ state).bind fun _ same => ?_
      subst same
      exact .refl _
  | none =>
      obtain ⟨expr, found, kind⟩ := stands
      cases more with
      | zero => exact .secondSpent spare.not_short
      | succ less =>
          have holds : (m.run (less + 1) (.eval arena cond none)).run state
              = (.ok (.bool true), state) := by
            rw [run, perform, found]
            simp only [Eval.run_atSpan, evalExpr, kind]
            rfl
          have given
              : (m.condition (m.run (less + 1)) arena (some cond)).run state
                = (.ok true, state) := by
            show (_ >>= _ : Eval ω Bool).run state = _
            rw [Eval.run_bind, ambient, holds]
            rfl
          rw [given]
          exact .value rfl

/-- Updates are evaluated alike in a loop and as statements of a block, which no break leaves
early; induction on them.
-/
theorem updates_alike {update : List ExprId} {updates : List StmtId}
    (statements
      : List.Forall₂ (fun id stmt => arena.stmtKind? stmt = some (.expr id)) update updates)
    (spare : Spare short fuel more 1) {state : State ω} (calm : state.context.breakPending = false)
    (result : Value)
    : AlikeEnds short (fun _ _ => True)
        ((update.forM fun id => discard (ambient (m.run fuel) arena id)).run state)
        ((blockFrom (m.run more) arena result updates).run state) := by
  induction statements generalizing state result with
  | nil => exact .value trivial
  | @cons id stmt _ _ known _ ih =>
      obtain ⟨span, found⟩ := Arena.exists_of_stmtKind? known
      have first
          : AlikeEnds short Eq ((ambient (m.run fuel) arena id).run state)
              ((m.run more (.exec arena stmt)).run state) :=
        spare.exec m found fun spare => spare.job m _ state
      refine first.discard.bind fun {_ value later} ran _ => ?_
      have kept : later.context.breakPending = false := by
        obtain ⟨value, evaluated⟩ := Eval.exists_of_run_discard ran
        have keeps := ((Coupling.calm_eval m fuel arena id none).keeps calm).1
        rwa [show (m.run fuel (.eval arena id none)).run state = _ from evaluated] at keeps
      rw [Eval.run_get_bind, kept]
      exact ih kept value

/-- The updates leave no break pending. -/
theorem updates_calm (update : List ExprId)
    : Coupling.calm.Couples (update.forM fun id => discard (ambient (m.run fuel) arena id))
        (update.forM fun id => discard (ambient (m.run fuel) arena id)) :=
  .forM fun id _ => (Coupling.calm_eval m fuel arena id none).map _

variable (loop : Desugaring arena)

/-- A pass of the for-loop ends like one of the while-loop. A break in the body skips the updates in
both: the one takes it before them, and in the other it ends the block that they are in.
-/
theorem pass_alike (spare : Spare short fuel more 2) (carried : Unit) (state : State ω)
    : AlikeEnds short Eq
        ((m.forPass (m.run fuel) arena loop.cond? loop.update loop.body carried).run state)
        ((m.whilePass (m.run more) arena loop.cond loop.inner carried).run state) := by
  obtain ⟨span, found⟩ := Arena.exists_of_stmtKind? loop.isInner
  refine (condition_alike loop.isCond spare.less state).bind fun {holds _ tested} _ same => ?_
  subst same
  cases holds with
  | false => exact .refl _
  | true =>
      simp only [if_true]
      rw [run_bodyThen_late (updates_calm loop.update)]
      have blocks
          : AlikeEnds short (fun _ _ => True)
              ((bodyUnlessBroken (m.run fuel) arena loop.body
                (loop.update.forM fun id => discard (ambient (m.run fuel) arena id))).run tested)
              ((m.run more (.exec arena loop.inner)).run tested) := by
        refine spare.exec m found fun spare => ?_
        refine (spare.job m (.exec arena loop.body) tested).bind fun {_ value later} _ _ => ?_
        rw [Eval.run_get_bind, Eval.run_get_bind]
        cases flag : later.context.breakPending with
        | true => exact .value trivial
        | false => exact updates_alike loop.areUpdates spare flag value
      exact blocks.bind fun _ _ => .refl _

/-- So do the initial statements and the loops after them, by induction on these statements.
Witness: each statement is done alike in both runs, and leaves no break that would end the block;
the last statement of the block is the loop.
-/
theorem init_alike {init : List StmtId} {state : State ω} (quiet : m.LeavesNoBreak arena init state)
    {room : Nat} (spare : Spare short fuel more room) {last : StmtId} {rest : Eval ω Value}
    (ends
      : ∀ later, AlikeEnds short Eq (rest.run later) ((m.run more (.exec arena last)).run later))
    (result : Value)
    : AlikeEnds short Eq
        ((do
          init.forM fun id => discard (m.run fuel (.exec arena id))
          rest).run state)
        ((blockFrom (m.run more) arena result (init ++ [last])).run state) := by
  induction init generalizing state result with
  | nil =>
      have only
          : (blockFrom (m.run more) arena result [last]).run state
            = (m.run more (.exec arena last)).run state := by
        simp only [blockFrom, Eval.run_bind]
        rcases (m.run more (.exec arena last)).run state with ⟨stop | value, later⟩
        · rfl
        · simp
      show AlikeEnds short Eq (rest.run state)
        ((blockFrom (m.run more) arena result [last]).run state)
      rw [only]
      exact ends state
  | cons id others ih =>
      rw [List.forM_eq_forM, List.forM_cons, bind_assoc]
      refine (spare.job m (.exec arena id) state).discard.bind fun {_ value later} ran _ => ?_
      obtain ⟨_, ran⟩ := Eval.exists_of_run_discard ran
      obtain ⟨calm, quiet⟩ := quiet _ _ _ ran
      show AlikeEnds short Eq _ ((get >>= _ : Eval ω Value).run later)
      rw [Eval.run_get_bind, calm]
      exact ih quiet value

/-- The for-loop ends like the block.
Witness: the for-loop and the block are opened in one step each; the while-loop inside the block and
the literal condition are what the room is for.
-/
theorem exec_alike (spare : Spare short fuel more 3) {state : State ω}
    (quiet : m.LeavesNoBreak arena loop.init state)
    : AlikeEnds short Eq ((m.run fuel (.exec arena loop.forLoop)).run state)
        ((m.run more (.exec arena loop.block)).run state) := by
  obtain ⟨span, found⟩ := Arena.exists_of_stmtKind? loop.isFor
  obtain ⟨span', found'⟩ := Arena.exists_of_stmtKind? loop.isBlock
  obtain ⟨_, inside⟩ := Arena.exists_of_stmtKind? loop.isWhile
  cases more with
  | zero => exact .secondSpent spare.not_short
  | succ more =>
      cases fuel with
      | zero =>
          by_cases may : short
          · exact .firstSpent may
          · have scarce := spare.scarce may
            omega
      | succ fuel =>
          have spare := spare.opened
          rw [run, perform, found, run, perform, found']
          refine AlikeEnds.atSpan_left (AlikeEnds.atSpan_right ?_ span') span
          refine init_alike quiet spare (fun later => ?_) .void
          exact spare.exec m inside fun spare => .loop m () (pass_alike loop spare) later

/-- A for-loop ends like the block that it stands for if its initial statements leave no break
pending, whatever the limits, the host and the spans are. Where one of the two ends, so does the
other, on little more fuel. In a sound program both end, with the same value or with errors of the
same cause, and in the same state.
-/
theorem for_runs_as_while (m : Machine ω) {arena : Arena} (loop : Desugaring arena)
    {state : State ω} (quiet : m.LeavesNoBreak arena loop.init state)
    : (∀ fuel,
        ((m.run fuel (.exec arena loop.forLoop)).run state).1 ≠ .error .outOfFuel
        → SameEnd ((m.run fuel (.exec arena loop.forLoop)).run state)
            ((m.run (fuel + 3) (.exec arena loop.block)).run state))
      ∧ (∀ fuel,
        ((m.run fuel (.exec arena loop.block)).run state).1 ≠ .error .outOfFuel
        → SameEnd ((m.run fuel (.exec arena loop.forLoop)).run state)
            ((m.run fuel (.exec arena loop.block)).run state))
      ∧ (arena.Sound → state.heap.Sound
        → ∃ (first second : Except EvalError Value) (later : State ω),
            (m.exec arena loop.forLoop).run state = (first.mapError .error, later)
            ∧ (m.exec arena loop.block).run state = (second.mapError .error, later)
            ∧ first.mapError (·.cause) = second.mapError (·.cause)) := by
  have ample (fuel : Nat)
      (finished : ((m.run fuel (.exec arena loop.forLoop)).run state).1 ≠ .error .outOfFuel)
      : SameEnd ((m.run fuel (.exec arena loop.forLoop)).run state)
          ((m.run (fuel + 3) (.exec arena loop.block)).run state) := by
    have spare : Spare True fuel (fuel + 3) 3 := ⟨fun _ => le_rfl, fun never => (never ⟨⟩).elim⟩
    exact (exec_alike loop spare quiet).sameEnd (fun _ => finished) fun never => (never ⟨⟩).elim
  refine ⟨ample, fun fuel finished => ?_, fun sound heap => ?_⟩
  · have spare : Spare False fuel fuel 3 := ⟨False.elim, fun _ => le_rfl⟩
    exact (exec_alike loop spare quiet).sameEnd False.elim fun _ => finished
  · have held := Arena.holds_of_stmtKind? loop.isFor
    have held' := Arena.holds_of_stmtKind? loop.isBlock
    obtain ⟨first, later, ran⟩ := m.ends_of_sound (.exec arena loop.forLoop) sound held heap
    obtain ⟨second, later', ran'⟩ := m.ends_of_sound (.exec arena loop.block) sound held' heap
    have ended := ran (fuelFor arena state) le_rfl
    have ended' := ran' (fuelFor arena state + 3) (Nat.le_add_right _ _)
    have finished
        : ((m.run (fuelFor arena state) (.exec arena loop.forLoop)).run state).1
          ≠ .error .outOfFuel := by
      rw [ended]
      cases first <;> simp [Except.mapError]
    have alike := ample _ finished
    rw [ended, ended'] at alike
    obtain ⟨same, rfl⟩ := alike
    refine ⟨first, second, later, ?_, ?_, ?_⟩
    · rw [run_exec, ended]
    · rw [run_exec, ran' (fuelFor arena state) le_rfl]
    · cases first <;> cases second <;> simp_all [Except.mapError, Stop.unplaced]

/-- The statement `for (int i = 0; ; i++) if (i == 1) break;`, at index 3, and behind it
`{ int i = 0; while (true) { if (i == 1) break; i++; } }`.
-/
def countingLoops : Arena :=
  {
    exprs :=
      #[
        { kind := .literal (.int 0) },
        { kind := .ident ⟨3⟩ },
        { kind := .literal (.int 1) },
        { kind := .binary .eq ⟨1⟩ ⟨2⟩ },
        { kind := .unary .postInc ⟨1⟩ },
        { kind := .literal (.bool true) }
      ]
    stmts :=
      #[
        { kind := .varDecl (.primitive .int) [{ name := ⟨3⟩, init? := some ⟨0⟩ }] },
        { kind := .breakLoop },
        { kind := .ifElse ⟨3⟩ ⟨1⟩ none },
        { kind := .forLoop [⟨0⟩] none [⟨4⟩] ⟨2⟩ },
        { kind := .expr ⟨4⟩ },
        { kind := .block [⟨2⟩, ⟨4⟩] },
        { kind := .whileLoop ⟨5⟩ ⟨5⟩ },
        { kind := .block [⟨0⟩, ⟨6⟩] }
      ]
  }

/-- The order in which the nodes were added, expressions before statements. -/
def countingRank : NodeId → Nat
  | .expr id => id.index
  | .stmt id => id.index + 6

/-- The two of them. -/
def countingLoop : Desugaring countingLoops where
  init := [⟨0⟩]
  cond? := none
  update := [⟨4⟩]
  body := ⟨2⟩
  forLoop := ⟨3⟩
  cond := ⟨5⟩
  updates := [⟨4⟩]
  inner := ⟨5⟩
  whileLoop := ⟨6⟩
  block := ⟨7⟩
  isFor := rfl
  isCond := ⟨_, rfl, rfl⟩
  areUpdates := .cons rfl .nil
  isInner := rfl
  isWhile := rfl
  isBlock := rfl

/-- Knows the name `i` behind the reserved ones. -/
def counter : Machine SampleHost.World :=
  { names := .filled ["i"], host := SampleHost.host }

/-- Both loops end with their `break`, when `i` is one, without an update after it.
Witness: the hypotheses hold of this arena; the run of the for-loop is computed, and the block ends
like it.
-/
theorem countingLoop_runs_as_while
    : countingLoops.Sound
      ∧ idle.heap.Sound
      ∧ counter.LeavesNoBreak countingLoops countingLoop.init idle
      ∧ (counter.exec countingLoops countingLoop.forLoop).run idle
        = (.ok .void, idle.withVars (idle.context.vars.define ⟨3⟩ (.int 1)))
      ∧ (counter.exec countingLoops countingLoop.block).run idle
        = (.ok .void, idle.withVars (idle.context.vars.define ⟨3⟩ (.int 1))) := by
  have sound : countingLoops.Sound := Arena.sound_of_ranked countingRank (by decide)
  have heap : idle.heap.Sound := fun _ member => absurd member (by simp [idle])
  have quiet : counter.LeavesNoBreak countingLoops countingLoop.init idle := by
    refine counter.leavesNoBreak_of_not_freeBreak (fun id member free => ?_) rfl
    obtain rfl : id = ⟨0⟩ := by simpa [countingLoop] using member
    cases free with
    | here found kind =>
        cases found
        cases kind
    | inside found outlet _ =>
        cases found
        cases outlet
  have ended
      : (counter.run 5 (.exec countingLoops countingLoop.forLoop)).run idle
        = (.ok .void, idle.withVars (idle.context.vars.define ⟨3⟩ (.int 1))) := by
    cbv
  have started
      : (counter.exec countingLoops countingLoop.forLoop).run idle
        = (.ok .void, idle.withVars (idle.context.vars.define ⟨3⟩ (.int 1))) := by
    rw [run_exec]
    refine (counter.run_eq_of_le ?_ ?_).trans ended
    · rw [ended]
      simp
    · decide
  obtain ⟨_, _, ends⟩ := for_runs_as_while counter countingLoop quiet
  obtain ⟨first, second, later, ran, ran', same⟩ := ends sound heap
  rw [started] at ran
  cases first with
  | error failure => cases ran
  | ok value =>
      cases ran
      cases second with
      | error failure => cases same
      | ok value =>
          cases same
          exact ⟨sound, heap, quiet, started, ran'⟩

end Machine

end Scratchpad
