import Scratchpad.Proofs.Eval.CancelledLoops
import Scratchpad.Proofs.Eval.RaisedLimits

/-! How many iterations a loop may run. The four forms of loops share one ceiling: the iteration
that reaches it is completed, and then the loop fails in the state that this iteration left.
Every execution of a loop counts its own full iterations and no others, from zero.
-/

namespace Scratchpad

variable {ω : Type}

/-- A sequence has a value exactly if each action has one. -/
theorem Eval.run_bind_eq_ok {α β : Type} {first : Eval ω α} {next : α → Eval ω β}
    {state later : State ω} {value : β}
    : (first >>= next).run state = (.ok value, later)
      ↔ ∃ middle between, first.run state = (.ok middle, between)
          ∧ (next middle).run between = (.ok value, later) := by
  refine ⟨exists_of_run_bind, ?_⟩
  rintro ⟨middle, between, started, ended⟩
  rw [run_bind, started]
  exact ended

/-- Taking a break that is not pending changes nothing. -/
theorem State.withBreak_eq_self {state : State ω} (calm : state.context.breakPending = false)
    : state.withBreak false = state := by
  obtain ⟨⟨this, vars, pending, cancelled⟩, heap, world, printout⟩ := state
  cases calm
  rfl

/-- A conversion to a declared type reads the state and does not change it.
Witness: it takes the scene of the state and gives a result without effects.
-/
theorem Machine.run_coerceToType {m : Machine ω} {value converted : Value}
    {type : ResolvedType Name} {state later : State ω}
    : (m.coerceToType value type).run state = (.ok converted, later)
      ↔ (m.sceneOf state).coerceToType value type = .ok converted ∧ later = state := by
  have run
      : (m.coerceToType value type).run state
        = (Eval.ofExcept ((m.sceneOf state).coerceToType value type)).run state :=
    rfl
  rw [run]
  cases (m.sceneOf state).coerceToType value type with
  | error cause =>
      refine ⟨fun ran => ?_, fun same => ?_⟩
      · cases ran
      · cases same.1
  | ok result =>
      refine ⟨fun ran => ?_, fun same => ?_⟩
      · cases ran
        exact ⟨rfl, rfl⟩
      · obtain ⟨same, rfl⟩ := same
        cases same
        rfl

-----------------------------------------------------------------------------------------
-- Forms of loops
-----------------------------------------------------------------------------------------

/-- A loop as it is once everything before its first iteration is done. -/
inductive LoopForm where
  | whileLoop (cond : ExprId) (body : StmtId)
  | doWhile (cond : ExprId) (body : StmtId)
  | forLoop (cond? : Option ExprId) (update : List ExprId) (body : StmtId)
  | forEach (var : Name) (type : ResolvedType Name) (body : StmtId)

def StmtKind.isLoop : StmtKind → Bool
  | .whileLoop _ _ | .doWhile _ _ | .forLoop _ _ _ _ | .forEach _ _ _ _ => true
  | _ => false

namespace LoopForm

/-- What a loop carries from one iteration to the next: whether a do-while loop is about to start,
and the elements that are left to a for-each loop.
-/
def Carried : LoopForm → Type
  | .whileLoop _ _ => Unit
  | .doWhile _ _ => Bool
  | .forLoop _ _ _ => Unit
  | .forEach _ _ _ => List Value

variable (m : Machine ω) (again : Job → Eval ω Value) (arena : Arena)

/-- What the loop does over and over. -/
def pass : (form : LoopForm) → form.Carried → Eval ω (Option form.Carried)
  | .whileLoop cond body => m.whilePass again arena cond body
  | .doWhile cond body => m.doWhilePass again arena cond body
  | .forLoop cond? update body => m.forPass again arena cond? update body
  | .forEach var type body => m.forEachPass again arena var type body

/-- The body of a loop is executed and leaves no break pending. -/
def RunsThrough (body : StmtId) (state later : State ω) : Prop :=
  (∃ value, (again (.exec arena body)).run state = (.ok value, later))
  ∧ later.context.breakPending = false

/-- A full iteration, from a state to the one it leaves: the condition holds, where the loop has one
to test, or there is an element to bind; the body runs through, and so do the updates of a for-loop.
-/
def Turn : (form : LoopForm) → form.Carried → State ω → form.Carried → State ω → Prop
  | .whileLoop cond body, _, state, _, later =>
    ∃ tested, (m.condition again arena (some cond)).run state = (.ok true, tested)
      ∧ RunsThrough again arena body tested later
  | .doWhile cond body, first, state, next, later =>
    next = false
    ∧ ∃ tested, (first = true ∧ tested = state
        ∨ first = false ∧ (m.condition again arena (some cond)).run state = (.ok true, tested))
      ∧ RunsThrough again arena body tested later
  | .forLoop cond? update body, _, state, _, later =>
    ∃ tested done, (m.condition again arena cond?).run state = (.ok true, tested)
      ∧ RunsThrough again arena body tested done
      ∧ (update.forM fun id => discard (ambient again arena id)).run done = (.ok (), later)
  | .forEach var type body, elements, state, rest, later =>
    ∃ element value, elements = element :: rest
      ∧ (m.sceneOf state).coerceToType element type = .ok value
      ∧ RunsThrough again arena body (state.withVars (state.context.vars.define var value)) later

/-- So many full iterations in a row. -/
inductive Turns (form : LoopForm)
    : Nat → form.Carried → State ω → form.Carried → State ω → Prop
  | none {carried state} : form.Turns 0 carried state carried state
  | next {count carried state middle between last later}
    (turn : form.Turn m again arena carried state middle between)
    (rest : form.Turns count middle between last later)
    : form.Turns (count + 1) carried state last later

/-- An iteration that is not full and ends the loop: with nothing more to do, or by a stop, whose
place is noted.
-/
inductive Ends (form : LoopForm) (span : Span) (carried : form.Carried) (state : State ω)
    : Except Stop Value × State ω → Prop
  | over {later} (left : (form.pass m again arena carried).run state = (.ok none, later))
    : form.Ends span carried state (.ok .void, later)
  | stopped {stop later}
    (failed : (form.pass m again arena carried).run state = (.error stop, later))
    : form.Ends span carried state (.error (stop.withSpan span), later)

/-- What a loop statement does before its first iteration: nothing, or the initial statements, or
the evaluation of what it iterates over.
-/
inductive Enters : StmtKind → State ω → (form : LoopForm) → form.Carried → State ω → Prop
  | whileLoop {cond body state}
    : Enters (.whileLoop cond body) state (.whileLoop cond body) () state
  | doWhile {body cond state}
    : Enters (.doWhile body cond) state (.doWhile cond body) true state
  | forLoop {init cond? update body state later}
    (started : (init.forM fun id => discard (again (.exec arena id))).run state = (.ok (), later))
    : Enters (.forLoop init cond? update body) state (.forLoop cond? update body) () later
  | forEach {var type iterable body state source between elements later}
    (evaluated : (ambient again arena iterable).run state = (.ok source, between))
    (listed : (m.elementsOf source).run between = (.ok elements, later))
    : Enters (.forEach var type iterable body) state (.forEach var type body) elements later

-----------------------------------------------------------------------------------------
-- Full iterations are the passes that go on
-----------------------------------------------------------------------------------------

variable {m again arena}

/-- Running the body and then an action goes on exactly if the body runs through and the action has
a value.
-/
theorem run_bodyThen {ι : Type} {body : StmtId} {next : Eval ω ι} {state later : State ω}
    {carried : ι}
    : (Machine.bodyThen again arena body next).run state = (.ok (some carried), later)
      ↔ ∃ done, RunsThrough again arena body state done ∧ next.run done = (.ok carried, later) := by
  simp only [Machine.bodyThen, Eval.run_bind_eq_ok, Eval.run_takeBreak, RunsThrough]
  constructor
  · rintro ⟨value, done, ran, _, _, taken, ended⟩
    cases taken
    split at ended
    · cases ended
    · next unbroken =>
      rw [Bool.not_eq_true] at unbroken
      obtain ⟨_, _, ended, same⟩ := Eval.run_bind_eq_ok.mp ended
      cases same
      refine ⟨done, ⟨⟨value, ran⟩, unbroken⟩, ?_⟩
      rwa [← State.withBreak_eq_self unbroken]
  · rintro ⟨done, ⟨⟨value, ran⟩, unbroken⟩, ended⟩
    refine ⟨value, done, ran, _, _, rfl, ?_⟩
    rw [unbroken]
    refine Eval.run_bind_eq_ok.mpr ⟨carried, later, ?_, rfl⟩
    exact (congrArg next.run (State.withBreak_eq_self unbroken)).trans ended

/-- Where a condition decides about an action, the two go on together exactly if the condition holds
and the action goes on.
-/
theorem run_tested {ι : Type} {test : Eval ω Bool} {action : Eval ω (Option ι)}
    {state later : State ω} {carried : ι}
    : (do if ← test then action else pure none : Eval ω (Option ι)).run state
        = (.ok (some carried), later)
      ↔ ∃ tested, test.run state = (.ok true, tested)
          ∧ action.run tested = (.ok (some carried), later) := by
  rw [Eval.run_bind_eq_ok]
  constructor
  · rintro ⟨holds, tested, ran, ended⟩
    cases holds with
    | false => cases ended
    | true => exact ⟨tested, ran, ended⟩
  · rintro ⟨tested, ran, ended⟩
    exact ⟨true, tested, ran, ended⟩

/-- A pass goes on exactly if it is a full iteration.
Witness: by the form of the loop: the test passes, the body runs through, and the loop is carried on
with what the form says.
-/
theorem turn_iff {form : LoopForm} {carried next : form.Carried} {state later : State ω}
    : form.Turn m again arena carried state next later
      ↔ (form.pass m again arena carried).run state = (.ok (some next), later) := by
  have body {ι : Type} {id : StmtId} {last : ι} {value : ι} {tested : State ω}
      : (Machine.bodyThen again arena id (pure last)).run tested = (.ok (some value), later)
        ↔ value = last ∧ RunsThrough again arena id tested later := by
    rw [run_bodyThen]
    constructor
    · rintro ⟨done, through, same⟩
      cases same
      exact ⟨rfl, through⟩
    · rintro ⟨rfl, through⟩
      exact ⟨later, through, rfl⟩
  cases form with
  | whileLoop cond id =>
      refine Iff.trans ?_ run_tested.symm
      refine exists_congr fun tested => and_congr_right fun _ => ?_
      exact (body.trans (and_iff_right rfl)).symm
  | doWhile cond id =>
      cases carried with
      | true =>
          refine Iff.trans ?_ body.symm
          constructor
          · rintro ⟨last, tested, ⟨_, rfl⟩ | ⟨same, _⟩, through⟩
            · exact ⟨last, through⟩
            · cases same
          · rintro ⟨last, through⟩
            exact ⟨last, state, .inl ⟨rfl, rfl⟩, through⟩
      | false =>
          refine Iff.trans ?_ run_tested.symm
          constructor
          · rintro ⟨last, tested, ⟨same, _⟩ | ⟨_, holds⟩, through⟩
            · cases same
            · exact ⟨tested, holds, body.mpr ⟨last, through⟩⟩
          · rintro ⟨tested, holds, ran⟩
            obtain ⟨last, through⟩ := body.mp ran
            exact ⟨last, tested, .inr ⟨rfl, holds⟩, through⟩
  | forLoop cond? update id =>
      refine Iff.trans ?_ run_tested.symm
      constructor
      · rintro ⟨tested, done, holds, through, updated⟩
        exact ⟨tested, holds, run_bodyThen.mpr ⟨done, through, updated⟩⟩
      · rintro ⟨tested, holds, ran⟩
        obtain ⟨done, through, updated⟩ := run_bodyThen.mp ran
        exact ⟨tested, done, holds, through, updated⟩
  | forEach var type id =>
      cases carried with
      | nil =>
          constructor
          · rintro ⟨element, value, same, _⟩
            cases same
          · intro ran
            cases ran
      | cons element rest =>
          refine Iff.trans ?_ Eval.run_bind_eq_ok.symm
          constructor
          · rintro ⟨_, value, same, converted, through⟩
            cases same
            have stored := Machine.run_coerceToType.mpr ⟨converted, rfl⟩
            exact ⟨value, state, stored, body.mpr ⟨rfl, through⟩⟩
          · rintro ⟨value, between, ran, ended⟩
            obtain ⟨converted, rfl⟩ := Machine.run_coerceToType.mp ran
            obtain ⟨rfl, through⟩ := body.mp ended
            exact ⟨element, value, rfl, converted, through⟩

end LoopForm

-----------------------------------------------------------------------------------------
-- Counting
-----------------------------------------------------------------------------------------

/-- The failure of a loop at its limit, with its place. -/
def ceilingError (limit : Nat) (span : Span) : Stop :=
  Stop.withSpan span (.error { cause := .loopLimitExceeded limit })

/-- A loop of the program at its place, which may go on `left` more times after the first pass. -/
def loopAt {ι : Type} (limit : Nat) (span : Span) (pass : ι → Eval ω (Option ι)) (left : Nat)
    (carried : ι)
    : Eval ω Value :=
  Eval.atSpan span do
    iterate limit pass left carried
    pure .void

/-- One step of a loop: a pass, and then the checks, of the limit before cancellation.
Witness: a pass stops, ends the loop or goes on; then the room for another is looked at, and then
the request.
-/
theorem run_loopAt {ι : Type} (limit : Nat) (span : Span) (pass : ι → Eval ω (Option ι))
    (left : Nat) (carried : ι) (state : State ω)
    : (loopAt limit span pass left carried).run state
      = match (pass carried).run state with
        | (.error stop, later) => (.error (stop.withSpan span), later)
        | (.ok none, later) => (.ok .void, later)
        | (.ok (some next), later) =>
          match left with
          | 0 => (.error (ceilingError limit span), later)
          | left + 1 =>
            if later.context.cancelled then
              (.error (Stop.withSpan span (.error { cause := .cancelled })), later)
            else (loopAt limit span pass left next).run later := by
  conv_lhs => unfold loopAt iterate
  rw [Eval.run_atSpan, Eval.run_bind, Eval.run_bind]
  rcases (pass carried).run state with ⟨stop | next?, later⟩
  · rfl
  · cases next? with
    | none => rfl
    | some next =>
        cases left with
        | zero => rfl
        | succ left =>
            dsimp only
            rw [Eval.run_bind, Eval.run_checkCancelled, loopAt, Eval.run_atSpan, Eval.run_bind]
            cases later.context.cancelled <;> rfl

namespace LoopForm

variable {m : Machine ω} {again : Job → Eval ω Value} {arena : Arena} {form : LoopForm}
  {limit : Nat} {span : Span}

/-- A loop that has room for a full iteration goes on after it, where nobody cancels.
Witness: the checks after it let it go on, as the state it leaves is not cancelled.
-/
theorem run_loopAt_turn {left : Nat} {carried next : form.Carried} {state later : State ω}
    (turn : form.Turn m again arena carried state next later)
    (free
      : ((loopAt limit span (form.pass m again arena) (left + 1) carried).run
          state).2.context.cancelled = false)
    : (loopAt limit span (form.pass m again arena) (left + 1) carried).run state
      = (loopAt limit span (form.pass m again arena) left next).run later := by
  rw [run_loopAt, turn_iff.mp turn] at free ⊢
  dsimp only at free ⊢
  cases requested : later.context.cancelled with
  | true =>
      rw [requested, if_pos rfl] at free
      exact absurd (requested.symm.trans free) (by decide)
  | false => rfl

/-- As many full iterations as there is room for end the loop in the state that they leave, by
induction on them.
-/
theorem run_loopAt_turns {left : Nat} {carried last : form.Carried} {state later : State ω}
    (turns : form.Turns m again arena (left + 1) carried state last later)
    (free
      : ((loopAt limit span (form.pass m again arena) left carried).run
          state).2.context.cancelled = false)
    : (loopAt limit span (form.pass m again arena) left carried).run state
      = (.error (ceilingError limit span), later) := by
  induction left generalizing carried state with
  | zero =>
      cases turns with
      | next turn rest =>
          cases rest
          rw [run_loopAt, turn_iff.mp turn]
  | succ left ih =>
      cases turns with
      | next turn rest =>
          have same := run_loopAt_turn turn free
          rw [same] at free ⊢
          exact ih rest free

/-- An iteration is full or ends the loop, whatever room there is.
Witness: a pass stops, ends the loop or goes on, and the last is a full iteration.
-/
theorem turn_or_ends (left : Nat) (carried : form.Carried) (state : State ω)
    : (∃ next later, form.Turn m again arena carried state next later)
      ∨ form.Ends m again arena span carried state
          ((loopAt limit span (form.pass m again arena) left carried).run state) := by
  rw [run_loopAt]
  rcases ran : (form.pass m again arena carried).run state with ⟨stop | next?, later⟩
  · exact .inr (.stopped ran)
  · cases next? with
    | none => exact .inr (.over ran)
    | some next => exact .inl ⟨next, later, turn_iff.mpr ran⟩

/-- A loop runs as many full iterations as there is room for, or fewer, and then the next one ends
it; induction on the room.
-/
theorem exists_turns {left : Nat} {carried : form.Carried} {state : State ω}
    (free
      : ((loopAt limit span (form.pass m again arena) left carried).run
          state).2.context.cancelled = false)
    : ∃ count last between, form.Turns m again arena count carried state last between
        ∧ (count = left + 1
          ∨ count < left + 1
            ∧ form.Ends m again arena span last between
                ((loopAt limit span (form.pass m again arena) left carried).run state)) := by
  induction left generalizing carried state with
  | zero =>
      rcases turn_or_ends 0 carried state with ⟨next, later, turn⟩ | ends
      · exact ⟨1, next, later, .next turn .none, .inl rfl⟩
      · exact ⟨0, carried, state, .none, .inr ⟨Nat.one_pos, ends⟩⟩
  | succ left ih =>
      rcases turn_or_ends (left + 1) carried state with ⟨next, later, turn⟩ | ends
      · have same := run_loopAt_turn turn free
        rw [same] at free ⊢
        obtain ⟨count, last, between, turns, reached | ⟨below, ends⟩⟩ := ih free
        · exact ⟨count + 1, last, between, .next turn turns, .inl (by omega)⟩
        · exact ⟨count + 1, last, between, .next turn turns, .inr ⟨by omega, ends⟩⟩
      · exact ⟨0, carried, state, .none, .inr ⟨Nat.succ_pos _, ends⟩⟩

/-- How a loop ends that starts in the given state: after fewer full iterations than the ceiling, or
with a failure after exactly as many.
-/
structure UnderCeiling (m : Machine ω) (again : Job → Eval ω Value) (arena : Arena) (span : Span)
    (form : LoopForm) (start : form.Carried) (entered : State ω)
    (ended : Except Stop Value × State ω)
    : Prop where
  /-- It runs so many full iterations, and below the ceiling the next one ends it. -/
  counted
    : ∃ count last between, count ≤ max m.limits.iterations 1
        ∧ form.Turns m again arena count start entered last between
        ∧ (count < max m.limits.iterations 1 → form.Ends m again arena span last between ended)
  /-- It completes only after fewer. -/
  completes
    : ∀ {value later}, ended = (.ok value, later)
      → ∃ count last between, count < max m.limits.iterations 1
          ∧ form.Turns m again arena count start entered last between
          ∧ form.Ends m again arena span last between ended
  /-- It fails as soon as it has run as many, in the state that the last one left. -/
  fails
    : ∀ {last later},
        form.Turns m again arena (max m.limits.iterations 1) start entered last later
        → ended = (.error (ceilingError m.limits.iterations span), later)

/-- A loop that nobody cancels stays under its ceiling.
Witness: as many full iterations are done as there is room for, or one before them ends the loop;
after the last one the limit is reported.
-/
theorem underCeiling {start : form.Carried} {entered : State ω}
    (free
      : ((Eval.atSpan span (m.loop (form.pass m again arena) start)).run
          entered).2.context.cancelled = false)
    : form.UnderCeiling m again arena span start entered
        ((Eval.atSpan span (m.loop (form.pass m again arena) start)).run entered) := by
  have room : max m.limits.iterations 1 = m.limits.iterations - 1 + 1 := by omega
  replace free
      : ((loopAt m.limits.iterations span (form.pass m again arena) (m.limits.iterations - 1)
          start).run entered).2.context.cancelled = false :=
    free
  obtain ⟨count, last, between, turns, ended⟩ := exists_turns free
  constructor
  · refine ⟨count, last, between, by omega, turns, fun below => ?_⟩
    rcases ended with full | ⟨_, ends⟩
    · omega
    · exact ends
  · intro value later completed
    rcases ended with rfl | ⟨below, ends⟩
    · have failed := run_loopAt_turns turns free
      cases failed.symm.trans completed
    · exact ⟨count, last, between, by omega, turns, ends⟩
  · intro last later turns
    rw [room] at turns
    exact run_loopAt_turns turns free

end LoopForm

namespace Machine

open LoopForm

variable {m : Machine ω} {again : Job → Eval ω Value} {arena : Arena} {stmt : Stmt}
  {state : State ω}

/-- Once a loop statement is entered, the rest of it is the loop.
Witness: by the form of the loop; what is done before entering it gives its values.
-/
theorem run_execStmt_of_enters {form : LoopForm} {start : form.Carried} {entered : State ω}
    (enters : Enters m again arena stmt.kind state form start entered)
    : (Eval.atSpan stmt.span (m.execStmt again arena stmt)).run state
      = (Eval.atSpan stmt.span (m.loop (form.pass m again arena) start)).run entered := by
  obtain ⟨kind, span⟩ := stmt
  have placed {first second : Eval ω Value} (same : first.run state = second.run entered)
      : (Eval.atSpan span first).run state = (Eval.atSpan span second).run entered := by
    rw [Eval.run_atSpan, Eval.run_atSpan, same]
  cases enters with
  | whileLoop => rfl
  | doWhile => rfl
  | forLoop started =>
      refine placed ?_
      show (_ >>= _ : Eval ω Value).run state = _
      rw [Eval.run_bind, started]
      rfl
  | forEach evaluated listed =>
      refine placed ?_
      show (_ >>= _ : Eval ω Value).run state = _
      rw [Eval.run_bind, evaluated]
      show (_ >>= _ : Eval ω Value).run _ = _
      rw [Eval.run_bind, listed]
      rfl

/-- A loop statement is entered, or it fails before.
Witness: by the kind of the statement; only what is evaluated before the loop can fail there.
-/
theorem enters_or_fails (loop : stmt.kind.isLoop = true)
    : (∃ form start entered, Enters m again arena stmt.kind state form start entered)
      ∨ ∃ stop, ((Eval.atSpan stmt.span (m.execStmt again arena stmt)).run state).1
          = .error stop := by
  obtain ⟨kind, span⟩ := stmt
  have fails {action : Eval ω Value} (stop : Stop) (later : State ω)
      (failed : action.run state = (.error stop, later))
      : ∃ stop, ((Eval.atSpan span action).run state).1 = .error stop := by
    rw [Eval.run_atSpan, failed]
    exact ⟨_, rfl⟩
  cases kind with
  | whileLoop cond body => exact .inl ⟨_, _, _, .whileLoop⟩
  | doWhile body cond => exact .inl ⟨_, _, _, .doWhile⟩
  | forLoop init cond? update body =>
      rcases started : (init.forM fun id => discard (again (.exec arena id))).run state
        with ⟨stop | ⟨⟩, later⟩
      · refine .inr (fails stop later ?_)
        show (_ >>= _ : Eval ω Value).run state = _
        rw [Eval.run_bind, started]
      · exact .inl ⟨_, _, _, .forLoop started⟩
  | forEach var type iterable body =>
      rcases evaluated : (ambient again arena iterable).run state with ⟨stop | source, between⟩
      · refine .inr (fails stop between ?_)
        show (_ >>= _ : Eval ω Value).run state = _
        rw [Eval.run_bind, evaluated]
      · rcases listed : (m.elementsOf source).run between with ⟨stop | elements, later⟩
        · refine .inr (fails stop later ?_)
          show (_ >>= _ : Eval ω Value).run state = _
          rw [Eval.run_bind, evaluated]
          show (_ >>= _ : Eval ω Value).run between = _
          rw [Eval.run_bind, listed]
        · exact .inl ⟨_, _, _, .forEach evaluated listed⟩
  | _ => simp [StmtKind.isLoop] at loop

/-- All loops share one ceiling, where nobody cancels. A loop statement is entered, unless it fails
before its first iteration, and then it runs at most as many full iterations as the limit says, but
one under a limit of zero. It completes only after fewer of them, and fails as soon as it has run as
many, in the state that the last one left. Whatever loops ran before, in the body or in lambdas, the
count is of the iterations of this execution.
-/
theorem loops_share_a_ceiling (m : Machine ω) (fuel : Nat) {arena : Arena} {id : StmtId}
    {stmt : Stmt} (found : arena.stmt? id = some stmt) (loop : stmt.kind.isLoop = true)
    {state : State ω}
    (free : ((m.run (fuel + 1) (.exec arena id)).run state).2.context.cancelled = false)
    : (∀ form start entered, Enters m (m.run fuel) arena stmt.kind state form start entered
        → form.UnderCeiling m (m.run fuel) arena stmt.span start entered
            ((m.run (fuel + 1) (.exec arena id)).run state))
      ∧ ((∃ form start entered, Enters m (m.run fuel) arena stmt.kind state form start entered)
        ∨ ∃ stop, ((m.run (fuel + 1) (.exec arena id)).run state).1 = .error stop) := by
  have run
      : m.run (fuel + 1) (.exec arena id)
        = Eval.atSpan stmt.span (m.execStmt (m.run fuel) arena stmt) := by
    rw [Machine.run, perform, found]
  rw [run] at free ⊢
  refine ⟨fun form start entered enters => ?_, enters_or_fails loop⟩
  rw [run_execStmt_of_enters enters] at free ⊢
  exact underCeiling free

/-- The statement `do for (int each : items) { } while (true);`, at index 2, as a program spells it
whose table knows `items` and `each` behind the reserved names.
-/
def endlessOverItems : Arena :=
  {
    exprs := #[{ kind := .ident ⟨3⟩ }, { kind := .literal (.bool true) }]
    stmts :=
      #[
        { kind := .block [] },
        { kind := .forEach ⟨4⟩ (.primitive .int) ⟨0⟩ ⟨0⟩ },
        { kind := .doWhile ⟨1⟩ ⟨1⟩ }
      ]
  }

/-- A state with the given variables and an array of two elements. -/
def withItems (bindings : List (Name × Value)) : State SampleHost.World :=
  {
    context := { this := .null, vars := { active := ⟨bindings⟩, limit := 1 } }
    heap := { arrays := #[{ component := .primitive .int, elements := #[.int 7, .int 8] }] }
    world := {}
  }

/-- The loop inside has taken four elements after two iterations of the one around it, which under a
limit of three still completes a third one before it fails.
-/
theorem endlessOverItems_ends_at_three
    : (LoopForm.doWhile ⟨1⟩ ⟨1⟩).Turns threePasses (threePasses.run 3) endlessOverItems 3
          true (withItems [(⟨3⟩, .array ⟨0⟩)])
          false (withItems [(⟨3⟩, .array ⟨0⟩), (⟨4⟩, .int 8)])
      ∧ (threePasses.run 4 (.exec endlessOverItems ⟨2⟩)).run (withItems [(⟨3⟩, .array ⟨0⟩)])
        = (.error (ceilingError 3 .dummy), withItems [(⟨3⟩, .array ⟨0⟩), (⟨4⟩, .int 8)]) := by
  have free
      : ((threePasses.run 4 (.exec endlessOverItems ⟨2⟩)).run
          (withItems [(⟨3⟩, .array ⟨0⟩)])).2.context.cancelled = false := by
    cbv
  have first
      : (LoopForm.doWhile ⟨1⟩ ⟨1⟩).Turn threePasses (threePasses.run 3) endlessOverItems
          true (withItems [(⟨3⟩, .array ⟨0⟩)])
          false (withItems [(⟨3⟩, .array ⟨0⟩), (⟨4⟩, .int 8)]) := by
    refine turn_iff.mpr ?_
    cbv
  have later
      : (LoopForm.doWhile ⟨1⟩ ⟨1⟩).Turn threePasses (threePasses.run 3) endlessOverItems
          false (withItems [(⟨3⟩, .array ⟨0⟩), (⟨4⟩, .int 8)])
          false (withItems [(⟨3⟩, .array ⟨0⟩), (⟨4⟩, .int 8)]) := by
    refine turn_iff.mpr ?_
    cbv
  have turns := Turns.next first (.next later (.next later .none))
  obtain ⟨ceiling, _⟩ := loops_share_a_ceiling threePasses 3 rfl rfl free
  exact ⟨turns, (ceiling _ _ _ .doWhile).fails turns⟩

end Machine

end Scratchpad
