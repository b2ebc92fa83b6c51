import Scratchpad.Host.Sample
import Scratchpad.Proofs.Eval.Invocation

/-! Where a `break` can get to. All nesting levels share one flag, which a `break` sets and a loop
clears after its body; lambdas clear it when they are left. So it gets out of a statement only
along the parts that pass it on.
-/

namespace Scratchpad

-----------------------------------------------------------------------------------------
-- Statements that pass a break on
-----------------------------------------------------------------------------------------

/-- The parts of a statement that a `break` leaves it from. The body of a loop is none of them, but
what a for-loop starts with is.
-/
def StmtKind.outlets : StmtKind → List StmtId
  | .block body => body
  | .ifElse _ thenBranch elseBranch? => thenBranch :: elseBranch?.toList
  | .synchronized _ body => [body]
  | .forLoop init _ _ _ => init
  | _ => []

/-- The statements through which a break leaves are children. -/
theorem StmtKind.outlets_subset (kind : StmtKind) {child : StmtId}
    (outlet : child ∈ kind.outlets)
    : .stmt child ∈ kind.children := by
  cases kind <;> simp_all [outlets, children]

/-- Loops that a `break` never leaves: all but the for-loop. -/
def StmtKind.EndsBreaks : StmtKind → Prop
  | .whileLoop _ _ | .doWhile _ _ | .forEach _ _ _ _ => True
  | _ => False

namespace Arena

/-- A statement that may leave a `break` pending: a `break`, or one that passes it on. -/
inductive FreeBreak (arena : Arena) : StmtId → Prop
  | here {id stmt} (found : arena.stmt? id = some stmt) (kind : stmt.kind = .breakLoop)
    : arena.FreeBreak id
  | inside {id stmt child} (found : arena.stmt? id = some stmt)
    (outlet : child ∈ stmt.kind.outlets) (inner : arena.FreeBreak child)
    : arena.FreeBreak id

/-- A statement that is or contains, outside lambdas, a for-loop that starts with a free
`break`.
-/
inductive InitBreak (arena : Arena) : StmtId → Prop
  | here {id stmt init cond? update body first} (found : arena.stmt? id = some stmt)
    (kind : stmt.kind = .forLoop init cond? update body) (member : first ∈ init)
    (free : arena.FreeBreak first)
    : arena.InitBreak id
  | inside {id stmt child} (found : arena.stmt? id = some stmt)
    (member : .stmt child ∈ stmt.kind.children) (inner : arena.InitBreak child)
    : arena.InitBreak id

/-- A loop that ends breaks has no free one.
Witness: a free break is a break itself or comes out of an outlet, and the loop is no break and has
no outlet.
-/
theorem not_freeBreak {arena : Arena} {id : StmtId} {stmt : Stmt}
    (found : arena.stmt? id = some stmt) (ends : stmt.kind.EndsBreaks)
    : ¬arena.FreeBreak id := by
  intro free
  cases free with
  | here same kind =>
      obtain rfl := Option.some.inj (found.symm.trans same)
      rw [kind] at ends
      exact ends
  | inside same outlet inner =>
      obtain rfl := Option.some.inj (found.symm.trans same)
      cases kind : stmt.kind <;> simp [kind, StmtKind.EndsBreaks, StmtKind.outlets] at ends outlet

end Arena

variable {ω α β : Type}

-----------------------------------------------------------------------------------------
-- Expressions and invocations
-----------------------------------------------------------------------------------------

namespace Coupling

/-- Follows a run in which no break is pending. -/
def calm : Coupling ω := invariant (·.context.breakPending = false) fun _ _ => True

/-- No effect of an expression touches a pending break. -/
theorem calm_effects (m : Machine ω) : calm.Effects m m :=
  ExpressionInvariant.effects ⟨fun calm _ _ _ => calm, fun calm _ _ => calm⟩ .all

/-- Binding a name does not touch a pending break. -/
theorem calm_define (name : Name) (value : Value)
    : (calm : Coupling ω).Couples (Eval.modifyVars (·.define name value))
        (Eval.modifyVars (·.define name value)) := by
  intro s t related
  obtain ⟨rfl, calm⟩ := related
  exact .value ⟨rfl, calm⟩

/-- An action compared with itself, without anything to keep.
Witness: both sides are the same run, so it ends in one way.
-/
theorem Couples.self {allowed : State ω → Stop → Prop} (all : ∀ state stop, allowed state stop)
    (action : Eval ω α)
    : (invariant (fun _ => True) allowed).Couples action action := by
  intro s t related
  obtain ⟨rfl, _⟩ := related
  rcases action.run s with ⟨stop | value, later⟩
  · exact .stop (all later stop) ⟨rfl, trivial⟩
  · exact .value ⟨rfl, trivial⟩

/-- Whatever the body does, no break is pending after leaving it. -/
theorem calm_invoke (m : Machine ω) (again : Job → Eval ω Value) (closure : Closure)
    (args : List Value)
    : calm.Couples (m.invoke again closure args) (m.invoke again closure args) := by
  refine invariant_invoke m .all args fun _ _ _ _ => ?_
  exact ⟨fun _ => True, trivial, Couples.self (fun _ _ => trivial) _, fun _ _ => rfl⟩

/-- No expression leaves a break pending, by induction on the fuel.
Witness: with less fuel the expressions inside are calm, and a lambda clears the break of its own
body when it is left.
-/
theorem calm_eval (m : Machine ω) (fuel : Nat) (arena : Arena) (id : ExprId)
    (receiver : Option Value)
    : calm.Couples (m.run fuel (.eval arena id receiver))
        (m.run fuel (.eval arena id receiver)) := by
  induction fuel generalizing arena id receiver with
  | zero => exact .throw fun _ => trivial
  | succ fuel ih =>
      have effects := calm_effects m
      have children (kind : ExprKind)
          : calm.Children (m.run fuel) (m.run fuel) arena kind.evaluated :=
        ⟨
          fun _ receiver => ih arena _ receiver,
          fun member => absurd member (kind.stmt_notMem_evaluated _)
        ⟩
      refine effects.evalJob receiver (fun _ _ => trivial) fun expr _ => ?_
      exact effects.evalExpr receiver (children expr.kind) {
        target := fun _ _ => children _
        known := fun _ _ _ => trivial
        invoke := fun _ _ args => calm_invoke m _ _ args
        createLambda := fun _ _ type? _ =>
          invariant_createLambda m .all type? fun calm _ _ => calm
      } fun _ _ => trivial

end Coupling

-----------------------------------------------------------------------------------------
-- Statements
-----------------------------------------------------------------------------------------

/-- Started without a pending break, an action that ends leaves one only under the first condition,
and an action that stops only under the second.
-/
def Eval.BreaksOnly (ended stopped : Prop) (action : Eval ω α) : Prop :=
  ∀ state : State ω, state.context.breakPending = false
    → (action.run state).2.context.breakPending = true
    → match (action.run state).1 with
      | .ok _ => ended
      | .error _ => stopped

namespace Eval.BreaksOnly

variable {ended stopped inner : Prop} {action : Eval ω α}

/-- Where both conditions hold there is nothing to show. -/
theorem of_holds (ends : ended) (stops : stopped) : action.BreaksOnly ended stopped := by
  intro state _ _
  split
  · exact ends
  · exact stops

/-- What keeps a state calm breaks under no condition. -/
theorem of_calm (calm : Coupling.calm.Couples action action)
    : action.BreaksOnly ended stopped := by
  intro state start pending
  rw [(calm.keeps start).1] at pending
  contradiction

/-- Conditions on breaks may be relaxed. -/
theorem imp {ended' stopped' : Prop} (breaks : action.BreaksOnly ended stopped)
    (ends : ended → ended') (stops : stopped → stopped')
    : action.BreaksOnly ended' stopped' := by
  intro state start pending
  have condition := breaks state start pending
  split at condition
  · exact ends condition
  · exact stops condition

/-- What follows an action may rely on there being no pending break, unless the action leaves one
and that is dealt with.
-/
theorem bind_pending {next : α → Eval ω β} (first : action.BreaksOnly inner stopped)
    (pending
      : inner
        → ∀ value (state : State ω), state.context.breakPending = true
          → ((next value).run state).2.context.breakPending = true
          → match ((next value).run state).1 with
            | .ok _ => ended
            | .error _ => stopped)
    (rest : ∀ value, (next value).BreaksOnly ended stopped)
    : (action >>= next).BreaksOnly ended stopped := by
  intro state start
  have condition := first state start
  rw [Eval.run_bind]
  generalize action.run state = outcome at condition
  rcases outcome with ⟨stop | value, later⟩
  · exact condition
  · cases flag : later.context.breakPending with
    | false => exact rest value later flag
    | true => exact pending (condition flag) value later flag

/-- What starts calm breaks only as its last part does. -/
theorem bind {next : α → Eval ω β} (first : action.BreaksOnly False stopped)
    (rest : ∀ value, (next value).BreaksOnly ended stopped)
    : (action >>= next).BreaksOnly ended stopped :=
  first.bind_pending False.elim rest

/-- What is made of the value of an action does not matter to breaks. -/
theorem map (f : α → β) (breaks : action.BreaksOnly ended stopped)
    : (f <$> action).BreaksOnly ended stopped := by
  rw [map_eq_pure_bind]
  exact breaks.bind_pending (fun ends _ _ _ _ => ends) fun _ => of_calm (.pure _)

/-- Noting where an action stopped does not matter to breaks. -/
theorem atSpan (span : Span) (breaks : action.BreaksOnly ended stopped)
    : (Eval.atSpan span action).BreaksOnly ended stopped := by
  intro state start
  have condition := breaks state start
  rw [Eval.run_atSpan]
  generalize action.run state = outcome at condition
  rcases outcome with ⟨stop | value, later⟩
  · exact condition
  · exact condition

/-- Calm actions are calm over a list, by induction on it. -/
theorem forM {κ : Type} {items : List κ} {act : κ → Eval ω PUnit}
    (each : ∀ item ∈ items, (act item).BreaksOnly False stopped)
    : (items.forM act).BreaksOnly False stopped := by
  induction items with
  | nil => exact of_calm (.pure _)
  | cons item rest ih =>
      exact (each item (by simp)).bind fun _ => ih fun later member => each later (by simp [member])

-----------------------------------------------------------------------------------------
-- Loops and blocks
-----------------------------------------------------------------------------------------

variable {again : Job → Eval ω Value} {arena : Arena}

/-- The passes of a loop one after the other, by induction on those that are left.
Witness: each pass ends calm, so the next one starts calm; the checks between them touch nothing.
-/
theorem iterate (m : Machine ω) {ι : Type} {pass : ι → Eval ω (Option ι)}
    (each : ∀ carried, (pass carried).BreaksOnly False stopped) (limit left : Nat) (start : ι)
    : (iterate limit pass left start).BreaksOnly False stopped := by
  induction left generalizing start with
  | zero =>
      unfold Scratchpad.iterate
      refine (each start).bind fun carried => ?_
      cases carried with
      | none => exact of_calm (.pure _)
      | some next => exact of_calm (.throw fun _ => trivial)
  | succ left ih =>
      unfold Scratchpad.iterate
      refine (each start).bind fun carried => ?_
      cases carried with
      | none => exact of_calm (.pure _)
      | some next =>
          exact (of_calm (Coupling.calm_effects m).checkCancelled).bind fun _ => ih next

/-- A loop ends calm if its passes do. -/
theorem loop (m : Machine ω) {ι : Type} {pass : ι → Eval ω (Option ι)} (start : ι)
    (each : ∀ carried, (pass carried).BreaksOnly False stopped)
    : (m.loop pass start).BreaksOnly False stopped :=
  (iterate m each _ _ start).bind fun _ => of_calm (.pure _)

/-- A loop takes the break that its body leaves.
Witness: after the body the pending break is taken, whether or not there was one.
-/
theorem bodyThen {ι : Type} {body : StmtId} {next : Eval ω ι}
    (run : (again (.exec arena body)).BreaksOnly inner stopped)
    (rest : next.BreaksOnly False stopped)
    : (Machine.bodyThen again arena body next).BreaksOnly False stopped := by
  have take : (Eval.takeBreak : Eval ω Bool).BreaksOnly False stopped := by
    refine of_calm fun s t related => ?_
    obtain ⟨rfl, _⟩ := related
    exact .value ⟨rfl, rfl⟩
  refine run.bind_pending (fun _ _ state flag pending => ?_) fun _ => take.bind fun broken => ?_
  · simp [Eval.run_bind, flag] at pending
  · split
    · exact of_calm (.pure _)
    · exact rest.map some

/-- A block passes on the break of any of its statements and runs none after it, by induction on
the statements.
-/
theorem blockFrom {body : List StmtId} (result : Value)
    (each : ∀ id ∈ body, (again (.exec arena id)).BreaksOnly ended stopped)
    : (Machine.blockFrom again arena result body).BreaksOnly ended stopped := by
  induction body generalizing result with
  | nil => exact of_calm (.pure _)
  | cons id rest ih =>
      refine (each id (by simp)).bind_pending (fun ends value state flag _ => ?_)
        fun value state start => ?_
      · simpa [flag] using ends
      · simp only [Eval.run_get_bind, start]
        exact ih value (fun later member => each later (by simp [member])) state start

end Eval.BreaksOnly

namespace Machine

open Coupling Eval

variable (m : Machine ω) {again : Job → Eval ω Value} {arena : Arena} {ended stopped inner : Prop}

/-- A pass of for-each ends calm, since it takes the break of its body. -/
theorem forEachPass_breaksOnly (var : Name) (type : ResolvedType Name) {body : StmtId}
    (run : (again (.exec arena body)).BreaksOnly inner stopped) (elements : List Value)
    : (m.forEachPass again arena var type body elements).BreaksOnly False stopped := by
  cases elements with
  | nil => exact .of_calm (.pure _)
  | cons element rest =>
      refine (BreaksOnly.of_calm ((calm_effects m).coerceToType _ _)).bind fun value => ?_
      refine (BreaksOnly.of_calm (calm_define _ _)).bind fun _ => ?_
      exact run.bodyThen (.of_calm (.pure _))

section Parts

variable
  (evals
    : ∀ id receiver,
        calm.Couples (again (.eval arena id receiver)) (again (.eval arena id receiver)))

include evals

/-- Expressions leave no break pending, so neither do conditions. -/
theorem condition_breaksOnly (cond? : Option ExprId)
    : (m.condition again arena cond?).BreaksOnly ended stopped :=
  .of_calm ((calm_effects m).condition ⟨fun _ => evals _, fun member => by simp at member⟩)

/-- A pass of `while` ends calm, since it takes the break of its body. -/
theorem whilePass_breaksOnly (cond : ExprId) {body : StmtId}
    (run : (again (.exec arena body)).BreaksOnly inner stopped) (carried : Unit)
    : (m.whilePass again arena cond body carried).BreaksOnly False stopped := by
  refine (m.condition_breaksOnly evals (some cond)).bind fun holds => ?_
  split
  · exact run.bodyThen (.of_calm (.pure _))
  · exact .of_calm (.pure _)

/-- A pass of `do` ends calm, since it takes the break of its body. -/
theorem doWhilePass_breaksOnly (cond : ExprId) {body : StmtId}
    (run : (again (.exec arena body)).BreaksOnly inner stopped) (first : Bool)
    : (m.doWhilePass again arena cond body first).BreaksOnly False stopped := by
  have body : (bodyThen again arena body (pure false)).BreaksOnly False stopped :=
    run.bodyThen (.of_calm (.pure _))
  cases first with
  | true => exact body
  | false =>
      refine (m.condition_breaksOnly evals (some cond)).bind fun holds => ?_
      dsimp only
      split
      · exact body
      · exact .of_calm (.pure _)

/-- A pass of `for` ends calm, since it takes the break of its body and its updates are expressions.
-/
theorem forPass_breaksOnly (cond? : Option ExprId) (update : List ExprId) {body : StmtId}
    (run : (again (.exec arena body)).BreaksOnly inner stopped) (carried : Unit)
    : (m.forPass again arena cond? update body carried).BreaksOnly False stopped := by
  refine (m.condition_breaksOnly evals cond?).bind fun holds => ?_
  split
  · exact run.bodyThen (.of_calm (.forM fun id _ => (evals id none).map _))
  · exact .of_calm (.pure _)

/-- A conditional passes on the breaks of its branches.
Witness: the condition is an expression and leaves none.
-/
theorem ifElse_breaksOnly (cond : ExprId) {thenBranch : StmtId} {elseBranch? : Option StmtId}
    (each
      : ∀ branch ∈ thenBranch :: elseBranch?.toList,
          (again (.exec arena branch)).BreaksOnly ended stopped)
    : (m.ifElse again arena cond thenBranch elseBranch?).BreaksOnly ended stopped := by
  refine (BreaksOnly.of_calm (evals cond none)).bind fun value => ?_
  refine (BreaksOnly.of_calm ((calm_effects m).requireBool _ _)).bind fun holds => ?_
  split
  · exact each _ (by simp)
  · split
    · exact each _ (by simp)
    · exact .of_calm (.pure _)

/-- A statement leaves a break pending only as its form says, if the statements inside do.
Witness: by cases on the kind: blocks and conditionals pass on the breaks of their outlets, loops
take those of their bodies, and `for` does not take those of its initialisation.
-/
theorem execStmt_breaksOnly {id : StmtId} {stmt : Stmt} (found : arena.stmt? id = some stmt)
    (execs
      : ∀ id, (again (.exec arena id)).BreaksOnly (arena.FreeBreak id) (arena.InitBreak id))
    : (m.execStmt again arena stmt).BreaksOnly (arena.FreeBreak id) (arena.InitBreak id) := by
  have effects := calm_effects m
  have part {child : StmtId} (member : .stmt child ∈ stmt.kind.children)
      : (again (.exec arena child)).BreaksOnly (arena.FreeBreak child) (arena.InitBreak id) :=
    (execs child).imp (·) (.inside found member)
  have outlet {child : StmtId} (passes : child ∈ stmt.kind.outlets)
      : (again (.exec arena child)).BreaksOnly (arena.FreeBreak id) (arena.InitBreak id) :=
    (part (stmt.kind.outlets_subset passes)).imp (.inside found passes) (·)
  have loop {ι : Type} {pass : ι → Eval ω (Option ι)} (start : ι)
      (each : ∀ carried, (pass carried).BreaksOnly False (arena.InitBreak id))
      : (m.loop pass start).BreaksOnly (arena.FreeBreak id) (arena.InitBreak id) :=
    (BreaksOnly.loop m start each).imp False.elim (·)
  obtain ⟨kind, span⟩ := stmt
  cases kind with
  | block body => exact BreaksOnly.blockFrom _ fun child member => outlet member
  | expr expr => exact .of_calm (evals expr none)
  | ifElse cond thenBranch elseBranch? =>
      exact m.ifElse_breaksOnly evals cond fun branch member => outlet member
  | whileLoop cond body =>
      exact loop _ (m.whilePass_breaksOnly evals cond (part (by simp [StmtKind.children])))
  | doWhile body cond =>
      exact loop _ (m.doWhilePass_breaksOnly evals cond (part (by simp [StmtKind.children])))
  | forLoop init cond? update body =>
      -- A break that an init statement leaves is pending in all that follows.
      by_cases free : ∃ first ∈ init, arena.FreeBreak first
      · obtain ⟨first, member, free⟩ := free
        exact .of_holds (.inside found member free) (.here found rfl member free)
      · refine BreaksOnly.bind (.forM fun child member => ?_) fun _ => loop _ ?_
        · have calm (inner : arena.FreeBreak child) : False := free ⟨child, member, inner⟩
          exact ((part (by simp [StmtKind.children, member])).imp calm (·)).map _
        · exact m.forPass_breaksOnly evals cond? update (part (by simp [StmtKind.children]))
  | forEach var type iterable body =>
      refine (BreaksOnly.of_calm (evals iterable none)).bind fun source => ?_
      refine (BreaksOnly.of_calm (effects.elementsOf source)).bind fun elements => ?_
      exact loop _ (m.forEachPass_breaksOnly var type (part (by simp [StmtKind.children])))
  | varDecl type declarators =>
      refine .of_calm (Couples.bind (effects.declare calm_define type ?_) fun _ => ?_)
      · exact ⟨fun _ => evals _, fun member => by simp at member⟩
      · exact effects.declared _
  | returns value? =>
      cases value? with
      | some expr => exact .of_calm (evals expr none)
      | none => exact .of_calm (.pure _)
  | breakLoop => exact fun _ _ _ => .here found rfl
  | synchronized lock body => exact outlet (by simp [StmtKind.outlets])
  | unsupported form => exact .of_calm (effects.fail rfl)

end Parts

/-- Every statement does, by induction on the fuel.
Witness: with less fuel the statements inside do, and noting a place changes nothing.
-/
theorem exec_breaksOnly (fuel : Nat) (arena : Arena) (id : StmtId)
    : (m.run fuel (.exec arena id)).BreaksOnly (arena.FreeBreak id) (arena.InitBreak id) := by
  induction fuel generalizing id with
  | zero => exact .of_calm (.throw fun _ => trivial)
  | succ fuel ih =>
      show (m.perform (m.run fuel) (.exec arena id)).BreaksOnly _ _
      cases found : arena.stmt? id with
      | none =>
          simp only [perform, found]
          exact .of_calm (.throw fun _ => trivial)
      | some stmt =>
          simp only [perform, found]
          exact (m.execStmt_breaksOnly (calm_eval m fuel arena) found ih).atSpan _

/-- Started without a pending break, a statement that ends leaves one only if it has a free break,
and one that stops only if it has a for-loop that starts with one. While, do-while and for-each
loops that end leave none, and neither do expressions and invocations, however they end.
-/
theorem break_discipline (fuel : Nat) {state : State ω}
    (start : state.context.breakPending = false)
    : (∀ arena id value later, (m.run fuel (.exec arena id)).run state = (.ok value, later)
        → later.context.breakPending = true
        → arena.FreeBreak id)
      ∧ (∀ arena id stop later, (m.run fuel (.exec arena id)).run state = (.error stop, later)
        → later.context.breakPending = true
        → arena.InitBreak id)
      ∧ (∀ arena id stmt value later, arena.stmt? id = some stmt
        → stmt.kind.EndsBreaks
        → (m.run fuel (.exec arena id)).run state = (.ok value, later)
        → later.context.breakPending = false)
      ∧ (∀ arena id receiver,
        ((m.run fuel (.eval arena id receiver)).run state).2.context.breakPending = false)
      ∧ ∀ closure args,
        ((m.invoke (m.run fuel) closure args).run state).2.context.breakPending = false := by
  have free {arena : Arena} {id : StmtId} {value : Value} {later : State ω}
      (ran : (m.run fuel (.exec arena id)).run state = (.ok value, later))
      (pending : later.context.breakPending = true)
      : arena.FreeBreak id := by
    simpa [ran, pending] using m.exec_breaksOnly fuel arena id state start
  refine ⟨
    fun arena id value later ran => free ran, fun arena id stop later ran pending => ?_,
    fun arena id stmt value later found ends ran => ?_, fun arena id receiver => ?_,
    fun closure args => ?_
  ⟩
  · simpa [ran, pending] using m.exec_breaksOnly fuel arena id state start
  · refine Bool.eq_false_iff.mpr fun pending => ?_
    exact Arena.not_freeBreak found ends (free ran pending)
  · exact ((calm_eval m fuel arena id receiver).keeps start).1
  · exact ((calm_invoke m (m.run fuel) closure args).keeps start).1

/-- The statement `if (true) { break; }`, at index 2. -/
def guardedBreak : Arena :=
  {
    exprs := #[{ kind := .literal (.bool true) }]
    stmts :=
      #[
        { kind := .breakLoop },
        { kind := .block [⟨0⟩] },
        { kind := .ifElse ⟨0⟩ ⟨1⟩ none }
      ]
  }

/-- A state without variables. -/
def idle : State SampleHost.World := { context := .fresh {} .null, world := {} }

/-- The conditional leaves a break pending, and may.
Witness: its branch is a break, which is free in it.
-/
theorem guardedBreak_pending
    : idle.context.breakPending = false
      ∧ (run { names := {}, host := SampleHost.host } 3 (.exec guardedBreak ⟨2⟩)).run idle
        = (.ok .void, idle.withBreak true)
      ∧ guardedBreak.FreeBreak ⟨2⟩ := by
  have ended
      : (run { names := {}, host := SampleHost.host } 3 (.exec guardedBreak ⟨2⟩)).run idle
        = (.ok .void, idle.withBreak true) :=
    rfl
  obtain ⟨free, _⟩ := break_discipline { names := {}, host := SampleHost.host } 3
    (rfl : idle.context.breakPending = false)
  exact ⟨rfl, ended, free guardedBreak ⟨2⟩ _ _ ended rfl⟩

end Machine

end Scratchpad
