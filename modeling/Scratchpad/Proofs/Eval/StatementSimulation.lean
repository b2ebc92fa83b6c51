import Scratchpad.Proofs.Eval.ExpressionSimulation

/-! Like statements are executed alike, and so are like jobs, however deep they nest, as long as the
places that are noted on stops count as the same.
-/

namespace Scratchpad

namespace Correspondence

variable {ω ω' α : Type} {c : Correspondence ω ω'} {m : Machine ω} {m' : Machine ω'}
  {again : Job → Eval ω Value} {again' : Job → Eval ω' Value} {arena arena' : Arena}
  {name name' : Name} {type type' : ResolvedType Name}

/-- A break is set or cleared in both states alike. -/
theorem Related.withBreak {s : State ω} {t : State ω'} (related : c.Related s t) (pending : Bool)
    : c.Related (s.withBreak pending) (t.withBreak pending) :=
  ⟨⟨⟨related.context.this, related.context.vars, rfl, related.context.cancelled⟩, related.heap,
    related.printout⟩, related.world⟩

/-- A pending break is taken alike. -/
theorem Simulates.takeBreak
    : c.Simulates (Eval.takeBreak : Eval ω Bool) (Eval.takeBreak : Eval ω' Bool) := by
  intro s t related
  rw [Eval.run_takeBreak, Eval.run_takeBreak]
  exact .value related.context.breakPending (related.withBreak false)

/-- A break is requested alike. -/
theorem Simulates.requestBreak
    : c.Simulates (Coupling.requestBreak : Eval ω Unit) (Coupling.requestBreak : Eval ω' Unit) :=
  .change (fun _ => rfl) (fun _ => rfl) fun _ _ related => related.withBreak true

/-- What follows a body runs in both programs or in neither, as both agree on whether a break is
pending.
-/
theorem Inside.bodyThen (inside : c.Inside again again') (alike : c.Arenas arena arena') {ι : Type}
    (body : StmtId) {next : Eval ω ι} {next' : Eval ω' ι} (rest : c.Simulates next next')
    : c.Simulates (Machine.bodyThen again arena body next)
        (Machine.bodyThen again' arena' body next') := by
  refine Simulates.bind (inside (.exec alike)) fun _ => ?_
  refine Simulates.bind Simulates.takeBreak fun broken => ?_
  split
  · exact .pure rfl
  · exact rest.map some

/-- Both programs leave a block after the same statement, by induction on its statements. -/
theorem Inside.blockFrom (inside : c.Inside again again') (alike : c.Arenas arena arena')
    (result : Value) (body : List StmtId)
    : c.Simulates (Machine.blockFrom again arena result body)
        (Machine.blockFrom again' arena' result body) := by
  induction body generalizing result with
  | nil => exact .pure rfl
  | cons id rest ih =>
      refine Simulates.bind (inside (.exec alike)) fun value => ?_
      refine .read fun s t related => ?_
      rw [related.context.breakPending]
      split
      · exact .pure rfl
      · exact ih value

namespace Machines

variable (machines : c.Machines m m')

include machines

-----------------------------------------------------------------------------------------
-- Loops
-----------------------------------------------------------------------------------------

/-- Cancellation is checked alike. -/
theorem checkCancelled
    : c.Simulates (Eval.checkCancelled : Eval ω Unit) (Eval.checkCancelled : Eval ω' Unit) := by
  refine .read fun s t related => ?_
  rw [related.context.cancelled]
  split
  · exact machines.fail _
  · exact .pure rfl

/-- Passes that simulate one another make loops that do, by induction on the passes that are
left.
-/
theorem iterate {ι : Type} {pass : ι → Eval ω (Option ι)} {pass' : ι → Eval ω' (Option ι)}
    (each : ∀ carried, c.Simulates (pass carried) (pass' carried)) (limit left : Nat) (start : ι)
    : c.Simulates (iterate limit pass left start) (iterate limit pass' left start) := by
  induction left generalizing start with
  | zero =>
      unfold Scratchpad.iterate
      refine (each start).bind fun carried => ?_
      cases carried with
      | none => exact .pure rfl
      | some next => exact machines.fail _
  | succ left ih =>
      unfold Scratchpad.iterate
      refine (each start).bind fun carried => ?_
      cases carried with
      | none => exact .pure rfl
      | some next => exact machines.checkCancelled.bind fun _ => ih next

/-- Loops of simulated passes are simulated, since both machines have the same limits. -/
theorem loop {ι : Type} {pass : ι → Eval ω (Option ι)} {pass' : ι → Eval ω' (Option ι)} (start : ι)
    (each : ∀ carried, c.Simulates (pass carried) (pass' carried))
    : c.Simulates (m.loop pass start) (m'.loop pass' start) := by
  unfold Machine.loop
  rw [machines.limits]
  exact (machines.iterate each _ _ start).bind fun _ => .pure rfl

/-- The condition of a loop ends alike; a missing one holds in both programs. -/
theorem condition (inside : c.Inside again again') (alike : c.Arenas arena arena')
    (cond? : Option ExprId)
    : c.Simulates (m.condition again arena cond?) (m'.condition again' arena' cond?) := by
  cases cond? with
  | none => exact .pure rfl
  | some cond =>
      exact (inside.ambient alike cond).bind fun value => machines.requireBool value _

/-- A pass of `while` ends alike: the condition and then the body. -/
theorem whilePass (inside : c.Inside again again') (alike : c.Arenas arena arena') (cond : ExprId)
    (body : StmtId) (carried : Unit)
    : c.Simulates (m.whilePass again arena cond body carried)
        (m'.whilePass again' arena' cond body carried) := by
  refine (machines.condition inside alike (some cond)).bind fun holds => ?_
  split
  · exact inside.bodyThen alike body (.pure rfl)
  · exact .pure rfl

/-- A pass of `do` ends alike: the condition, except before the first body, and then the body. -/
theorem doWhilePass (inside : c.Inside again again') (alike : c.Arenas arena arena')
    (cond : ExprId) (body : StmtId) (first : Bool)
    : c.Simulates (m.doWhilePass again arena cond body first)
        (m'.doWhilePass again' arena' cond body first) := by
  cases first with
  | true => exact inside.bodyThen alike body (.pure rfl)
  | false =>
      refine (machines.condition inside alike (some cond)).bind fun holds => ?_
      dsimp only
      split
      · exact inside.bodyThen alike body (.pure rfl)
      · exact .pure rfl

/-- A pass of `for` ends alike: the condition, the body and then the updates. -/
theorem forPass (inside : c.Inside again again') (alike : c.Arenas arena arena')
    (cond? : Option ExprId) (update : List ExprId) (body : StmtId) (carried : Unit)
    : c.Simulates (m.forPass again arena cond? update body carried)
        (m'.forPass again' arena' cond? update body carried) := by
  refine (machines.condition inside alike cond?).bind fun holds => ?_
  split
  · refine inside.bodyThen alike body (.forM fun id _ => ?_)
    exact (inside.ambient alike id).map _
  · exact .pure rfl

/-- A pass of for-each ends alike: the next element is converted and bound to alike names, and then
the body runs.
-/
theorem forEachPass (inside : c.Inside again again') (alike : c.Arenas arena arena')
    (named : c.Names name name') (typed : c.Types type type') (body : StmtId)
    (elements : List Value)
    : c.Simulates (m.forEachPass again arena name type body elements)
        (m'.forEachPass again' arena' name' type' body elements) := by
  cases elements with
  | nil => exact .pure rfl
  | cons element rest =>
      refine (machines.coerceToType element typed).bind fun value => ?_
      refine (machines.defineVars named value).bind fun _ => ?_
      exact inside.bodyThen alike body (.pure rfl)

/-- What cannot be iterated is reported alike. -/
theorem notIterable (source : Value)
    : c.Simulates (m.notIterable source : Eval ω α) (m'.notIterable source) := by
  refine machines.scene.bind fun scene scene' scenes => ?_
  rw [scenes.typeName]
  exact machines.fail _

/-- What is iterated has the same elements, from the heap or from the host. -/
theorem elementsOf (source : Value)
    : c.Simulates (m.elementsOf source) (m'.elementsOf source) := by
  unfold Machine.elementsOf
  split
  · refine .read fun s t related => ?_
    rw [related.heap.array]
    exact .pure rfl
  · refine (machines.callHost (machines.host.iterate _)).bind fun elements? => ?_
    cases elements? with
    | some elements => exact .pure rfl
    | none => exact machines.notIterable _
  · exact machines.fail _
  · exact machines.notIterable _

-----------------------------------------------------------------------------------------
-- Declarations
-----------------------------------------------------------------------------------------

/-- Declarators bind like names to the same values, one after the other.
Witness: by induction on the declarators, each of which has an initial value in both programs or in
neither.
-/
theorem declare (inside : c.Inside again again') (alike : c.Arenas arena arena')
    (typed : c.Types type type') {declarators declarators' : List Declarator}
    (declared : List.Forall₂ c.Declarators declarators declarators')
    : c.SimulatesBy
        (List.Forall₂ fun bound bound' => c.Names bound.1 bound'.1 ∧ bound'.2 = bound.2)
        (m.declare again arena type declarators) (m'.declare again' arena' type' declarators') := by
  induction declared with
  | nil => exact .pure .nil
  | @cons declarator declarator' rest rest' head _ ih =>
      rw [Machine.declare, Machine.declare, head.init?]
      cases declarator.init? with
      | none => exact ih
      | some init =>
          refine (inside.ambient alike init).bind fun value => ?_
          refine (machines.coerceToType value typed).bind fun value => ?_
          refine (machines.defineVars head.name value).bind fun _ => ?_
          exact ih.bind fun _ _ bound => .pure (.cons ⟨head.name, rfl⟩ bound)

/-- The value of a declaration is the same, as alike names have the same text.
Witness: by induction on what was bound, the summaries are equal piece by piece.
-/
theorem declared {bound bound' : List (Name × Value)}
    (same : List.Forall₂ (fun entry entry' => c.Names entry.1 entry'.1 ∧ entry'.2 = entry.2)
      bound bound')
    : c.Simulates (m.declared bound) (m'.declared bound') := by
  have summary {scene scene' : Scene} (scenes : scene.Alike scene')
      : bound'.map (fun entry => m'.names.text entry.1 ++ " = " ++ scene'.display entry.2)
        = bound.map (fun entry => m.names.text entry.1 ++ " = " ++ scene.display entry.2) := by
    induction same with
    | nil => rw [List.map_nil, List.map_nil]
    | cons head _ ih =>
        rw [List.map_cons, List.map_cons, ih, machines.text head.1, head.2, scenes.display]
  cases same with
  | nil => exact .pure rfl
  | @cons entry entry' _ _ head tail =>
      obtain ⟨name, value⟩ := entry
      obtain ⟨name', value'⟩ := entry'
      unfold Machine.declared
      cases tail with
      | nil => exact .pure head.2
      | cons second others =>
          dsimp only
          refine machines.scene.bind fun scene scene' scenes => .pure ?_
          rw [summary scenes]

-----------------------------------------------------------------------------------------
-- Whole statements
-----------------------------------------------------------------------------------------

/-- A conditional statement ends alike; the condition selects the same branch. -/
theorem ifElse (inside : c.Inside again again') (alike : c.Arenas arena arena') (cond : ExprId)
    (thenBranch : StmtId) (elseBranch? : Option StmtId)
    : c.Simulates (m.ifElse again arena cond thenBranch elseBranch?)
        (m'.ifElse again' arena' cond thenBranch elseBranch?) := by
  refine (inside.ambient alike cond).bind fun value => ?_
  refine (machines.requireBool value _).bind fun holds => ?_
  split
  · exact inside (.exec alike)
  · cases elseBranch? with
    | some branch => exact inside (.exec alike)
    | none => exact .pure rfl

/-- Like statements in like arenas are executed alike.
Witness: by the kind of the statements, which is the same, each by its operation.
-/
theorem execStmt (inside : c.Inside again again') (alike : c.Arenas arena arena')
    {stmt stmt' : Stmt} (stmts : c.Stmts stmt stmt')
    : c.Simulates (m.execStmt again arena stmt) (m'.execStmt again' arena' stmt') := by
  obtain ⟨kind, span⟩ := stmt
  obtain ⟨kind', span'⟩ := stmt'
  cases stmts.kind with
  | block => exact inside.blockFrom alike _ _
  | expr => exact inside.ambient alike _
  | ifElse => exact machines.ifElse inside alike _ _ _
  | whileLoop => exact machines.loop _ (machines.whilePass inside alike _ _)
  | doWhile => exact machines.loop _ (machines.doWhilePass inside alike _ _)
  | forLoop =>
      refine Simulates.bind (.forM fun id _ => ?_) fun _ => ?_
      · exact Simulates.map _ (inside (.exec alike))
      · exact machines.loop _ (machines.forPass inside alike _ _ _)
  | forEach named typed =>
      refine (inside.ambient alike _).bind fun source => ?_
      refine (machines.elementsOf source).bind fun elements => ?_
      exact machines.loop _ (machines.forEachPass inside alike named typed _)
  | varDecl typed declarators =>
      refine (machines.declare inside alike typed declarators).bind fun bound bound' same => ?_
      exact machines.declared same
  | @returns value? =>
      cases value? with
      | some id => exact inside.ambient alike id
      | none => exact .pure rfl
  | breakLoop => exact Simulates.requestBreak.bind fun _ => .pure rfl
  | synchronized => exact inside (.exec alike)
  | unsupported => exact machines.fail _

end Machines

-----------------------------------------------------------------------------------------
-- Jobs
-----------------------------------------------------------------------------------------

/-- Stops stay the same when like places are noted on them. -/
def Places (c : Correspondence ω ω') : Prop :=
  ∀ {span span' world world' stop stop'}, c.Spans span span' → c.Stops world world' stop stop'
    → c.Stops world world' (stop.withSpan span) (stop'.withSpan span')

/-- Corresponding places are noted on corresponding stops. -/
theorem Places.atSpan (places : c.Places) {span span' : Span} (same : c.Spans span span')
    {first : Eval ω α} {second : Eval ω' α} (start : c.Simulates first second)
    : c.Simulates (Eval.atSpan span first) (Eval.atSpan span' second) := by
  intro s t related
  have outcome := start s t related
  rw [Eval.run_atSpan, Eval.run_atSpan]
  generalize first.run s = ended at outcome
  generalize second.run t = ended' at outcome
  cases outcome with
  | value same related => exact .value same related
  | stop stops states => exact .stop (places same stops) states

/-- Alike jobs are done alike.
Witness: their nodes are alike or both missing, and their places correspond.
-/
theorem Machines.perform (machines : c.Machines m m') (places : c.Places)
    (inside : c.Inside again again') {job job' : Job} (jobs : c.Jobs job job')
    : c.Simulates (m.perform again job) (m'.perform again' job') := by
  cases jobs with
  | @eval arena arena' id receiver alike =>
      have node := alike.expr? id
      simp only [Machine.perform]
      generalize arena.expr? id = expr? at node ⊢
      generalize arena'.expr? id = expr?' at node ⊢
      cases node with
      | none => exact machines.dangling
      | some exprs =>
          exact places.atSpan exprs.span (machines.evalExpr inside alike exprs receiver)
  | @exec arena arena' id alike =>
      have node := alike.stmt? id
      simp only [Machine.perform]
      generalize arena.stmt? id = stmt? at node ⊢
      generalize arena'.stmt? id = stmt?' at node ⊢
      cases node with
      | none => exact machines.dangling
      | some stmts => exact places.atSpan stmts.span (machines.execStmt inside alike stmts)

/-- Like jobs run alike, by induction on the fuel. -/
theorem Machines.run (machines : c.Machines m m') (places : c.Places)
    (spent
      : ∀ {world world'}, c.Worlds world world' → c.Stops world world' .outOfFuel .outOfFuel)
    (fuel : Nat)
    : c.Inside (m.run fuel) (m'.run fuel) := by
  induction fuel with
  | zero => exact fun _ _ _ related => .stop (spent related.world) related.toStates
  | succ fuel ih => exact machines.perform places ih

/-- Jobs on like arenas are given the same fuel.
Witness: alike arenas and closures have equally many nodes, and alike variables the same room.
-/
theorem Related.fuelFor {s : State ω} {t : State ω'} (related : c.Related s t)
    (alike : c.Arenas arena arena')
    : Machine.fuelFor arena' t = Machine.fuelFor arena s := by
  have largest
      : Machine.largestArena arena' t.heap = Machine.largestArena arena s.heap := by
    have closures := related.heap.closures
    simp only [Machine.largestArena, ← Array.foldl_toList]
    rw [alike.size_eq]
    generalize arena.size = size
    generalize s.heap.closures.toList = list at closures ⊢
    generalize t.heap.closures.toList = list' at closures ⊢
    induction closures generalizing size with
    | nil => rfl
    | cons head _ ih => rw [List.foldl_cons, List.foldl_cons, head.arena.size_eq, ih]
  rw [Machine.fuelFor, Machine.fuelFor, related.context.vars.limit, largest]

section Whole

variable (machines : c.Machines m m') (places : c.Places)
  (spent : ∀ {world world'}, c.Worlds world world' → c.Stops world world' .outOfFuel .outOfFuel)
  (alike : c.Arenas arena arena')

include machines places spent alike

/-- An expression is evaluated alike on the fuel that is computed for it. -/
theorem Machines.eval (id : ExprId) : c.Simulates (m.eval arena id) (m'.eval arena' id) := by
  refine .read fun s t related => ?_
  rw [related.fuelFor alike]
  exact machines.run places spent _ (.eval alike)

/-- A statement is executed alike on the fuel that is computed for it. -/
theorem Machines.exec (id : StmtId) : c.Simulates (m.exec arena id) (m'.exec arena' id) := by
  refine .read fun s t related => ?_
  rw [related.fuelFor alike]
  exact machines.run places spent _ (.exec alike)

end Whole

end Correspondence

end Scratchpad
