import Scratchpad.Host.Sample
import Scratchpad.Proofs.Eval.StateChanges

/-! Assignments and steps write one place or nothing. Such a node first evaluates its operands; from
there on it only reads until it writes, and nothing can fail after that. So it ends in the state
that its operands left, or in one that differs from it in the place that was written.
-/

namespace Scratchpad

variable {ω α β : Type}

-----------------------------------------------------------------------------------------
-- Actions that only read
-----------------------------------------------------------------------------------------

namespace Eval

/-- However the action ends, it leaves the state as it was. -/
def Reads (action : Eval ω α) : Prop := ∀ state, (action.run state).2 = state

namespace Reads

/-- Giving a value changes nothing. -/
theorem pure (value : α) : (pure value : Eval ω α).Reads := fun _ => rfl

/-- Failing changes nothing. -/
theorem fail (cause : Cause) : (fail cause : Eval ω α).Reads := fun _ => rfl

/-- Giving what an operation resulted in changes nothing, be it a value or a failure. -/
theorem ofExcept (outcome : Except Cause α) : (ofExcept outcome : Eval ω α).Reads := by
  cases outcome with
  | ok value => exact .pure value
  | error cause => exact .fail cause

/-- What only reads does so in sequence.
Witness: the second action starts in the state that the first one was given.
-/
theorem bind {first : Eval ω α} {next : α → Eval ω β} (start : first.Reads)
    (rest : ∀ value, (next value).Reads)
    : (first >>= next).Reads := by
  intro state
  have kept := start state
  rw [run_bind]
  generalize first.run state = ended at kept ⊢
  rcases ended with ⟨stop | value, later⟩
  · exact kept
  · exact (rest value later).trans kept

/-- What is done with the current state may depend on it. -/
theorem get_bind {next : State ω → Eval ω α} (rest : ∀ state, (next state).Reads)
    : (get >>= next).Reads :=
  bind (fun _ => rfl) rest

end Reads

end Eval

namespace Machine

variable (m : Machine ω)

/-- Looking at the scene changes nothing.
Witness: it is a read of the state.
-/
theorem reads_withScene {next : Scene → Eval ω α} (rest : ∀ scene, (next scene).Reads)
    : (m.scene >>= next).Reads :=
  .bind (.get_bind fun _ => .pure _) rest

/-- Computing the value for a variable only reads.
Witness: by the operator and the declared type; what is computed is given or fails, and the variable
may be unknown.
-/
theorem reads_variableValue (op : AssignOp) (name : Name) (type? : Option (ResolvedType Name))
    (operand : Value)
    : (m.variableValue op name type? operand).Reads := by
  refine .get_bind fun state => ?_
  rcases op.binary? with _ | operator
  · rcases type? with _ | type
    · exact .pure operand
    · exact m.reads_withScene fun scene => .ofExcept _
  · dsimp only
    split
    · exact .ofExcept _
    · exact .fail _

/-- Reporting an index that is out of bounds only reads, namely the length of the array. -/
theorem reads_outOfBounds (ref : ArrayRef) (index : Int32)
    : (outOfBounds ref index : Eval ω α).Reads :=
  .get_bind fun _ => .fail _

/-- Loading an element only reads. -/
theorem reads_loadElement (ref : ArrayRef) (index : Int32)
    : (loadElement ref index : Eval ω Value).Reads := by
  refine .get_bind fun state => ?_
  split
  · exact .pure _
  · exact reads_outOfBounds ref index

/-- Finding the place of an element only reads.
Witness: the array and the index are taken from values by operations on the scene.
-/
theorem reads_elementPlace (array index : Value) : (m.elementPlace array index).Reads := by
  refine m.reads_withScene fun scene => ?_
  refine .bind (.ofExcept _) fun ref => ?_
  exact .bind (.ofExcept _) fun position => .pure _

/-- Computing the value for an element only reads.
Witness: a compound operator loads the element, and a plain assignment looks at the component.
-/
theorem reads_elementValue (op : AssignOp) (ref : ArrayRef) (index : Int32) (operand : Value)
    : (m.elementValue op ref index operand).Reads := by
  unfold elementValue
  split
  · refine .bind (reads_loadElement ref index) fun current => ?_
    exact m.reads_withScene fun scene => .ofExcept _
  · refine .get_bind fun state => ?_
    split
    · exact m.reads_withScene fun scene => .ofExcept _
    · exact .pure operand

end Machine

-----------------------------------------------------------------------------------------
-- Places and what is written to them
-----------------------------------------------------------------------------------------

/-- What an assignment writes to: the binding of a name or an element. -/
inductive Place where
  | binding (name : Name)
  | element (ref : ArrayRef) (index : Nat)

namespace Heap

/-- The second heap differs from the first in one element, which is inside its array. -/
structure WroteOnly (ref : ArrayRef) (index : Nat) (value : Value) (before after : Heap)
    : Prop where
  closures : after.closures = before.closures
  size : after.arrays.size = before.arrays.size
  component : ∀ other, (after.array other).component = (before.array other).component
  inside : index < (before.array ref).elements.size
  elements
    : ∀ other position, (after.array other).elements[position]?
        = if other = ref ∧ position = index then some value
          else (before.array other).elements[position]?

/-- A reference to an array with elements is one of the heap.
Witness: any other stands for an array without elements.
-/
theorem index_lt_size {heap : Heap} {ref : ArrayRef} {index : Nat}
    (inside : index < (heap.array ref).elements.size)
    : ref.index < heap.arrays.size := by
  by_contra unknown
  simp [array, unknown] at inside

/-- Changing the array behind a reference leaves the others as they are.
Witness: references are equal if their positions in the heap are.
-/
theorem array_modify {heap : Heap} {ref : ArrayRef} (known : ref.index < heap.arrays.size)
    (change : ArrayObject → ArrayObject) (other : ArrayRef)
    : ({ heap with arrays := heap.arrays.modify ref.index change } : Heap).array other
      = if other = ref then change (heap.array ref) else heap.array other := by
  have same : ref.index = other.index ↔ other = ref := by
    cases ref
    cases other
    simp [eq_comm]
  simp only [array, Array.getD_eq_getD_getElem?, Array.getElem?_modify, same]
  split
  · next equal => simp [equal, known]
  · rfl

/-- A store writes one element of one array.
Witness: the index is checked to be in bounds, so that it is a position of the array; the array is
set there and changed nowhere else.
-/
theorem wroteOnly_store {heap later : Heap} {ref : ArrayRef} {index : Int32} {value : Value}
    (stored : heap.store? ref index value = some later)
    : ∃ position : Nat, index.toInt = position ∧ WroteOnly ref position value heap later := by
  simp only [store?] at stored
  split at stored
  · cases stored
  · next valid =>
    obtain rfl := Option.some.inj stored
    obtain ⟨notNegative, below⟩ := not_or.mp valid
    have inside : index.toNatClampNeg < (heap.array ref).elements.size := by omega
    have position : index.toInt = index.toNatClampNeg := by
      rw [Int32.lt_iff_toInt_lt, Int32.toInt_zero] at notNegative
      unfold Int32.toNatClampNeg
      omega
    refine ⟨index.toNatClampNeg, position, rfl, by simp, ?_, inside, ?_⟩
    · intro other
      rw [array_modify (index_lt_size inside)]
      split
      · next same => rw [same]
      · rfl
    · intro other position
      rw [array_modify (index_lt_size inside)]
      by_cases same : other = ref
      · subst same
        simp [Array.getElem?_setIfInBounds, inside, eq_comm]
      · simp [same]

end Heap

namespace State

/-- What a place holds. -/
def held? (state : State ω) : Place → Option Value
  | .binding name => state.context.vars.lookup name
  | .element ref index => (state.heap.array ref).elements[index]?

/-- The second state differs from the first in one place, to which the value was written. -/
inductive WroteOnly (before : State ω) : Place → Value → State ω → Prop
  | binding {name value vars} (written : before.context.vars.WroteOnly name value vars)
    : before.WroteOnly (.binding name) value (before.withVars vars)
  | element {ref index value heap} (written : before.heap.WroteOnly ref index value heap)
    : before.WroteOnly (.element ref index) value { before with heap }

/-- Assigning to a variable writes its binding only. -/
theorem wroteOnly_assign (state : State ω) (name : Name) (value : Value)
    : state.WroteOnly (.binding name) value
        (state.withVars (state.context.vars.assign name value)) :=
  .binding (state.context.vars.wroteOnly_assign name value)

/-- What was written is then at its place. -/
theorem WroteOnly.held? {before after : State ω} {place : Place} {value : Value}
    (wrote : before.WroteOnly place value after)
    : after.held? place = some value := by
  cases wrote with
  | binding written => exact written.lookup
  | element written => exact (written.elements _ _).trans (if_pos ⟨rfl, rfl⟩)

end State

-----------------------------------------------------------------------------------------
-- Nodes that write
-----------------------------------------------------------------------------------------

namespace ExprKind

/-- Assignments and steps. -/
def isWriting : ExprKind → Bool
  | .assign .. => true
  | .unary op _ => op.isStep
  | _ => false

/-- Steps that yield the value from before. -/
def yieldsOld : ExprKind → Bool
  | .unary op _ => op == .postInc || op == .postDec
  | _ => false

end ExprKind

namespace Arena

def exprKind? (arena : Arena) (id : ExprId) : Option ExprKind := (arena.expr? id).map (·.kind)

/-- The expressions by which a target is addressed. -/
def addressOf (arena : Arena) (target : ExprId) : List ExprId :=
  match arena.exprKind? target with
  | some (.index array index) => [array, index]
  | _ => []

/-- The expressions that an assignment or a step evaluates before it writes, in order. The variable
of a step is not evaluated.
-/
def operandsOf (arena : Arena) : ExprKind → List ExprId
  | .assign _ target value => value :: arena.addressOf target
  | _ => []

end Arena

namespace Machine

/-- In a state and with the values of its operands, a node is to write a value to a place: what an
assignment makes of its right-hand side, or one more or less than what is there.
-/
inductive Intends (m : Machine ω) (arena : Arena) (state : State ω)
    : ExprKind → List Value → Place → Value → Prop
  | assignBinding {op target source expr name operand value}
    (found : arena.expr? target = some expr) (names : assignable? expr = some name)
    (computed : (m.variableValue op name expr.type? operand).run state = (.ok value, state))
    : m.Intends arena state (.assign op target source) [operand] (.binding name) value
  | assignElement {op target source array index operand position ref value} {offset : Int32}
    {place : Nat}
    (found : arena.exprKind? target = some (.index array index))
    (addressed : (m.sceneOf state).toIndex position = .ok offset) (inside : offset.toInt = place)
    (computed : (m.elementValue op ref offset operand).run state = (.ok value, state))
    : m.Intends arena state (.assign op target source) [operand, .array ref, position]
        (.element ref place) value
  | step {op operand expr name old value} (found : arena.expr? operand = some expr)
    (names : assignable? expr = some name)
    (bound : state.context.vars.lookup name = some old)
    (computed : (m.sceneOf state).step (op == .preInc || op == .postInc) old = .ok value)
    : m.Intends arena state (.unary op operand) [] (.binding name) value

/-- How a node that writes ends, next to how its operands ended: with an error in the state that
they left, or in one that differs from it by what was to be written.
-/
inductive AllOrNothing (m : Machine ω) (arena : Arena) (kind : ExprKind)
    (operands : Except Stop (List Value) × State ω)
    : Except Stop Value × State ω → Prop
  | nothing (stop : Stop) : m.AllOrNothing arena kind operands (.error stop, operands.2)
  | all {values place value result later} (evaluated : operands.1 = .ok values)
    (intended : m.Intends arena operands.2 kind values place value)
    (wrote : operands.2.WroteOnly place value later) (holds : later.held? place = some value)
    (yields : if kind.yieldsOld then operands.2.held? place = some result else result = value)
    : m.AllOrNothing arena kind operands (.ok result, later)

/-- Putting a span on an error leaves an assignment all or nothing.
Witness: a failure that wrote nothing still wrote nothing, and a success has no error.
-/
theorem AllOrNothing.atSpan {m : Machine ω} {arena : Arena} {kind : ExprKind}
    {operands : Except Stop (List Value) × State ω} {action : Eval ω Value} {state : State ω}
    (ends : m.AllOrNothing arena kind operands (action.run state)) (span : Span)
    : m.AllOrNothing arena kind operands ((Eval.atSpan span action).run state) := by
  rw [Eval.run_atSpan]
  generalize action.run state = ended at ends
  cases ends with
  | nothing stop => exact .nothing _
  | all evaluated intended wrote holds yields =>
      exact .all evaluated intended wrote holds yields

/-- What only reads may come before.
Witness: if the first action stops, nothing was written; if it gives a value, the rest goes on from
the state the operands left.
-/
theorem AllOrNothing.bind {m : Machine ω} {arena : Arena} {kind : ExprKind}
    {operands : Except Stop (List Value) × State ω} {first : Eval ω α} {next : α → Eval ω Value}
    (reads : first.Reads)
    (rest
      : ∀ value, first.run operands.2 = (.ok value, operands.2)
        → m.AllOrNothing arena kind operands ((next value).run operands.2))
    : m.AllOrNothing arena kind operands ((first >>= next).run operands.2) := by
  have kept := reads operands.2
  rw [Eval.run_bind]
  rcases ran : first.run operands.2 with ⟨stop | value, later⟩
  · rw [ran] at kept
    subst kept
    exact .nothing stop
  · rw [ran] at kept
    subst kept
    exact rest value ran

/-- Arguments are evaluated from the first to the last, and stop where one of them does.
Witness: the end of the sequence, by the end of the first argument and that of the others.
-/
theorem run_arguments_cons (again : Job → Eval ω Value) (arena : Arena) (id : ExprId)
    (rest : List ExprId) (state : State ω)
    : (arguments again arena (id :: rest)).run state
      = match (ambient again arena id).run state with
        | (.error stop, later) => (.error stop, later)
        | (.ok value, later) =>
          match (arguments again arena rest).run later with
          | (.error stop, last) => (.error stop, last)
          | (.ok values, last) => (.ok (value :: values), last) := by
  unfold arguments
  rw [List.mapM_cons, Eval.run_bind]
  rcases (ambient again arena id).run state with ⟨stop | value, later⟩
  · rfl
  · simp only [Eval.run_bind]
    rcases (rest.mapM (ambient again arena)).run later with ⟨stop | values, last⟩ <;> rfl

variable (m : Machine ω) (again : Job → Eval ω Value) {arena : Arena}

/-- A step on a variable writes its binding or nothing.
Witness: the binding may be unknown and the step may fail, both before anything is written; the step
gives the old or the new value.
-/
theorem stepVariable_allOrNothing (op : UnaryOp) {operand : ExprId} {expr : Expr} {name : Name}
    (found : arena.expr? operand = some expr) (names : assignable? expr = some name)
    (state : State ω)
    : m.AllOrNothing arena (.unary op operand) (.ok [], state)
        ((m.stepVariable op name).run state) := by
  rw [stepVariable, Eval.run_get_bind]
  cases bound : state.context.vars.lookup name with
  | none => exact .nothing _
  | some old =>
      dsimp only
      cases computed : (m.sceneOf state).step (op == .preInc || op == .postInc) old with
      | error cause => exact .nothing _
      | ok value =>
          have wrote := state.wroteOnly_assign name value
          refine .all rfl (.step found names bound computed) wrote wrote.held? ?_
          cases late : (op == .postInc || op == .postDec) with
          | true => simpa [ExprKind.yieldsOld, late, State.held?] using bound
          | false => simp [ExprKind.yieldsOld, late]

/-- An assignment to a variable writes its binding or nothing.
Witness: its value is computed by reading only, and is then assigned.
-/
theorem assignVariable_allOrNothing (op : AssignOp) {target source : ExprId} {expr : Expr}
    {name : Name} (found : arena.expr? target = some expr)
    (names : assignable? expr = some name) (operand : Value) (state : State ω)
    : m.AllOrNothing arena (.assign op target source) (.ok [operand], state)
        ((m.assignVariable op name expr.type? operand).run state) := by
  refine .bind (m.reads_variableValue op name expr.type? operand) ?_
  intro value computed
  have wrote := state.wroteOnly_assign name value
  exact .all rfl (.assignBinding found names computed) wrote wrote.held? rfl

/-- A place that is found is that of an array, at an index the scene gives.
Witness: by inversion of the two operations that find it.
-/
theorem elementPlace_eq_ok {holder position : Value} {ref : ArrayRef} {offset : Int32}
    {state later : State ω}
    (ran : (m.elementPlace holder position).run state = (.ok (ref, offset), later))
    : holder = .array ref ∧ (m.sceneOf state).toIndex position = .ok offset := by
  have unpack {γ : Type} {outcome : Except Cause γ} {value : γ} {before after : State ω}
      (ended : (Eval.ofExcept outcome).run before = (.ok value, after))
      : outcome = .ok value := by
    cases outcome with
    | ok known =>
        cases ended
        rfl
    | error cause => cases ended
  obtain ⟨scene, middle, read, ran⟩ := Eval.exists_of_run_bind ran
  obtain rfl : m.sceneOf state = scene := by
    cases read
    rfl
  obtain ⟨array, _, isArray, ran⟩ := Eval.exists_of_run_bind ran
  obtain ⟨index, _, isIndex, ended⟩ := Eval.exists_of_run_bind ran
  cases ended
  refine ⟨?_, unpack isIndex⟩
  have known := unpack isArray
  cases holder with
  | array other =>
      cases known
      rfl
  | _ => cases known

/-- What is left of an assignment to an element once its operands have been evaluated.
Witness: the place and the value are found by reading only; then the store fails or writes the one
element.
-/
theorem storeElement_allOrNothing (op : AssignOp) {target source array index : ExprId}
    (found : arena.exprKind? target = some (.index array index)) (operand holder position : Value)
    (state : State ω)
    : m.AllOrNothing arena (.assign op target source) (.ok [operand, holder, position], state)
        ((do
          let (ref, offset) ← m.elementPlace holder position
          let value ← m.elementValue op ref offset operand
          storeElement ref offset value
          pure value : Eval ω Value).run state) := by
  refine .bind (m.reads_elementPlace holder position) ?_
  rintro ⟨ref, offset⟩ placed
  obtain ⟨rfl, addressed⟩ := m.elementPlace_eq_ok placed
  refine .bind (m.reads_elementValue op ref offset operand) ?_
  intro value computed
  rw [storeElement, Eval.run_bind, Eval.run_get_bind]
  cases stored : state.heap.store? ref offset value with
  | none => exact .nothing _
  | some heap =>
      obtain ⟨place, inside, written⟩ := Heap.wroteOnly_store stored
      have wrote : state.WroteOnly (.element ref place) value { state with heap } :=
        .element written
      exact .all rfl (.assignElement found addressed inside computed) wrote wrote.held? rfl

/-- The address of a variable takes no operands.
Witness: its expression is a name, and not an element.
-/
theorem addressOf_of_assignable? {target : ExprId} {expr : Expr} {name : Name}
    (found : arena.expr? target = some expr) (names : assignable? expr = some name)
    : arena.addressOf target = [] := by
  simp only [Arena.addressOf, Arena.exprKind?, found, Option.map_some]
  unfold assignable? at names
  split at names
  · next kind => simp only [kind]
  · cases names

/-- The array and its index, after the operand.
Witness: the operands are evaluated in this order in both; the rest is the store.
-/
theorem assignElement_allOrNothing (op : AssignOp) {target source array index : ExprId}
    (found : arena.exprKind? target = some (.index array index)) (operand : Value)
    (state : State ω)
    : m.AllOrNothing arena (.assign op target source)
        (match (arguments again arena [array, index]).run state with
          | (.error stop, last) => (.error stop, last)
          | (.ok values, last) => (.ok (operand :: values), last))
        ((m.assignElement again arena op array index operand).run state) := by
  rw [assignElement, Eval.run_bind, run_arguments_cons]
  rcases (ambient again arena array).run state with ⟨stop | holder, middle⟩
  · exact .nothing stop
  dsimp only
  rw [Eval.run_bind, run_arguments_cons]
  rcases (ambient again arena index).run middle with ⟨stop | position, last⟩
  · exact .nothing stop
  exact m.storeElement_allOrNothing op found operand holder position last

/-- An assignment is all or nothing, in the state its operands left.
Witness: the operand is evaluated first; then by what the target is: a name, an element, or
something that cannot be assigned to.
-/
theorem assign_allOrNothing (op : AssignOp) (target source : ExprId) (state : State ω)
    : m.AllOrNothing arena (.assign op target source)
        ((arguments again arena (arena.operandsOf (.assign op target source))).run state)
        ((m.assign again arena op target source).run state) := by
  rw [assign, Eval.run_bind, Arena.operandsOf, run_arguments_cons]
  rcases (ambient again arena source).run state with ⟨stop | operand, middle⟩
  · exact .nothing stop
  dsimp only
  cases found : arena.expr? target with
  | none =>
      simp only [Arena.addressOf, Arena.exprKind?, found]
      exact .nothing _
  | some expr =>
      have shape : arena.exprKind? target = some expr.kind := by
        simp only [Arena.exprKind?, found, Option.map_some]
      dsimp only
      cases names : assignable? expr with
      | some name =>
          rw [addressOf_of_assignable? found names]
          exact m.assignVariable_allOrNothing op found names operand middle
      | none =>
          rw [Arena.addressOf, shape]
          cases kind : expr.kind with
          | index array index =>
              exact m.assignElement_allOrNothing again op (shape.trans (congrArg some kind))
                operand middle
          | _ => exact .nothing _

/-- So is a step on a variable.
Witness: by what the operand is: a name, or something that cannot be stepped.
-/
theorem unary_allOrNothing {op : UnaryOp} (step : op.isStep = true) (operand : ExprId)
    (state : State ω)
    : m.AllOrNothing arena (.unary op operand) (.ok [], state)
        ((m.unary again arena op operand).run state) := by
  rw [unary, if_pos step]
  cases found : arena.expr? operand with
  | none => exact .nothing _
  | some expr =>
      dsimp only
      cases names : assignable? expr with
      | none => exact .nothing _
      | some name => exact m.stepVariable_allOrNothing op found names state

/-- An assignment or a step of a variable that fails ends in the state that its operands left, those
that were evaluated. One that has a value has evaluated all of them, and its state differs from the
one they left in one place: the nearest binding of the name, a new one in the active frame if there
is none, or the addressed element. That place holds the assigned value, which is also the value of
the node, unless it is a step that yields what was there before.
-/
theorem writing_is_all_or_nothing (m : Machine ω) (fuel : Nat) {arena : Arena} {id : ExprId}
    {expr : Expr} (found : arena.expr? id = some expr) (writing : expr.kind.isWriting = true)
    (receiver : Option Value) (state : State ω)
    : m.AllOrNothing arena expr.kind
        ((arguments (m.run fuel) arena (arena.operandsOf expr.kind)).run state)
        ((m.run (fuel + 1) (.eval arena id receiver)).run state) := by
  rw [run, perform, found]
  refine AllOrNothing.atSpan ?_ expr.span
  unfold evalExpr
  cases kind : expr.kind with
  | assign op target source => exact m.assign_allOrNothing (m.run fuel) op target source state
  | unary op operand =>
      rw [kind] at writing
      exact m.unary_allOrNothing (m.run fuel) writing operand state
  | _ => simp [kind, ExprKind.isWriting] at writing

/-- The expression `items[n = 0] = items[1] = 5`, at index 9. -/
def nestedAssignment : Arena :=
  {
    exprs :=
      #[
        { kind := .ident ⟨3⟩ },
        { kind := .literal (.int 1) },
        { kind := .index ⟨0⟩ ⟨1⟩ },
        { kind := .literal (.int 5) },
        { kind := .assign .assign ⟨2⟩ ⟨3⟩ },
        { kind := .ident ⟨4⟩ },
        { kind := .literal (.int 0) },
        { kind := .assign .assign ⟨5⟩ ⟨6⟩ },
        { kind := .index ⟨0⟩ ⟨7⟩ },
        { kind := .assign .assign ⟨8⟩ ⟨4⟩ }
      ]
  }

/-- Knows the names `items` and `n` behind the reserved ones. -/
def assigner : Machine SampleHost.World :=
  { names := .filled ["items", "n"], host := SampleHost.host }

/-- An `int[]` of two elements, called `items`, and other variables. -/
def twoItems (first second : Int32) (bindings : List (Name × Value)) : State SampleHost.World :=
  {
    context :=
      { this := .null, vars := { active := ⟨(⟨3⟩, .array ⟨0⟩) :: bindings⟩, limit := 1 } }
    heap :=
      { arrays := #[{ component := .primitive .int, elements := #[.int first, .int second] }] }
    world := {}
  }

/-- The operands assign to the second element and to `n`, after which the first element alone is
written.
-/
theorem nestedAssignment_writes_one_element
    : nestedAssignment.expr? ⟨9⟩ = some { kind := .assign .assign ⟨8⟩ ⟨4⟩ }
      ∧ (arguments (assigner.run 3) nestedAssignment [⟨4⟩, ⟨0⟩, ⟨7⟩]).run (twoItems 7 8 [])
        = (.ok [.int 5, .array ⟨0⟩, .int 0], twoItems 7 5 [(⟨4⟩, .int 0)])
      ∧ (assigner.run 4 (.eval nestedAssignment ⟨9⟩ none)).run (twoItems 7 8 [])
        = (.ok (.int 5), twoItems 5 5 [(⟨4⟩, .int 0)])
      ∧ (twoItems 7 5 [(⟨4⟩, .int 0)]).WroteOnly (.element ⟨0⟩ 0) (.int 5)
          (twoItems 5 5 [(⟨4⟩, .int 0)]) := by
  have evaluated
      : (arguments (assigner.run 3) nestedAssignment [⟨4⟩, ⟨0⟩, ⟨7⟩]).run (twoItems 7 8 [])
        = (.ok [.int 5, .array ⟨0⟩, .int 0], twoItems 7 5 [(⟨4⟩, .int 0)]) :=
    rfl
  have ran
      : (assigner.run 4 (.eval nestedAssignment ⟨9⟩ none)).run (twoItems 7 8 [])
        = (.ok (.int 5), twoItems 5 5 [(⟨4⟩, .int 0)]) :=
    rfl
  have found : nestedAssignment.expr? ⟨9⟩ = some { kind := .assign .assign ⟨8⟩ ⟨4⟩ } := rfl
  have ends := writing_is_all_or_nothing assigner 3 found rfl none (twoItems 7 8 [])
  refine ⟨found, evaluated, ran, ?_⟩
  rw [show nestedAssignment.operandsOf (.assign .assign ⟨8⟩ ⟨4⟩) = [⟨4⟩, ⟨0⟩, ⟨7⟩] from rfl,
    evaluated, ran] at ends
  cases ends with
  | all same intended wrote _ yields =>
      cases same
      cases intended with
      | assignElement _ addressed inside _ =>
          cases addressed
          obtain rfl : 0 = _ := Int.ofNat.inj inside
          cases yields
          exact wrote

end Machine

end Scratchpad
