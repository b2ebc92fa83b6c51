import Scratchpad.Proofs.Eval.Assignments
import Scratchpad.Proofs.Eval.Termination
import Scratchpad.Proofs.Operation.Conversions

/-! Steps of integral variables are compound assignments of one. A step adds within the kind of the
variable; the assignment promotes, adds and converts back. Both keep the low bits of the same
integer, so they agree where the kind wraps around, at both ends of the characters and next to the
units that are none.
-/

namespace Scratchpad

-----------------------------------------------------------------------------------------
-- Values
-----------------------------------------------------------------------------------------

/-- What a step adds. -/
def unitOf (up : Bool) : Int := if up then 1 else -1

/-- A step of a character keeps the low 16 bits of the next number or the one before.
Witness: both sides are compared as naturals modulo the number of units.
-/
theorem Utf16.ofChar_step (c : Char) (up : Bool)
    : (if up then ofChar c + 1 else ofChar c - 1)
      = UInt16.ofInt ((c.toNat % 2 ^ 16 : Nat) + unitOf up) := by
  have low : (ofChar c).toNat = c.toNat % 2 ^ 16 := by simp [ofChar]
  apply UInt16.toNat_inj.mp
  rw [toNat_ofInt, ← low]
  cases up with
  | true =>
      simp only [if_true, unitOf, UInt16.toNat_add, UInt16.reduceToNat]
      omega
  | false =>
      simp only [Bool.false_eq_true, if_false, unitOf, UInt16.toNat_sub, UInt16.reduceToNat]
      omega

/-- Promotion narrows nothing.
Witness: only a `long` is wider than an `int`, and what it is promoted with does not make it
narrower.
-/
theorem IntegralType.bits_le_width {value : Value} {type : IntegralType}
    (kind : value.primitive? = some type.primitive) (other : Value)
    : type.bits ≤ (value.width.wider other.width).bits := by
  cases type with
  | long =>
      cases value with
      | long number => simp [Value.width, Width.wider, bits, Width.bits]
      | _ => simp [Value.primitive?, primitive] at kind
  | _ => cases value.width.wider other.width <;> decide

namespace Scene

variable (scene : Scene)

/-- A step keeps the low bits of the next integer or the one before.
Witness: by the kind of the value; addition and subtraction of one are those of its width.
-/
theorem step_integer {value : Value} {type : IntegralType} {number : Int}
    (kind : value.primitive? = some type.primitive) (integral : value.integer? = some number)
    (up : Bool)
    : scene.step up value = .ok (type.lowBits (number + unitOf up)) := by
  cases value with
  | byte value =>
      obtain rfl : type = .byte := IntegralType.eq_of_primitive? kind rfl
      obtain rfl := Option.some.inj integral
      cases up <;> simp [step, IntegralType.lowBits, unitOf, Int8.ofInt_add, Int8.sub_eq_add_neg]
  | short value =>
      obtain rfl : type = .short := IntegralType.eq_of_primitive? kind rfl
      obtain rfl := Option.some.inj integral
      cases up <;>
        simp [step, IntegralType.lowBits, unitOf, Int16.ofInt_add, Int16.sub_eq_add_neg]
  | char value =>
      obtain rfl : type = .char := IntegralType.eq_of_primitive? kind rfl
      obtain rfl := Option.some.inj integral
      rw [step, IntegralType.lowBits, ← Utf16.ofChar_step]
  | int value =>
      obtain rfl : type = .int := IntegralType.eq_of_primitive? kind rfl
      obtain rfl := Option.some.inj integral
      cases up <;>
        simp [step, IntegralType.lowBits, unitOf, Int32.ofInt_add, Int32.sub_eq_add_neg]
  | long value =>
      obtain rfl : type = .long := IntegralType.eq_of_primitive? kind rfl
      obtain rfl := Option.some.inj integral
      cases up <;>
        simp [step, IntegralType.lowBits, unitOf, Int64.ofInt_add, Int64.sub_eq_add_neg]
  | _ => simp [Value.integer?] at integral

/-- So does a compound assignment with what its operator gives in the unbounded integers.
Witness: the operator is computed at the promoted width, which is no narrower than the kind, so that
narrowing its result keeps the same low bits.
-/
theorem combine_integers {op : BinaryOp} {current operand : Value} {type : IntegralType}
    {a b number : Int} (kind : current.primitive? = some type.primitive)
    (first : current.integer? = some a) (second : operand.integer? = some b)
    (unbounded : op.unbounded? a b = some number)
    : scene.combine op current operand = .ok (type.lowBits number) := by
  obtain ⟨result, computed, holds⟩ := scene.computes_binary first second op unbounded
  have numeric : type.primitive.isNumeric = true := by cases type <;> rfl
  have textless : result.isText = false := by
    cases result with
    | str =>
        have integral := holds.integer
        simp [Value.integer?] at integral
    | _ => rfl
  have same : number.bmod (2 ^ (current.width.wider operand.width).bits) ≡ number
      [ZMOD 2 ^ type.bits] :=
    bmod_modEq number (IntegralType.bits_le_width kind operand)
  simp only [combine, computed, kind, numeric, textless, Bool.not_false, Bool.and_self, if_true]
  rw [scene.coerce_integer holds.integer, IntegralType.lowBits_congr same]

end Scene

-----------------------------------------------------------------------------------------
-- Nodes
-----------------------------------------------------------------------------------------

/-- The two steps of a variable in one direction and the compound assignment of one to it. -/
structure UnitStep (arena : Arena) (up : Bool) (name : Name) where
  early : ExprId
  late : ExprId
  compound : ExprId
  stepped : ExprId
  target : ExprId
  one : ExprId
  isEarly : arena.exprKind? early = some (.unary (if up then .preInc else .preDec) stepped)
  isLate : arena.exprKind? late = some (.unary (if up then .postInc else .postDec) stepped)
  isCompound : arena.exprKind? compound = some (.assign (if up then .add else .sub) target one)
  isStepped : arena.exprKind? stepped = some (.ident name)
  isTarget : arena.exprKind? target = some (.ident name)
  isOne : arena.exprKind? one = some (.literal (.int 1))

/-- A kind that is known is that of an expression of the arena. -/
theorem Arena.exists_of_exprKind? {arena : Arena} {id : ExprId} {kind : ExprKind}
    (known : arena.exprKind? id = some kind)
    : ∃ expr, arena.expr? id = some expr ∧ expr.kind = kind :=
  Option.map_eq_some_iff.mp known

namespace Machine

variable {ω : Type} (m : Machine ω) {arena : Arena} {id : ExprId} {name : Name} {state : State ω}

/-- A name other than `this` can be assigned to. -/
theorem exists_assignable? (names : arena.exprKind? id = some (.ident name))
    (named : name ≠ Name.this)
    : ∃ expr, arena.expr? id = some expr ∧ assignable? expr = some name := by
  obtain ⟨expr, found, kind⟩ := Arena.exists_of_exprKind? names
  exact ⟨expr, found, by simp [assignable?, kind, named]⟩

/-- A node that has a value has it wherever it is. -/
theorem run_node {kind : ExprKind} (shape : arena.exprKind? id = some kind) {fuel : Nat}
    {receiver : Option Value} {value : Value} {later : State ω}
    (evaluated
      : ∀ expr : Expr, expr.kind = kind
        → (m.evalExpr (m.run fuel) arena expr receiver).run state = (.ok value, later))
    : (m.run (fuel + 1) (.eval arena id receiver)).run state = (.ok value, later) := by
  obtain ⟨expr, found, same⟩ := Arena.exists_of_exprKind? shape
  rw [run, perform, found]
  show (Eval.atSpan expr.span _).run state = _
  rw [Eval.run_atSpan, evaluated expr same]

/-- A step goes up or down and yields the old or the new value.
Witness: the operand names a variable, whose value is stepped and assigned.
-/
theorem run_step {op : UnaryOp} {operand : ExprId} {up late : Bool}
    (shape : arena.exprKind? id = some (.unary op operand)) (step : op.isStep = true)
    (direction : (op == .preInc || op == .postInc) = up)
    (order : (op == .postInc || op == .postDec) = late)
    (names : arena.exprKind? operand = some (.ident name)) (named : name ≠ Name.this)
    {old new : Value} (bound : state.context.vars.lookup name = some old)
    (stepped : (m.sceneOf state).step up old = .ok new) (fuel : Nat) (receiver : Option Value)
    : (m.run (fuel + 1) (.eval arena id receiver)).run state
      = (.ok (if late then old else new),
          state.withVars (state.context.vars.assign name new)) := by
  obtain ⟨expr, found, assignable⟩ := exists_assignable? names named
  refine m.run_node shape fun node kind => ?_
  simp only [evalExpr, kind, unary, step, found, assignable, stepVariable, direction, order,
    if_true]
  rw [Eval.run_get_bind, bound]
  dsimp only
  rw [stepped]
  rfl

/-- A compound assignment evaluates its operand, combines it with the variable and assigns the
result.
Witness: the operand comes first, so that the variable is read from the state it left.
-/
theorem run_compound {op : AssignOp} {operator : BinaryOp} {target source : ExprId}
    (shape : arena.exprKind? id = some (.assign op target source))
    (compound : op.binary? = some operator)
    (names : arena.exprKind? target = some (.ident name)) (named : name ≠ Name.this)
    {fuel : Nat} {operand : Value} {between : State ω}
    (evaluated : (m.run fuel (.eval arena source none)).run state = (.ok operand, between))
    {current new : Value} (bound : between.context.vars.lookup name = some current)
    (combined : (m.sceneOf between).combine operator current operand = .ok new)
    (receiver : Option Value)
    : (m.run (fuel + 1) (.eval arena id receiver)).run state
      = (.ok new, between.withVars (between.context.vars.assign name new)) := by
  obtain ⟨expr, found, assignable⟩ := exists_assignable? names named
  refine m.run_node shape fun node kind => ?_
  simp only [evalExpr, kind, assign]
  rw [Eval.run_bind, ambient, evaluated]
  simp only [found, assignable, assignVariable, variableValue, compound]
  rw [Eval.run_bind, Eval.run_get_bind, bound]
  dsimp only
  rw [combined]
  rfl

/-- A literal is evaluated in one step, without effects. -/
theorem run_literal {literal : Literal Name}
    (shape : arena.exprKind? id = some (.literal literal)) (fuel : Nat) (receiver : Option Value)
    : (m.run (fuel + 1) (.eval arena id receiver)).run state
      = (.ok (m.literal literal), state) := by
  refine m.run_node shape fun node kind => ?_
  rw [evalExpr, kind]
  rfl

/-- The expression ends so, on its own, and on every receiver with fuel for two nested nodes. -/
def EvaluatesTo (arena : Arena) (id : ExprId) (state : State ω)
    (outcome : Except Stop Value × State ω)
    : Prop :=
  (m.eval arena id).run state = outcome
  ∧ ∀ fuel ≥ 2, ∀ receiver, (m.run fuel (.eval arena id receiver)).run state = outcome

/-- Evaluation provides fuel for at least two nested nodes.
Witness: the arena holds the expression, so that it has a node, and there is at least one frame.
-/
theorem two_le_fuelFor {kind : ExprKind} (shape : arena.exprKind? id = some kind)
    (state : State ω)
    : 2 ≤ fuelFor arena state := by
  obtain ⟨expr, found, _⟩ := Arena.exists_of_exprKind? shape
  obtain ⟨inside, _⟩ := Array.getElem?_eq_some_iff.mp found
  have size : 1 ≤ largestArena arena state.heap := by
    have least := (le_largestArena arena state.heap).1
    unfold Arena.size at least
    omega
  have frames : 1 ≤ state.context.vars.limit + 1 := by omega
  have product := Nat.mul_le_mul frames (Nat.succ_le_succ size)
  exact product

/-- An expression evaluates to what all its runs with fuel for two nested nodes give.
Witness: evaluation provides at least as much.
-/
theorem EvaluatesTo.of_run {kind : ExprKind} (shape : arena.exprKind? id = some kind)
    {outcome : Except Stop Value × State ω}
    (ran
      : ∀ fuel receiver, (m.run (fuel + 2) (.eval arena id receiver)).run state = outcome)
    : m.EvaluatesTo arena id state outcome := by
  have enough (fuel : Nat) (le : 2 ≤ fuel) (receiver : Option Value)
      : (m.run fuel (.eval arena id receiver)).run state = outcome := by
    obtain ⟨more, rfl⟩ := Nat.exists_eq_add_of_le' le
    exact ran more receiver
  exact ⟨(m.run_eval arena id state).trans (enough _ (two_le_fuelFor shape state) none), enough⟩

/-- Where a name other than `this` is bound to an integral value, in whichever frame, a step before
it and the compound assignment of one have the same value and leave the same state, which the step
behind it leaves as well, with the old value. The variable then has the new value and still its
kind, and within a signed kind it wraps around.
-/
theorem steps_are_unit_assignments (m : Machine ω) {arena : Arena} {up : Bool} {name : Name}
    (nodes : UnitStep arena up name) (named : name ≠ Name.this) {state : State ω} {old : Value}
    {number : Int} (bound : state.context.vars.lookup name = some old)
    (integral : old.integer? = some number)
    : ∃ new later,
        m.EvaluatesTo arena nodes.early state (.ok new, later)
        ∧ m.EvaluatesTo arena nodes.compound state (.ok new, later)
        ∧ m.EvaluatesTo arena nodes.late state (.ok old, later)
        ∧ state.WroteOnly (.binding name) new later
        ∧ later.context.vars.lookup name = some new
        ∧ new.primitive? = old.primitive?
        ∧ ∀ type ≠ IntegralType.char, old.primitive? = some type.primitive
          → new.Wraps type (number + unitOf up) := by
  obtain ⟨type, kind⟩ := Value.exists_integralType integral
  have stepped := (m.sceneOf state).step_integer kind integral up
  have wrote := state.wroteOnly_assign name (type.lowBits (number + unitOf up))
  refine ⟨type.lowBits (number + unitOf up),
    state.withVars (state.context.vars.assign name (type.lowBits (number + unitOf up))),
    ?_, ?_, ?_, wrote, wrote.held?, ?_, ?_⟩
  · refine .of_run m nodes.isEarly fun fuel receiver => ?_
    exact m.run_step nodes.isEarly (by cases up <;> rfl) (show _ = up by cases up <;> rfl)
      (show _ = false by cases up <;> rfl) nodes.isStepped named bound stepped (fuel + 1) receiver
  · refine .of_run m nodes.isCompound fun fuel receiver => ?_
    have combined
        : (m.sceneOf state).combine (if up then .add else .sub) old (.int 1)
          = .ok (type.lowBits (number + unitOf up)) := by
      refine (m.sceneOf state).combine_integers kind integral
        (show (Value.int 1).integer? = some 1 by decide) ?_
      cases up <;> rfl
    exact m.run_compound nodes.isCompound (by cases up <;> rfl) nodes.isTarget named
      (m.run_literal nodes.isOne fuel none) bound combined receiver
  · refine .of_run m nodes.isLate fun fuel receiver => ?_
    exact m.run_step nodes.isLate (by cases up <;> rfl) (show _ = up by cases up <;> rfl)
      (show _ = true by cases up <;> rfl) nodes.isStepped named bound stepped (fuel + 1) receiver
  · rw [type.primitive?_lowBits, kind]
  · intro other signed own
    obtain rfl := IntegralType.eq_of_primitive? kind own
    exact (Value.wraps_iff signed _).mpr rfl

/-- The expressions `++n`, `n++` and `n += 1`, from index 2 on. -/
def stepping : Arena :=
  {
    exprs :=
      #[
        { kind := .ident ⟨4⟩ },
        { kind := .literal (.int 1) },
        { kind := .unary .preInc ⟨0⟩ },
        { kind := .unary .postInc ⟨0⟩ },
        { kind := .assign .add ⟨0⟩ ⟨1⟩ }
      ]
  }

def steppingUp : UnitStep stepping true ⟨4⟩ where
  early := ⟨2⟩
  late := ⟨3⟩
  compound := ⟨4⟩
  stepped := ⟨0⟩
  target := ⟨0⟩
  one := ⟨1⟩
  isEarly := rfl
  isLate := rfl
  isCompound := rfl
  isStepped := rfl
  isTarget := rfl
  isOne := rfl

/-- The highest `byte` is bound to `n` in the root, and a frame without bindings is around. -/
def highestByte : State SampleHost.World :=
  {
    context :=
      {
        this := .null
        vars := { outer := [⟨[(⟨4⟩, .byte Int8.maxValue)]⟩], limit := 2 }
      }
    world := {}
  }

/-- All three expressions leave the lowest `byte` behind the highest.
Witness: the binding is evaluated, and the `byte` that wraps around to behind 127 is the lowest.
-/
theorem highestByte_steps_around
    : highestByte.context.vars.lookup ⟨4⟩ = some (.byte Int8.maxValue)
      ∧ ∃ later,
          assigner.EvaluatesTo stepping ⟨2⟩ highestByte (.ok (.byte Int8.minValue), later)
          ∧ assigner.EvaluatesTo stepping ⟨4⟩ highestByte (.ok (.byte Int8.minValue), later)
          ∧ assigner.EvaluatesTo stepping ⟨3⟩ highestByte (.ok (.byte Int8.maxValue), later)
          ∧ later.context.vars.lookup ⟨4⟩ = some (.byte Int8.minValue) := by
  have bound : highestByte.context.vars.lookup ⟨4⟩ = some (.byte Int8.maxValue) := rfl
  have integral : (Value.byte Int8.maxValue).integer? = some 127 := by decide
  obtain ⟨new, later, early, compound, late, _, written, _, wraps⟩ :=
    steps_are_unit_assignments assigner steppingUp (by decide) bound integral
  obtain rfl : new = .byte Int8.minValue :=
    (Value.wraps_iff (by decide) _).mp (wraps .byte (by decide) rfl)
  exact ⟨bound, later, early, compound, late, written⟩

end Machine

end Scratchpad
