import Scratchpad.Proofs.Operation.Integers

/-! Operators are typed by the kinds of their operands. A table says for every binary operator and
every two kinds which kind comes out, or that none does. Only a division of integers looks further,
at whether it is by zero; no other value changes how an operator ends.
-/

namespace Scratchpad

-----------------------------------------------------------------------------------------
-- Kinds
-----------------------------------------------------------------------------------------

inductive Kind where
  | void
  | null
  | boolean
  | char
  | byte
  | short
  | int
  | long
  | float
  | double
  | string
  | array
  | object
  | classRef
  | package
  | lambda
deriving DecidableEq

def Value.kind : Value → Kind
  | .void => .void
  | .null => .null
  | .bool _ => .boolean
  | .char _ => .char
  | .byte _ => .byte
  | .short _ => .short
  | .int _ => .int
  | .long _ => .long
  | .float _ => .float
  | .double _ => .double
  | .str _ => .string
  | .array _ => .array
  | .object _ => .object
  | .classRef _ => .classRef
  | .package _ => .package
  | .lambda _ => .lambda

/-- The kinds that numbers are promoted to, from the lowest to the highest. -/
inductive Rank where
  | int
  | long
  | float
  | double
deriving DecidableEq

namespace Rank

def kind : Rank → Kind
  | .int => .int
  | .long => .long
  | .float => .float
  | .double => .double

def isIntegral : Rank → Bool
  | .int | .long => true
  | .float | .double => false

def higher : Rank → Rank → Rank
  | .double, _ | _, .double => .double
  | .float, _ | _, .float => .float
  | .long, _ | _, .long => .long
  | .int, .int => .int

end Rank

/-- The rank of the kinds that are numbers. -/
def Kind.rank? : Kind → Option Rank
  | .char | .byte | .short | .int => some .int
  | .long => some .long
  | .float => some .float
  | .double => some .double
  | _ => none

namespace BinaryOp

def isDivision : BinaryOp → Bool
  | .div | .rem => true
  | _ => false

/-- What comes out of two promoted numbers. Bits need integers, and a shift has the kind of what it
shifts.
-/
def promotedKind? (op : BinaryOp) (left right : Rank) : Option Kind :=
  match op with
  | .add | .sub | .mul | .div | .rem => some (left.higher right).kind
  | .lt | .ltEq | .gt | .gtEq => some .boolean
  | .bitAnd | .bitOr | .bitXor =>
    if left.isIntegral && right.isIntegral then some (left.higher right).kind else none
  | .shl | .shr | .ushr => if left.isIntegral && right.isIntegral then some left.kind else none
  | .eq | .notEq | .and | .or => none

/-- What comes out of two kinds that must be numbers. -/
def numberKind? (op : BinaryOp) (left right : Kind) : Option Kind :=
  match left.rank?, right.rank? with
  | some first, some second => op.promotedKind? first second
  | _, _ => none

/-- What comes out of two kinds. A text on either side of `+` makes it a text, everything can be
compared with everything, and logical operators take two booleans or two numbers.
-/
def resultKind? (op : BinaryOp) (left right : Kind) : Option Kind :=
  match op with
  | .add => if left = .string ∨ right = .string then some .string else op.numberKind? left right
  | .eq | .notEq => some .boolean
  | .and | .or | .bitAnd | .bitOr | .bitXor =>
    if left = .boolean ∧ right = .boolean then some .boolean
    else if left = .boolean ∨ right = .boolean then none
    else op.numberKind? left right
  | _ => op.numberKind? left right

/-- A division of integers by zero. -/
def DividesByZero (op : BinaryOp) (left right : Value) : Prop :=
  op.isDivision = true
  ∧ (op.resultKind? left.kind right.kind = some .int
    ∨ op.resultKind? left.kind right.kind = some .long)
  ∧ right.integer? = some 0

/-- How an operator ends for which a table has the given entry: with a value of that kind, unless it
divides by zero, and without an entry as an invalid operator.
-/
inductive Typed (op : BinaryOp) (kind? : Option Kind) (zero : Prop) : Except Cause Value → Prop
  | value {result : Value} (kind : kind? = some result.kind) (other : ¬zero)
    : op.Typed kind? zero (.ok result)
  | division {kind : Kind} (known : kind? = some kind) (divides : zero)
    : op.Typed kind? zero (.error .divisionByZero)
  | invalid {typeName : String} (unknown : kind? = none)
    : op.Typed kind? zero (invalidOperator op typeName)

variable {op : BinaryOp} {kind? : Option Kind} {zero : Prop}

/-- When a division fails may be said in any equivalent way. -/
theorem Typed.congr {zero' : Prop} {outcome : Except Cause Value}
    (typed : op.Typed kind? zero outcome) (same : zero ↔ zero')
    : op.Typed kind? zero' outcome := by
  cases typed with
  | value kind other => exact .value kind (other ∘ same.mpr)
  | division known divides => exact .division known (same.mp divides)
  | invalid unknown => exact .invalid unknown

/-- A comparison gives a truth value for the relational operators and refuses all others, by cases
on the operator.
-/
theorem typed_compareBy (kind : PrimitiveType) (order : Ordering)
    (relational : kind? = if op.isRelational then some .boolean else none) (other : ¬zero)
    : op.Typed kind? zero (compareBy op kind order) := by
  unfold compareBy
  cases op with
  | lt | ltEq | gt | gtEq => exact .value relational other
  | _ => exact .invalid relational

/-- Floating-point comparisons are typed alike, also where a NaN leaves the two without an order.
Witness: without an order the relational operators still answer, and answer that nothing holds.
-/
theorem typed_compareFloats (kind : PrimitiveType) (order? : Option Ordering)
    (relational : kind? = if op.isRelational then some .boolean else none) (other : ¬zero)
    : op.Typed kind? zero (compareFloats op kind order?) := by
  cases order? with
  | some order => exact typed_compareBy kind order relational other
  | none =>
      unfold compareFloats
      cases holds : op.isRelational with
      | true =>
          rw [holds] at relational
          exact .value relational other
      | false =>
          rw [holds] at relational
          exact .invalid relational

end BinaryOp

-----------------------------------------------------------------------------------------
-- Numbers
-----------------------------------------------------------------------------------------

namespace Width

def rank : Width → Rank
  | .int => .int
  | .long => .long

/-- A word has the kind of its width. -/
theorem kind_value (width : Width) (word : BitVec width.bits)
    : (width.value word).kind = width.rank.kind := by
  cases width <;> rfl

end Width

open BinaryOp

/-- On words of one width every operator but a shift is typed by the table of promoted kinds.
Witness: by cases on the operator; division alone looks at the right word, and fails on zero.
-/
theorem typed_onWords (width : Width) {op : BinaryOp} (plain : op.isShift = false)
    (left right : BitVec width.bits)
    : op.Typed (op.promotedKind? width.rank width.rank) (op.isDivision = true ∧ right.toInt = 0)
        (onWords width op left right) := by
  have self : width.rank.higher width.rank = width.rank := by cases width <;> rfl
  have integral : width.rank.isIntegral = true := by cases width <;> rfl
  have holds (word : BitVec width.bits) : some width.rank.kind = some (width.value word).kind :=
    congrArg some (width.kind_value word).symm
  have divides (word : BitVec width.bits)
      : op.Typed (some width.rank.kind) (right.toInt = 0)
          (if right == 0 then .error .divisionByZero else .ok (width.value word)) := by
    cases fails : right == 0 with
    | true => exact .division rfl (Word.beq_zero.mp fails)
    | false =>
        refine .value (holds word) fun zero => ?_
        rw [Word.beq_zero.mpr zero] at fails
        cases fails
  cases op with
  | add | sub | mul =>
      refine .value ?_ (by simp [isDivision])
      rw [promotedKind?, self]
      exact holds _
  | div | rem =>
      rw [promotedKind?, self]
      exact (divides _).congr (by simp [isDivision])
  | bitAnd | bitOr | bitXor =>
      refine .value ?_ (by simp [isDivision])
      simp only [promotedKind?, self, integral]
      exact holds _
  | lt | ltEq | gt | gtEq | eq | notEq | and | or =>
      exact typed_compareBy width.kind (compare left.toInt right.toInt) rfl (by simp [isDivision])
  | shl | shr | ushr => simp [isShift] at plain

/-- On floats every operator but a shift is typed by the table, and none fails on zero. -/
theorem typed_onFloats {op : BinaryOp} (plain : op.isShift = false) (left right : Float32)
    : op.Typed (op.promotedKind? .float .float) False (onFloats op left right) := by
  cases op with
  | add | sub | mul | div | rem => exact .value rfl not_false
  | shl | shr | ushr => simp [isShift] at plain
  | _ => exact typed_compareFloats _ _ rfl not_false

/-- On doubles every operator but a shift is typed by the table, and none fails on zero. -/
theorem typed_onDoubles {op : BinaryOp} (plain : op.isShift = false) (left right : Float)
    : op.Typed (op.promotedKind? .double .double) False (onDoubles op left right) := by
  cases op with
  | add | sub | mul | div | rem => exact .value rfl not_false
  | shl | shr | ushr => simp [isShift] at plain
  | _ => exact typed_compareFloats _ _ rfl not_false

namespace Numeric

def rank : Numeric → Rank
  | .int _ => .int
  | .long _ => .long
  | .float _ => .float
  | .double _ => .double

def integer? : Numeric → Option Int
  | .int value => some value.toInt
  | .long value => some value.toInt
  | .float _ | .double _ => none

/-- The kind of a value tells whether it is a number and of which rank. -/
theorem rank_ofValue? (value : Value) : (ofValue? value).map rank = value.kind.rank? := by
  cases value <;> rfl

/-- Promotion keeps the integer of a value, by cases on its kind. -/
theorem integer?_of_ofValue? {value : Value} {number : Numeric}
    (promoted : ofValue? value = some number)
    : number.integer? = value.integer? := by
  cases value with
  | byte value =>
      obtain rfl := Option.some.inj promoted
      exact congrArg some (Int8.toInt_toInt32 value)
  | short value =>
      obtain rfl := Option.some.inj promoted
      exact congrArg some (Int16.toInt_toInt32 value)
  | char value =>
      obtain rfl := Option.some.inj promoted
      exact congrArg some (toInt_ofChar value)
  | int | long | float | double =>
      obtain rfl := Option.some.inj promoted
      rfl
  | _ => simp [ofValue?] at promoted

end Numeric

/-- A table of promoted operands is one of the operands before. -/
theorem BinaryOp.promotedKind?_higher {op : BinaryOp} (plain : op.isShift = false)
    (left right : Rank)
    : op.promotedKind? (left.higher right) (left.higher right) = op.promotedKind? left right := by
  cases op with
  | shl | shr | ushr => simp [isShift] at plain
  | _ => cases left <;> cases right <;> rfl

/-- A shift takes two integers.
Witness: by the ranks of the two operands; only where both are integral is there a word to shift.
-/
theorem typed_onShift {op : BinaryOp} (shift : op.isShift = true) (left right : Numeric)
    : op.Typed (op.promotedKind? left.rank right.rank) False (onShift op left right) := by
  have kinds
      : op.promotedKind? left.rank right.rank
        = if left.rank.isIntegral && right.rank.isIntegral then some left.rank.kind else none := by
    cases op with
    | shl | shr | ushr => rfl
    | _ => simp [isShift] at shift
  have distance : right.rank.isIntegral = right.isIntegral := by cases right <;> rfl
  rw [kinds, distance]
  cases left with
  | int value | long value =>
      unfold onShift
      cases right.isIntegral with
      | true => exact .value rfl not_false
      | false => exact .invalid rfl
  | float value | double value => exact .invalid rfl

/-- On numbers the table of promoted kinds tells how an operator ends.
Witness: shifts look at each operand by itself; all others first promote both to the higher rank and
then end as the words or floats of that rank do.
-/
theorem typed_onNumerics (op : BinaryOp) (left right : Numeric)
    : op.Typed (op.promotedKind? left.rank right.rank)
        (op.isDivision = true ∧ (left.rank.higher right.rank).isIntegral = true
          ∧ right.integer? = some 0)
        (onNumerics op left right) := by
  unfold onNumerics
  cases shift : op.isShift with
  | true =>
      refine (typed_onShift shift left right).congr ?_
      cases op <;> simp [isShift, isDivision] at shift ⊢
  | false =>
      have words (width : Width) (x y : BitVec width.bits) {b : Int} (same : y.toInt = b)
          : op.Typed (op.promotedKind? width.rank width.rank)
              (op.isDivision = true ∧ true = true ∧ some b = some 0) (onWords width op x y) :=
        (typed_onWords width shift x y).congr (by simp [same])
      have floats (x y : Float32) {zero : Prop}
          : op.Typed (op.promotedKind? .float .float)
              (op.isDivision = true ∧ false = true ∧ zero) (onFloats op x y) :=
        (typed_onFloats shift x y).congr (by simp)
      have doubles (x y : Float) {zero : Prop}
          : op.Typed (op.promotedKind? .double .double)
              (op.isDivision = true ∧ false = true ∧ zero) (onDoubles op x y) :=
        (typed_onDoubles shift x y).congr (by simp)
      have ints (x y : Int32) := onInts_eq_onWords op x y ▸ words .int x.toBitVec y.toBitVec rfl
      have longs (x y : Int64) {b : Int} (same : y.toInt = b) :=
        onLongs_eq_onWords op x y ▸ words .long x.toBitVec y.toBitVec same
      rw [← promotedKind?_higher shift]
      cases left with
      | int x =>
          cases right with
          | int y => exact ints x y
          | long y => exact longs x.toInt64 y rfl
          | float y => exact floats _ _
          | double y => exact doubles _ _
      | long x =>
          cases right with
          | int y => exact longs x y.toInt64 (Int32.toInt_toInt64 y)
          | long y => exact longs x y rfl
          | float y => exact floats _ _
          | double y => exact doubles _ _
      | float x =>
          cases right with
          | double y => exact doubles _ _
          | _ => exact floats _ _
      | double x => cases right <;> exact doubles _ _

-----------------------------------------------------------------------------------------
-- Values
-----------------------------------------------------------------------------------------

namespace Value

/-- Text is told by its kind. -/
theorem isText_eq (value : Value) : value.isText = decide (value.kind = .string) := by
  cases value <;> rfl

/-- Truth values are told by their kind. -/
theorem isSome_bool? (value : Value) : value.bool?.isSome = decide (value.kind = .boolean) := by
  cases value <;> rfl

/-- Whoever reads a truth value from a value knows its kind. -/
theorem kind_of_bool? {value : Value} {flag : Bool} (known : value.bool? = some flag)
    : value.kind = .boolean := by
  have some := value.isSome_bool?
  simpa [known] using some.symm

/-- Where no truth value can be read the kind is another. -/
theorem kind_ne_of_bool? {value : Value} (unknown : value.bool? = none)
    : value.kind ≠ .boolean := by
  have none := value.isSome_bool?
  simpa [unknown] using none.symm

end Value

/-- Whether two ranks give an integer can be told from the kind that a division gives. -/
theorem Rank.isIntegral_iff (rank : Rank)
    : rank.isIntegral = true
      ↔ some rank.kind = some Kind.int ∨ some rank.kind = some Kind.long := by
  cases rank <;> simp [isIntegral, kind]

namespace Scene

variable (scene : Scene)

/-- On values that are to be numbers the table tells how an operator ends.
Witness: a value without a rank is refused, and two with ranks end as their numbers do; a division
can fail only where the result is an integer.
-/
theorem typed_onNumbers (op : BinaryOp) (left right : Value)
    : op.Typed (op.numberKind? left.kind right.kind)
        (op.isDivision = true
          ∧ (op.numberKind? left.kind right.kind = some .int
            ∨ op.numberKind? left.kind right.kind = some .long)
          ∧ right.integer? = some 0)
        (scene.onNumbers op left right) := by
  have leftRank := Numeric.rank_ofValue? left
  have rightRank := Numeric.rank_ofValue? right
  unfold onNumbers
  cases first : Numeric.ofValue? left with
  | none =>
      rw [first] at leftRank
      exact .invalid (by simp [numberKind?, ← leftRank])
  | some x =>
      cases second : Numeric.ofValue? right with
      | none =>
          rw [second] at rightRank
          exact .invalid (by simp [numberKind?, ← rightRank])
      | some y =>
          rw [first] at leftRank
          rw [second] at rightRank
          have kinds
              : op.numberKind? left.kind right.kind = op.promotedKind? x.rank y.rank := by
            simp [numberKind?, ← leftRank, ← rightRank]
          rw [kinds]
          refine (typed_onNumerics op x y).congr ?_
          refine and_congr_right fun division => and_congr ?_ ?_
          · cases op with
            | div | rem => exact Rank.isIntegral_iff _
            | _ => simp [isDivision] at division
          · rw [Numeric.integer?_of_ofValue? second]

/-- A logical operator with a boolean needs a second one.
Witness: by whether either operand is a truth value; if both are, the operator always answers.
-/
theorem typed_onLogical {op : BinaryOp} (logical : op.isLogical = true) (left right : Value)
    : op.Typed
        (if left.kind = .boolean ∧ right.kind = .boolean then some .boolean else none) False
        (scene.onLogical op left right) := by
  unfold onLogical
  cases first : left.bool? with
  | none => exact .invalid (by simp [Value.kind_ne_of_bool? first])
  | some a =>
      cases second : right.bool? with
      | none => exact .invalid (by simp [Value.kind_ne_of_bool? second])
      | some b =>
          rw [if_pos ⟨Value.kind_of_bool? first, Value.kind_of_bool? second⟩]
          cases op with
          | and | or | bitAnd | bitOr | bitXor => exact .value rfl not_false
          | _ => simp [isLogical] at logical

/-- Where the table reads two kinds as numbers, the operator ends as it does on numbers. -/
theorem typed_numbers {op : BinaryOp} {left right : Value}
    (kinds : op.resultKind? left.kind right.kind = op.numberKind? left.kind right.kind)
    : op.Typed (op.resultKind? left.kind right.kind) (op.DividesByZero left right)
        (scene.onNumbers op left right) := by
  rw [DividesByZero, kinds]
  exact scene.typed_onNumbers op left right

/-- A logical operator takes two truth values or two integers and refuses every mixture.
Witness: the table is split as the operator is, on whether either kind is boolean.
-/
theorem typed_logical {op : BinaryOp} (logical : op.isLogical = true) (left right : Value)
    : op.Typed (op.resultKind? left.kind right.kind) (op.DividesByZero left right)
        (scene.binary op left right) := by
  have kinds
      : op.resultKind? left.kind right.kind
        = if left.kind = .boolean ∧ right.kind = .boolean then some .boolean
          else if left.kind = .boolean ∨ right.kind = .boolean then none
          else op.numberKind? left.kind right.kind := by
    cases op with
    | and | or | bitAnd | bitOr | bitXor => rfl
    | _ => simp [isLogical] at logical
  have split
      : scene.binary op left right
        = if left.bool?.isSome || right.bool?.isSome then scene.onLogical op left right
          else scene.onNumbers op left right := by
    cases op with
    | and | or | bitAnd | bitOr | bitXor => simp [binary, isLogical]
    | _ => simp [isLogical] at logical
  have undivided : ¬op.DividesByZero left right := by
    intro divides
    cases op <;> simp [isLogical, DividesByZero, isDivision] at logical divides
  rw [split]
  cases either : left.bool?.isSome || right.bool?.isSome with
  | true =>
      have mentioned : left.kind = .boolean ∨ right.kind = .boolean := by
        simpa [Value.isSome_bool?] using either
      have typed := scene.typed_onLogical logical left right
      rw [kinds, if_pos mentioned]
      exact typed.congr (by simp [undivided])
  | false =>
      have unmentioned : ¬(left.kind = .boolean ∨ right.kind = .boolean) := by
        simpa [Value.isSome_bool?] using either
      have neither : ¬(left.kind = .boolean ∧ right.kind = .boolean) :=
        fun both => unmentioned (.inl both.1)
      exact scene.typed_numbers (by rw [kinds, if_neg neither, if_neg unmentioned])

/-- The table tells how every operator ends on any two values.
Witness: by cases on the operator: `+` first looks for text, equality answers always, the logical
operators look for truth values, and all the others take numbers.
-/
theorem typed_binary (op : BinaryOp) (left right : Value)
    : op.Typed (op.resultKind? left.kind right.kind) (op.DividesByZero left right)
        (scene.binary op left right) := by
  cases op with
  | add =>
      have texts
          : (left.isText || right.isText) = true ↔ left.kind = .string ∨ right.kind = .string := by
        simp [Value.isText_eq]
      by_cases concatenates : left.kind = .string ∨ right.kind = .string
      · simp only [binary, texts.mpr concatenates, resultKind?, if_pos concatenates]
        exact .value rfl (by simp [DividesByZero, isDivision])
      · simp only [binary, texts, if_neg concatenates]
        exact scene.typed_numbers (by simp [resultKind?, concatenates])
  | eq | notEq => exact .value rfl (by simp [DividesByZero, isDivision])
  | and | or | bitAnd | bitOr | bitXor => exact scene.typed_logical rfl left right
  | sub | mul | div | rem | lt | ltEq | gt | gtEq | shl | shr | ushr =>
      exact scene.typed_numbers rfl

/-- Binary operators are typed by kinds alone: they have a value of the kind that the table gives,
unless they divide integers by zero, and are invalid where the table gives none. Nothing else makes
them fail, and no payload changes which of these it is but the zero of a division.
-/
theorem operators_are_typed_by_kinds (scene : Scene) (op : BinaryOp) (left right : Value)
    : (∀ kind,
        (∃ result, scene.binary op left right = .ok result ∧ result.kind = kind)
        ↔ op.resultKind? left.kind right.kind = some kind ∧ ¬op.DividesByZero left right)
      ∧ (scene.binary op left right = .error .divisionByZero ↔ op.DividesByZero left right)
      ∧ ((∃ typeName, scene.binary op left right = .error (.invalidOperator op.symbol typeName))
        ↔ op.resultKind? left.kind right.kind = none)
      ∧ ∀ cause, scene.binary op left right = .error cause
          → cause = .divisionByZero ∨ ∃ typeName, cause = .invalidOperator op.symbol typeName := by
  have typed := scene.typed_binary op left right
  generalize scene.binary op left right = outcome at typed ⊢
  cases typed with
  | value kind other => simp [kind, other]
  | division kind divides => simp [kind, divides]
  | invalid unknown =>
      have undivided : ¬op.DividesByZero left right := by
        rintro ⟨_, kind | kind, _⟩ <;> rw [unknown] at kind <;> cases kind
      simp [invalidOperator, unknown, undivided]

end Scene

end Scratchpad
