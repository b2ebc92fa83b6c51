import Mathlib.Data.Int.Bitwise
import Scratchpad.Host.Sample
import Scratchpad.Operation

/-! The operators on integers. Operands are promoted to one of two widths, and what comes out is the
result in the unbounded integers, reduced to the signed range of that width. Division alone can
fail, and it fails by zero alone; a shift has the width of its left operand and reduces its distance
by it.
-/

namespace Scratchpad

-----------------------------------------------------------------------------------------
-- Words and their signed reading
-----------------------------------------------------------------------------------------

namespace Word

variable {width : Nat}

/-- The bits of a word made from an integer are the integer's own, up to the width.
Witness: a negative integer is the complement of a natural one, in words as in integers.
-/
theorem getLsbD_ofInt (number : Int) (index : Nat)
    : (BitVec.ofInt width number).getLsbD index
      = (decide (index < width) && number.testBit index) := by
  cases number with
  | ofNat n =>
      rw [Int.ofNat_eq_natCast, BitVec.ofInt_natCast, BitVec.getLsbD_ofNat]
      rfl
  | negSucc n =>
      rw [BitVec.ofInt_negSucc_eq_not_ofNat, BitVec.getLsbD_not, BitVec.getLsbD_ofNat]
      cases decide (index < width) <;> simp [Int.testBit]

/-- A word and the integer it reads as have the same bits within the width.
Witness: the word is the one made from that integer.
-/
theorem testBit_toInt (word : BitVec width) {index : Nat} (inside : index < width)
    : word.toInt.testBit index = word.getLsbD index := by
  have bit := @getLsbD_ofInt width word.toInt index
  rw [BitVec.ofInt_toInt] at bit
  simpa [inside] using bit.symm

/-- A word with the low bits of an integer reads as that integer, reduced to the signed range.
Witness: words with the same bits are equal, so it is the word made from the integer.
-/
theorem toInt_of_testBit {word : BitVec width} {number : Int}
    (bits : ∀ index < width, word.getLsbD index = number.testBit index)
    : word.toInt = number.bmod (2 ^ width) := by
  have same : word = BitVec.ofInt width number := by
    refine BitVec.eq_of_getLsbD_eq fun index inside => ?_
    rw [bits index inside, getLsbD_ofInt]
    simp [inside]
  rw [same, BitVec.toInt_ofInt]

/-- The bits of a conjunction are the conjunctions of the integers' bits. -/
theorem toInt_and (left right : BitVec width)
    : (left &&& right).toInt = (left.toInt.land right.toInt).bmod (2 ^ width) := by
  refine toInt_of_testBit fun index inside => ?_
  rw [Int.testBit_land, testBit_toInt left inside, testBit_toInt right inside,
    BitVec.getLsbD_and]

/-- The bits of a disjunction are the disjunctions of the integers' bits. -/
theorem toInt_or (left right : BitVec width)
    : (left ||| right).toInt = (left.toInt.lor right.toInt).bmod (2 ^ width) := by
  refine toInt_of_testBit fun index inside => ?_
  rw [Int.testBit_lor, testBit_toInt left inside, testBit_toInt right inside,
    BitVec.getLsbD_or]

/-- The bits of an exclusive disjunction are those of the integers' one. -/
theorem toInt_xor (left right : BitVec width)
    : (left ^^^ right).toInt = (left.toInt.xor right.toInt).bmod (2 ^ width) := by
  refine toInt_of_testBit fun index inside => ?_
  rw [Int.testBit_lxor, testBit_toInt left inside, testBit_toInt right inside,
    BitVec.getLsbD_xor]

/-- A word is zero exactly if it reads as zero, since reading is injective. -/
theorem beq_zero {word : BitVec width} : (word == 0) = true ↔ word.toInt = 0 := by
  rw [beq_iff_eq, ← BitVec.toInt_inj]
  simp

/-- The unsigned reading is the signed one modulo the size of the range.
Witness: the signed reading is the unsigned one reduced, and reducing keeps the remainder.
-/
theorem toInt_emod (word : BitVec width) : word.toInt % 2 ^ width = word.toNat := by
  have reduced := @Int.bmod_emod word.toNat (2 ^ width)
  rw [← BitVec.toInt_eq_toNat_bmod] at reduced
  push_cast at reduced
  rw [reduced]
  exact Int.emod_eq_of_lt (Int.natCast_nonneg _) (by exact_mod_cast word.isLt)

/-- The low bits of both readings are the same number. -/
theorem toNat_mod {low : Nat} (le : low ≤ width) (word : BitVec width)
    : word.toNat % 2 ^ low = (word.toInt % 2 ^ low).toNat := by
  have divides : (2 ^ low : Int) ∣ 2 ^ width := pow_dvd_pow 2 le
  rw [← Int.emod_emod_of_dvd _ divides, toInt_emod]
  exact_mod_cast rfl

/-- The low bits of a word are what is left of it modulo their range.
Witness: masking is taking the remainder of the unsigned reading, which the signed one shares.
-/
theorem toNat_and_mask {low : Nat} (le : low ≤ width) (word : BitVec width)
    : (word &&& BitVec.ofNat width (2 ^ low - 1)).toNat = (word.toInt % 2 ^ low).toNat := by
  have fits : 2 ^ low - 1 < 2 ^ width := by
    have range := Nat.pow_le_pow_right (show 0 < 2 by decide) le
    have positive := Nat.two_pow_pos low
    omega
  rw [BitVec.toNat_and, BitVec.toNat_ofNat, Nat.mod_eq_of_lt fits,
    Nat.and_two_pow_sub_one_eq_mod, toNat_mod le]

/-- Shifting to the left multiplies by a power of two, reduced to the width.
Witness: reducing before or after the product makes no difference.
-/
theorem toInt_shiftLeft (word : BitVec width) (distance : Nat)
    : (word <<< distance).toInt = (word.toInt * 2 ^ distance).bmod (2 ^ width) := by
  rw [BitVec.toInt_shiftLeft, BitVec.toInt_eq_toNat_bmod word, Int.bmod_mul_bmod,
    Nat.shiftLeft_eq]
  push_cast
  rfl

/-- Shifting to the right with the sign divides by a power of two, rounding down. -/
theorem toInt_sshiftRight (word : BitVec width) (distance : Nat)
    : (word.sshiftRight distance).toInt = (word.toInt / 2 ^ distance).bmod (2 ^ width) := by
  rw [← BitVec.toInt_bmod_cancel, BitVec.toInt_sshiftRight, Int.shiftRight_eq_div_pow]
  push_cast
  rfl

/-- Shifting to the right with zeros divides the unsigned reading by a power of two. -/
theorem toInt_ushiftRight (word : BitVec width) (distance : Nat)
    : (word >>> distance).toInt
      = (word.toInt % 2 ^ width / 2 ^ distance).bmod (2 ^ width) := by
  rw [BitVec.toInt_eq_toNat_bmod, BitVec.toNat_ushiftRight, toInt_emod,
    Nat.shiftRight_eq_div_pow]
  push_cast
  rfl

end Word

-----------------------------------------------------------------------------------------
-- Integral values
-----------------------------------------------------------------------------------------

/-- The widths in which integers are computed. -/
inductive Width where
  | int
  | long
deriving DecidableEq

namespace Width

def bits : Width → Nat
  | .int => 32
  | .long => 64

def kind : Width → PrimitiveType
  | .int => .int
  | .long => .long

def wider : Width → Width → Width
  | .int, .int => .int
  | _, _ => .long

/-- Two operands of one width meet in that width. -/
theorem wider_self (width : Width) : width.wider width = width := by
  cases width <;> rfl

/-- The result of two widths is no narrower than either, so that meeting again changes nothing. -/
theorem wider_wider (width other : Width)
    : (width.wider other).wider other = width.wider other := by
  cases width <;> cases other <;> rfl

/-- The value that a word of a width is. -/
def value : (width : Width) → BitVec width.bits → Value
  | .int, word => .int (.ofBitVec word)
  | .long, word => .long (.ofBitVec word)

end Width

namespace Value

/-- The integer that a value of an integral kind is; a character counts by the low sixteen bits of
its code point.
-/
def integer? : Value → Option Int
  | .byte value => some value.toInt
  | .short value => some value.toInt
  | .char value => some (value.toNat % 2 ^ 16 : Nat)
  | .int value => some value.toInt
  | .long value => some value.toInt
  | _ => none

/-- The width that an integer is promoted to. -/
def width : Value → Width
  | .long _ => .long
  | _ => .int

/-- A value of a width that is the given integer, reduced to the signed range of the width. -/
structure Holds (value : Value) (width : Width) (number : Int) : Prop where
  kind : value.primitive? = some width.kind
  integer : value.integer? = some (number.bmod (2 ^ width.bits))

/-- A value that holds an integer of a width has that width, by cases on its kind. -/
theorem Holds.width_eq {value : Value} {width : Width} {number : Int}
    (holds : value.Holds width number)
    : value.width = width := by
  have kind := holds.kind
  cases width with
  | int =>
      cases value with
      | int value => rfl
      | _ => simp [primitive?, Width.kind] at kind
  | long =>
      cases value with
      | long value => rfl
      | _ => simp [primitive?, Width.kind] at kind

end Value

/-- A computation that has a value, which holds the given integer. -/
def Computes (width : Width) (number : Int) (outcome : Except Cause Value) : Prop :=
  ∃ value, outcome = .ok value ∧ value.Holds width number

/-- A division fails exactly by zero, and otherwise computes the given integer. -/
structure Divides (width : Width) (divisor number : Int) (outcome : Except Cause Value)
    : Prop where
  fails : outcome = .error .divisionByZero ↔ divisor = 0
  computes : divisor ≠ 0 → Computes width number outcome

/-- A word that reads as a reduced integer holds that integer. -/
theorem computes_value {width : Width} {word : BitVec width.bits} {number : Int}
    (reduced : word.toInt = number.bmod (2 ^ width.bits))
    : Computes width number (.ok (width.value word)) := by
  refine ⟨_, rfl, ?_⟩
  cases width with
  | int => exact ⟨rfl, congrArg some reduced⟩
  | long => exact ⟨rfl, congrArg some reduced⟩

/-- A division of words fails exactly on the zero divisor and computes the quotient otherwise.
Witness: a word is compared with zero by its bits, and it has none set exactly if it reads as zero.
-/
theorem divides_value {width : Width} {divisor word : BitVec width.bits} {number : Int}
    (reduced : word.toInt = number.bmod (2 ^ width.bits))
    : Divides width divisor.toInt number
        (if divisor == 0 then .error .divisionByZero else .ok (width.value word)) := by
  cases fails : divisor == 0 with
  | true =>
      have zero := Word.beq_zero.mp fails
      exact ⟨by simp [zero], fun other => absurd zero other⟩
  | false =>
      have other : divisor.toInt ≠ 0 := by
        rw [ne_eq, ← Word.beq_zero, fails]
        decide
      exact ⟨by simp [other], fun _ => computes_value reduced⟩

-----------------------------------------------------------------------------------------
-- Operators on unbounded integers
-----------------------------------------------------------------------------------------

namespace BinaryOp

/-- The operators that never fail. Bit by bit, an integer continues upward with its sign. -/
def unbounded? (op : BinaryOp) (left right : Int) : Option Int :=
  match op with
  | .add => some (left + right)
  | .sub => some (left - right)
  | .mul => some (left * right)
  | .bitAnd => some (left.land right)
  | .bitOr => some (left.lor right)
  | .bitXor => some (left.xor right)
  | _ => none

/-- The quotient rounded toward zero, and the remainder that goes with it. -/
def divided? (op : BinaryOp) (left right : Int) : Option Int :=
  match op with
  | .div => some (left.tdiv right)
  | .rem => some (left.tmod right)
  | _ => none

def compared? (op : BinaryOp) (left right : Int) : Option Bool :=
  match op with
  | .lt => some (decide (left < right))
  | .ltEq => some (decide (left ≤ right))
  | .gt => some (decide (left > right))
  | .gtEq => some (decide (left ≥ right))
  | .eq => some (decide (left = right))
  | .notEq => some (decide (left ≠ right))
  | _ => none

/-- Shifts within a number of bits. To the right they round down, and the unsigned one starts from
the unsigned reading.
-/
def shifted? (op : BinaryOp) (bits : Nat) (number : Int) (distance : Nat) : Option Int :=
  match op with
  | .shl => some (number * 2 ^ distance)
  | .shr => some (number / 2 ^ distance)
  | .ushr => some (number % 2 ^ bits / 2 ^ distance)
  | _ => none

end BinaryOp

def UnaryOp.unbounded? (op : UnaryOp) (number : Int) : Option Int :=
  match op with
  | .neg => some (-number)
  | .plus => some number
  | .bitNot => some (-number - 1)
  | _ => none

-----------------------------------------------------------------------------------------
-- Operators on words
-----------------------------------------------------------------------------------------

/-- The operators on words, whatever their width. -/
def onWords (width : Width) (op : BinaryOp) (left right : BitVec width.bits)
    : Except Cause Value :=
  match op with
  | .add => .ok (width.value (left + right))
  | .sub => .ok (width.value (left - right))
  | .mul => .ok (width.value (left * right))
  | .div => if right == 0 then .error .divisionByZero else .ok (width.value (left.sdiv right))
  | .rem => if right == 0 then .error .divisionByZero else .ok (width.value (left.srem right))
  | .bitAnd => .ok (width.value (left &&& right))
  | .bitOr => .ok (width.value (left ||| right))
  | .bitXor => .ok (width.value (left ^^^ right))
  | _ => compareBy op width.kind (compare left.toInt right.toInt)

def shiftWord {bits : Nat} (op : BinaryOp) (word : BitVec bits) (distance : Nat) : BitVec bits :=
  match op with
  | .shl => word <<< distance
  | .shr => word.sshiftRight distance
  | _ => word >>> distance

/-- Operators on 32-bit values are those on words of 32 bits, by cases on the operator.
Witness: only division looks at a value by itself, to find out that it is zero.
-/
theorem onInts_eq_onWords (op : BinaryOp) (left right : Int32)
    : onInts op left right = onWords .int op left.toBitVec right.toBitVec := by
  have zero : (right == 0) = (right.toBitVec == (0 : BitVec 32)) := by
    rw [Bool.eq_iff_iff, beq_iff_eq, beq_iff_eq, ← Int32.toBitVec_inj]
    rfl
  cases op with
  | div =>
      simp only [onInts, onWords, zero]
      rfl
  | rem =>
      simp only [onInts, onWords, zero]
      rfl
  | _ => rfl

/-- Operators on 64-bit values are those on words of 64 bits, in the same way. -/
theorem onLongs_eq_onWords (op : BinaryOp) (left right : Int64)
    : onLongs op left right = onWords .long op left.toBitVec right.toBitVec := by
  have zero : (right == 0) = (right.toBitVec == (0 : BitVec 64)) := by
    rw [Bool.eq_iff_iff, beq_iff_eq, beq_iff_eq, ← Int64.toBitVec_inj]
    rfl
  cases op with
  | div =>
      simp only [onLongs, onWords, zero]
      rfl
  | rem =>
      simp only [onLongs, onWords, zero]
      rfl
  | _ => rfl

section Words

variable {width : Width} {op : BinaryOp} {left right : BitVec width.bits}

/-- Arithmetic and bitwise operators on words compute the integer result, reduced to the width.
Witness: by cases on the operator, each by the reading of its operation on words.
-/
theorem computes_onWords {number : Int}
    (unbounded : op.unbounded? left.toInt right.toInt = some number)
    : Computes width number (onWords width op left right) := by
  cases op with
  | add =>
      obtain rfl := Option.some.inj unbounded
      exact computes_value (BitVec.toInt_add left right)
  | sub =>
      obtain rfl := Option.some.inj unbounded
      exact computes_value BitVec.toInt_sub
  | mul =>
      obtain rfl := Option.some.inj unbounded
      exact computes_value (BitVec.toInt_mul left right)
  | bitAnd =>
      obtain rfl := Option.some.inj unbounded
      exact computes_value (Word.toInt_and left right)
  | bitOr =>
      obtain rfl := Option.some.inj unbounded
      exact computes_value (Word.toInt_or left right)
  | bitXor =>
      obtain rfl := Option.some.inj unbounded
      exact computes_value (Word.toInt_xor left right)
  | _ => simp [BinaryOp.unbounded?] at unbounded

/-- Division and remainder on words round towards zero and fail on the zero divisor alone.
Witness: by cases on the operator; a remainder is in range and is not reduced.
-/
theorem divides_onWords {number : Int}
    (divided : op.divided? left.toInt right.toInt = some number)
    : Divides width right.toInt number (onWords width op left right) := by
  cases op with
  | div =>
      obtain rfl := Option.some.inj divided
      exact divides_value (BitVec.toInt_sdiv left right)
  | rem =>
      obtain rfl := Option.some.inj divided
      refine divides_value ?_
      rw [← BitVec.toInt_srem, BitVec.toInt_bmod_cancel]
  | _ => simp [BinaryOp.divided?] at divided

/-- The order of two integers decides every comparison of them.
Witness: the order is spelled out for two integers, and then the operators are taken one by one.
-/
theorem BinaryOp.relates?_compare {op : BinaryOp} (relational : op.isRelational = true)
    (a b : Int)
    : op.relates? (compare a b) = op.compared? a b := by
  have order : compare a b = if a < b then .lt else if a = b then .eq else .gt := rfl
  have less : compare a b = .lt ↔ a < b := by
    rw [order]
    split <;> grind
  have more : compare a b = .gt ↔ b < a := by
    rw [order]
    split <;> grind
  cases op with
  | lt => simp [relates?, compared?, ← less, Bool.beq_eq_decide_eq]
  | ltEq => simp [relates?, compared?, ← Int.not_lt, ← more, bne, Bool.beq_eq_decide_eq]
  | gt => simp [relates?, compared?, ← more, Bool.beq_eq_decide_eq]
  | gtEq => simp [relates?, compared?, ← Int.not_lt, ← less, bne, Bool.beq_eq_decide_eq]
  | _ => simp [isRelational] at relational

/-- Comparisons of words compare the integers that they read as.
Witness: every relational operator looks at the order of the two integers only.
-/
theorem onWords_of_compared (relational : op.isRelational = true) {holds : Bool}
    (compared : op.compared? left.toInt right.toInt = some holds)
    : onWords width op left right = .ok (.bool holds) := by
  have ordered
      : onWords width op left right
        = compareBy op width.kind (compare left.toInt right.toInt) := by
    cases op with
    | lt | ltEq | gt | gtEq => rfl
    | _ => simp [BinaryOp.isRelational] at relational
  rw [ordered, compareBy, op.relates?_compare relational, compared]

/-- A shift of a word computes the shifted integer, reduced to the width, by cases on the operator.
-/
theorem toInt_shiftWord {bits distance : Nat} {word : BitVec bits} {number : Int}
    (shifted : op.shifted? bits word.toInt distance = some number)
    : (shiftWord op word distance).toInt = number.bmod (2 ^ bits) := by
  cases op with
  | shl =>
      obtain rfl := Option.some.inj shifted
      exact Word.toInt_shiftLeft word distance
  | shr =>
      obtain rfl := Option.some.inj shifted
      exact Word.toInt_sshiftRight word distance
  | ushr =>
      obtain rfl := Option.some.inj shifted
      exact Word.toInt_ushiftRight word distance
  | _ => simp [BinaryOp.shifted?] at shifted

end Words

-----------------------------------------------------------------------------------------
-- Distances
-----------------------------------------------------------------------------------------

/-- How far a shift of a width goes. -/
def Width.distance (width : Width) (number : Int) : Nat := (number % width.bits).toNat

/-- A shift goes less far than the word is wide, since its distance is a remainder. -/
theorem Width.distance_lt (width : Width) (number : Int) : width.distance number < width.bits := by
  have positive : (0 : Int) < width.bits := by cases width <;> decide
  have below := Int.emod_lt_of_pos number positive
  have above := Int.emod_nonneg number (Int.ne_of_gt positive)
  unfold distance
  omega

/-- Shifts reduce a distance once more, which changes nothing. -/
theorem reduced_distance
    : (∀ distance < 32,
        ((BitVec.ofNat 32 distance).smod 32).toNat = distance
        ∧ (BitVec.ofNat 32 distance % 32).toNat = distance)
      ∧ ∀ distance < 64,
          ((BitVec.ofNat 64 distance).smod 64).toNat = distance
          ∧ (BitVec.ofNat 64 distance % 64).toNat = distance := by
  decide

/-- A shift of a 32-bit value goes as far as the low five bits of its distance say.
Witness: the mask leaves a distance below the width, which no later reduction changes.
-/
theorem shiftInt_eq_shiftWord (op : BinaryOp) (value : Int32) (distance : Int64)
    : (shiftInt op value distance).toBitVec
      = shiftWord op value.toBitVec (Width.int.distance distance.toInt) := by
  have low : (distance &&& 0x1f).toBitVec.toNat = Width.int.distance distance.toInt :=
    Word.toNat_and_mask (show 5 ≤ 64 by decide) distance.toBitVec
  have bits
      : (distance &&& 0x1f).toInt32.toBitVec
        = BitVec.ofNat 32 (Width.int.distance distance.toInt) := by
    refine BitVec.eq_of_toNat_eq ?_
    rw [Int64.toBitVec_toInt32, BitVec.signExtend_eq_setWidth_of_le _ (by decide),
      BitVec.toNat_setWidth, low, BitVec.toNat_ofNat]
  obtain ⟨signed, unsigned⟩ := reduced_distance.1 _ (Width.int.distance_lt distance.toInt)
  rw [← bits] at signed unsigned
  cases op with
  | shl => exact congrArg (value.toBitVec <<< ·) signed
  | shr => exact congrArg value.toBitVec.sshiftRight signed
  | _ => exact congrArg (value.toBitVec >>> ·) unsigned

/-- A shift of a 64-bit value goes as far as the low six bits of its distance say, in the same way.
-/
theorem shiftLong_eq_shiftWord (op : BinaryOp) (value distance : Int64)
    : (shiftLong op value distance).toBitVec
      = shiftWord op value.toBitVec (Width.long.distance distance.toInt) := by
  have low : (distance &&& 0x3f).toBitVec.toNat = Width.long.distance distance.toInt :=
    Word.toNat_and_mask (show 6 ≤ 64 by decide) distance.toBitVec
  have bits
      : (distance &&& 0x3f).toBitVec
        = BitVec.ofNat 64 (Width.long.distance distance.toInt) := by
    refine BitVec.eq_of_toNat_eq ?_
    have below := Width.long.distance_lt distance.toInt
    rw [low, BitVec.toNat_ofNat, Nat.mod_eq_of_lt (below.trans (by decide))]
  obtain ⟨signed, unsigned⟩ := reduced_distance.2 _ (Width.long.distance_lt distance.toInt)
  rw [← bits] at signed unsigned
  cases op with
  | shl => exact congrArg (value.toBitVec <<< ·) signed
  | shr => exact congrArg value.toBitVec.sshiftRight signed
  | _ => exact congrArg (value.toBitVec >>> ·) unsigned

-----------------------------------------------------------------------------------------
-- Promoted operands
-----------------------------------------------------------------------------------------

/-- A promoted number that is an integer of a width. -/
inductive Numeric.Counts : Numeric → Width → Int → Prop
  | int (value : Int32) : Counts (.int value) .int value.toInt
  | long (value : Int64) : Counts (.long value) .long value.toInt

/-- Two promoted numbers that are integers of one width. -/
inductive Operands.Counts : Operands → Width → Int → Int → Prop
  | int (left right : Int32) : Counts (.int left right) .int left.toInt right.toInt
  | long (left right : Int64) : Counts (.long left right) .long left.toInt right.toInt

/-- An operand is within the range of the width that it has been promoted to. -/
theorem Operands.Counts.bmod_left {operands : Operands} {width : Width} {a b : Int}
    (counts : operands.Counts width a b)
    : a.bmod (2 ^ width.bits) = a := by
  cases counts with
  | int left right => exact BitVec.toInt_bmod_cancel left.toBitVec
  | long left right => exact BitVec.toInt_bmod_cancel left.toBitVec

namespace Numeric

/-- A character counts as its low sixteen bits, which are never negative.
Witness: sixteen bits read the same in a wider word, signed or not.
-/
theorem toInt_ofChar (c : Char)
    : (Utf16.ofChar c).toUInt32.toInt32.toInt = (c.toNat % 2 ^ 16 : Nat) := by
  have small : (Utf16.ofChar c).toNat < 2 ^ 16 := (Utf16.ofChar c).toNat_lt
  have low : (Utf16.ofChar c).toNat = c.toNat % 2 ^ 16 := by simp [Utf16.ofChar]
  have unsigned
      : (Utf16.ofChar c).toUInt32.toInt32.toBitVec.toNat = (Utf16.ofChar c).toNat := by
    simp
  rw [← low, ← unsigned]
  exact BitVec.toInt_eq_toNat_of_lt (by omega)

/-- An integral value is promoted to the integer that it is.
Witness: by cases on the kind; a narrower kind keeps its integer when it is widened.
-/
theorem exists_counts {value : Value} {number : Int} (integral : value.integer? = some number)
    : ∃ promoted, ofValue? value = some promoted ∧ promoted.Counts value.width number := by
  cases value with
  | byte value =>
      obtain rfl := Option.some.inj integral
      rw [← Int8.toInt_toInt32]
      exact ⟨_, rfl, .int _⟩
  | short value =>
      obtain rfl := Option.some.inj integral
      rw [← Int16.toInt_toInt32]
      exact ⟨_, rfl, .int _⟩
  | char value =>
      obtain rfl := Option.some.inj integral
      rw [← toInt_ofChar]
      exact ⟨_, rfl, .int _⟩
  | int value =>
      obtain rfl := Option.some.inj integral
      exact ⟨_, rfl, .int value⟩
  | long value =>
      obtain rfl := Option.some.inj integral
      exact ⟨_, rfl, .long value⟩
  | _ => simp [Value.integer?] at integral

/-- A number is no text, by cases on the value. -/
theorem isText_of_ofValue? {value : Value} {number : Numeric}
    (promoted : ofValue? value = some number)
    : value.isText = false := by
  cases value with
  | str text => simp [ofValue?] at promoted
  | _ => rfl

/-- A number is no truth value, by cases on the value. -/
theorem bool?_of_ofValue? {value : Value} {number : Numeric}
    (promoted : ofValue? value = some number)
    : value.bool? = none := by
  cases value with
  | bool flag => simp [ofValue?] at promoted
  | _ => rfl

namespace Counts

variable {left right : Numeric} {width width' : Width} {a b : Int}

/-- Binary promotion keeps both integers.
Witness: by cases on the two widths; the narrower operand keeps its integer when it is widened.
-/
theorem promote (first : left.Counts width a) (second : right.Counts width' b)
    : (Scratchpad.promote left right).Counts (width.wider width') a b := by
  cases first with
  | int x =>
      cases second with
      | int y => exact .int x y
      | long y =>
          rw [← Int32.toInt_toInt64]
          exact .long x.toInt64 y
  | long x =>
      cases second with
      | int y =>
          rw [← Int32.toInt_toInt64]
          exact .long x y.toInt64
      | long y => exact .long x y

/-- What holds of an operator on all words holds of it on two integers, at the width that both are
promoted to.
-/
theorem onNumerics {op : BinaryOp} (plain : op.isShift = false)
    (holds : Width → Int → Int → Except Cause Value → Prop)
    (words
      : ∀ width (x y : BitVec width.bits), holds width x.toInt y.toInt (onWords width op x y))
    (first : left.Counts width a) (second : right.Counts width' b)
    : holds (width.wider width') a b (Scratchpad.onNumerics op left right) := by
  have promoted := first.promote second
  unfold Scratchpad.onNumerics
  rw [plain]
  generalize Scratchpad.promote left right = operands at promoted ⊢
  generalize width.wider width' = common at promoted ⊢
  cases promoted with
  | int x y =>
      show holds .int x.toInt y.toInt (onInts op x y)
      rw [onInts_eq_onWords]
      exact words .int x.toBitVec y.toBitVec
  | long x y =>
      show holds .long x.toInt y.toInt (onLongs op x y)
      rw [onLongs_eq_onWords]
      exact words .long x.toBitVec y.toBitVec

/-- The distance of a shift is taken as a `long`. -/
theorem toInt_toLong (counts : left.Counts width a) : left.toLong.toInt = a := by
  cases counts with
  | int x => exact Int32.toInt_toInt64 x
  | long x => rfl

/-- What counts as an integer is integral. -/
theorem isIntegral (counts : left.Counts width a) : left.isIntegral = true := by
  cases counts <;> rfl

/-- A shift has the width of its left operand.
Witness: by the width of that operand; the right one is read as a long and its low bits taken.
-/
theorem onShift {op : BinaryOp} {number : Int} (first : left.Counts width a)
    (second : right.Counts width' b)
    (shifted : op.shifted? width.bits a (width.distance b) = some number)
    : Computes width number (Scratchpad.onShift op left right) := by
  have distance := second.toInt_toLong
  have integral := second.isIntegral
  cases first with
  | int x =>
      simp only [Scratchpad.onShift, integral, if_true]
      refine @computes_value .int (shiftInt op x right.toLong).toBitVec number ?_
      rw [shiftInt_eq_shiftWord, distance]
      exact toInt_shiftWord shifted
  | long x =>
      simp only [Scratchpad.onShift, integral, if_true]
      refine @computes_value .long (shiftLong op x right.toLong).toBitVec number ?_
      rw [shiftLong_eq_shiftWord, distance]
      exact toInt_shiftWord shifted

end Counts

end Numeric

-----------------------------------------------------------------------------------------
-- Operators on values
-----------------------------------------------------------------------------------------

namespace Scene

variable (scene : Scene) {left right : Value}

/-- Every operator but `==` and `!=` does to numbers what it does once they are promoted.
Witness: a number is neither text nor truth value, so no other branch of an operator takes it.
-/
theorem binary_of_ofValue? {op : BinaryOp} (ordered : op ≠ .eq ∧ op ≠ .notEq) {x y : Numeric}
    (first : Numeric.ofValue? left = some x) (second : Numeric.ofValue? right = some y)
    : scene.binary op left right = onNumerics op x y := by
  have numbers : scene.onNumbers op left right = onNumerics op x y := by
    simp [onNumbers, first, second]
  rw [← numbers]
  cases op with
  | add =>
      simp [binary, Numeric.isText_of_ofValue? first, Numeric.isText_of_ofValue? second]
  | eq => exact absurd rfl ordered.1
  | notEq => exact absurd rfl ordered.2
  | _ => simp [binary, Numeric.bool?_of_ofValue? first, Numeric.bool?_of_ofValue? second]

section Integral

variable {a b : Int} (first : left.integer? = some a) (second : right.integer? = some b)

include first second

/-- What holds of an operator on all words holds of it on two integral values. -/
theorem binary_integers {op : BinaryOp} (ordered : op ≠ .eq ∧ op ≠ .notEq)
    (plain : op.isShift = false) (holds : Width → Int → Int → Except Cause Value → Prop)
    (words
      : ∀ width (x y : BitVec width.bits), holds width x.toInt y.toInt (onWords width op x y))
    : holds (left.width.wider right.width) a b (scene.binary op left right) := by
  obtain ⟨x, promoted, counts⟩ := Numeric.exists_counts first
  obtain ⟨y, promoted', counts'⟩ := Numeric.exists_counts second
  rw [scene.binary_of_ofValue? ordered promoted promoted']
  exact counts.onNumerics plain holds words counts'

/-- Arithmetic on two integral values computes the integer result in their common width.
Witness: promotion keeps both integers, and words of that width compute with them.
-/
theorem computes_binary (op : BinaryOp) {number : Int} (unbounded : op.unbounded? a b = some number)
    : Computes (left.width.wider right.width) number (scene.binary op left right) := by
  have ordered : op ≠ .eq ∧ op ≠ .notEq := by
    constructor <;> rintro rfl <;> simp [BinaryOp.unbounded?] at unbounded
  have plain : op.isShift = false := by
    cases op <;> simp [BinaryOp.unbounded?, BinaryOp.isShift] at unbounded ⊢
  exact scene.binary_integers first second ordered plain
    (fun width a b outcome => op.unbounded? a b = some number → Computes width number outcome)
    (fun _ _ _ => computes_onWords) unbounded

/-- Division of two integral values fails on zero and otherwise computes in their common width, by
the same promotion.
-/
theorem divides_binary (op : BinaryOp) {number : Int} (divided : op.divided? a b = some number)
    : Divides (left.width.wider right.width) b number (scene.binary op left right) := by
  have ordered : op ≠ .eq ∧ op ≠ .notEq := by
    constructor <;> rintro rfl <;> simp [BinaryOp.divided?] at divided
  have plain : op.isShift = false := by
    cases op <;> simp [BinaryOp.divided?, BinaryOp.isShift] at divided ⊢
  exact scene.binary_integers first second ordered plain
    (fun width a b outcome => op.divided? a b = some number → Divides width b number outcome)
    (fun _ _ _ => divides_onWords) divided

/-- Integral values are equal exactly if they are the same integer.
Witness: both are promoted to one width, where words are equal if they read the same.
-/
theorem equals_integers : left.equals right = decide (a = b) := by
  obtain ⟨x, promoted, counts⟩ := Numeric.exists_counts first
  obtain ⟨y, promoted', counts'⟩ := Numeric.exists_counts second
  have operands := counts.promote counts'
  simp only [Value.equals, promoted, promoted']
  generalize promote x y = both at operands ⊢
  generalize left.width.wider right.width = common at operands
  cases operands with
  | int x y => simp [Int32.toInt_inj, Bool.beq_eq_decide_eq]
  | long x y => simp [Int64.toInt_inj, Bool.beq_eq_decide_eq]

/-- Comparisons of two integral values compare the integers, whatever their kinds.
Witness: equality by promotion, the rest by the comparison of words.
-/
theorem binary_of_compared {op : BinaryOp} {holds : Bool}
    (compared : op.compared? a b = some holds)
    : scene.binary op left right = .ok (.bool holds) := by
  have same := equals_integers first second
  cases op with
  | eq =>
      obtain rfl := Option.some.inj compared
      simp [binary, same]
  | notEq =>
      obtain rfl := Option.some.inj compared
      simp [binary, same]
  | lt | ltEq | gt | gtEq =>
      exact scene.binary_integers first second (by decide) rfl
        (fun _ a b outcome => BinaryOp.compared? _ a b = some holds → outcome = .ok (.bool holds))
        (fun _ _ _ => onWords_of_compared rfl) compared
  | _ => simp [BinaryOp.compared?] at compared

/-- A shift of an integral value has the width of the left operand alone.
Witness: no common width is taken; the right operand gives the distance only.
-/
theorem computes_shift {op : BinaryOp} {number : Int}
    (shifted : op.shifted? left.width.bits a (left.width.distance b) = some number)
    : Computes left.width number (scene.binary op left right) := by
  have ordered : op ≠ .eq ∧ op ≠ .notEq := by
    constructor <;> rintro rfl <;> simp [BinaryOp.shifted?] at shifted
  have shift : op.isShift = true := by
    cases op <;> simp [BinaryOp.shifted?, BinaryOp.isShift] at shifted ⊢
  obtain ⟨x, promoted, counts⟩ := Numeric.exists_counts first
  obtain ⟨y, promoted', counts'⟩ := Numeric.exists_counts second
  rw [scene.binary_of_ofValue? ordered promoted promoted', onNumerics, if_pos shift]
  exact counts.onShift counts' shifted

omit second in
/-- Unary operators on an integral value compute in its promoted width.
Witness: by cases on the width and the operator, each by the reading of its operation on words.
-/
theorem computes_unary {op : UnaryOp} {number : Int} (unbounded : op.unbounded? a = some number)
    : Computes left.width number (scene.unary op left) := by
  obtain ⟨promoted, known, counts⟩ := Numeric.exists_counts first
  generalize left.width = width at counts ⊢
  cases counts with
  | int x =>
      have reads {result : Int32} (reduced : result.toInt = number.bmod (2 ^ 32))
          : Computes .int number (.ok (.int result)) :=
        computes_value reduced
      cases op with
      | neg =>
          obtain rfl := Option.some.inj unbounded
          simpa [unary, known] using reads (Int32.toInt_neg x)
      | plus =>
          obtain rfl := Option.some.inj unbounded
          simpa [unary, known, Numeric.toValue]
            using reads (BitVec.toInt_bmod_cancel x.toBitVec).symm
      | bitNot =>
          obtain rfl := Option.some.inj unbounded
          simpa [unary, known] using reads (Int32.toInt_not x)
      | _ => simp [UnaryOp.unbounded?] at unbounded
  | long x =>
      have reads {result : Int64} (reduced : result.toInt = number.bmod (2 ^ 64))
          : Computes .long number (.ok (.long result)) :=
        computes_value reduced
      cases op with
      | neg =>
          obtain rfl := Option.some.inj unbounded
          simpa [unary, known] using reads (Int64.toInt_neg x)
      | plus =>
          obtain rfl := Option.some.inj unbounded
          simpa [unary, known, Numeric.toValue]
            using reads (BitVec.toInt_bmod_cancel x.toBitVec).symm
      | bitNot =>
          obtain rfl := Option.some.inj unbounded
          simpa [unary, known] using reads (Int64.toInt_not x)
      | _ => simp [UnaryOp.unbounded?] at unbounded

/-- A quotient times the divisor, with the remainder added, is the dividend, promoted.
Witness: each of the four steps computes the integer one, and the dividend is within the range.
-/
theorem division_restores (other : b ≠ 0)
    : ∃ quotient product remainder sum,
        scene.binary .div left right = .ok quotient
        ∧ scene.binary .mul quotient right = .ok product
        ∧ scene.binary .rem left right = .ok remainder
        ∧ scene.binary .add product remainder = .ok sum
        ∧ sum.primitive? = some (left.width.wider right.width).kind
        ∧ sum.integer? = some a := by
  obtain ⟨_, _, counts⟩ := Numeric.exists_counts first
  obtain ⟨_, _, counts'⟩ := Numeric.exists_counts second
  have inRange := (counts.promote counts').bmod_left
  obtain ⟨quotient, divided, q⟩ := (scene.divides_binary first second .div rfl).computes other
  obtain ⟨remainder, reduced, r⟩ := (scene.divides_binary first second .rem rfl).computes other
  obtain ⟨product, multiplied, p⟩ := scene.computes_binary q.integer second .mul rfl
  obtain ⟨sum, added, s⟩ := scene.computes_binary p.integer r.integer .add rfl
  -- All four have the width of the operands, within which the dividend is not reduced.
  have width : product.width.wider remainder.width = left.width.wider right.width := by
    rw [p.width_eq, r.width_eq, q.width_eq, Width.wider_wider, Width.wider_self]
  refine ⟨quotient, product, remainder, sum, divided, multiplied, reduced, added, ?_, ?_⟩
  · rw [s.kind, width]
  · rw [s.integer, width, q.width_eq, Width.wider_wider, Int.bmod_add_bmod, Int.add_bmod_bmod,
      ← Int.bmod_add_bmod, Int.bmod_mul_bmod, Int.bmod_add_bmod, Int.tdiv_mul_add_tmod, inRange]

end Integral

/-- On integral values the operators compute in two's complement: in the width of the wider
operand, or of the left one for shifts and of the operand for unary operators, they give what they
give in the unbounded integers, reduced to the signed range. Divisions fail exactly by zero, nothing
else fails, and comparisons decide the order of the integers.
-/
theorem integers_wrap_at_their_width (scene : Scene) {left right : Value} {a b : Int}
    (first : left.integer? = some a) (second : right.integer? = some b)
    : (∀ op number, BinaryOp.unbounded? op a b = some number
        → Computes (left.width.wider right.width) number (scene.binary op left right))
      ∧ (∀ op number, BinaryOp.divided? op a b = some number
        → Divides (left.width.wider right.width) b number (scene.binary op left right))
      ∧ (b ≠ 0
        → ∃ quotient product remainder sum,
            scene.binary .div left right = .ok quotient
            ∧ scene.binary .mul quotient right = .ok product
            ∧ scene.binary .rem left right = .ok remainder
            ∧ scene.binary .add product remainder = .ok sum
            ∧ sum.primitive? = some (left.width.wider right.width).kind
            ∧ sum.integer? = some a)
      ∧ (∀ op holds, BinaryOp.compared? op a b = some holds
        → scene.binary op left right = .ok (.bool holds))
      ∧ (∀ op number,
          BinaryOp.shifted? op left.width.bits a (left.width.distance b) = some number
          → Computes left.width number (scene.binary op left right))
      ∧ ∀ op number, UnaryOp.unbounded? op a = some number
          → Computes left.width number (scene.unary op left) := by
  refine ⟨
    fun op number => ?_, fun op number => ?_, ?_, fun op holds => ?_, fun op number => ?_,
    fun op number => ?_
  ⟩
  · exact scene.computes_binary first second op
  · exact scene.divides_binary first second op
  · exact scene.division_restores first second
  · exact scene.binary_of_compared first second
  · exact scene.computes_shift first second
  · exact scene.computes_unary first

/-- The lowest `int` divided by minus one is the lowest `int` again, with nothing left over, and a
distance of minus one shifts it by thirty-one.
-/
theorem lowest_int_wraps
    : (Value.int Int32.minValue).integer? = some (-2 ^ 31)
      ∧ (Value.byte (-1)).integer? = some (-1)
      ∧ Computes .int (2 ^ 31)
          ((SampleHost.host.scene {} {}).binary .div (.int Int32.minValue) (.byte (-1)))
      ∧ Computes .int 0
          ((SampleHost.host.scene {} {}).binary .rem (.int Int32.minValue) (.byte (-1)))
      ∧ Computes .int 1
          ((SampleHost.host.scene {} {}).binary .ushr (.int Int32.minValue) (.byte (-1))) := by
  have lowest : (Value.int Int32.minValue).integer? = some (-2 ^ 31) := by decide
  have one : (Value.byte (-1)).integer? = some (-1) := by decide
  obtain ⟨_, divides, _, _, shifts, _⟩ :=
    integers_wrap_at_their_width (SampleHost.host.scene {} {}) lowest one
  refine ⟨lowest, one, ?_, ?_, ?_⟩
  · exact (divides .div (2 ^ 31) (by decide)).computes (by decide)
  · exact (divides .rem 0 (by decide)).computes (by decide)
  · exact shifts .ushr 1 (by decide)

end Scene

end Scratchpad
