import Mathlib.Data.Int.ModEq
import Scratchpad.Proofs.Operation.Integers
import Scratchpad.Proofs.Operation.Kinds

/-! Conversions between the primitive types. Whether a value converts is decided by its kind alone.
An integer keeps its low bits, so converting it in stages gives what converting it at once gives, as
long as no stage is narrower than the last. A unit that is half of a pair is no character and is
replaced.
-/

namespace Scratchpad

-----------------------------------------------------------------------------------------
-- Types of integers
-----------------------------------------------------------------------------------------

/-- The primitive types whose values are integers. Characters count as such. -/
inductive IntegralType where
  | byte
  | short
  | char
  | int
  | long
deriving DecidableEq

namespace IntegralType

def primitive : IntegralType → PrimitiveType
  | .byte => .byte
  | .short => .short
  | .char => .char
  | .int => .int
  | .long => .long

def bits : IntegralType → Nat
  | .byte => 8
  | .short => 16
  | .char => 16
  | .int => 32
  | .long => 64

/-- A value is of one type of integers at most. -/
theorem eq_of_primitive? {value : Value} {type other : IntegralType}
    (kind : value.primitive? = some type.primitive) (own : value.primitive? = some other.primitive)
    : type = other := by
  have same : type.primitive = other.primitive := Option.some.inj (kind.symm.trans own)
  cases type <;> cases other <;> simp [primitive] at same ⊢

/-- The value of a type that keeps the low bits of an integer. -/
def lowBits (number : Int) : IntegralType → Value
  | .byte => .byte (.ofInt number)
  | .short => .short (.ofInt number)
  | .char => .char (Utf16.toChar (.ofInt number))
  | .int => .int (.ofInt number)
  | .long => .long (.ofInt number)

/-- The low bits of an integer, read as a type, have that type. -/
theorem primitive?_lowBits (type : IntegralType) (number : Int)
    : (type.lowBits number).primitive? = some type.primitive := by
  cases type <;> rfl

/-- A signed type reads the low bits as an integer of its range.
Witness: by cases on the type, each by the reading of a word made from an integer.
-/
theorem integer?_lowBits {type : IntegralType} (signed : type ≠ .char) (number : Int)
    : (type.lowBits number).integer? = some (number.bmod (2 ^ type.bits)) := by
  cases type with
  | byte => exact congrArg some Int8.toInt_ofInt
  | short => exact congrArg some Int16.toInt_ofInt
  | char => exact absurd rfl signed
  | int => exact congrArg some Int32.toInt_ofInt
  | long => exact congrArg some Int64.toInt_ofInt

end IntegralType

/-- Integers that agree modulo a power of two are reduced to the same signed integer.
Witness: reducing looks at the remainder only.
-/
theorem bmod_congr {a b : Int} {bits : Nat} (same : a ≡ b [ZMOD 2 ^ bits])
    : a.bmod (2 ^ bits) = b.bmod (2 ^ bits) := by
  have size : ((2 ^ bits : Nat) : Int) = 2 ^ bits := by push_cast; rfl
  rw [← Int.emod_bmod a, size, same, ← size, Int.emod_bmod]

/-- Reducing an integer to a signed range keeps it modulo every smaller one.
Witness: it keeps it modulo the large one, which every smaller power of two divides.
-/
theorem bmod_modEq (number : Int) {narrow wide : Nat} (le : narrow ≤ wide)
    : number.bmod (2 ^ wide) ≡ number [ZMOD 2 ^ narrow] := by
  have size : ((2 ^ wide : Nat) : Int) = 2 ^ wide := by push_cast; rfl
  have same : number.bmod (2 ^ wide) ≡ number [ZMOD 2 ^ wide] := by
    rw [Int.ModEq, ← size]
    exact Int.bmod_emod
  exact same.of_dvd (pow_dvd_pow 2 le)

/-- Only the low bits matter.
Witness: by cases on the type; a signed type reads the reduced integer, a character the remainder.
-/
theorem IntegralType.lowBits_congr {type : IntegralType} {a b : Int}
    (same : a ≡ b [ZMOD 2 ^ type.bits])
    : type.lowBits a = type.lowBits b := by
  have reduced := bmod_congr same
  cases type with
  | byte => exact congrArg Value.byte (Int8.toInt_inj.mp (by simpa [bits] using reduced))
  | short => exact congrArg Value.short (Int16.toInt_inj.mp (by simpa [bits] using reduced))
  | char =>
      exact congrArg (fun low => Value.char (Utf16.toChar (.ofNat (Int.toNat low)))) same
  | int => exact congrArg Value.int (Int32.toInt_inj.mp (by simpa [bits] using reduced))
  | long => exact congrArg Value.long (Int64.toInt_inj.mp (by simpa [bits] using reduced))

-----------------------------------------------------------------------------------------
-- Characters and units
-----------------------------------------------------------------------------------------

namespace Utf16

/-- A unit made from an integer is what is left of it modulo the number of units. -/
theorem toNat_ofInt (number : Int) : (UInt16.ofInt number).toNat = (number % 2 ^ 16).toNat := by
  unfold UInt16.ofInt
  rw [UInt16.toNat_ofNat']
  omega

/-- Whether an integer is half of a pair of units. -/
def IsSurrogate (unit : Int) : Prop := 0xD800 ≤ unit ∧ unit ≤ 0xDFFF

instance (unit : Int) : Decidable (IsSurrogate unit) := inferInstanceAs (Decidable (_ ∧ _))

/-- The character of the low sixteen bits of an integer.
Witness: a unit is a valid character exactly if it is no surrogate.
-/
theorem toChar_ofInt (number : Int)
    : toChar (.ofInt number)
      = if IsSurrogate (number % 2 ^ 16) then '\ufffd' else Char.ofNat (number % 2 ^ 16).toNat := by
  have low := toNat_ofInt number
  have valid
      : (UInt16.ofInt number).toUInt32.isValidChar ↔ ¬ IsSurrogate (number % 2 ^ 16) := by
    unfold UInt32.isValidChar Nat.isValidChar IsSurrogate
    rw [UInt16.toNat_toUInt32, low]
    omega
  unfold toChar
  by_cases half : IsSurrogate (number % 2 ^ 16)
  · rw [dif_neg (fun isChar => valid.mp isChar half), if_pos half]
    rfl
  · rw [dif_pos (valid.mpr half), if_neg half, ← low, ← UInt16.toNat_toUInt32]
    exact (Char.ofNat_toNat _).symm

/-- The unit of a character of one unit spells it.
Witness: a character is never a surrogate, so that its unit is a valid one.
-/
theorem toChar_toNat {c : Char} (one : c.toNat < 2 ^ 16)
    : toChar (.ofInt (c.toNat % 2 ^ 16 : Nat)) = c := by
  have low : ((c.toNat % 2 ^ 16 : Nat) : Int) % 2 ^ 16 = c.toNat := by omega
  have valid : ¬ IsSurrogate c.toNat := by
    have valid := c.valid
    unfold UInt32.isValidChar Nat.isValidChar at valid
    unfold IsSurrogate Char.toNat
    omega
  rw [toChar_ofInt, low, if_neg valid, Int.toNat_natCast, Char.ofNat_toNat]

/-- What a unit spells has one unit.
Witness: a valid unit spells the character of its own number, and any other the replacement.
-/
theorem toNat_toChar_lt (unit : UInt16) : (toChar unit).toNat < 2 ^ 16 := by
  unfold toChar
  split
  · show unit.toUInt32.toNat < 2 ^ 16
    rw [UInt16.toNat_toUInt32]
    exact unit.toNat_lt
  · decide

end Utf16

-----------------------------------------------------------------------------------------
-- Integers
-----------------------------------------------------------------------------------------

namespace Value

/-- A value that counts as an integer has an integral kind, by cases on it. -/
theorem exists_integralType {value : Value} {number : Int}
    (integral : value.integer? = some number)
    : ∃ type : IntegralType, value.primitive? = some type.primitive := by
  cases value with
  | byte => exact ⟨.byte, rfl⟩
  | short => exact ⟨.short, rfl⟩
  | char => exact ⟨.char, rfl⟩
  | int => exact ⟨.int, rfl⟩
  | long => exact ⟨.long, rfl⟩
  | _ => simp [integer?] at integral

/-- A value of a type of integers is made of the low bits of its integer, unless it is a character
of two units.
-/
theorem eq_lowBits {value : Value} {type : IntegralType} {number : Int}
    (kind : value.primitive? = some type.primitive) (integral : value.integer? = some number)
    (one : ∀ c, value = .char c → c.toNat < 2 ^ 16)
    : value = type.lowBits number := by
  cases value with
  | byte value =>
      obtain rfl : type = .byte := IntegralType.eq_of_primitive? kind rfl
      obtain rfl := Option.some.inj integral
      exact congrArg Value.byte (Int8.ofInt_toInt value).symm
  | short value =>
      obtain rfl : type = .short := IntegralType.eq_of_primitive? kind rfl
      obtain rfl := Option.some.inj integral
      exact congrArg Value.short (Int16.ofInt_toInt value).symm
  | char value =>
      obtain rfl : type = .char := IntegralType.eq_of_primitive? kind rfl
      obtain rfl := Option.some.inj integral
      exact congrArg Value.char (Utf16.toChar_toNat (one value rfl)).symm
  | int value =>
      obtain rfl : type = .int := IntegralType.eq_of_primitive? kind rfl
      obtain rfl := Option.some.inj integral
      exact congrArg Value.int (Int32.ofInt_toInt value).symm
  | long value =>
      obtain rfl : type = .long := IntegralType.eq_of_primitive? kind rfl
      obtain rfl := Option.some.inj integral
      exact congrArg Value.long (Int64.ofInt_toInt value).symm
  | _ => simp [integer?] at integral

/-- A value of a type whose integer is in the signed range of the type and congruent to the given
one.
-/
structure Wraps (value : Value) (type : IntegralType) (number : Int) : Prop where
  kind : value.primitive? = some type.primitive
  congruent
    : ∃ low, value.integer? = some low
        ∧ low ≡ number [ZMOD 2 ^ type.bits]
        ∧ -2 ^ (type.bits - 1) ≤ low
        ∧ low < 2 ^ (type.bits - 1)

/-- There is one such value.
Witness: a value of a kind is determined by its low bits, and the low bits by the integer's
remainder.
-/
theorem wraps_iff {value : Value} {type : IntegralType} (signed : type ≠ .char) (number : Int)
    : value.Wraps type number ↔ value = type.lowBits number := by
  constructor
  · intro wraps
    obtain ⟨low, integral, same, _, _⟩ := wraps.congruent
    rw [← IntegralType.lowBits_congr same]
    refine eq_lowBits wraps.kind integral ?_
    intro c isChar
    subst isChar
    exact absurd (IntegralType.eq_of_primitive? wraps.kind rfl) signed
  · intro same
    subst same
    refine ⟨type.primitive?_lowBits number, _, type.integer?_lowBits signed number,
      bmod_modEq number le_rfl, ?_⟩
    have half : ((2 ^ type.bits : Nat) : Int) = 2 * 2 ^ (type.bits - 1) := by
      cases type <;> rfl
    have above := @Int.le_bmod number (2 ^ type.bits) (Nat.two_pow_pos _)
    have below := @Int.bmod_lt number (2 ^ type.bits) (Nat.two_pow_pos _)
    omega

end Value

namespace Numeric

namespace Counts

variable {number : Numeric} {width : Width} {a : Int}

/-- A number read as an `int` keeps its low thirty-two bits. -/
theorem toInt_toInt (counts : number.Counts width a) : number.toInt.toInt = a.bmod (2 ^ 32) := by
  cases counts with
  | int value => exact (BitVec.toInt_bmod_cancel value.toBitVec).symm
  | long value => exact Int64.toInt_toInt32 value

/-- An integer converts to what keeps its low bits.
Witness: narrower types are reached over `int`, which keeps the low bits that they keep.
-/
theorem convert (counts : number.Counts width a) (type : IntegralType)
    : number.convert? type.primitive = some (type.lowBits a) := by
  have low {bits : Nat} (le : bits ≤ 32)
      : number.toInt.toInt.bmod (2 ^ bits) = a.bmod (2 ^ bits) := by
    rw [counts.toInt_toInt]
    exact Int.bmod_bmod_of_dvd (pow_dvd_pow 2 le)
  cases type with
  | byte =>
      have same : Int8.ofInt a = number.toInt.toInt8 := by
        rw [Int8.ofInt_eq_iff_bmod_eq_toInt, Int32.toInt_toInt8, low (by decide)]
      exact congrArg (some ∘ Value.byte) same.symm
  | short =>
      have same : Int16.ofInt a = number.toInt.toInt16 := by
        rw [Int16.ofInt_eq_iff_bmod_eq_toInt, Int32.toInt_toInt16, low (by decide)]
      exact congrArg (some ∘ Value.short) same.symm
  | char =>
      have same : number.toInt.toUInt32.toUInt16 = UInt16.ofInt a := by
        apply UInt16.toNat_inj.mp
        rw [Utf16.toNat_ofInt, ← bmod_modEq a (show 16 ≤ 32 by decide), ← counts.toInt_toInt]
        exact Word.toNat_mod (show 16 ≤ 32 by decide) number.toInt.toBitVec
      exact congrArg (some ∘ Value.char ∘ Utf16.toChar) same
  | int =>
      have same : Int32.ofInt a = number.toInt := by
        rw [Int32.ofInt_eq_iff_bmod_eq_toInt, counts.toInt_toInt]
      exact congrArg (some ∘ Value.int) same.symm
  | long =>
      have same : Int64.ofInt a = number.toLong := by
        rw [← counts.toInt_toLong, Int64.ofInt_toInt]
      exact congrArg (some ∘ Value.long) same.symm

end Counts

/-- The numbers are the primitive values that are no truth values. -/
theorem exists_ofValue?_iff {value : Value}
    : (∃ number, ofValue? value = some number)
      ↔ ∃ kind, value.primitive? = some kind ∧ kind ≠ .boolean := by
  cases value <;> simp [ofValue?, Value.primitive?]

/-- A number converts to every kind but `boolean`. -/
theorem exists_convert?_iff {number : Numeric} {type : PrimitiveType}
    : (∃ result, number.convert? type = some result) ↔ type ≠ .boolean := by
  cases type <;> simp [convert?]

end Numeric

namespace Scene

variable (scene : Scene) {value : Value}

/-- A promoted number that converts is what the conversion of its value gives. -/
theorem coerce_of_convert {number : Numeric} {type : PrimitiveType} {result : Value}
    (promoted : Numeric.ofValue? value = some number)
    (converted : number.convert? type = some result)
    : scene.coerce value type = .ok result := by
  cases type with
  | boolean => simp [Numeric.convert?] at converted
  | _ => simp only [coerce, promoted, converted]

/-- An integral value converts to the low bits of its integer.
Witness: promotion keeps the integer, and conversion of a number its low bits.
-/
theorem coerce_integer {number : Int} (integral : value.integer? = some number)
    (type : IntegralType)
    : scene.coerce value type.primitive = .ok (type.lowBits number) := by
  obtain ⟨promoted, known, counts⟩ := Numeric.exists_counts integral
  exact scene.coerce_of_convert known (counts.convert type)

/-- Converting in stages gives what converting at once gives, if no stage is too narrow. -/
theorem coerce_in_stages {number : Int} (integral : value.integer? = some number)
    {middle last : IntegralType} (signed : middle ≠ .char) (le : last.bits ≤ middle.bits)
    : scene.coerce (middle.lowBits number) last.primitive
      = scene.coerce value last.primitive := by
  rw [scene.coerce_integer (middle.integer?_lowBits signed number), scene.coerce_integer integral,
    IntegralType.lowBits_congr (bmod_modEq number le)]

-----------------------------------------------------------------------------------------
-- All values
-----------------------------------------------------------------------------------------

/-- What converts is a boolean to itself, or a promoted number.
Witness: the branches of conversion are read in one direction and taken in the other.
-/
theorem coerce_eq_ok_iff {type : PrimitiveType} {result : Value}
    : scene.coerce value type = .ok result
      ↔ (type = .boolean ∧ value.bool?.map Value.bool = some result)
        ∨ ∃ number, Numeric.ofValue? value = some number ∧ number.convert? type = some result := by
  constructor
  · intro coerced
    unfold coerce at coerced
    split at coerced
    · exact .inl ⟨rfl, congrArg some (Except.ok.inj coerced)⟩
    · simp at coerced
    · split at coerced
      · next number promoted =>
        split at coerced
        · next converted =>
          exact .inr ⟨number, promoted, converted.trans (congrArg some (Except.ok.inj coerced))⟩
        · simp at coerced
      · simp at coerced
  · intro converts
    rcases converts with ⟨rfl, same⟩ | ⟨number, promoted, converted⟩
    · cases value with
      | bool flag =>
          obtain rfl := Option.some.inj same
          rfl
      | _ => simp [Value.bool?] at same
    · exact scene.coerce_of_convert promoted converted

/-- Booleans convert to booleans alone, and numbers to everything else.
Witness: each way a conversion succeeds shows the kind, and each fitting kind is taken by one way.
-/
theorem exists_coerce_iff {type : PrimitiveType}
    : (∃ result, scene.coerce value type = .ok result)
      ↔ ∃ kind, value.primitive? = some kind ∧ (kind = .boolean ↔ type = .boolean) := by
  constructor
  · intro exists_result
    obtain ⟨result, coerced⟩ := exists_result
    rcases scene.coerce_eq_ok_iff.mp coerced with ⟨rfl, same⟩ | ⟨number, promoted, converted⟩
    · cases value with
      | bool flag => exact ⟨.boolean, rfl, by simp⟩
      | _ => simp [Value.bool?] at same
    · obtain ⟨kind, own, other⟩ := Numeric.exists_ofValue?_iff.mp ⟨number, promoted⟩
      have numeric := Numeric.exists_convert?_iff.mp ⟨result, converted⟩
      exact ⟨kind, own, by simp [other, numeric]⟩
  · intro exists_kind
    obtain ⟨kind, own, same⟩ := exists_kind
    by_cases numeric : type = .boolean
    · cases value with
      | bool flag => exact ⟨.bool flag, scene.coerce_eq_ok_iff.mpr (.inl ⟨numeric, rfl⟩)⟩
      | _ => simp_all [Value.primitive?]
    · obtain ⟨number, promoted⟩ :=
        Numeric.exists_ofValue?_iff.mpr ⟨kind, own, fun other => numeric (same.mp other)⟩
      obtain ⟨result, converted⟩ := Numeric.exists_convert?_iff.mpr numeric
      exact ⟨result, scene.coerce_of_convert promoted converted⟩

/-- A character that a value was converted to has one unit.
Witness: only a number converts to a character, and it does so by one unit.
-/
theorem toNat_lt_of_coerce {type : PrimitiveType} {c : Char}
    (coerced : scene.coerce value type = .ok (.char c))
    : c.toNat < 2 ^ 16 := by
  have kind := primitive?_coerce coerced
  obtain rfl : PrimitiveType.char = type := Option.some.inj kind
  rcases scene.coerce_eq_ok_iff.mp coerced with ⟨other, _⟩ | ⟨number, _, converted⟩
  · cases other
  · cases converted
    exact Utf16.toNat_toChar_lt _

/-- Conversion to the own kind changes nothing, unless it is of a character of two units.
Witness: an integral value is rebuilt from its low bits, and a character of two units loses its high
ones.
-/
theorem coerce_self_iff {kind : PrimitiveType} (own : value.primitive? = some kind)
    : scene.coerce value kind = .ok value ↔ ∀ c, value = .char c → c.toNat ≤ 0xFFFF := by
  constructor
  · intro coerced c isChar
    rw [isChar] at coerced
    exact Nat.le_of_lt_succ (scene.toNat_lt_of_coerce coerced)
  · intro one
    have kept {number : Int} (integral : value.integer? = some number)
        : scene.coerce value kind = .ok value := by
      obtain ⟨type, typed⟩ := Value.exists_integralType integral
      obtain rfl : type.primitive = kind := Option.some.inj (typed.symm.trans own)
      rw [scene.coerce_integer integral]
      exact congrArg Except.ok
        (Value.eq_lowBits own integral fun c isChar => Nat.lt_succ_of_le (one c isChar)).symm
    cases value with
    | bool | float | double =>
        obtain rfl := Option.some.inj own
        rfl
    | byte | short | char | int | long => exact kept rfl
    | _ => simp [Value.primitive?] at own

/-- Converting a converted value again changes nothing. -/
theorem coerce_again {type : PrimitiveType} {result : Value}
    (coerced : scene.coerce value type = .ok result)
    : scene.coerce result type = .ok result := by
  refine (scene.coerce_self_iff (primitive?_coerce coerced)).mpr ?_
  intro c isChar
  rw [isChar] at coerced
  exact Nat.le_of_lt_succ (scene.toNat_lt_of_coerce coerced)

/-- How an integer converts: to the one value of a signed type that is congruent to it, to the
character of its low sixteen bits, and through a wide enough signed type as without it.
-/
structure KeepsLowBits (value : Value) (number : Int) : Prop where
  signed
    : ∀ type ≠ IntegralType.char,
        ∃ result, scene.coerce value type.primitive = .ok result
          ∧ ∀ other : Value, other.Wraps type number ↔ other = result
  character
    : scene.coerce value .char
      = .ok
          (.char
            (if Utf16.IsSurrogate (number % 2 ^ 16) then '\ufffd'
            else Char.ofNat (number % 2 ^ 16).toNat))
  stages
    : ∀ middle ≠ IntegralType.char, ∀ last : IntegralType, last.bits ≤ middle.bits
        → ∃ between, scene.coerce value middle.primitive = .ok between
          ∧ scene.coerce between last.primitive = scene.coerce value last.primitive

/-- Every integral value keeps its low bits in conversion.
Witness: it converts to the low bits of its integer, and there is one value with those.
-/
theorem keepsLowBits {number : Int} (integral : value.integer? = some number)
    : scene.KeepsLowBits value number where
  signed := by
    intro type signed
    exact ⟨_, scene.coerce_integer integral type, fun other => Value.wraps_iff signed number⟩
  character := by
    rw [← Utf16.toChar_ofInt]
    exact scene.coerce_integer integral .char
  stages := by
    intro middle signed last le
    exact ⟨_, scene.coerce_integer integral middle, scene.coerce_in_stages integral signed le⟩

/-- A value converts to a primitive type exactly if both are boolean or both are not. What comes out
has that type and converts to itself. Integers keep their low bits, alone and in stages. The own
kind of a value changes nothing about it, unless it is a character beyond sixteen bits.
-/
theorem conversions_keep_low_bits (scene : Scene) (value : Value)
    : (∀ type, (∃ result, scene.coerce value type = .ok result)
        ↔ ∃ kind, value.primitive? = some kind ∧ (kind = .boolean ↔ type = .boolean))
      ∧ (∀ type result, scene.coerce value type = .ok result
        → result.primitive? = some type ∧ scene.coerce result type = .ok result)
      ∧ (∀ number, value.integer? = some number → scene.KeepsLowBits value number)
      ∧ ∀ kind, value.primitive? = some kind
        → (scene.coerce value kind = .ok value ↔ ∀ c, value = .char c → c.toNat ≤ 0xFFFF) := by
  refine ⟨?_, ?_, ?_, ?_⟩
  · intro type
    exact scene.exists_coerce_iff
  · intro type result coerced
    exact ⟨primitive?_coerce coerced, scene.coerce_again coerced⟩
  · intro number integral
    exact scene.keepsLowBits integral
  · intro kind own
    exact scene.coerce_self_iff own

/-- The two units of a character beyond sixteen bits: its low bits are another character, and half
of the pair is none at all, by way of a `short` as well.
-/
theorem supplementary_keeps_low_bits
    : (SampleHost.host.scene {} {}).coerce (.char '😀') .char = .ok (.char '\uf600')
      ∧ (SampleHost.host.scene {} {}).coerce (.int 0xD83D) .char = .ok (.char '\ufffd')
      ∧ ∃ between,
          (SampleHost.host.scene {} {}).coerce (.int 0xD83D) .short = .ok between
          ∧ (SampleHost.host.scene {} {}).coerce between .char = .ok (.char '\ufffd') := by
  obtain ⟨_, _, whole, _⟩ :=
    conversions_keep_low_bits (SampleHost.host.scene {} {}) (.char '😀')
  obtain ⟨_, _, half, _⟩ :=
    conversions_keep_low_bits (SampleHost.host.scene {} {}) (.int 0xD83D)
  have face := (whole 0xF600 (by decide)).character
  have lead := half 0xD83D (by decide)
  have replaced := lead.character
  obtain ⟨between, first, second⟩ := lead.stages .short (by decide) .char le_rfl
  exact ⟨face.trans rfl, replaced.trans rfl, between, first, second.trans (replaced.trans rfl)⟩

end Scene

end Scratchpad
