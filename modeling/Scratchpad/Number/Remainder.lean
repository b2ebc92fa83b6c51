import Scratchpad.Number.Binary

/-! The floating-point remainder: what is left of the dividend after a whole number of
divisors, rounded toward zero. It carries the sign of the dividend and is always exact.
-/

namespace Scratchpad

namespace BinaryFormat

/-- The remainder of two encodings; `nan` is the encoding to answer where there is none. -/
def remainder (format : BinaryFormat) (nan dividend divisor : Nat) : Nat :=
  match format.decode dividend, format.decode divisor with
  | .finite negative m p, .finite _ n q =>
    if n == 0 then nan
    else
      let common := min p q
      let left := m * Nat.pow 2 (p - common).toNat
      let right := n * Nat.pow 2 (q - common).toNat
      format.encode negative (left % right) common
  | .finite .., .infinite _ => dividend
  | _, _ => nan

end BinaryFormat

/-- The remainder of two doubles. -/
def doubleRemainder (left right : Float) : Float :=
  let bits := BinaryFormat.binary64.remainder (0.0 / 0.0 : Float).toBits.toNat
    left.toBits.toNat right.toBits.toNat
  Float.ofBits bits.toUInt64

/-- The remainder of two floats. -/
def floatRemainder (left right : Float32) : Float32 :=
  let bits := BinaryFormat.binary32.remainder (0.0 / 0.0 : Float32).toBits.toNat
    left.toBits.toNat right.toBits.toNat
  Float32.ofBits bits.toUInt32

end Scratchpad
