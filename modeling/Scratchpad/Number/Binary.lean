/-! Binary floating-point encodings. A finite encoding stands for a sign and the exact value
`significand * 2 ^ exponent`; decoding and encoding use natural-number arithmetic only.
-/

namespace Scratchpad

/-- The widths of an interchange format. -/
structure BinaryFormat where
  fractionBits : Nat
  exponentBits : Nat
deriving DecidableEq

/-- What an encoding stands for. -/
inductive BinaryValue where
  | nan
  | infinite (negative : Bool)
  | finite (negative : Bool) (significand : Nat) (exponent : Int)
deriving DecidableEq

namespace BinaryFormat

def binary32 : BinaryFormat := ⟨23, 8⟩

def binary64 : BinaryFormat := ⟨52, 11⟩

/-- The exponent of the subnormal values, below which none goes. -/
def leastExponent (format : BinaryFormat) : Int :=
  2 - Int.ofNat (Nat.pow 2 (format.exponentBits - 1)) - Int.ofNat format.fractionBits

/-- The leading bit that normal values leave out of their encoding. -/
def hiddenBit (format : BinaryFormat) : Nat := Nat.pow 2 format.fractionBits

/-- The bit of the sign. -/
def signBit (format : BinaryFormat) : Nat :=
  Nat.pow 2 (format.fractionBits + format.exponentBits)

/-- How many exponents can be written; the last of them marks infinities and not-a-number. -/
def exponentCount (format : BinaryFormat) : Nat := Nat.pow 2 format.exponentBits

/-- Reads an encoding, given as the number that its bits spell. -/
def decode (format : BinaryFormat) (bits : Nat) : BinaryValue :=
  let fraction := bits % format.hiddenBit
  let biased := bits / format.hiddenBit % format.exponentCount
  let negative := bits / format.signBit % 2 == 1
  if biased + 1 == format.exponentCount then
    if fraction == 0 then .infinite negative else .nan
  else if biased == 0 then
    .finite negative fraction format.leastExponent
  else
    .finite negative (format.hiddenBit + fraction) (format.leastExponent + biased - 1)

/-- Writes a value that the format can hold: its significand has at most one bit more than the
fraction, and its exponent is not below the least one. The significand is shifted up as far as
the format allows.
-/
def encode (format : BinaryFormat) (negative : Bool) (significand : Nat) (exponent : Int) : Nat :=
  let room := format.fractionBits - significand.log2
  let shift := min room (exponent - format.leastExponent).toNat
  let shifted := significand * Nat.pow 2 shift
  let sign := if negative then format.signBit else 0
  if shifted < format.hiddenBit then
    sign + shifted
  else
    let biased := (exponent - shift - format.leastExponent).toNat + 1
    sign + biased * format.hiddenBit + (shifted - format.hiddenBit)

end BinaryFormat

end Scratchpad
