import Scratchpad.Number.Shortest

/-! How a floating-point number is laid out as text, once its digits are known: positionally
for moderate exponents and with an exponent otherwise.
-/

namespace Scratchpad

/-- The decisions of a text form. -/
structure NumberLayout where
  /-- The least exponent of a number written positionally. -/
  least : Int
  /-- The exponent from which on numbers are not written positionally. -/
  limit : Int
  /-- What stands between the digits and the exponent. -/
  mark : String
  /-- Whether a single digit before an exponent is still followed by a fraction. -/
  fraction : Bool
  infinity : String

namespace NumberLayout

/-- Zeros of the given count. -/
def zeros (count : Nat) : String := String.ofList (List.replicate count '0')

/-- Digits with a point after the first `whole` of them, padded so that a digit stands on
either side.
-/
def positional (digits : String) (exponent : Int) : String :=
  if exponent < 0 then
    "0." ++ zeros (-exponent - 1).toNat ++ digits
  else
    let whole := exponent.toNat + 1
    if digits.length ≤ whole then
      digits ++ zeros (whole - digits.length) ++ ".0"
    else
      String.ofList (digits.toList.take whole) ++ "." ++ String.ofList (digits.toList.drop whole)

/-- One digit, the others after a point, and the exponent. -/
def scientific (layout : NumberLayout) (digits : String) (exponent : Int) : String :=
  let rest := String.ofList (digits.toList.drop 1)
  let fraction := if rest.isEmpty then (if layout.fraction then ".0" else "") else "." ++ rest
  String.ofList (digits.toList.take 1) ++ fraction ++ layout.mark ++ toString exponent

/-- A decimal, by the exponent of its first digit. -/
def decimal (layout : NumberLayout) (number : Decimal) : String :=
  let digits := toString number.digits
  let exponent := number.exponent + digits.length - 1
  if layout.least ≤ exponent ∧ exponent < layout.limit then positional digits exponent
  else layout.scientific digits exponent

/-- The text of an encoded number. -/
def render (layout : NumberLayout) (format : BinaryFormat) (bits : Nat) : String :=
  let sign (negative : Bool) : String := if negative then "-" else ""
  match format.decode bits with
  | .nan => "NaN"
  | .infinite negative => sign negative ++ layout.infinity
  | .finite negative significand exponent =>
    if significand == 0 then sign negative ++ "0.0"
    else sign negative ++ layout.decimal (format.shortest significand exponent)

end NumberLayout

end Scratchpad
