/-! Texts and characters counted in 16-bit code units. A character beyond the first 65536 takes
two units; half of such a pair is no character on its own.
-/

namespace Scratchpad

namespace Utf16

/-- How many units a character takes. -/
def width (c : Char) : Nat := if c.toNat < 0x10000 then 1 else 2

/-- How many units a text takes. -/
def length (s : String) : Nat := s.toList.foldl (fun units c => units + width c) 0

/-- What stands for a unit that is no character. -/
def replacement : Char := '\ufffd'

/-- The character that a single unit spells, or the replacement for half of a pair. -/
def toChar (unit : UInt16) : Char :=
  if h : unit.toUInt32.isValidChar then ⟨unit.toUInt32, h⟩ else replacement

/-- The unit of a character, by its low sixteen bits. -/
def ofChar (c : Char) : UInt16 := c.val.toUInt16

end Utf16

end Scratchpad
