import Scratchpad.Text.CaseTable

/-! Upper and lower case of characters and texts. -/

namespace Scratchpad

namespace CaseRange

def contains (range : CaseRange) (code : Nat) : Bool :=
  range.first ≤ code && code ≤ range.last && (code - range.first) % range.step == 0

end CaseRange

namespace Case

/-- The counterpart of a character by a table of ranges and a table of exceptions; a character
in neither is its own.
-/
def mapChar (ranges : List CaseRange) (special : List (Nat × List Nat)) (c : Char) : List Char :=
  match special.lookup c.toNat with
  | some codes => codes.map Char.ofNat
  | none =>
    match ranges.find? (·.contains c.toNat) with
    | some range => [Char.ofNat (c.toNat + range.distance).toNat]
    | none => [c]

def upperChar (c : Char) : List Char := mapChar CaseTable.upper CaseTable.upperSpecial c

def lowerChar (c : Char) : List Char := mapChar CaseTable.lower CaseTable.lowerSpecial c

def isUpper (c : Char) : Bool := CaseTable.uppercase.any (·.contains c.toNat)

/-- A text in upper case. -/
def upper (s : String) : String := String.ofList (s.toList.flatMap upperChar)

end Case

/-- A property's name from the rest of its accessor's name: the first character in lower case,
unless the second one is upper case too.
-/
def decapitalize (s : String) : String :=
  match s.toList with
  | [] => ""
  | [first] => String.ofList (Case.lowerChar first)
  | first :: second :: rest =>
    if Case.isUpper second && Case.isUpper first then s
    else String.ofList (Case.lowerChar first ++ second :: rest)

end Scratchpad
