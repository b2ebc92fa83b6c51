import Scratchpad.Text.Printable

/-! Quoted text for inspection: the quote itself, backslashes and all that could not be seen are
escaped, everything else stands for itself.
-/

namespace Scratchpad

namespace Quoted

/-- The code point in lower-case hexadecimal digits. -/
def hex (c : Char) : String := String.ofList (Nat.toDigits 16 c.toNat)

/-- A character by its code point alone. -/
def byCode (c : Char) : String := "\\u\x7b" ++ hex c ++ "\x7d"

/-- One character inside quotes of the given kind. What would be drawn as part of the character
before it, or has no shape at all, is written by its code point.
-/
def escape (quote c : Char) : String :=
  if c = '\x00' then "\\0"
  else if c = '\t' then "\\t"
  else if c = '\r' then "\\r"
  else if c = '\n' then "\\n"
  else if c = '\\' ∨ c = quote then "\\" ++ c.toString
  else if Printable.isExtending c then byCode c
  else if Printable.isPrintable c then c.toString
  else byCode c

/-- A text in double quotes. -/
def text (s : String) : String :=
  "\"" ++ String.join (s.toList.map (escape '"')) ++ "\""

/-- A character in single quotes. -/
def char (c : Char) : String := "'" ++ escape '\'' c ++ "'"

example : text "é日本'\"" = "\"é日本'\\\"\"" := by decide +kernel

-- A no-break space, a soft hyphen, an accent, two blanks without width, a private character.
example
    : ['\u00a0', '\u00ad', '\u0301', '\u200b', '\ufeff', '\ue000'].map (escape '"')
      = ["\\u\x7ba0\x7d", "\\u\x7bad\x7d", "\\u\x7b301\x7d", "\\u\x7b200b\x7d",
        "\\u\x7bfeff\x7d", "\\u\x7be000\x7d"] := by
  decide +kernel

end Quoted

end Scratchpad
