import Scratchpad.Bindings

/-! Names and the table that interns them. Interning a text twice gives the same name, and
three texts are known to every table.
-/

namespace Scratchpad

/-- A name, as an index into the table that interned it. -/
structure Name where
  index : Nat
deriving DecidableEq, Inhabited

namespace Name

/-- The empty text. -/
def empty : Name := ⟨0⟩

/-- The receiver `this`. -/
def this : Name := ⟨1⟩

/-- The pseudo-field `length` of arrays. -/
def length : Name := ⟨2⟩

/-- The texts that every table knows, in index order. -/
def reserved : Array String := #["", "this", "length"]

end Name

/-- A table of texts, which finds an index by its text and a text by its index. A name stands for
the text at its index.
-/
structure Interner where
  indices : List (String × Nat)
  texts : Array String
deriving DecidableEq

namespace Interner

/-- Puts a text behind the others. -/
def push (table : Interner) (text : String) : Interner where
  indices := Bindings.insert text table.texts.size table.indices
  texts := table.texts.push text

/-- A new table holds the reserved texts. -/
def reserving : Interner := Name.reserved.toList.foldl push { indices := [], texts := #[] }

instance : EmptyCollection Interner := ⟨reserving⟩

instance : Inhabited Interner := ⟨{}⟩

/-- The name of a text; a text that is new to the table goes to its end. -/
def intern (table : Interner) (text : String) : Name × Interner :=
  match table.indices.lookup text with
  | some index => (⟨index⟩, table)
  | none => (⟨table.texts.size⟩, table.push text)

/-- The text of a name; a name from elsewhere may be unknown here and reads as empty. -/
def text (table : Interner) (name : Name) : String :=
  table.texts.getD name.index ""

/-- How many texts the table holds, the reserved ones included. -/
def size (table : Interner) : Nat := table.texts.size

/-- The table after some texts have been interned in a new one. -/
def filled (past : List String) : Interner :=
  past.foldl (fun table text => (table.intern text).2) {}

end Interner

end Scratchpad
