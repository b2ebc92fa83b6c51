import Scratchpad.Proofs.Operation.Integers

/-! Equality of values. Apart from `void` and the floating-point numbers, every value stands for one
thing, and values of whatever kinds are equal exactly if they stand for the same. So equality is an
equivalence there, which tells numbers apart by the integers that they are.
-/

namespace Scratchpad

/-- What a value stands for when it is compared. -/
inductive Referent where
  | nothing
  | truth (value : Bool)
  | number (value : Int)
  | text (text : String)
  | array (ref : ArrayRef)
  | object (ref : ObjectRef)
  | classNamed (name : String)
  | packageNamed (name : String)
  | lambda (ref : LambdaRef)
deriving DecidableEq

namespace Value

/-- Whether a value is neither `void` nor a floating-point number. -/
def isExact : Value → Bool
  | .void | .float _ | .double _ => false
  | _ => true

/-- What a value stands for; `void` and floating-point numbers stand for nothing in particular. -/
def referent? : Value → Option Referent
  | .null => some .nothing
  | .bool value => some (.truth value)
  | .str text => some (.text text)
  | .array ref => some (.array ref)
  | .object ref => some (.object ref)
  | .classRef name => some (.classNamed name)
  | .package name => some (.packageNamed name)
  | .lambda ref => some (.lambda ref)
  | value => value.integer?.map .number

variable {left right : Value}

/-- Every value without rounding stands for something. -/
theorem exists_referent {value : Value} (exact : value.isExact = true)
    : ∃ referent, value.referent? = some referent := by
  cases value with
  | void | float | double => cases exact
  | _ => exact ⟨_, rfl⟩

/-- Values that stand for integers are equal exactly if these are, at whatever width. -/
theorem equals_integers_iff {a b : Int} (first : left.integer? = some a)
    (second : right.integer? = some b)
    : left.equals right = true ↔ a = b := by
  rw [Scene.equals_integers first second, decide_eq_true_iff]

/-- Where one of two values is no number, nothing is promoted.
Witness: the first branch of equality asks for two numbers, and there is one at most.
-/
theorem equals_of_not_number
    : Numeric.ofValue? left = none ∨ Numeric.ofValue? right = none
      → left.equals right
        = match left, right with
          | .null, .null => true
          | .bool a, .bool b => a == b
          | .str a, .str b => a == b
          | _, _ => left.sameReference right := by
  intro other
  unfold equals
  split
  · next promoted promoted' =>
    rcases other with unknown | unknown
    · simp [unknown] at promoted
    · simp [unknown] at promoted'
  · rfl

/-- Values are equal exactly if they stand for the same.
Witness: by the kinds of both; integers are compared by promotion, and of all other pairs of kinds
none is equal that stands for different things.
-/
theorem equals_iff_referents {a b : Referent} (first : left.referent? = some a)
    (second : right.referent? = some b)
    : left.equals right = true ↔ a = b := by
  cases left with
  | void | float | double => cases first
  | char | byte | short | int | long =>
      obtain rfl := Option.some.inj first
      cases right with
      | void | float | double => cases second
      | char | byte | short | int | long =>
          obtain rfl := Option.some.inj second
          rw [equals_integers_iff rfl rfl, Referent.number.injEq]
      | _ =>
          obtain rfl := Option.some.inj second
          simp [equals_of_not_number, Numeric.ofValue?, sameReference]
  | _ =>
      obtain rfl := Option.some.inj first
      rw [equals_of_not_number (.inl rfl)]
      cases right with
      | void | float | double => cases second
      | _ =>
          obtain rfl := Option.some.inj second
          simp [sameReference]

/-- Exact values are identical only to themselves. -/
theorem eq_of_identical (exact : left.isExact = true) (same : left.identical right = true)
    : left = right := by
  cases left with
  | void | float | double => cases exact
  | _ => cases right <;> simp_all [identical, sameReference]

end Value

/-- A value other than `void` and the floating-point numbers. -/
abbrev ExactValue : Type := { value : Value // value.isExact = true }

namespace ExactValue

/-- Equality of exact values is equality of what they stand for. -/
theorem equals_iff {left right : ExactValue}
    : left.1.equals right.1 = true ↔ left.1.referent? = right.1.referent? := by
  obtain ⟨a, first⟩ := Value.exists_referent left.2
  obtain ⟨b, second⟩ := Value.exists_referent right.2
  rw [Value.equals_iff_referents first second, first, second, Option.some.injEq]

/-- Standing for the same is an equivalence, and so equality is. -/
theorem equals_equivalence
    : Equivalence fun left right : ExactValue => left.1.equals right.1 = true where
  refl := fun _ => equals_iff.mpr rfl
  symm := fun same => equals_iff.mpr (equals_iff.mp same).symm
  trans := fun same same' => equals_iff.mpr ((equals_iff.mp same).trans (equals_iff.mp same'))

end ExactValue

namespace Scene

/-- Equality is an equivalence on all values but `void` and the floating-point numbers, across their
kinds. It compares integral values by the integers that they are, contains identity, and is what
`==` and `!=` decide, which never fail.
-/
theorem equality_is_an_equivalence (scene : Scene)
    : (Equivalence fun left right : ExactValue => left.1.equals right.1 = true)
      ∧ (∀ (left right : Value) (a b : Int), left.integer? = some a → right.integer? = some b
        → (left.equals right = true ↔ a = b))
      ∧ (∀ left right : ExactValue, left.1.identical right.1 = true
        → left.1.equals right.1 = true)
      ∧ ∀ left right : Value,
          scene.binary .eq left right = .ok (.bool (left.equals right))
          ∧ scene.binary .notEq left right = .ok (.bool (!left.equals right)) := by
  refine ⟨ExactValue.equals_equivalence, ?_, ?_, ?_⟩
  · intro left right a b first second
    exact Value.equals_integers_iff first second
  · intro left right same
    rw [← Value.eq_of_identical left.2 same]
    exact ExactValue.equals_equivalence.refl left
  · intro left right
    exact ⟨rfl, rfl⟩

/-- A character beyond the first 65536 and a `byte` are the same number, which a `long` is too.
Witness: the equivalence chains the two equalities that are known.
-/
theorem wide_character_equals_long
    : (Value.char (Char.ofNat 0x10041)).integer? = some 65
      ∧ (Value.byte 65).integer? = some 65
      ∧ (Value.byte 65).equals (.long 65) = true
      ∧ (Value.char (Char.ofNat 0x10041)).equals (.byte 65) = true
      ∧ (Value.char (Char.ofNat 0x10041)).equals (.long 65) = true := by
  have first : (Value.char (Char.ofNat 0x10041)).integer? = some 65 := by decide
  have second : (Value.byte 65).integer? = some 65 := by decide
  have known : (Value.byte 65).equals (.long 65) = true := by decide
  obtain ⟨equivalence, integers, _⟩ := equality_is_an_equivalence (SampleHost.host.scene {} {})
  have same := (integers _ _ 65 65 first second).mpr rfl
  refine ⟨first, second, known, same, ?_⟩
  exact @equivalence.trans ⟨.char (Char.ofNat 0x10041), rfl⟩ ⟨.byte 65, rfl⟩ ⟨.long 65, rfl⟩
    same known

end Scene

end Scratchpad
