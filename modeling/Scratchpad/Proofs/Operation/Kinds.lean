import Scratchpad.Proofs.Operation.Causes

/-! The kinds of computed values. A conversion gives the kind that it was asked for. Of the
operators only `+` gives texts, and arithmetic on anything but numbers gives nothing else. A
compound assignment therefore keeps the kind of what it assigns to, unless `+=` appends a text.
-/

namespace Scratchpad

-----------------------------------------------------------------------------------------
-- Conversions
-----------------------------------------------------------------------------------------

/-- The default value of a kind has that kind. -/
theorem Value.primitive?_zero (type : PrimitiveType) : (zero type).primitive? = some type := by
  cases type <;> rfl

/-- A number converted to a kind has that kind, by cases on it. -/
theorem Numeric.primitive?_convert {number : Numeric} {type : PrimitiveType} {value : Value}
    (converted : number.convert? type = some value)
    : value.primitive? = some type := by
  cases type with
  | boolean => simp [convert?] at converted
  | _ =>
      obtain rfl := Option.some.inj converted
      rfl

namespace Scene

variable {scene : Scene}

/-- A converted value has the kind that it was converted to.
Witness: by the branches of conversion: a truth value, a number, or a failure.
-/
theorem primitive?_coerce {value result : Value} {type : PrimitiveType}
    (coerced : scene.coerce value type = .ok result)
    : result.primitive? = some type := by
  unfold coerce at coerced
  split at coerced
  · obtain rfl := Except.ok.inj coerced
    rfl
  · simp at coerced
  · split at coerced
    · split at coerced
      · next converted =>
        obtain rfl := Except.ok.inj coerced
        exact Numeric.primitive?_convert converted
      · simp at coerced
    · simp at coerced

/-- A value converted to a declared primitive type has that kind. -/
theorem primitive?_coerceToType {ν : Type} {value result : Value} {type : ResolvedType ν}
    {primitive : PrimitiveType} (declared : type.primitive? = some primitive)
    (coerced : scene.coerceToType value type = .ok result)
    : result.primitive? = some primitive := by
  rw [coerceToType, declared] at coerced
  exact primitive?_coerce coerced

end Scene

-----------------------------------------------------------------------------------------
-- Compound assignments
-----------------------------------------------------------------------------------------

/-- A value that is of no numeric kind is no number. -/
theorem Numeric.ofValue?_eq_none {value : Value}
    (other : ∀ kind, value.primitive? = some kind → kind.isNumeric = false)
    : ofValue? value = none := by
  cases value with
  | char | byte | short | int | long | float | double => exact absurd (other _ rfl) (by decide)
  | _ => rfl

/-- Only `+=` adds. -/
theorem AssignOp.binary?_ne_add {op : AssignOp} {operator : BinaryOp}
    (compound : op.binary? = some operator) (other : op ≠ .add)
    : operator ≠ .add := by
  rintro rfl
  cases op with
  | add => exact other rfl
  | _ => simp [binary?] at compound

/-- A value of a primitive kind or, if texts may take its place, a text. -/
def Value.Fits (texts : Bool) (type : PrimitiveType) (value : Value) : Prop :=
  value.primitive? = some type ∨ texts = true ∧ value.isText = true

/-- A value that fits and has a kind has the right one.
Witness: otherwise it is a text, which has no primitive kind at all.
-/
theorem Value.Fits.eq_of_primitive? {texts : Bool} {type kind : PrimitiveType} {value : Value}
    (fits : value.Fits texts type) (known : value.primitive? = some kind)
    : kind = type := by
  rcases fits with primitive | ⟨_, text⟩
  · exact Option.some.inj (known.symm.trans primitive)
  · cases value with
    | str => simp [primitive?] at known
    | _ => simp [isText] at text

namespace Scene

variable {scene : Scene}

/-- Arithmetic on what is not a number gives a text or nothing.
Witness: by cases on the assignment; only `+=` takes anything but numbers, and it concatenates.
-/
theorem isText_binary_of_not_numeric {op : AssignOp} {operator : BinaryOp}
    (compound : op.binary? = some operator) {left right result : Value}
    (other : Numeric.ofValue? left = none)
    (combined : scene.binary operator left right = .ok result)
    : result.isText = true := by
  have nothing (op : BinaryOp) : scene.onNumbers op left right ≠ .ok result := by
    simp [onNumbers, other, invalidOperator]
  cases op with
  | assign => simp [AssignOp.binary?] at compound
  | add =>
      obtain rfl := Option.some.inj compound
      simp only [binary] at combined
      split at combined
      · obtain rfl := Except.ok.inj combined
        rfl
      · exact absurd combined (nothing _)
  | _ =>
      obtain rfl := Option.some.inj compound
      exact absurd combined (nothing _)

/-- A compound assignment keeps the kind of what is there, unless `+=` puts a text in its place.
Witness: what the operator computed is a text, and then `+=` must be admitted, or it is narrowed to
the kind of the current value, which is the kind it should have.
-/
theorem fits_combine {op : AssignOp} {operator : BinaryOp} (compound : op.binary? = some operator)
    {texts : Bool} (admitted : texts = true ∨ op ≠ .add) {type : PrimitiveType}
    {current operand result : Value} (fits : current.Fits texts type)
    (combined : scene.combine operator current operand = .ok result)
    : result.Fits texts type := by
  have placed {value : Value} (computed : scene.binary operator current operand = .ok value)
      (text : value.isText = true)
      : value.Fits texts type := by
    rcases admitted with admitted | other
    · exact .inr ⟨admitted, text⟩
    · have textless := scene.textless_binary (op.binary?_ne_add compound other) current operand
      rw [computed] at textless
      exact absurd text (Bool.eq_false_iff.mp textless)
  unfold combine at combined
  split at combined
  · simp at combined
  · next value computed =>
    split at combined
    · next kind known =>
      split at combined
      · -- A number that is not replaced by a text is narrowed back to its kind.
        obtain rfl : kind = type := fits.eq_of_primitive? known
        exact .inl (primitive?_coerce combined)
      · next kept =>
        obtain rfl := Except.ok.inj combined
        by_cases text : value.isText = true
        · exact placed computed text
        · have other : kind.isNumeric = false := by simpa [text] using kept
          refine placed computed (isText_binary_of_not_numeric compound ?_ computed)
          refine Numeric.ofValue?_eq_none fun same found => ?_
          rwa [← Option.some.inj (known.symm.trans found)]
    · next unknown =>
      obtain rfl := Except.ok.inj combined
      refine placed computed (isText_binary_of_not_numeric compound ?_ computed)
      exact Numeric.ofValue?_eq_none fun kind known => by simp [unknown] at known

end Scene

end Scratchpad
