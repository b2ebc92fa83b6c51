import Mathlib.Data.Nat.Find
import Scratchpad.Variables

/-! The stack of variables seen frame by frame. A level counts frames from the active one outward;
every operation on the stack is described by what it does to the binding of a name at a level.
-/

namespace Scratchpad

-----------------------------------------------------------------------------------------
-- One frame
-----------------------------------------------------------------------------------------

namespace Frame

/-- Inserting in a frame changes the value of one name. -/
theorem get?_insert (frame : Frame) (name other : Name) (value : Value)
    : (frame.insert name value).get? other
      = if other = name then some value else frame.get? other :=
  Bindings.lookup_insert name other value frame.bindings

end Frame

namespace Variables

-----------------------------------------------------------------------------------------
-- Bindings by level
-----------------------------------------------------------------------------------------

/-- The value that the frame at a level binds a name to. The active frame has level zero. -/
def binding? (vars : Variables) (level : Nat) (name : Name) : Option Value :=
  vars.frames[level]?.bind (·.get? name)

/-- The level that an assignment writes to: of the nearest frame that holds the name, or of the
active one.
-/
def holder (vars : Variables) (name : Name) : Nat :=
  (vars.frames.findIdx? (·.contains name)).getD 0

/-- The stack with one more frame, whatever its limit. -/
def pushed (vars : Variables) (frame : Frame) : Variables :=
  { vars with active := frame, outer := vars.active :: vars.outer }

/-- A frame is entered exactly where the limit leaves room. -/
theorem push?_eq (vars : Variables) (frame : Frame)
    : vars.push? frame = if vars.depth < vars.limit then some (vars.pushed frame) else none :=
  rfl

/-- There are as many frames as the stack is deep. -/
theorem length_frames (vars : Variables) : vars.frames.length = vars.depth := rfl

/-- Beyond its depth a stack binds nothing. -/
theorem binding?_eq_none_of_depth_le {vars : Variables} {level : Nat} (outside : vars.depth ≤ level)
    (name : Name)
    : vars.binding? level name = none := by
  rw [binding?, List.getElem?_eq_none (by rwa [length_frames]), Option.bind_none]

/-- At level zero an entered frame is seen. -/
@[simp]
theorem binding?_pushed_zero (vars : Variables) (frame : Frame) (name : Name)
    : (vars.pushed frame).binding? 0 name = frame.get? name :=
  rfl

/-- Behind an entered frame everything is one level farther out. -/
@[simp]
theorem binding?_pushed_succ (vars : Variables) (frame : Frame) (level : Nat) (name : Name)
    : (vars.pushed frame).binding? (level + 1) name = vars.binding? level name :=
  rfl

/-- Leaving a frame moves every other frame one level in. -/
theorem frames_pop {vars : Variables} (inner : 1 < vars.depth)
    : vars.pop.frames = vars.outer := by
  unfold pop
  split
  · next root => simp [depth, root] at inner
  · next frame rest outer => rw [outer]; rfl

/-- The root alone is not left. -/
theorem pop_eq_self {vars : Variables} (alone : vars.depth = 1) : vars.pop = vars := by
  have none : vars.outer = [] := List.length_eq_zero_iff.mp (Nat.succ.inj alone)
  rw [pop, none]

/-- Leaving a frame brings everything one level nearer. -/
theorem binding?_pop {vars : Variables} (inner : 1 < vars.depth) (level : Nat) (name : Name)
    : vars.pop.binding? level name = vars.binding? (level + 1) name := by
  rw [binding?, frames_pop inner]
  rfl

/-- Leaving a frame takes one off the depth. -/
theorem depth_pop {vars : Variables} (inner : 1 < vars.depth)
    : vars.pop.depth + 1 = vars.depth := by
  rw [← length_frames, frames_pop inner]
  rfl

/-- Above the root, leaving a frame takes the depth to the count before. -/
theorem depth_pop_of_eq {vars : Variables} {count : Nat} (above : vars.depth = count + 1)
    (root : 0 < count)
    : vars.pop.depth = count := by
  have popped := depth_pop (show 1 < vars.depth by omega)
  omega

/-- Leaving a frame keeps the limit. -/
theorem limit_pop (vars : Variables) : vars.pop.limit = vars.limit := by
  unfold pop
  split <;> rfl

/-- A definition changes the active frame. -/
theorem frames_define (vars : Variables) (name : Name) (value : Value)
    : (vars.define name value).frames = vars.frames.modify 0 (·.insert name value) :=
  rfl

/-- A definition is seen at level zero and for its own name alone. -/
theorem binding?_define (vars : Variables) (name other : Name) (value : Value) (level : Nat)
    : (vars.define name value).binding? level other
      = if level = 0 ∧ other = name then some value else vars.binding? level other := by
  cases level with
  | zero =>
      show (vars.active.insert name value).get? other = _
      simp [Frame.get?_insert, binding?, frames]
  | succ level => simp [define, binding?, frames]

-----------------------------------------------------------------------------------------
-- The level that an assignment writes to
-----------------------------------------------------------------------------------------

/-- A level binds a name exactly if there is a frame at it that holds the name. -/
theorem isSome_binding? {vars : Variables} {level : Nat} {name : Name}
    : (vars.binding? level name).isSome
      ↔ ∃ frame, vars.frames[level]? = some frame ∧ frame.contains name := by
  unfold binding? Frame.contains
  cases vars.frames[level]? <;> simp

/-- A level is the one written to if it holds the name and none nearer does.
Witness: it is the first position in the list of frames that passes the test.
-/
theorem holder_eq {vars : Variables} {level : Nat} {name : Name}
    (nearest : ∀ nearer < level, vars.binding? nearer name = none)
    (held : (vars.binding? level name).isSome)
    : vars.holder name = level := by
  obtain ⟨frame, found, contains⟩ := isSome_binding?.mp held
  obtain ⟨bound, found⟩ := List.getElem?_eq_some_iff.mp found
  have first : vars.frames.findIdx? (·.contains name) = some level := by
    refine List.findIdx?_eq_some_iff_getElem.mpr ⟨bound, by rwa [found], ?_⟩
    intro nearer before present
    have absent := nearest nearer before
    have held : (vars.binding? nearer name).isSome :=
      isSome_binding?.mpr ⟨_, List.getElem?_eq_getElem (by omega), present⟩
    simp [absent] at held
  rw [holder, first, Option.getD_some]

/-- A name that no frame holds is written to the active one.
Witness: no position in the list of frames passes the test.
-/
theorem holder_eq_zero {vars : Variables} {name : Name}
    (absent : ∀ level, vars.binding? level name = none)
    : vars.holder name = 0 := by
  have nowhere : vars.frames.findIdx? (·.contains name) = none := by
    refine List.findIdx?_eq_none_iff.mpr fun frame member => ?_
    obtain ⟨level, found⟩ := List.mem_iff_getElem?.mp member
    by_contra present
    have held : (vars.binding? level name).isSome :=
      isSome_binding?.mpr ⟨frame, found, by simpa using present⟩
    simp [absent] at held
  rw [holder, nowhere, Option.getD_none]

/-- Either a name has a nearest level, or no frame holds it.
Witness: if any level holds the name, there is a least one.
-/
theorem nearest_or_absent (vars : Variables) (name : Name)
    : (∃ level, (vars.binding? level name).isSome
        ∧ ∀ nearer < level, vars.binding? nearer name = none)
      ∨ ∀ level, vars.binding? level name = none := by
  by_cases held : ∃ level, (vars.binding? level name).isSome
  · refine Or.inl ⟨Nat.find held, Nat.find_spec held, fun nearer before => ?_⟩
    simpa using Nat.find_min held before
  · refine Or.inr fun level => ?_
    simpa using not_exists.mp held level

/-- A name is written to a level that the stack has.
Witness: a level that holds it is one, and so is level zero.
-/
theorem holder_lt_depth (vars : Variables) (name : Name) : vars.holder name < vars.depth := by
  obtain ⟨level, held, nearest⟩ | absent := vars.nearest_or_absent name
  · rw [holder_eq nearest held]
    by_contra outside
    rw [binding?_eq_none_of_depth_le (by omega)] at held
    simp at held
  · rw [holder_eq_zero absent]
    exact Nat.succ_pos _

/-- Two stacks write a name to the same level if they agree on it as far as it is not hidden.
Witness: the nearest level that holds the name is the same in both, or none holds it in either.
-/
theorem holder_congr {vars other : Variables} {name : Name}
    (agree
      : ∀ level, (∀ nearer < level, vars.binding? nearer name = none)
        → other.binding? level name = vars.binding? level name)
    : other.holder name = vars.holder name := by
  obtain ⟨level, held, nearest⟩ | absent := vars.nearest_or_absent name
  · rw [holder_eq nearest held]
    refine holder_eq (fun nearer before => ?_) ?_
    · rw [agree nearer fun next earlier => nearest next (by omega)]
      exact nearest nearer before
    · rwa [agree level nearest]
  · rw [holder_eq_zero absent]
    refine holder_eq_zero fun level => ?_
    rw [agree level fun nearer _ => absent nearer]
    exact absent level

-----------------------------------------------------------------------------------------
-- Assignment and look-up
-----------------------------------------------------------------------------------------

/-- Writing to the nearest frame of a list changes that frame alone, by induction on the
frames.
-/
theorem replaceNearest_eq (name : Name) (value : Value) (frames : List Frame)
    : replaceNearest name value frames
      = (frames.findIdx? (·.contains name)).map fun level =>
          frames.modify level (·.insert name value) := by
  induction frames with
  | nil => rfl
  | cons frame rest ih =>
      by_cases held : frame.contains name
      · simp [replaceNearest, held, List.findIdx?_cons]
      · simp only [replaceNearest, held, List.findIdx?_cons, ih, Option.map_map,
          Bool.false_eq_true, if_false]
        rfl

/-- An assignment changes one frame, at the level that it writes to.
Witness: by whether the active frame holds the name, and then by the first outer frame that does.
-/
theorem frames_assign (vars : Variables) (name : Name) (value : Value)
    : (vars.assign name value).frames
      = vars.frames.modify (vars.holder name) (·.insert name value) := by
  unfold assign holder frames
  by_cases active : vars.active.contains name
  · simp [active, List.findIdx?_cons, define]
  · simp only [active, Bool.false_eq_true, if_false, List.findIdx?_cons, replaceNearest_eq]
    cases vars.outer.findIdx? (·.contains name) with
    | none => simp [define]
    | some level => simp

/-- An assignment keeps the limit. -/
theorem limit_assign (vars : Variables) (name : Name) (value : Value)
    : (vars.assign name value).limit = vars.limit := by
  unfold assign
  split
  · rfl
  · split <;> rfl

/-- An assignment keeps the depth, as it changes a frame in its place. -/
theorem depth_assign (vars : Variables) (name : Name) (value : Value)
    : (vars.assign name value).depth = vars.depth := by
  rw [← length_frames, frames_assign, List.length_modify, length_frames]

/-- An assignment changes the binding of the name at the level that it writes to, and no
other.
-/
theorem binding?_assign (vars : Variables) (name other : Name) (value : Value) (level : Nat)
    : (vars.assign name value).binding? level other
      = if level = vars.holder name ∧ other = name then some value
        else vars.binding? level other := by
  rw [binding?, frames_assign, List.getElem?_modify]
  by_cases written : vars.holder name = level
  · subst written
    rw [binding?, List.getElem?_eq_getElem (vars.holder_lt_depth name)]
    simp [Frame.get?_insert]
  · simp [written, Ne.symm written, binding?]

/-- A look-up finds what the nearest frame that holds the name binds it to.
Witness: the frames before that one hold nothing of the name and are skipped.
-/
theorem lookup_eq_some {vars : Variables} {name : Name} {level : Nat} {value : Value}
    (nearest : ∀ nearer < level, vars.binding? nearer name = none)
    (held : vars.binding? level name = some value)
    : vars.lookup name = some value := by
  obtain ⟨frame, found, bound⟩ := Option.bind_eq_some_iff.mp held
  obtain ⟨inside, found⟩ := List.getElem?_eq_some_iff.mp found
  refine List.findSome?_eq_some_iff.mpr
    ⟨vars.frames.take level, frame, vars.frames.drop (level + 1), ?_, bound, ?_⟩
  · rw [← found, List.getElem_cons_drop, List.take_append_drop]
  · intro nearer member
    obtain ⟨index, before, rfl⟩ := List.mem_take_iff_getElem.mp member
    have absent := nearest index (by omega)
    rwa [binding?, List.getElem?_eq_getElem (by omega), Option.bind_some] at absent

/-- A look-up finds nothing if no frame holds the name. -/
theorem lookup_eq_none {vars : Variables} {name : Name}
    (absent : ∀ level, vars.binding? level name = none)
    : vars.lookup name = none := by
  refine List.findSome?_eq_none_iff.mpr fun frame member => ?_
  obtain ⟨level, found⟩ := List.mem_iff_getElem?.mp member
  simpa [binding?, found] using absent level

/-- Two stacks look a name up alike if they agree on it as far as it is not hidden.
Witness: both find the value at the nearest level that holds the name, or both find nothing.
-/
theorem lookup_congr {vars other : Variables} {name : Name}
    (agree
      : ∀ level, (∀ nearer < level, vars.binding? nearer name = none)
        → other.binding? level name = vars.binding? level name)
    : other.lookup name = vars.lookup name := by
  obtain ⟨level, held, nearest⟩ | absent := vars.nearest_or_absent name
  · obtain ⟨value, held⟩ := Option.isSome_iff_exists.mp held
    rw [lookup_eq_some nearest held]
    refine lookup_eq_some (fun nearer before => ?_) ((agree level nearest).trans held)
    rw [agree nearer fun next earlier => nearest next (by omega)]
    exact nearest nearer before
  · rw [lookup_eq_none absent]
    refine lookup_eq_none fun level => ?_
    rw [agree level fun nearer _ => absent nearer]
    exact absent level

-----------------------------------------------------------------------------------------
-- What an assignment leaves alone
-----------------------------------------------------------------------------------------

/-- The level at which an assignment to a name takes place: the nearest one that holds the name, or
the active one if none does.
-/
inductive Receives (vars : Variables) (name : Name) : Nat → Prop
  | nearest {level} (held : (vars.binding? level name).isSome)
    (hidden : ∀ nearer < level, vars.binding? nearer name = none)
    : vars.Receives name level
  | active (absent : ∀ level, vars.binding? level name = none) : vars.Receives name 0

/-- The second stack differs from the first in the binding of a name, at the level that receives
it, and in no other.
-/
structure WroteOnly (name : Name) (value : Value) (before after : Variables) : Prop where
  limit : after.limit = before.limit
  depth : after.depth = before.depth
  bindings
    : ∃ level < before.depth, before.Receives name level
        ∧ (∀ other ≠ level, after.frames[other]? = before.frames[other]?)
        ∧ ∀ other, after.binding? level other
            = if other = name then some value else before.binding? level other

/-- The level that a name is written to receives it by one of the two rules. -/
theorem receives_holder (vars : Variables) (name : Name)
    : vars.Receives name (vars.holder name) := by
  rcases vars.nearest_or_absent name with ⟨level, held, hidden⟩ | absent
  · rw [holder_eq hidden held]
    exact .nearest held hidden
  · rw [holder_eq_zero absent]
    exact .active absent

/-- An assignment writes one name at one level and nothing else. -/
theorem wroteOnly_assign (vars : Variables) (name : Name) (value : Value)
    : WroteOnly name value vars (vars.assign name value) where
  limit := vars.limit_assign name value
  depth := vars.depth_assign name value
  bindings := by
    refine ⟨vars.holder name, vars.holder_lt_depth name, vars.receives_holder name, ?_, ?_⟩
    · intro other apart
      simp [frames_assign, apart.symm]
    · intro other
      simp [binding?_assign]

/-- Nearer frames do not hold a name that an assignment looks for farther out. -/
theorem Receives.hidden {vars : Variables} {name : Name} {level nearer : Nat}
    (receives : vars.Receives name level) (before : nearer < level)
    : vars.binding? nearer name = none := by
  cases receives with
  | nearest _ hidden => exact hidden nearer before
  | active absent => exact absent nearer

/-- The name then stands for what was written. -/
theorem WroteOnly.lookup {name : Name} {value : Value} {before after : Variables}
    (wrote : WroteOnly name value before after)
    : after.lookup name = some value := by
  obtain ⟨level, _, receives, others, written⟩ := wrote.bindings
  refine lookup_eq_some (fun nearer closer => ?_) ((written name).trans (if_pos rfl))
  rw [binding?, others nearer (Nat.ne_of_lt closer)]
  exact receives.hidden closer

/-- Every other name stands for what it stood for.
Witness: at the level that was written to, only one name has changed, and it is another.
-/
theorem WroteOnly.lookup_of_ne {name other : Name} {value : Value} {before after : Variables}
    (wrote : WroteOnly name value before after) (apart : other ≠ name)
    : after.lookup other = before.lookup other := by
  obtain ⟨level, _, _, others, written⟩ := wrote.bindings
  refine lookup_congr fun position _ => ?_
  by_cases here : position = level
  · rw [here, written, if_neg apart]
  · rw [binding?, others position here, binding?]

/-- A binding is new only in the active frame, and only where no frame held the name.
Witness: a level that was not written to binds what it bound, so it is the receiving one; that one
held the name before, unless no level did.
-/
theorem WroteOnly.eq_of_new {name other : Name} {value : Value} {before after : Variables}
    {level : Nat} (wrote : WroteOnly name value before after)
    (missing : before.binding? level other = none) (bound : (after.binding? level other).isSome)
    : level = 0 ∧ other = name ∧ ∀ position, before.binding? position name = none := by
  obtain ⟨receiver, _, receives, others, written⟩ := wrote.bindings
  obtain rfl : level = receiver := by
    by_contra elsewhere
    have kept : after.binding? level other = before.binding? level other := by
      rw [binding?, others level elsewhere, binding?]
    simp [kept, missing] at bound
  obtain rfl : other = name := by
    by_contra apart
    simp [written, apart, missing] at bound
  cases receives with
  | nearest held hidden => simp [missing] at held
  | active absent => exact ⟨rfl, rfl, absent⟩

end Variables

end Scratchpad
