import Mathlib.Logic.Function.Basic
import Scratchpad.Error
import Scratchpad.Proofs.Variables.Levels

/-! The stack of variables as a list of maps that is never empty and never longer than its bound.
Whatever is done to the two, one use after the other, they give the same answers, and the stack
shows the maps of the list. The laws of scoping hold of every stack that is reached in this way.
-/

namespace Scratchpad

-----------------------------------------------------------------------------------------
-- Uses of a stack
-----------------------------------------------------------------------------------------

namespace Variables

/-- One use of a stack. -/
inductive Use where
  | define (name : Name) (value : Value)
  | assign (name : Name) (value : Value)
  | push (frame : Frame)
  | pop
  | reset
  | capture
  | lookup (name : Name)

/-- What comes back from a use, with frames in whatever form. -/
inductive Answer (φ : Type) where
  | done
  | refused (cause : Cause)
  | captured (frame : φ)
  | found (value? : Option Value)

def Answer.map {φ ψ : Type} (f : φ → ψ) : Answer φ → Answer ψ
  | .done => .done
  | .refused cause => .refused cause
  | .captured frame => .captured (f frame)
  | .found value? => .found value?

/-- The answers to one use after the other, and what is left in the end. -/
def performAll {σ φ : Type} (perform : σ → Use → Answer φ × σ) (state : σ)
    : List Use → List (Answer φ) × σ
  | [] => ([], state)
  | use :: rest =>
    let (answer, next) := perform state use
    let (answers, last) := performAll perform next rest
    (answer :: answers, last)

/-- The answer of a stack to one use, and the stack afterwards. -/
def perform (vars : Variables) : Use → Answer Frame × Variables
  | .define name value => (.done, vars.define name value)
  | .assign name value => (.done, vars.assign name value)
  | .push frame =>
    match vars.push? frame with
    | some pushed => (.done, pushed)
    | none => (.refused (.frameLimitExceeded vars.limit), vars)
  | .pop => (.done, vars.pop)
  | .reset => (.done, vars.reset)
  | .capture => (.captured vars.capture, vars)
  | .lookup name => (.found (vars.lookup name), vars)

end Variables

-----------------------------------------------------------------------------------------
-- Bounded lists of maps
-----------------------------------------------------------------------------------------

/-- The bindings of a frame, as a map. -/
abbrev Scope : Type := Name → Option Value

/-- Some maps with the active one in front: at least one, and no more than the bound. -/
structure Scopes (bound : Nat) where
  maps : List Scope
  nonempty : maps ≠ []
  bounded : maps.length ≤ bound

namespace Scopes

open Variables (Use Answer)

variable {bound : Nat}

/-- The root alone, without a binding. -/
def root (room : 0 < bound) : Scopes bound where
  maps := [fun _ => none]
  nonempty := List.cons_ne_nil _ _
  bounded := room

/-- The root under a limit, which always leaves room for it. -/
def under (limit : Nat) : Scopes (max limit 1) := root (Nat.le_max_right limit 1)

/-- A bound leaves room for the root, which is always there. -/
theorem bound_pos (scopes : Scopes bound) : 0 < bound :=
  Nat.lt_of_lt_of_le (List.length_pos_iff.mpr scopes.nonempty) scopes.bounded

/-- Binds a name in the map at a level. -/
def bindAt (scopes : Scopes bound) (level : Nat) (name : Name) (value : Value)
    : Scopes bound where
  maps := scopes.maps.modify level (Function.update · name (some value))
  nonempty := by simpa using scopes.nonempty
  bounded := by simpa using scopes.bounded

/-- The level of the nearest map that binds a name, or of the active one if none does. -/
def nearest (scopes : Scopes bound) (name : Name) : Nat :=
  (scopes.maps.findIdx? fun scope => (scope name).isSome).getD 0

/-- One map more in front, if there is room for it. -/
def push? (scopes : Scopes bound) (scope : Scope) : Option (Scopes bound) :=
  if room : scopes.maps.length < bound then
    some ⟨scope :: scopes.maps, List.cons_ne_nil _ _, room⟩
  else none

/-- All maps but the first; the root alone stays. -/
def pop (scopes : Scopes bound) : Scopes bound where
  maps := if scopes.maps.length = 1 then scopes.maps else scopes.maps.tail
  nonempty := by
    have some := List.length_pos_iff.mpr scopes.nonempty
    split
    · exact scopes.nonempty
    · rw [← List.length_pos_iff, List.length_tail]
      omega
  bounded := by
    have fits := scopes.bounded
    split
    · exact fits
    · rw [List.length_tail]
      omega

/-- The root scope is never left, and any other is. -/
theorem maps_pop (scopes : Scopes bound)
    : scopes.pop.maps = if scopes.maps.length = 1 then scopes.maps else scopes.maps.tail :=
  rfl

/-- The answer of a list of maps to one use, and the list afterwards. -/
def perform (scopes : Scopes bound) : Use → Answer Scope × Scopes bound
  | .define name value => (.done, scopes.bindAt 0 name value)
  | .assign name value => (.done, scopes.bindAt (scopes.nearest name) name value)
  | .push frame =>
    match scopes.push? frame.get? with
    | some pushed => (.done, pushed)
    | none => (.refused (.frameLimitExceeded bound), scopes)
  | .pop => (.done, scopes.pop)
  | .reset => (.done, root scopes.bound_pos)
  | .capture => (.captured (scopes.maps.head scopes.nonempty), scopes)
  | .lookup name => (.found (scopes.maps.findSome? (· name)), scopes)

end Scopes

namespace Variables

variable {bound : Nat} {vars : Variables} {scopes : Scopes bound}

-----------------------------------------------------------------------------------------
-- The stack shows the maps
-----------------------------------------------------------------------------------------

/-- A stack that shows the given maps under their bound. -/
structure Shows (vars : Variables) (scopes : Scopes bound) : Prop where
  limit : vars.limit = bound
  maps : vars.frames.map Frame.get? = scopes.maps

/-- A new stack shows one empty map under its limit. -/
theorem shows_withLimit (limit : Nat) : (withLimit limit).Shows (Scopes.under limit) := ⟨rfl, rfl⟩

/-- A stack is as deep as the maps that it shows. -/
theorem Shows.depth_eq (shows : vars.Shows scopes) : vars.depth = scopes.maps.length := by
  rw [← shows.maps, List.length_map, length_frames]

/-- Binding a name in one frame of a stack binds it in one of the maps.
Witness: level by level; at the level that is changed, inserting in a frame is updating its map.
-/
theorem map_get?_modify (frames : List Frame) (level : Nat) (name : Name) (value : Value)
    : (frames.modify level (·.insert name value)).map Frame.get?
      = (frames.map Frame.get?).modify level (Function.update · name (some value)) := by
  refine List.ext_getElem? fun position => ?_
  rw [List.getElem?_map, List.getElem?_modify, List.getElem?_modify, List.getElem?_map]
  cases frames[position]? with
  | none => rfl
  | some frame =>
      have inserted
          : (frame.insert name value).get? = Function.update frame.get? name (some value) := by
        funext other
        rw [Frame.get?_insert, Function.update_apply]
      by_cases here : level = position
      · simp [here, inserted]
      · simp [here]

/-- Defining a name binds it in the innermost map. -/
theorem Shows.define (shows : vars.Shows scopes) (name : Name) (value : Value)
    : (vars.define name value).Shows (scopes.bindAt 0 name value) where
  limit := shows.limit
  maps := by rw [frames_define, map_get?_modify, shows.maps, Scopes.bindAt]

/-- Assigning to a name binds it in the nearest map that has it.
Witness: the first frame that holds the name is the first map that has it.
-/
theorem Shows.assign (shows : vars.Shows scopes) (name : Name) (value : Value)
    : (vars.assign name value).Shows (scopes.bindAt (scopes.nearest name) name value) where
  limit := (vars.limit_assign name value).trans shows.limit
  maps := by
    have same : vars.holder name = scopes.nearest name := by
      rw [holder, Scopes.nearest, ← shows.maps, List.findIdx?_map]
      rfl
    rw [frames_assign, map_get?_modify, shows.maps, same, Scopes.bindAt]

/-- Leaving a frame leaves a map, if there is one besides the root. -/
theorem Shows.pop (shows : vars.Shows scopes) : vars.pop.Shows scopes.pop where
  limit := vars.limit_pop.trans shows.limit
  maps := by
    have depth := shows.depth_eq
    by_cases alone : vars.depth = 1
    · rw [pop_eq_self alone, shows.maps, Scopes.maps_pop, if_pos (by omega)]
    · have inner : 1 < vars.depth := Nat.lt_of_le_of_ne (Nat.succ_pos _) (Ne.symm alone)
      rw [frames_pop inner, Scopes.maps_pop, if_neg (by omega), ← shows.maps]
      rfl

/-- A frame is entered exactly if the maps leave room for it.
Witness: depth and limit are those of the maps, so that both sides take the same branch.
-/
theorem Shows.push (shows : vars.Shows scopes) (frame : Frame)
    : (vars.perform (.push frame)).1.map Frame.get? = (scopes.perform (.push frame)).1
      ∧ (vars.perform (.push frame)).2.Shows (scopes.perform (.push frame)).2 := by
  have depth := shows.depth_eq
  have limit := shows.limit
  by_cases room : vars.depth < vars.limit
  · have pushed : vars.push? frame = some (vars.pushed frame) := if_pos room
    have pushed' : scopes.push? frame.get? = some ⟨frame.get? :: scopes.maps, _, _⟩ :=
      dif_pos (by omega)
    simp only [Variables.perform, Scopes.perform, pushed, pushed']
    exact ⟨rfl, limit, congrArg _ shows.maps⟩
  · have full : vars.push? frame = none := if_neg room
    have full' : scopes.push? frame.get? = none := dif_neg (by omega)
    simp only [Variables.perform, Scopes.perform, full, full', limit]
    exact ⟨rfl, shows⟩

/-- A look-up goes through the maps from the innermost outward. -/
theorem Shows.lookup (shows : vars.Shows scopes) (name : Name)
    : vars.lookup name = scopes.maps.findSome? (· name) := by
  rw [← shows.maps, List.findSome?_map]
  rfl

/-- What a lambda captures is the innermost map. -/
theorem Shows.capture (shows : vars.Shows scopes)
    : vars.capture.get? = scopes.maps.head scopes.nonempty := by
  simp only [← shows.maps]
  rfl

/-- A stack and the maps that it shows answer one use alike, and then show the same again.
Witness: by cases on the use, each by the law of its operation.
-/
theorem Shows.perform (shows : vars.Shows scopes) (use : Use)
    : (vars.perform use).1.map Frame.get? = (scopes.perform use).1
      ∧ (vars.perform use).2.Shows (scopes.perform use).2 := by
  cases use with
  | define name value => exact ⟨rfl, shows.define name value⟩
  | assign name value => exact ⟨rfl, shows.assign name value⟩
  | push frame => exact shows.push frame
  | pop => exact ⟨rfl, shows.pop⟩
  | reset => exact ⟨rfl, shows.limit, rfl⟩
  | capture => exact ⟨congrArg Answer.captured shows.capture, shows⟩
  | lookup name => exact ⟨congrArg Answer.found (shows.lookup name), shows⟩

/-- However a stack is used, the maps that it shows go along, by induction on the uses.
Witness: the first use leaves a stack that shows the maps again, from which the rest goes on.
-/
theorem Shows.performAll (shows : vars.Shows scopes) (uses : List Use)
    : (Variables.performAll Variables.perform vars uses).1.map (·.map Frame.get?)
        = (Variables.performAll Scopes.perform scopes uses).1
      ∧ (Variables.performAll Variables.perform vars uses).2.Shows
          (Variables.performAll Scopes.perform scopes uses).2 := by
  induction uses generalizing vars scopes with
  | nil => exact ⟨rfl, shows⟩
  | cons use rest ih =>
      obtain ⟨answer, next⟩ := shows.perform use
      obtain ⟨answers, last⟩ := ih next
      exact ⟨congrArg₂ List.cons answer answers, last⟩

-----------------------------------------------------------------------------------------
-- The laws of scoping
-----------------------------------------------------------------------------------------

/-- What holds of a stack with room for so many frames, whatever has been done to it. -/
structure Lawful (vars : Variables) (bound : Nat) : Prop where
  depth_pos : 1 ≤ vars.depth
  depth_le : vars.depth ≤ bound
  /-- A frame is refused exactly if the stack is full. -/
  push?_eq_none_iff : ∀ frame, vars.push? frame = none ↔ vars.depth = bound
  refused
    : ∀ frame, vars.push? frame = none
        → vars.perform (.push frame) = (.refused (.frameLimitExceeded bound), vars)
  /-- Leaving a frame takes along all that was defined in it. -/
  restored
    : ∀ frame pushed (entries : List (Name × Value)), vars.push? frame = some pushed
        → (entries.foldl (fun vars entry => vars.define entry.1 entry.2) pushed).pop = vars
  /-- An assignment writes one binding, at the nearest level that holds the name. -/
  assigned : ∀ name value, WroteOnly name value vars (vars.assign name value)
  lookup_assign
    : ∀ name value other,
        (vars.assign name value).lookup other
        = if other = name then some value else vars.lookup other
  /-- A new binding appears in the active frame alone, and only of a name that no frame held. -/
  new_binding
    : ∀ name value level other, vars.binding? level other = none
        → ((vars.assign name value).binding? level other).isSome
        → level = 0 ∧ other = name ∧ ∀ position, vars.binding? position name = none
  pop_root : vars.depth = 1 → vars.pop = vars

/-- Defining names in a pushed frame only pushes another frame, by induction on what is defined. -/
theorem pop_defined (vars : Variables) (frame : Frame) (entries : List (Name × Value))
    : (entries.foldl (fun vars entry => vars.define entry.1 entry.2) (vars.pushed frame)).pop
      = vars := by
  induction entries generalizing frame with
  | nil => rfl
  | cons entry rest ih => exact ih (frame.insert entry.1 entry.2)

/-- A stack within its bound obeys every law of bounded scopes.
Witness: what each operation does to the binding of a name at a level decides all of them.
-/
theorem lawful_of_bounded (limit : vars.limit = bound) (fits : vars.depth ≤ bound)
    : vars.Lawful bound where
  depth_pos := Nat.succ_pos _
  depth_le := fits
  push?_eq_none_iff := fun frame => by
    rw [push?_eq, limit]
    by_cases room : vars.depth < bound
    · rw [if_pos room]
      exact iff_of_false nofun (Nat.ne_of_lt room)
    · rw [if_neg room]
      exact iff_of_true rfl (Nat.le_antisymm fits (Nat.not_lt.mp room))
  refused := fun frame full => by
    rw [perform, full, limit]
  restored := fun frame pushed entries entered => by
    rw [push?_eq] at entered
    split at entered
    · obtain rfl := Option.some.inj entered
      exact pop_defined vars frame entries
    · cases entered
  assigned := vars.wroteOnly_assign
  lookup_assign := fun name value other => by
    have wrote := vars.wroteOnly_assign name value
    split
    · next same => rw [same, wrote.lookup]
    · next apart => exact wrote.lookup_of_ne apart
  new_binding := fun name value level other => (vars.wroteOnly_assign name value).eq_of_new
  pop_root := pop_eq_self

/-- A stack that shows bounded maps obeys the laws, since it is as deep as they are many. -/
theorem Shows.lawful (shows : vars.Shows scopes) : vars.Lawful bound :=
  lawful_of_bounded shows.limit (by rw [shows.depth_eq]; exact scopes.bounded)

/-- The answers to some uses do not depend on later ones, by induction on the earlier ones. -/
theorem performAll_append {σ φ : Type} (perform : σ → Use → Answer φ × σ) (state : σ)
    (uses later : List Use)
    : performAll perform state (uses ++ later)
      = ((performAll perform state uses).1
          ++ (performAll perform (performAll perform state uses).2 later).1,
        (performAll perform (performAll perform state uses).2 later).2) := by
  induction uses generalizing state with
  | nil => rfl
  | cons use rest ih => simp [performAll, ih]

/-- Each use gives one answer, by induction on the uses. -/
theorem length_performAll {σ φ : Type} (perform : σ → Use → Answer φ × σ) (state : σ)
    (uses : List Use)
    : (performAll perform state uses).1.length = uses.length := by
  induction uses generalizing state with
  | nil => rfl
  | cons use rest ih => exact congrArg Nat.succ (ih _)

/-- A stack refines a bounded, non-empty list of maps. However the two are used, they answer alike
and the stack shows the maps, the laws of scoping hold, and a captured frame is the active frame of
its time, whatever is done later.
-/
theorem stack_refines_bounded_maps (limit : Nat) (uses : List Use)
    : (performAll perform (withLimit limit) uses).1.map (·.map Frame.get?)
        = (performAll Scopes.perform (.under limit) uses).1
      ∧ (performAll perform (withLimit limit) uses).2.Shows
          (performAll Scopes.perform (.under limit) uses).2
      ∧ (performAll perform (withLimit limit) uses).2.Lawful (max limit 1)
      ∧ ∀ later,
          (performAll perform (withLimit limit) (uses ++ .capture :: later)).1[uses.length]?
          = some (.captured (performAll perform (withLimit limit) uses).2.active) := by
  obtain ⟨answers, shows⟩ := (shows_withLimit limit).performAll uses
  refine ⟨answers, shows, shows.lawful, fun later => ?_⟩
  have length := length_performAll perform (withLimit limit) uses
  rw [performAll_append, List.getElem?_append_right (by omega), length, Nat.sub_self]
  rfl

end Variables

end Scratchpad
