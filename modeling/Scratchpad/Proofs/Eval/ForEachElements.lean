import Scratchpad.Proofs.Eval.FrameKeeping
import Scratchpad.Proofs.Eval.LoopCeiling

/-! Which elements a for-each loop over an array sees. It takes them all when it is entered. A loop
over the positions of the array that reads each element when its iteration begins would also see
what earlier iterations wrote, so the two agree as long as no element is overwritten before its
turn, and may differ otherwise.
-/

namespace Scratchpad

variable {ω : Type}

/-- An array keeps its length. A reference from elsewhere reads as an empty array and is none.
Witness: an array with elements is one of the heap, and those keep their size.
-/
theorem State.Framed.size_array {before after : State ω} (framed : before.Framed after)
    {ref : ArrayRef} (filled : (before.heap.array ref).elements ≠ #[])
    : (after.heap.array ref).elements.size = (before.heap.array ref).elements.size := by
  have known : ref.index < before.heap.arrays.size := by
    by_contra unknown
    exact filled (by simp [Heap.array, unknown])
  have found := Array.getElem?_eq_getElem known
  obtain ⟨later, kept, _, size⟩ := framed.arrays ref.index _ found
  simpa [Heap.array, Array.getD_eq_getD_getElem?, kept, found] using size

-----------------------------------------------------------------------------------------
-- Loops over positions
-----------------------------------------------------------------------------------------

namespace Machine

variable (m : Machine ω) (again : Job → Eval ω Value) (arena : Arena)

/-- A pass at a position. Its element is looked up when the pass begins; behind the last one the
loop is over.
-/
def indexedPass (elements : Heap → Array Value) (var : Name) (type : ResolvedType Name)
    (body : StmtId) (index : Nat)
    : Eval ω (Option Nat) := do
  let state ← get
  match (elements state.heap)[index]? with
  | none => pure none
  | some element =>
    let value ← m.coerceToType element type
    Eval.modifyVars (·.define var value)
    bodyThen again arena body (pure (index + 1))

/-- The loop over an array whose elements are read one at a time, each when its iteration begins. -/
def overLiveElements (ref : ArrayRef) (var : Name) (type : ResolvedType Name) (body : StmtId)
    : Eval ω Value :=
  m.loop (m.indexedPass again arena (fun heap => (heap.array ref).elements) var type body) 0

/-- The loop over given elements, whatever the heap is. -/
def overElements (elements : Array Value) (var : Name) (type : ResolvedType Name) (body : StmtId)
    : Eval ω Value :=
  m.loop (m.indexedPass again arena (fun _ => elements) var type body) 0

end Machine

/-- Two passes end alike that carry different things along: both stop, or end their loops, or go on
with related things.
-/
inductive PassesAlike {ι κ : Type} (Related : ι → κ → State ω → Prop)
    : Except Stop (Option ι) × State ω → Except Stop (Option κ) × State ω → Prop
  | stop {stop later} : PassesAlike Related (.error stop, later) (.error stop, later)
  | finish {later} : PassesAlike Related (.ok none, later) (.ok none, later)
  | next {next next' later} (related : Related next next' later)
    : PassesAlike Related (.ok (some next), later) (.ok (some next'), later)

section Loops

variable {ι κ : Type} {pass : ι → Eval ω (Option ι)} {pass' : κ → Eval ω (Option κ)}
  {Related : ι → κ → State ω → Prop} {limit : Nat} {span : Span} {left : Nat} {carried : ι}
  {carried' : κ} {state : State ω}

/-- Loops run alike whose first passes do, if what follows does where there is room for it.
Witness: both passes stop, end the loop or go on alike, and then make the same checks.
-/
theorem PassesAlike.run_loopAt
    (alike : PassesAlike Related ((pass carried).run state) ((pass' carried').run state))
    (rest
      : ∀ {less next next' later}, left = less + 1 → Related next next' later
        → (loopAt limit span pass less next).run later
          = (loopAt limit span pass' less next').run later)
    : (loopAt limit span pass left carried).run state
      = (loopAt limit span pass' left carried').run state := by
  rw [Scratchpad.run_loopAt, Scratchpad.run_loopAt]
  generalize (pass carried).run state = ended at alike
  generalize (pass' carried').run state = ended' at alike
  cases alike with
  | stop => rfl
  | finish => rfl
  | next related =>
      cases left with
      | zero => rfl
      | succ less =>
          dsimp only
          rw [rest rfl related]

/-- Loops run alike whose passes do, by induction on the passes that are left.
Witness: where there is no room left, nothing follows the first passes.
-/
theorem run_loopAt_eq
    (step
      : ∀ {carried carried' state}, Related carried carried' state
        → PassesAlike Related ((pass carried).run state) ((pass' carried').run state))
    (related : Related carried carried' state)
    : (loopAt limit span pass left carried).run state
      = (loopAt limit span pass' left carried').run state := by
  induction left generalizing carried carried' state with
  | zero =>
      refine (step related).run_loopAt fun room _ => ?_
      omega
  | succ left ih =>
      refine (step related).run_loopAt fun room related => ?_
      obtain rfl := Nat.succ.inj room
      exact ih related

end Loops

namespace LoopForm

variable {m : Machine ω} {again : Job → Eval ω Value} {arena : Arena}

/-- Full iterations in a row, and one more. -/
theorem Turns.snoc {form : LoopForm} {count : Nat} {first middle last : form.Carried}
    {state between later : State ω}
    (turns : form.Turns m again arena count first state middle between)
    (turn : form.Turn m again arena middle between last later)
    : form.Turns m again arena (count + 1) first state last later := by
  induction turns with
  | none => exact .next turn .none
  | next head _ ih => exact .next head (ih turn)

/-- No iterations lead nowhere. -/
theorem Turns.eq_of_zero {form : LoopForm} {first last : form.Carried} {state later : State ω}
    (turns : form.Turns m again arena 0 first state last later)
    : last = first ∧ later = state := by
  cases turns
  exact ⟨rfl, rfl⟩

/-- Iterations start with a first one. -/
theorem Turns.exists_of_succ {form : LoopForm} {count : Nat} {first last : form.Carried}
    {state later : State ω} (turns : form.Turns m again arena (count + 1) first state last later)
    : ∃ middle between, form.Turn m again arena first state middle between
        ∧ form.Turns m again arena count middle between last later := by
  cases turns with
  | next turn others => exact ⟨_, _, turn, others⟩

variable {var : Name} {type : ResolvedType Name} {body : StmtId}

/-- Every full iteration of a for-each loop takes one element.
Witness: by induction on the iterations; each leaves the tail of what it was given.
-/
theorem Turns.eq_drop {count : Nat} {elements rest : List Value} {state later : State ω}
    (turns : (forEach var type body).Turns m again arena count elements state rest later)
    : rest = elements.drop count := by
  induction count generalizing elements state with
  | zero => exact turns.eq_of_zero.1
  | succ count ih =>
      obtain ⟨middle, between, ⟨element, _, rfl, _⟩, others⟩ := turns.exists_of_succ
      exact ih others

variable {fuel : Nat}

/-- A full iteration of a for-each loop keeps every array at its length.
Witness: binding the variable touches no array, and the body is a run, which keeps them.
-/
theorem Turn.framed {elements rest : List Value} {state later : State ω}
    (turn : (forEach var type body).Turn m (m.run fuel) arena elements state rest later)
    : state.Framed later := by
  obtain ⟨element, value, _, _, ⟨result, ran⟩, _⟩ := turn
  have bound : state.Framed (state.withVars (state.context.vars.define var value)) :=
    .withVars (.define _ var value)
  have kept := ((Coupling.framed_run m fuel state (.exec arena body)).keeps bound).1
  rwa [ran] at kept

/-- Full iterations of a for-each loop keep every array at its length, by induction on them. -/
theorem Turns.framed {count : Nat} {elements rest : List Value} {state later : State ω}
    (turns : (forEach var type body).Turns m (m.run fuel) arena count elements state rest later)
    : state.Framed later := by
  induction count generalizing elements state with
  | zero =>
      obtain ⟨_, rfl⟩ := turns.eq_of_zero
      exact .refl later
  | succ count ih =>
      obtain ⟨middle, between, turn, others⟩ := turns.exists_of_succ
      exact (Turn.framed turn).trans (ih others)

end LoopForm

-----------------------------------------------------------------------------------------
-- Elements at entry
-----------------------------------------------------------------------------------------

namespace Machine

variable {m : Machine ω} {again : Job → Eval ω Value} {arena : Arena} {var : Name}
  {type : ResolvedType Name} {body : StmtId}

/-- A pass at a position ends like one over a list that starts with its element.
Witness: by whether there is an element; both passes convert it, bind it and run the body.
-/
theorem run_indexedPass {source : Heap → Array Value} {index : Nat} {elements : List Value}
    {state : State ω} (reads : (source state.heap)[index]? = elements.head?)
    : (m.indexedPass again arena source var type body index).run state
      = (((m.forEachPass again arena var type body elements).run state).1.map
            (Option.map fun _ => index + 1),
          ((m.forEachPass again arena var type body elements).run state).2) := by
  unfold indexedPass
  rw [Eval.run_get_bind, reads]
  cases elements with
  | nil => rfl
  | cons element rest =>
      simp only [forEachPass, List.head?_cons, Eval.run_bind]
      rcases (m.coerceToType element type).run state with ⟨stop | value, later⟩
      · rfl
      · simp only [Eval.run_modifyVars, bodyThen, Eval.run_bind]
        rcases (again (.exec arena body)).run _ with ⟨stop | _, last⟩
        · rfl
        · simp only [Eval.run_takeBreak]
          cases last.context.breakPending <;> rfl

/-- A pass that looks up what a for-each loop has next ends like the one of that loop.
Witness: the position counts the iterations that were done, and a pass adds one to both.
-/
theorem indexedPass_alike {source : Heap → Array Value} {all elements : List Value} {index : Nat}
    {entered state : State ω}
    (reached
      : (LoopForm.forEach var type body).Turns m again arena index all entered elements state)
    (reads : (source state.heap)[index]? = elements.head?)
    : PassesAlike
        (fun rest next later =>
          (LoopForm.forEach var type body).Turns m again arena next all entered rest later)
        ((m.forEachPass again arena var type body elements).run state)
        ((m.indexedPass again arena source var type body index).run state) := by
  rw [run_indexedPass reads]
  rcases ran : (m.forEachPass again arena var type body elements).run state
    with ⟨stop | _ | rest, later⟩
  · exact .stop
  · exact .finish
  · exact .next (reached.snoc (LoopForm.turn_iff.mpr ran))

/-- A for-each loop is the loop over positions that looks up what it has next. -/
theorem run_forEach_eq {source : Heap → Array Value} {elements : List Value} {entered : State ω}
    (reads
      : ∀ {index rest later},
          (LoopForm.forEach var type body).Turns m again arena index elements entered rest later
          → (source later.heap)[index]? = rest.head?)
    (span : Span)
    : (Eval.atSpan span (m.loop (m.forEachPass again arena var type body) elements)).run entered
      = (Eval.atSpan span (m.loop (m.indexedPass again arena source var type body) 0)).run
          entered :=
  run_loopAt_eq (fun reached => indexedPass_alike reached (reads reached)) .none

/-- Whenever the iteration of an element begins, the array still holds at its position what it held
when the loop was entered.
-/
def Undisturbed (m : Machine ω) (again : Job → Eval ω Value) (arena : Arena) (ref : ArrayRef)
    (var : Name) (type : ResolvedType Name) (body : StmtId) (entered : State ω)
    : Prop :=
  ∀ index element rest later,
    (LoopForm.forEach var type body).Turns m again arena index
      (entered.heap.array ref).elements.toList entered (element :: rest) later
    → (later.heap.array ref).elements[index]? = some element

/-- Then it holds what the for-each loop has next. The length of an array never changes, so there is
nothing at the position behind the last element.
-/
theorem Undisturbed.reads {fuel : Nat} {ref : ArrayRef} {entered : State ω}
    (undisturbed : m.Undisturbed (m.run fuel) arena ref var type body entered) {index : Nat}
    {rest : List Value} {later : State ω}
    (reached
      : (LoopForm.forEach var type body).Turns m (m.run fuel) arena index
          (entered.heap.array ref).elements.toList entered rest later)
    : (later.heap.array ref).elements[index]? = rest.head? := by
  cases rest with
  | cons element rest => exact undisturbed index element rest later reached
  | nil =>
      have spent : (entered.heap.array ref).elements.size ≤ index := by
        simpa using reached.eq_drop
      refine Array.getElem?_eq_none ?_
      cases index with
      | zero =>
          obtain ⟨_, rfl⟩ := reached.eq_of_zero
          exact spent
      | succ index =>
          obtain ⟨_, _, ⟨element, _, first, _⟩, _⟩ := reached.exists_of_succ
          have filled : (entered.heap.array ref).elements ≠ #[] := by
            intro empty
            simp [empty] at first
          rwa [reached.framed.size_array filled]

/-- A for-each loop over an array goes over the elements that the array has when the loop is
entered, whatever the iterations do to it. If none is overwritten before its turn, these are the
elements as they are when their iterations begin.
-/
theorem forEach_takes_elements_at_entry (m : Machine ω) (fuel : Nat) {arena : Arena} {id : StmtId}
    {stmt : Stmt} (found : arena.stmt? id = some stmt) {var : Name} {type : ResolvedType Name}
    {iterable : ExprId} {body : StmtId} (kind : stmt.kind = .forEach var type iterable body)
    {state entered : State ω} {ref : ArrayRef}
    (evaluated : (m.run fuel (.eval arena iterable none)).run state = (.ok (.array ref), entered))
    : (m.run (fuel + 1) (.exec arena id)).run state
        = (Eval.atSpan stmt.span
            (m.overElements (m.run fuel) arena (entered.heap.array ref).elements var type
              body)).run entered
      ∧ (m.Undisturbed (m.run fuel) arena ref var type body entered
        → (m.run (fuel + 1) (.exec arena id)).run state
          = (Eval.atSpan stmt.span
              (m.overLiveElements (m.run fuel) arena ref var type body)).run entered) := by
  have enters
      : LoopForm.Enters m (m.run fuel) arena stmt.kind state (.forEach var type body)
          (entered.heap.array ref).elements.toList entered := by
    rw [kind]
    exact .forEach evaluated rfl
  have run
      : (m.run (fuel + 1) (.exec arena id)).run state
        = (Eval.atSpan stmt.span
            (m.loop (m.forEachPass (m.run fuel) arena var type body)
              (entered.heap.array ref).elements.toList)).run entered := by
    rw [Machine.run, perform, found]
    exact run_execStmt_of_enters enters
  rw [run]
  refine ⟨run_forEach_eq (fun reached => ?_) stmt.span, fun undisturbed => ?_⟩
  · rw [reached.eq_drop, List.head?_drop, Array.getElem?_toList]
  · exact run_forEach_eq undisturbed.reads stmt.span

/-- The statement `for (int v : items) { items[i] = 5; last = v; }` for a given `i`, at index 3.
-/
def rewriting (index : Int32) : Arena :=
  {
    exprs :=
      #[
        { kind := .ident ⟨3⟩ },
        { kind := .literal (.int index) },
        { kind := .index ⟨0⟩ ⟨1⟩ },
        { kind := .literal (.int 5) },
        { kind := .assign .assign ⟨2⟩ ⟨3⟩ },
        { kind := .ident ⟨5⟩ },
        { kind := .ident ⟨4⟩ },
        { kind := .assign .assign ⟨5⟩ ⟨6⟩ }
      ]
    stmts :=
      #[
        { kind := .expr ⟨4⟩ },
        { kind := .expr ⟨7⟩ },
        { kind := .block [⟨0⟩, ⟨1⟩] },
        { kind := .forEach ⟨4⟩ (.primitive .int) ⟨0⟩ ⟨2⟩ }
      ]
  }

/-- Knows the names `items`, `v` and `last` behind the reserved ones. -/
def reader : Machine SampleHost.World :=
  { names := .filled ["items", "v", "last"], host := SampleHost.host }

/-- The array has 7 and 8 in it. -/
def withLast : State SampleHost.World := withItems [(⟨3⟩, .array ⟨0⟩), (⟨5⟩, .int 0)]

/-- The loop over `items` that reads each element in its turn. -/
def rewritingLive (index : Int32) : Eval SampleHost.World Value :=
  Eval.atSpan .dummy
    (reader.overLiveElements (reader.run 4) (rewriting index) ⟨0⟩ ⟨4⟩ (.primitive .int) ⟨2⟩)

/-- Overwriting the first element disturbs no later iteration, so both loops end with the second.
Witness: the loop is evaluated, and after its first iteration the second element is as it was.
-/
theorem rewriting_behind
    : reader.Undisturbed (reader.run 4) (rewriting 0) ⟨0⟩ ⟨4⟩ (.primitive .int) ⟨2⟩ withLast
      ∧ (reader.run 5 (.exec (rewriting 0) ⟨3⟩)).run withLast = (rewritingLive 0).run withLast
      ∧ ((rewritingLive 0).run withLast).2.context.vars.lookup ⟨5⟩ = some (.int 8) := by
  have undisturbed
      : reader.Undisturbed (reader.run 4) (rewriting 0) ⟨0⟩ ⟨4⟩ (.primitive .int) ⟨2⟩
          withLast := by
    intro index element rest later turns
    match index with
    | 0 =>
        obtain ⟨same, rfl⟩ := turns.eq_of_zero
        cases same
        rfl
    | 1 =>
        obtain ⟨middle, between, turn, none⟩ := turns.exists_of_succ
        obtain ⟨same, rfl⟩ := none.eq_of_zero
        have ran := congrArg Prod.snd (LoopForm.turn_iff.mp turn)
        cases turns.eq_drop
        subst ran
        cbv
    | index + 2 =>
        have same := turns.eq_drop
        simp [withLast, withItems, Heap.array] at same
  have evaluated
      : (reader.run 4 (.eval (rewriting 0) ⟨0⟩ none)).run withLast
        = (.ok (.array ⟨0⟩), withLast) := by
    cbv
  obtain ⟨_, agree⟩ := forEach_takes_elements_at_entry reader 4
    (rfl : (rewriting 0).stmt? ⟨3⟩ = some _) rfl evaluated
  refine ⟨undisturbed, agree undisturbed, ?_⟩
  cbv

/-- Where the second element is overwritten in the first iteration, the loop still ends with the old
one, and the loop that reads each element in its turn with the new one.
-/
theorem rewriting_goes_unseen
    : (reader.run 5 (.exec (rewriting 1) ⟨3⟩)).run withLast ≠ (rewritingLive 1).run withLast
      ∧ ((reader.run 5 (.exec (rewriting 1) ⟨3⟩)).run withLast).2.context.vars.lookup ⟨5⟩
        = some (.int 8)
      ∧ ((rewritingLive 1).run withLast).2.context.vars.lookup ⟨5⟩ = some (.int 5) := by
  have taken
      : ((reader.run 5 (.exec (rewriting 1) ⟨3⟩)).run withLast).2.context.vars.lookup ⟨5⟩
        = some (.int 8) := by
    cbv
  have live : ((rewritingLive 1).run withLast).2.context.vars.lookup ⟨5⟩ = some (.int 5) := by
    cbv
  refine ⟨fun same => ?_, taken, live⟩
  rw [same, live] at taken
  cases taken

end Machine

end Scratchpad
