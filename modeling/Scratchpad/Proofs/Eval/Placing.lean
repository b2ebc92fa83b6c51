import Scratchpad.Proofs.Eval.Simulation

/-! Programs that differ only in where their nodes stand in the text. Mapping the spans of
everything that holds nodes says so as an equation; the likeness that compares spans by what they
are mapped to says it node by node.
-/

namespace Scratchpad

variable {ω ω' : Type} (place : Span → Span)

def Expr.mapSpans (expr : Expr) : Expr := { expr with span := place expr.span }

def Stmt.mapSpans (stmt : Stmt) : Stmt := { stmt with span := place stmt.span }

def Arena.mapSpans (arena : Arena) : Arena :=
  {
    exprs := arena.exprs.map (Expr.mapSpans place)
    stmts := arena.stmts.map (Stmt.mapSpans place)
  }

def Job.mapSpans : Job → Job
  | .eval arena id receiver => .eval (arena.mapSpans place) id receiver
  | .exec arena id => .exec (arena.mapSpans place) id

def Closure.mapSpans (closure : Closure) : Closure :=
  { closure with arena := closure.arena.mapSpans place }

def Heap.mapSpans (heap : Heap) : Heap :=
  { heap with closures := heap.closures.map (Closure.mapSpans place) }

/-- Maps the spans in the arenas that the lambdas of a state carry. -/
def State.mapSpans (state : State ω) : State ω := { state with heap := state.heap.mapSpans place }

/-- Placing every node where it is changes no arena. -/
@[simp]
theorem Arena.mapSpans_id (arena : Arena) : arena.mapSpans id = arena := by
  have exprs : Expr.mapSpans id = id := rfl
  have stmts : Stmt.mapSpans id = id := rfl
  rw [mapSpans, exprs, stmts, Array.map_id, Array.map_id]

/-- Placing every node where it is changes no job. -/
@[simp]
theorem Job.mapSpans_id (job : Job) : job.mapSpans id = job := by
  cases job with
  | eval arena id receiver => rw [mapSpans, Arena.mapSpans_id]
  | exec arena id => rw [mapSpans, Arena.mapSpans_id]

/-- Placing every node where it is changes no heap. -/
@[simp]
theorem Heap.mapSpans_id (heap : Heap) : heap.mapSpans id = heap := by
  have closures : Closure.mapSpans id = id := by
    funext closure
    rw [Closure.mapSpans, Arena.mapSpans_id]
    rfl
  rw [mapSpans, closures, Array.map_id]

/-- Elements compare by what they are mapped to exactly if the mapped arrays are equal. -/
theorem forall₂_toList_iff {α β : Type} {f : α → β} {first second : Array α}
    : List.Forall₂ (fun item item' => f item = f item') first.toList second.toList
      ↔ first.map f = second.map f := by
  rw [← Array.toList_inj, Array.toList_map, Array.toList_map, ← List.forall₂_eq_eq_eq,
    List.forall₂_map_left_iff, List.forall₂_map_right_iff]

/-- Lists that are related item by item by what means equality are equal. -/
theorem forall₂_iff_eq {α : Type} {R : α → α → Prop}
    (each : ∀ item item', R item item' ↔ item = item') {first second : List α}
    : List.Forall₂ R first second ↔ first = second := by
  obtain rfl : R = Eq := funext fun item => funext fun item' => propext (each item item')
  rw [List.forall₂_eq_eq_eq]

/-- Options that are related by equality are equal. -/
theorem rel_iff_eq {α : Type} {first second : Option α}
    : Option.Rel Eq first second ↔ first = second := by
  constructor
  · rintro (same | _)
    · rw [same]
    · rfl
  · rintro rfl
    cases first with
    | none => exact .none
    | some value => exact .some rfl

namespace Likeness

/-- Everything is compared as it is, but spans by what they are mapped to. -/
def exactly : Likeness where
  Names := Eq
  Literals := Eq
  Types := Eq
  Decls := Eq
  Spans := fun span span' => place span = place span'

/-- Exact likeness tells names apart as equality does. -/
theorem faithful_exactly : (exactly place).Faithful where
  eq_iff := fun same same' => by rw [same, same']
  this := rfl
  length := rfl

variable {place}

/-- Exactly alike kinds of expressions are equal, by cases on them. -/
theorem exactly_exprKinds {kind kind' : ExprKind}
    : (exactly place).ExprKinds kind kind' ↔ kind = kind' := by
  constructor
  · intro alike
    cases alike with
    | literal same | ident same | call same | newArray same | newObject same =>
        cases same
        rfl
    | lambda same =>
        rw [(forall₂_iff_eq fun _ _ => .rfl).mp same]
    | _ => rfl
  · rintro rfl
    cases kind with
    | alloc allocation =>
        cases allocation with
        | array component init => exact .newArray rfl
        | object name args => exact .newObject rfl
    | lambda params body => exact .lambda ((forall₂_iff_eq fun _ _ => .rfl).mpr rfl)
    | literal value => exact .literal rfl
    | ident name => exact .ident rfl
    | call name args => exact .call rfl
    | _ => constructor

/-- Exactly alike kinds of statements are equal, by cases on them, with their declarators. -/
theorem exactly_stmtKinds {kind kind' : StmtKind}
    : (exactly place).StmtKinds kind kind' ↔ kind = kind' := by
  have declarators (declarator declarator' : Declarator)
      : (exactly place).Declarators declarator declarator' ↔ declarator = declarator' := by
    obtain ⟨name, init?⟩ := declarator
    obtain ⟨name', init?'⟩ := declarator'
    rw [Declarator.mk.injEq, @eq_comm _ init?]
    exact ⟨fun alike => ⟨alike.name, alike.init?⟩, fun same => ⟨same.1, same.2⟩⟩
  constructor
  · intro alike
    cases alike with
    | forEach named typed =>
        cases named
        cases typed
        rfl
    | varDecl typed declared =>
        cases typed
        rw [(forall₂_iff_eq declarators).mp declared]
    | _ => rfl
  · rintro rfl
    cases kind with
    | forEach var type iterable body => exact .forEach rfl rfl
    | varDecl type declared =>
        exact .varDecl rfl ((forall₂_iff_eq declarators).mpr rfl)
    | _ => constructor

/-- Expressions are exactly alike if they are equal once placed. -/
theorem exactly_exprs {expr expr' : Expr}
    : (exactly place).Exprs expr expr' ↔ expr.mapSpans place = expr'.mapSpans place := by
  obtain ⟨kind, span, decl?, type?⟩ := expr
  obtain ⟨kind', span', decl?', type?'⟩ := expr'
  rw [Expr.mapSpans, Expr.mapSpans, Expr.mk.injEq]
  constructor
  · rintro ⟨kinds, spans, decls, types⟩
    exact ⟨exactly_exprKinds.mp kinds, spans, rel_iff_eq.mp decls, rel_iff_eq.mp types⟩
  · rintro ⟨kinds, spans, decls, types⟩
    exact ⟨exactly_exprKinds.mpr kinds, spans, rel_iff_eq.mpr decls, rel_iff_eq.mpr types⟩

/-- Statements are exactly alike if they are equal once placed. -/
theorem exactly_stmts {stmt stmt' : Stmt}
    : (exactly place).Stmts stmt stmt' ↔ stmt.mapSpans place = stmt'.mapSpans place := by
  obtain ⟨kind, span⟩ := stmt
  obtain ⟨kind', span'⟩ := stmt'
  rw [Stmt.mapSpans, Stmt.mapSpans, Stmt.mk.injEq]
  constructor
  · rintro ⟨kinds, spans⟩
    exact ⟨exactly_stmtKinds.mp kinds, spans⟩
  · rintro ⟨kinds, spans⟩
    exact ⟨exactly_stmtKinds.mpr kinds, spans⟩

/-- Arenas are exactly alike if they are equal once placed, node by node. -/
theorem exactly_arenas {arena arena' : Arena}
    : (exactly place).Arenas arena arena' ↔ arena.mapSpans place = arena'.mapSpans place := by
  rw [Arena.mapSpans, Arena.mapSpans, Arena.mk.injEq, ← forall₂_toList_iff, ← forall₂_toList_iff]
  constructor
  · rintro ⟨exprs, stmts⟩
    exact ⟨exprs.imp fun _ _ => exactly_exprs.mp, stmts.imp fun _ _ => exactly_stmts.mp⟩
  · rintro ⟨exprs, stmts⟩
    exact ⟨exprs.imp fun _ _ => exactly_exprs.mpr, stmts.imp fun _ _ => exactly_stmts.mpr⟩

/-- Jobs are exactly alike if they are equal once placed. -/
theorem exactly_jobs {job job' : Job}
    : (exactly place).Jobs job job' ↔ job.mapSpans place = job'.mapSpans place := by
  constructor
  · intro alike
    cases alike with
    | eval arenas => rw [Job.mapSpans, Job.mapSpans, exactly_arenas.mp arenas]
    | exec arenas => rw [Job.mapSpans, Job.mapSpans, exactly_arenas.mp arenas]
  · intro same
    cases job with
    | eval arena id receiver =>
        cases job' with
        | eval arena' id' receiver' =>
            obtain ⟨arenas, rfl, rfl⟩ := Job.eval.inj same
            exact .eval (exactly_arenas.mpr arenas)
        | exec arena' id' => cases same
    | exec arena id =>
        cases job' with
        | eval arena' id' receiver' => cases same
        | exec arena' id' =>
            obtain ⟨arenas, rfl⟩ := Job.exec.inj same
            exact .exec (exactly_arenas.mpr arenas)

/-- Exactly alike frames are equal, binding by binding. -/
theorem exactly_frames {frame frame' : Frame}
    : (exactly place).Frames frame frame' ↔ frame = frame' := by
  obtain ⟨bindings⟩ := frame
  obtain ⟨bindings'⟩ := frame'
  have pairs (binding binding' : Name × Value)
      : ((exactly place).Names binding.1 binding'.1 ∧ binding'.2 = binding.2)
        ↔ binding = binding' := by
    rw [Prod.ext_iff, @eq_comm _ binding.2]
    rfl
  rw [Frames, forall₂_iff_eq pairs, Frame.mk.injEq]

/-- Exactly alike variables are equal, frame by frame. -/
theorem exactly_vars {vars vars' : Variables}
    : (exactly place).Vars vars vars' ↔ vars = vars' := by
  obtain ⟨active, outer, limit⟩ := vars
  obtain ⟨active', outer', limit'⟩ := vars'
  rw [Variables.mk.injEq]
  have frames (frame frame' : Frame) : (exactly place).Frames frame frame' ↔ frame = frame' :=
    exactly_frames
  constructor
  · rintro ⟨active, outer, limits⟩
    exact ⟨exactly_frames.mp active, (forall₂_iff_eq frames).mp outer, limits.symm⟩
  · rintro ⟨active, outer, limits⟩
    exact ⟨exactly_frames.mpr active, (forall₂_iff_eq frames).mpr outer, limits.symm⟩

/-- Closures are exactly alike if they are equal once placed. -/
theorem exactly_closures {closure closure' : Closure}
    : (exactly place).Closures closure closure'
      ↔ closure.mapSpans place = closure'.mapSpans place := by
  obtain ⟨params, body, arena, captured, this, shape, target⟩ := closure
  obtain ⟨params', body', arena', captured', this', shape', target'⟩ := closure'
  rw [Closure.mapSpans, Closure.mapSpans, Closure.mk.injEq]
  constructor
  · rintro ⟨params, body, arenas, frames, this, shape, target⟩
    exact ⟨(forall₂_iff_eq fun _ _ => .rfl).mp params, body.symm, exactly_arenas.mp arenas,
      exactly_frames.mp frames, this.symm,
      shape.symm, target.symm⟩
  · rintro ⟨params, body, arenas, frames, this, shape, target⟩
    exact ⟨(forall₂_iff_eq fun _ _ => .rfl).mpr params, body.symm, exactly_arenas.mpr arenas,
      exactly_frames.mpr frames, this.symm, shape.symm, target.symm⟩

/-- Heaps are exactly alike if they are equal once placed. -/
theorem exactly_heaps {heap heap' : Heap}
    : (exactly place).Heaps heap heap' ↔ heap.mapSpans place = heap'.mapSpans place := by
  rw [Heap.mapSpans, Heap.mapSpans, Heap.mk.injEq, ← forall₂_toList_iff]
  constructor
  · rintro ⟨arrays, closures⟩
    exact ⟨arrays.symm, closures.imp fun _ _ => exactly_closures.mp⟩
  · rintro ⟨arrays, closures⟩
    exact ⟨arrays.symm, closures.imp fun _ _ => exactly_closures.mpr⟩

/-- Where every span is as it is, so are the lambdas. -/
theorem eq_of_heaps {heap heap' : Heap} (alike : (exactly id).Heaps heap heap')
    : heap' = heap := by
  simpa using (exactly_heaps.mp alike).symm

/-- Exactly alike contexts are equal. -/
theorem exactly_contexts {context context' : Context}
    : (exactly place).Contexts context context' ↔ context = context' := by
  obtain ⟨this, vars, pending, cancelled⟩ := context
  obtain ⟨this', vars', pending', cancelled'⟩ := context'
  rw [Context.mk.injEq]
  constructor
  · rintro ⟨this, vars, pending, cancelled⟩
    exact ⟨this.symm, exactly_vars.mp vars, pending.symm, cancelled.symm⟩
  · rintro ⟨this, vars, pending, cancelled⟩
    exact ⟨this.symm, exactly_vars.mpr vars, pending.symm, cancelled.symm⟩

/-- States are exactly alike if they agree in all but the places in the arenas of lambdas. -/
theorem exactly_states {first : State ω} {second : State ω'}
    : (exactly place).States first second
      ↔ first.context = second.context
        ∧ first.heap.mapSpans place = second.heap.mapSpans place
        ∧ first.printout = second.printout := by
  constructor
  · rintro ⟨contexts, heaps, printouts⟩
    exact ⟨exactly_contexts.mp contexts, exactly_heaps.mp heaps, printouts.symm⟩
  · rintro ⟨contexts, heaps, printouts⟩
    exact ⟨exactly_contexts.mpr contexts, exactly_heaps.mpr heaps, printouts.symm⟩

end Likeness

end Scratchpad
