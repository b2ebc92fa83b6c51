import Mathlib.Data.List.Forall2
import Scratchpad.Heap

/-! Programs that differ only in how they spell names, say types, or place nodes. A likeness tells
which names, literals, types, declarations and spans count as the same; nodes, arenas, frames and
heaps are alike if they have one shape and agree in all of these.
-/

namespace Scratchpad

/-- What counts as the same in two programs. -/
structure Likeness where
  Names : Name → Name → Prop
  Literals : Literal Name → Literal Name → Prop
  Types : ResolvedType Name → ResolvedType Name → Prop
  Decls : Declaration Name → Declaration Name → Prop
  Spans : Span → Span → Prop

/-- Alike lists have alike elements at each index, by induction on them.
Witness: the heads are alike at index zero, and the tails at the index before.
-/
theorem rel_getElem? {α β : Type} {R : α → β → Prop} {first : List α} {second : List β}
    (alike : List.Forall₂ R first second) (index : Nat)
    : Option.Rel R first[index]? second[index]? := by
  induction alike generalizing index with
  | nil => exact .none
  | cons head _ ih =>
      cases index with
      | zero => exact .some head
      | succ index => exact ih index

namespace Likeness

-----------------------------------------------------------------------------------------
-- Nodes
-----------------------------------------------------------------------------------------

inductive ExprKinds (l : Likeness) : ExprKind → ExprKind → Prop
  | literal {value value'} (same : l.Literals value value')
    : l.ExprKinds (.literal value) (.literal value')
  | ident {name name'} (same : l.Names name name') : l.ExprKinds (.ident name) (.ident name')
  | call {name name' args} (same : l.Names name name')
    : l.ExprKinds (.call name args) (.call name' args)
  | binary {op left right} : l.ExprKinds (.binary op left right) (.binary op left right)
  | unary {op operand} : l.ExprKinds (.unary op operand) (.unary op operand)
  | ternary {cond thenExpr elseExpr}
    : l.ExprKinds (.ternary cond thenExpr elseExpr) (.ternary cond thenExpr elseExpr)
  | assign {op target value} : l.ExprKinds (.assign op target value) (.assign op target value)
  | index {array position} : l.ExprKinds (.index array position) (.index array position)
  | chain {segments} : l.ExprKinds (.chain segments) (.chain segments)
  | newArray {component component' init} (same : l.Types component component')
    : l.ExprKinds (.alloc (.array component init)) (.alloc (.array component' init))
  | newObject {name name' args} (same : l.Names name name')
    : l.ExprKinds (.alloc (.object name args)) (.alloc (.object name' args))
  | lambda {params params' body} (same : List.Forall₂ l.Names params params')
    : l.ExprKinds (.lambda params body) (.lambda params' body)
  | typeRef : l.ExprKinds .typeRef .typeRef

structure Exprs (l : Likeness) (first second : Expr) : Prop where
  kind : l.ExprKinds first.kind second.kind
  span : l.Spans first.span second.span
  decl? : Option.Rel l.Decls first.decl? second.decl?
  type? : Option.Rel l.Types first.type? second.type?

structure Declarators (l : Likeness) (first second : Declarator) : Prop where
  name : l.Names first.name second.name
  init? : second.init? = first.init?

inductive StmtKinds (l : Likeness) : StmtKind → StmtKind → Prop
  | block {body} : l.StmtKinds (.block body) (.block body)
  | expr {id} : l.StmtKinds (.expr id) (.expr id)
  | ifElse {cond thenBranch elseBranch?}
    : l.StmtKinds (.ifElse cond thenBranch elseBranch?) (.ifElse cond thenBranch elseBranch?)
  | whileLoop {cond body} : l.StmtKinds (.whileLoop cond body) (.whileLoop cond body)
  | doWhile {body cond} : l.StmtKinds (.doWhile body cond) (.doWhile body cond)
  | forLoop {init cond? update body}
    : l.StmtKinds (.forLoop init cond? update body) (.forLoop init cond? update body)
  | forEach {var var' type type' iterable body} (named : l.Names var var')
    (typed : l.Types type type')
    : l.StmtKinds (.forEach var type iterable body) (.forEach var' type' iterable body)
  | varDecl {type type' declarators declarators'} (typed : l.Types type type')
    (declared : List.Forall₂ l.Declarators declarators declarators')
    : l.StmtKinds (.varDecl type declarators) (.varDecl type' declarators')
  | returns {value?} : l.StmtKinds (.returns value?) (.returns value?)
  | breakLoop : l.StmtKinds .breakLoop .breakLoop
  | synchronized {lock body} : l.StmtKinds (.synchronized lock body) (.synchronized lock body)
  | unsupported {form} : l.StmtKinds (.unsupported form) (.unsupported form)

structure Stmts (l : Likeness) (first second : Stmt) : Prop where
  kind : l.StmtKinds first.kind second.kind
  span : l.Spans first.span second.span

/-- Node by node, so that an index means alike nodes in both arenas. -/
structure Arenas (l : Likeness) (first second : Arena) : Prop where
  exprs : List.Forall₂ l.Exprs first.exprs.toList second.exprs.toList
  stmts : List.Forall₂ l.Stmts first.stmts.toList second.stmts.toList

variable {l : Likeness}

/-- Alike arenas have alike expressions at each id. -/
theorem Arenas.expr? {first second : Arena} (alike : l.Arenas first second) (id : ExprId)
    : Option.Rel l.Exprs (first.expr? id) (second.expr? id) := by
  simpa [Arena.expr?] using rel_getElem? alike.exprs id.index

/-- Alike arenas have alike statements at each id. -/
theorem Arenas.stmt? {first second : Arena} (alike : l.Arenas first second) (id : StmtId)
    : Option.Rel l.Stmts (first.stmt? id) (second.stmt? id) := by
  simpa [Arena.stmt?] using rel_getElem? alike.stmts id.index

/-- Alike arenas have equally many nodes. -/
theorem Arenas.size_eq {first second : Arena} (alike : l.Arenas first second)
    : second.size = first.size := by
  have exprs := alike.exprs.length_eq
  have stmts := alike.stmts.length_eq
  simp only [Array.length_toList] at exprs stmts
  rw [Arena.size, Arena.size, exprs, stmts]

-----------------------------------------------------------------------------------------
-- What a run holds
-----------------------------------------------------------------------------------------

/-- Bindings in one order, of the same names to the same values. -/
def Frames (l : Likeness) (first second : Frame) : Prop :=
  List.Forall₂ (fun binding binding' => l.Names binding.1 binding'.1 ∧ binding'.2 = binding.2)
    first.bindings second.bindings

structure Vars (l : Likeness) (first second : Variables) : Prop where
  active : l.Frames first.active second.active
  outer : List.Forall₂ l.Frames first.outer second.outer
  limit : second.limit = first.limit

structure Closures (l : Likeness) (first second : Closure) : Prop where
  params : List.Forall₂ l.Names first.params second.params
  body : second.body = first.body
  arena : l.Arenas first.arena second.arena
  captured : l.Frames first.captured second.captured
  this : second.this = first.this
  shape : second.shape = first.shape
  target : second.target = first.target

structure Heaps (l : Likeness) (first second : Heap) : Prop where
  arrays : second.arrays = first.arrays
  closures : List.Forall₂ l.Closures first.closures.toList second.closures.toList

/-- Alike heaps have the same arrays. -/
theorem Heaps.array {first second : Heap} (alike : l.Heaps first second) (ref : ArrayRef)
    : second.array ref = first.array ref := by
  rw [Heap.array, Heap.array, alike.arrays]

/-- Alike heaps have alike closures at each reference. -/
theorem Heaps.closure? {first second : Heap} (alike : l.Heaps first second) (ref : LambdaRef)
    : Option.Rel l.Closures (first.closure? ref) (second.closure? ref) := by
  simpa [Heap.closure?] using rel_getElem? alike.closures ref.index

/-- A value can be called in both heaps or in none, because its interface is the same.
Witness: the shape of a closure decides which method calls it, and alike closures share it.
-/
theorem Heaps.callable? {first second : Heap} (alike : l.Heaps first second) (method : String)
    (value : Value)
    : Option.Rel l.Closures (first.callable? method value) (second.callable? method value) := by
  cases value with
  | lambda ref =>
      have known := alike.closure? ref
      simp only [Heap.callable?]
      generalize first.closure? ref = found at known ⊢
      generalize second.closure? ref = found' at known ⊢
      cases known with
      | none => exact .none
      | @some closure closure' same =>
          simp only [Option.filter_some, same.shape]
          split
          · exact .some same
          · exact .none
  | _ => exact .none

/-- Adding alike closures gives the same reference and keeps heaps alike.
Witness: both heaps had equally many closures, so the new ones stand at one place.
-/
theorem Heaps.addClosure {first second : Heap} (alike : l.Heaps first second)
    {closure closure' : Closure} (same : l.Closures closure closure')
    : (second.addClosure closure').1 = (first.addClosure closure).1
      ∧ l.Heaps (first.addClosure closure).2 (second.addClosure closure').2 := by
  have length := alike.closures.length_eq
  simp only [Array.length_toList] at length
  refine ⟨congrArg LambdaRef.mk length.symm, alike.arrays, ?_⟩
  simp only [Heap.addClosure, Array.toList_push]
  exact List.rel_append alike.closures (.cons same .nil)

/-- Arrays may change in both heaps alike. -/
theorem Heaps.of_arrays {first second first' second' : Heap} (alike : l.Heaps first second)
    (arrays : second'.arrays = first'.arrays) (kept : first'.closures = first.closures)
    (kept' : second'.closures = second.closures)
    : l.Heaps first' second' := by
  refine ⟨arrays, ?_⟩
  rw [kept, kept']
  exact alike.closures

/-- Storing an element succeeds in both heaps or in none, and keeps them alike.
Witness: closures are not touched, and the arrays are the same.
-/
theorem Heaps.store? {first second : Heap} (alike : l.Heaps first second) (ref : ArrayRef)
    (index : Int32) (value : Value)
    : Option.Rel l.Heaps (first.store? ref index value) (second.store? ref index value) := by
  simp only [Heap.store?, alike.array, alike.arrays]
  split
  · exact .none
  · exact .some (alike.of_arrays rfl rfl rfl)

-----------------------------------------------------------------------------------------
-- Variables by name
-----------------------------------------------------------------------------------------

/-- Names are told apart in both programs or in none, and the two names that mean something by
themselves mean it in both.
-/
structure Faithful (l : Likeness) : Prop where
  eq_iff : ∀ {name name' other other'}, l.Names name name' → l.Names other other'
    → (name' = other' ↔ name = other)
  this : l.Names .this .this
  length : l.Names .length .length

variable {name name' : Name}

/-- A faithful likeness reads alike names alike, by induction on the bindings: whether two names are
the same is the same question on both sides.
-/
theorem Faithful.get? (faithful : l.Faithful) {first second : Frame}
    (alike : l.Frames first second) (same : l.Names name name')
    : second.get? name' = first.get? name := by
  obtain ⟨bindings⟩ := first
  obtain ⟨bindings'⟩ := second
  simp only [Frames, Frame.get?] at alike ⊢
  induction alike with
  | nil => rfl
  | @cons binding binding' rest rest' head tail ih =>
      obtain ⟨key, value⟩ := binding
      obtain ⟨key', value'⟩ := binding'
      obtain ⟨named, rfl⟩ := head
      have agree : (name' == key') = (name == key) := by
        rw [Bool.eq_iff_iff, beq_iff_eq, beq_iff_eq]
        exact faithful.eq_iff same named
      rw [List.lookup_cons, List.lookup_cons, agree, ih]

/-- A faithful likeness inserts alike, by induction on the bindings. -/
theorem Faithful.insert (faithful : l.Faithful) {first second : Frame}
    (alike : l.Frames first second) (same : l.Names name name') (value : Value)
    : l.Frames (first.insert name value) (second.insert name' value) := by
  obtain ⟨bindings⟩ := first
  obtain ⟨bindings'⟩ := second
  simp only [Frames, Frame.insert] at alike ⊢
  induction alike with
  | nil => exact .cons ⟨same, rfl⟩ .nil
  | @cons binding binding' rest rest' head tail ih =>
      simp only [Bindings.insert, faithful.eq_iff head.1 same]
      split
      · exact .cons ⟨same, rfl⟩ tail
      · exact .cons head ih

/-- A frame holds a name exactly if the alike frame holds the alike one. -/
theorem Faithful.contains (faithful : l.Faithful) {first second : Frame}
    (alike : l.Frames first second) (same : l.Names name name')
    : second.contains name' = first.contains name := by
  rw [Frame.contains, Frame.contains, faithful.get? alike same]

/-- The nearest frame that holds a name is the same, by induction on the frames. -/
theorem Faithful.findSome? (faithful : l.Faithful) {first second : List Frame}
    (alike : List.Forall₂ l.Frames first second) (same : l.Names name name')
    : second.findSome? (·.get? name') = first.findSome? (·.get? name) := by
  induction alike with
  | nil => rfl
  | cons head _ ih => rw [List.findSome?_cons, List.findSome?_cons, faithful.get? head same, ih]

/-- Alike names are looked up alike, frame by frame. -/
theorem Faithful.lookup (faithful : l.Faithful) {first second : Variables}
    (alike : l.Vars first second) (same : l.Names name name')
    : second.lookup name' = first.lookup name :=
  faithful.findSome? (.cons alike.active alike.outer) same

/-- Defining alike names in alike variables keeps these alike. -/
theorem Faithful.define (faithful : l.Faithful) {first second : Variables}
    (alike : l.Vars first second) (same : l.Names name name') (value : Value)
    : l.Vars (first.define name value) (second.define name' value) :=
  ⟨faithful.insert alike.active same value, alike.outer, alike.limit⟩

/-- The nearest frame that holds a name is replaced on both sides or on none.
Witness: by induction on the frames, which hold the name at the same place.
-/
theorem Faithful.replaceNearest (faithful : l.Faithful) {first second : List Frame}
    (alike : List.Forall₂ l.Frames first second) (same : l.Names name name') (value : Value)
    : Option.Rel (List.Forall₂ l.Frames) (Variables.replaceNearest name value first)
        (Variables.replaceNearest name' value second) := by
  induction alike with
  | nil => exact .none
  | @cons frame frame' rest rest' head tail ih =>
      simp only [Variables.replaceNearest, faithful.contains head same]
      split
      · exact .some (.cons (faithful.insert head same value) tail)
      · generalize Variables.replaceNearest name value rest = replaced at ih ⊢
        generalize Variables.replaceNearest name' value rest' = replaced' at ih ⊢
        cases ih with
        | none => exact .none
        | some below => exact .some (.cons head below)

/-- Assigning to alike names keeps variables alike.
Witness: both sides write to the active frame, to the same outer one, or define the name anew.
-/
theorem Faithful.assign (faithful : l.Faithful) {first second : Variables}
    (alike : l.Vars first second) (same : l.Names name name') (value : Value)
    : l.Vars (first.assign name value) (second.assign name' value) := by
  simp only [Variables.assign, faithful.contains alike.active same]
  split
  · exact faithful.define alike same value
  · have replaced := faithful.replaceNearest alike.outer same value
    generalize Variables.replaceNearest name value first.outer = outer at replaced ⊢
    generalize Variables.replaceNearest name' value second.outer = outer' at replaced ⊢
    cases replaced with
    | none => exact faithful.define alike same value
    | some outer => exact ⟨alike.active, outer, alike.limit⟩

/-- A frame is entered on both sides or on none, as the depths and limits agree. -/
theorem Vars.push? {first second : Variables} (alike : l.Vars first second) {frame frame' : Frame}
    (entered : l.Frames frame frame')
    : Option.Rel l.Vars (first.push? frame) (second.push? frame') := by
  simp only [Variables.push?, Variables.depth, alike.outer.length_eq, alike.limit]
  split
  · exact .some ⟨entered, .cons alike.active alike.outer, rfl⟩
  · exact .none

/-- Leaving a frame keeps variables alike, whether one is left or only the root is there. -/
theorem Vars.pop {first second : Variables} (alike : l.Vars first second)
    : l.Vars first.pop second.pop := by
  obtain ⟨active, outer, limit⟩ := first
  obtain ⟨active', outer', limit'⟩ := second
  obtain ⟨same, around, limits⟩ := alike
  cases around with
  | nil => exact ⟨same, .nil, limits⟩
  | cons head tail => exact ⟨head, tail, limits⟩

end Likeness

end Scratchpad
