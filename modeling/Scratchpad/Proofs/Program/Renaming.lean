import Scratchpad.Proofs.Eval.Simulation

/-! Programs that differ in their names. A relation between names lifts to the literals, types and
declarations that mention them. Where it relates names that read the same, so do these; and what is
alike stays alike when more names are related.
-/

namespace Scratchpad

variable {ν μ κ : Type} {R : ν → μ → Prop} {S : ν → μ → Prop}

-----------------------------------------------------------------------------------------
-- Types and declarations
-----------------------------------------------------------------------------------------

inductive Literal.Rel (R : ν → μ → Prop) : Literal ν → Literal μ → Prop
  | null : Rel R .null .null
  | bool {value} : Rel R (.bool value) (.bool value)
  | int {value} : Rel R (.int value) (.int value)
  | long {value} : Rel R (.long value) (.long value)
  | float {bits} : Rel R (.float bits) (.float bits)
  | double {bits} : Rel R (.double bits) (.double bits)
  | char {value} : Rel R (.char value) (.char value)
  | str {text text'} (same : R text text') : Rel R (.str text) (.str text')

inductive ResolvedType.Rel (R : ν → μ → Prop) : ResolvedType ν → ResolvedType μ → Prop
  | void : Rel R .void .void
  | null : Rel R .null .null
  | primitive {type} : Rel R (.primitive type) (.primitive type)
  | classType {name name'} (same : R name name') : Rel R (.classType name) (.classType name')
  | array {component component'} (same : Rel R component component')
    : Rel R (.array component) (.array component')

structure MethodDecl.Rel (R : ν → μ → Prop) (first : MethodDecl ν) (second : MethodDecl μ)
    : Prop where
  declaring : R first.declaring second.declaring
  name : R first.name second.name
  params : List.Forall₂ (ResolvedType.Rel R) first.params second.params
  returns : first.returns.Rel R second.returns
  isStatic : second.isStatic = first.isStatic

structure ConstructorDecl.Rel (R : ν → μ → Prop) (first : ConstructorDecl ν)
    (second : ConstructorDecl μ)
    : Prop where
  declaring : R first.declaring second.declaring
  params : List.Forall₂ (ResolvedType.Rel R) first.params second.params

structure FieldDecl.Rel (R : ν → μ → Prop) (first : FieldDecl ν) (second : FieldDecl μ)
    : Prop where
  declaring : R first.declaring second.declaring
  name : R first.name second.name
  type : first.type.Rel R second.type
  isStatic : second.isStatic = first.isStatic

structure VariableDecl.Rel (R : ν → μ → Prop) (first : VariableDecl ν)
    (second : VariableDecl μ)
    : Prop where
  name : R first.name second.name
  type : first.type.Rel R second.type

inductive Declaration.Rel (R : ν → μ → Prop) : Declaration ν → Declaration μ → Prop
  | method {decl decl'} (same : MethodDecl.Rel R decl decl')
    : Rel R (.method decl) (.method decl')
  | constructor {decl decl'} (same : ConstructorDecl.Rel R decl decl')
    : Rel R (.constructor decl) (.constructor decl')
  | field {decl decl'} (same : FieldDecl.Rel R decl decl') : Rel R (.field decl) (.field decl')
  | variable {decl decl'} (same : VariableDecl.Rel R decl decl')
    : Rel R (.variable decl) (.variable decl')
  | classDecl {name name'} (same : R name name') : Rel R (.classDecl name) (.classDecl name')
  | package {name name'} (same : R name name') : Rel R (.package name) (.package name')

section Mono

variable (wider : ∀ name name', R name name' → S name name')

include wider

/-- Literals with related names are related by every wider relation. -/
theorem Literal.Rel.mono {value : Literal ν} {value' : Literal μ} (same : value.Rel R value')
    : value.Rel S value' := by
  cases same with
  | str same => exact .str (wider _ _ same)
  | _ => constructor

/-- Types with related names are related by every wider relation, by induction on the nesting of
arrays.
-/
theorem ResolvedType.Rel.mono {type : ResolvedType ν} {type' : ResolvedType μ}
    (same : type.Rel R type')
    : type.Rel S type' := by
  induction same with
  | classType same => exact .classType (wider _ _ same)
  | array _ ih => exact .array ih
  | _ => constructor

/-- Declarations with related names are related by every wider relation, name by name. -/
theorem Declaration.Rel.mono {decl : Declaration ν} {decl' : Declaration μ}
    (same : decl.Rel R decl')
    : decl.Rel S decl' := by
  cases same with
  | method same =>
      exact .method
        {
          declaring := wider _ _ same.declaring
          name := wider _ _ same.name
          params := same.params.imp fun _ _ => ResolvedType.Rel.mono wider
          returns := same.returns.mono wider
          isStatic := same.isStatic
        }
  | constructor same =>
      exact .constructor
        ⟨wider _ _ same.declaring, same.params.imp fun _ _ => ResolvedType.Rel.mono wider⟩
  | field same =>
      exact .field
        ⟨wider _ _ same.declaring, wider _ _ same.name, same.type.mono wider, same.isStatic⟩
  | «variable» same => exact .variable ⟨wider _ _ same.name, same.type.mono wider⟩
  | classDecl same => exact .classDecl (wider _ _ same)
  | package same => exact .package (wider _ _ same)

end Mono

section Read

variable {read : ν → κ} {read' : μ → κ}
  (reads : ∀ name name', R name name' → read' name' = read name)

include reads

/-- Types with related names read alike, if related names do.
Witness: by induction on the nesting of arrays.
-/
theorem ResolvedType.Rel.map_eq {type : ResolvedType ν} {type' : ResolvedType μ}
    (same : type.Rel R type')
    : type'.map read' = type.map read := by
  induction same with
  | classType same => exact congrArg ResolvedType.classType (reads _ _ same)
  | array _ ih => exact congrArg ResolvedType.array ih
  | _ => rfl

/-- Lists of types with related names read alike, by induction on them. -/
theorem ResolvedType.Rel.maps_eq {types : List (ResolvedType ν)}
    {types' : List (ResolvedType μ)} (same : List.Forall₂ (ResolvedType.Rel R) types types')
    : types'.map (·.map read') = types.map (·.map read) := by
  induction same with
  | nil => rfl
  | cons head _ ih => rw [List.map_cons, List.map_cons, head.map_eq reads, ih]

/-- Methods with related names read alike in everything that the host is told. -/
theorem MethodDecl.Rel.map_eq {decl : MethodDecl ν} {decl' : MethodDecl μ}
    (same : decl.Rel R decl')
    : decl'.map read' = decl.map read := by
  simp only [map, reads _ _ same.declaring, reads _ _ same.name,
    ResolvedType.Rel.maps_eq reads same.params, same.returns.map_eq reads, same.isStatic]

/-- Constructors with related names read alike in everything that the host is told. -/
theorem ConstructorDecl.Rel.map_eq {decl : ConstructorDecl ν} {decl' : ConstructorDecl μ}
    (same : decl.Rel R decl')
    : decl'.map read' = decl.map read := by
  simp only [map, reads _ _ same.declaring, ResolvedType.Rel.maps_eq reads same.params]

end Read

/-- Declarations with related names read alike.
Witness: by cases on the declaration, each of whose names reads alike.
-/
theorem Declaration.Rel.readsAlike {R : Name → Name → Prop} {read read' : Name → String}
    (reads : ∀ name name', R name name' → read' name' = read name)
    {decl decl' : Declaration Name} (same : decl.Rel R decl')
    : Correspondence.ReadsAlike read read' decl decl' := by
  cases same with
  | method same => exact .method (same.map_eq reads)
  | constructor same => exact .constructor (same.map_eq reads)
  | field same => exact .field (reads _ _ same.declaring) same.isStatic
  | «variable» same => exact .variable
  | classDecl same => exact .classDecl (reads _ _ same)
  | package same => exact .package (reads _ _ same)

-----------------------------------------------------------------------------------------
-- Likenesses by names
-----------------------------------------------------------------------------------------

namespace Likeness

/-- Programs that are the same but for their names, which are related. -/
def upTo (R : Name → Name → Prop) : Likeness where
  Names := R
  Literals := Literal.Rel R
  Types := ResolvedType.Rel R
  Decls := Declaration.Rel R
  Spans := fun span span' => span' = span

/-- Whatever is alike by the one is alike by the other. -/
structure Le (l k : Likeness) : Prop where
  names : ∀ name name', l.Names name name' → k.Names name name'
  literals : ∀ value value', l.Literals value value' → k.Literals value value'
  types : ∀ type type', l.Types type type' → k.Types type type'
  decls : ∀ decl decl', l.Decls decl decl' → k.Decls decl decl'
  spans : ∀ span span', l.Spans span span' → k.Spans span span'

/-- Likeness up to a relation of names grows with that relation. -/
theorem upTo_le {R S : Name → Name → Prop} (wider : ∀ name name', R name name' → S name name')
    : (upTo R).Le (upTo S) where
  names := wider
  literals := fun _ _ same => same.mono wider
  types := fun _ _ same => same.mono wider
  decls := fun _ _ same => same.mono wider
  spans := fun _ _ same => same

/-- What an option holds is related by every wider relation. -/
theorem rel_imp {α β : Type} {R S : α → β → Prop}
    (wider : ∀ item item', R item item' → S item item') {first : Option α} {second : Option β}
    (alike : Option.Rel R first second)
    : Option.Rel S first second := by
  cases alike with
  | none => exact .none
  | some same => exact .some (wider _ _ same)

namespace Le

variable {l k : Likeness} (wider : l.Le k)

include wider

/-- Alike kinds of expressions are alike for every wider likeness, by cases on the kind. -/
theorem exprKinds {kind kind' : ExprKind} (alike : l.ExprKinds kind kind')
    : k.ExprKinds kind kind' := by
  cases alike with
  | literal same => exact .literal (wider.literals _ _ same)
  | ident same => exact .ident (wider.names _ _ same)
  | call same => exact .call (wider.names _ _ same)
  | newArray same => exact .newArray (wider.types _ _ same)
  | newObject same => exact .newObject (wider.names _ _ same)
  | lambda same => exact .lambda (same.imp wider.names)
  | _ => constructor

/-- Alike expressions are alike for every wider likeness, annotations included. -/
theorem exprs {expr expr' : Expr} (alike : l.Exprs expr expr') : k.Exprs expr expr' where
  kind := wider.exprKinds alike.kind
  span := wider.spans _ _ alike.span
  decl? := rel_imp wider.decls alike.decl?
  type? := rel_imp wider.types alike.type?

/-- Alike kinds of statements are alike for every wider likeness, by cases on the kind. -/
theorem stmtKinds {kind kind' : StmtKind} (alike : l.StmtKinds kind kind')
    : k.StmtKinds kind kind' := by
  cases alike with
  | forEach named typed => exact .forEach (wider.names _ _ named) (wider.types _ _ typed)
  | varDecl typed declared =>
      exact .varDecl (wider.types _ _ typed)
        (declared.imp fun _ _ same => ⟨wider.names _ _ same.name, same.init?⟩)
  | _ => constructor

/-- Alike arenas are alike for every wider likeness, node by node. -/
theorem arenas {arena arena' : Arena} (alike : l.Arenas arena arena') : k.Arenas arena arena' where
  exprs := alike.exprs.imp fun _ _ => wider.exprs
  stmts := alike.stmts.imp fun _ _ same => ⟨wider.stmtKinds same.kind, wider.spans _ _ same.span⟩

/-- Alike frames are alike for every wider likeness, binding by binding. -/
theorem frames {frame frame' : Frame} (alike : l.Frames frame frame') : k.Frames frame frame' :=
  alike.imp fun _ _ same => ⟨wider.names _ _ same.1, same.2⟩

/-- Alike variables are alike for every wider likeness, frame by frame. -/
theorem vars {vars vars' : Variables} (alike : l.Vars vars vars') : k.Vars vars vars' where
  active := wider.frames alike.active
  outer := alike.outer.imp fun _ _ => wider.frames
  limit := alike.limit

/-- Alike closures are alike for every wider likeness, with their arenas and what they captured. -/
theorem closures {closure closure' : Closure} (alike : l.Closures closure closure')
    : k.Closures closure closure' where
  params := alike.params.imp wider.names
  body := alike.body
  arena := wider.arenas alike.arena
  captured := wider.frames alike.captured
  this := alike.this
  shape := alike.shape
  target := alike.target

/-- Alike heaps are alike for every wider likeness, as only their closures mention names. -/
theorem heaps {heap heap' : Heap} (alike : l.Heaps heap heap') : k.Heaps heap heap' where
  arrays := alike.arrays
  closures := alike.closures.imp fun _ _ => wider.closures

/-- Alike contexts are alike for every wider likeness, as only their variables mention names. -/
theorem contexts {context context' : Context} (alike : l.Contexts context context')
    : k.Contexts context context' where
  this := alike.this
  vars := wider.vars alike.vars
  breakPending := alike.breakPending
  cancelled := alike.cancelled

end Le

end Likeness

end Scratchpad
