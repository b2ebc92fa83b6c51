import Mathlib.Data.Finset.Lattice.Fold
import Mathlib.Logic.Relation
import Scratchpad.Program.Builder
import Scratchpad.Proofs.Program.Nesting

/-! What a builder makes. As long as every call refers only to nodes that earlier calls returned,
the arena is closed and acyclic, each constructor adds one node, and nothing that is built
changes its kind afterwards.
-/

namespace Scratchpad

-----------------------------------------------------------------------------------------
-- Changes of an arena
-----------------------------------------------------------------------------------------

namespace Arena

variable {arena : Arena}

/-- A new expression is found at the first free id, and every other as before. -/
theorem expr?_addExpr (node : Expr) (id : ExprId)
    : (arena.addExpr node).2.expr? id
      = if id.index = arena.exprs.size then some node else arena.expr? id := by
  simp only [addExpr, expr?, Array.getElem?_push]

/-- A new statement is found at the first free id, and every other as before. -/
theorem stmt?_addStmt (node : Stmt) (id : StmtId)
    : (arena.addStmt node).2.stmt? id
      = if id.index = arena.stmts.size then some node else arena.stmt? id := by
  simp only [addStmt, stmt?, Array.getElem?_push]

/-- A changed expression is found changed, and every other as before. -/
theorem expr?_updateExpr (changed : ExprId) (change : Expr → Expr) (id : ExprId)
    : (arena.updateExpr changed change).expr? id
      = if id = changed then (arena.expr? id).map change else arena.expr? id := by
  obtain ⟨index⟩ := id
  obtain ⟨changed⟩ := changed
  simp only [updateExpr, expr?, Array.getElem?_modify, ExprId.mk.injEq, eq_comm]

/-- A changed statement is found changed, and every other as before. -/
theorem stmt?_updateStmt (changed : StmtId) (change : Stmt → Stmt) (id : StmtId)
    : (arena.updateStmt changed change).stmt? id
      = if id = changed then (arena.stmt? id).map change else arena.stmt? id := by
  obtain ⟨index⟩ := id
  obtain ⟨changed⟩ := changed
  simp only [updateStmt, stmt?, Array.getElem?_modify, StmtId.mk.injEq, eq_comm]

/-- Adding an expression adds its node and removes none. -/
theorem holds_addExpr (node : Expr) (id : NodeId)
    : (arena.addExpr node).2.Holds id ↔ id = .expr ⟨arena.exprs.size⟩ ∨ arena.Holds id := by
  rcases id with ⟨⟨index⟩⟩ | ⟨⟨index⟩⟩
  · simp only [addExpr, Holds, Array.size_push, NodeId.expr.injEq, ExprId.mk.injEq]
    omega
  · simp [addExpr, Holds]

/-- Adding a statement adds its node and removes none. -/
theorem holds_addStmt (node : Stmt) (id : NodeId)
    : (arena.addStmt node).2.Holds id ↔ id = .stmt ⟨arena.stmts.size⟩ ∨ arena.Holds id := by
  rcases id with ⟨⟨index⟩⟩ | ⟨⟨index⟩⟩
  · simp [addStmt, Holds]
  · simp only [addStmt, Holds, Array.size_push, NodeId.stmt.injEq, StmtId.mk.injEq]
    omega

/-- Changing an expression neither adds nor removes a node. -/
theorem holds_updateExpr (changed : ExprId) (change : Expr → Expr) (id : NodeId)
    : (arena.updateExpr changed change).Holds id ↔ arena.Holds id := by
  cases id <;> simp [updateExpr, Holds]

/-- Changing a statement neither adds nor removes a node. -/
theorem holds_updateStmt (changed : StmtId) (change : Stmt → Stmt) (id : NodeId)
    : (arena.updateStmt changed change).Holds id ↔ arena.Holds id := by
  cases id <;> simp [updateStmt, Holds]

/-- Changing a node that was just added is adding the changed one.
Witness: at every index the two arrays of expressions hold the same.
-/
theorem updateExpr_addExpr (node : Expr) (change : Expr → Expr)
    : (arena.addExpr node).2.updateExpr ⟨arena.exprs.size⟩ change
      = (arena.addExpr (change node)).2 := by
  have same
      : (arena.exprs.push node).modify arena.exprs.size change
        = arena.exprs.push (change node) := by
    refine Array.ext_getElem? fun index => ?_
    grind
  exact congrArg (fun exprs => { arena with exprs }) same

/-- From a node to one that it refers to. -/
def Refers (arena : Arena) (parent child : NodeId) : Prop := child ∈ arena.children parent

/-- Following references in an acyclic arena never leads back, because a rank falls.
Witness: by induction on the path, the rank at its end is below the one at its start.
-/
theorem Acyclic.not_transGen (acyclic : arena.Acyclic) (node : NodeId)
    : ¬Relation.TransGen arena.Refers node node := by
  obtain ⟨rank, falls⟩ := acyclic
  have below {parent child : NodeId} (path : Relation.TransGen arena.Refers parent child)
      : rank child < rank parent := by
    induction path with
    | single member => exact falls _ _ member
    | tail _ member ih => exact (falls _ _ member).trans ih
  exact fun cycle => (below cycle).false

/-- An arena stays sound as long as the nodes in it and their references stay the same.
Witness: the old rank falls along the same references.
-/
theorem Sound.of_children {later : Arena} (sound : arena.Sound)
    (held : ∀ node, arena.Holds node → later.Holds node)
    (same : ∀ node, later.children node = arena.children node)
    : later.Sound := by
  obtain ⟨closed, rank, falls⟩ := sound
  refine ⟨fun parent child member => ?_, rank, fun parent child member => ?_⟩
  · rw [same] at member
    exact held child (closed parent child member)
  · rw [same] at member
    exact falls parent child member

/-- A new node that refers only to old ones keeps an arena sound: it is ranked above all of them.
Witness: the ranks of old nodes are cut off where the new one has its own, above all of its
children.
-/
theorem Sound.of_new {later : Arena} {new : NodeId} (sound : arena.Sound)
    (fresh : ¬arena.Holds new)
    (held : ∀ node, arena.Holds node → later.Holds node)
    (same : ∀ node, node ≠ new → later.children node = arena.children node)
    (known : ∀ child ∈ later.children new, arena.Holds child)
    : later.Sound := by
  obtain ⟨closed, rank, falls⟩ := sound
  have old {parent child : NodeId} (member : child ∈ later.children parent)
      : arena.Holds child := by
    by_cases added : parent = new
    · exact known child (added ▸ member)
    · rw [same parent added] at member
      exact closed parent child member
  refine ⟨fun parent child member => held child (old member), ?_⟩
  refine ⟨fun node => if node = new then arena.nodes.toFinset.sup rank + 1 else rank node, ?_⟩
  intro parent child member
  have there := old member
  have distinct : child ≠ new := by
    rintro rfl
    exact fresh there
  dsimp only
  rw [if_neg distinct]
  by_cases added : parent = new
  · rw [if_pos added]
    exact Nat.lt_succ_of_le (Finset.le_sup (List.mem_toFinset.mpr (mem_nodes.mpr there)))
  · rw [if_neg added]
    rw [same parent added] at member
    exact falls parent child member

/-- Every node of an arena is in a later one, and has the same kind there. -/
structure Keeps (arena later : Arena) : Prop where
  exprs
    : ∀ {id node}, arena.expr? id = some node
      → ∃ node', later.expr? id = some node' ∧ node'.kind = node.kind
  stmts
    : ∀ {id node}, arena.stmt? id = some node
      → ∃ node', later.stmt? id = some node' ∧ node'.kind = node.kind

/-- An arena keeps the kinds of its own nodes. -/
theorem Keeps.refl (arena : Arena) : arena.Keeps arena :=
  ⟨fun found => ⟨_, found, rfl⟩, fun found => ⟨_, found, rfl⟩⟩

/-- Kinds that are kept twice are kept: a node is followed through the arena in between. -/
theorem Keeps.trans {middle later : Arena} (first : arena.Keeps middle)
    (second : middle.Keeps later)
    : arena.Keeps later := by
  constructor
  · intro id node found
    obtain ⟨between, found, same⟩ := first.exprs found
    obtain ⟨last, found, same'⟩ := second.exprs found
    exact ⟨last, found, same'.trans same⟩
  · intro id node found
    obtain ⟨between, found, same⟩ := first.stmts found
    obtain ⟨last, found, same'⟩ := second.stmts found
    exact ⟨last, found, same'.trans same⟩

/-- An arena that keeps the kinds of another holds the nodes of that other. -/
theorem Keeps.holds {later : Arena} (keeps : arena.Keeps later) {node : NodeId}
    (there : arena.Holds node)
    : later.Holds node := by
  by_contra gone
  cases node with
  | expr id =>
      obtain ⟨_, found, _⟩ := keeps.exprs (Array.getElem?_eq_getElem there)
      simp [expr?_eq_none.mpr gone] at found
  | stmt id =>
      obtain ⟨_, found, _⟩ := keeps.stmts (Array.getElem?_eq_getElem there)
      simp [stmt?_eq_none.mpr gone] at found

/-- Only a new node refers to something else than before.
Witness: an old node has kept its kind, and what neither arena holds refers to nothing.
-/
theorem Keeps.children_eq {later : Arena} (keeps : arena.Keeps later) {node : NodeId}
    (old : later.Holds node → arena.Holds node)
    : later.children node = arena.children node := by
  by_cases there : arena.Holds node
  · cases node with
    | expr id =>
        have found : arena.expr? id = some arena.exprs[id.index] := Array.getElem?_eq_getElem there
        obtain ⟨_, found', same⟩ := keeps.exprs found
        rw [children_expr found, children_expr found', same]
    | stmt id =>
        have found : arena.stmt? id = some arena.stmts[id.index] := Array.getElem?_eq_getElem there
        obtain ⟨_, found', same⟩ := keeps.stmts found
        rw [children_stmt found, children_stmt found', same]
  · rw [children_eq_nil there, children_eq_nil (mt old there)]

end Arena

-----------------------------------------------------------------------------------------
-- Steps of building
-----------------------------------------------------------------------------------------

namespace Build

variable {α β : Type}

/-- Two building steps run one after the other, each on the builder that the one before leaves. -/
theorem run_bind (first : Build α) (next : α → Build β) (builder : Builder)
    : (first >>= next).run builder
      = (next (first.run builder).1).run (first.run builder).2 :=
  rfl

/-- The step interns texts and leaves the arena as it is. -/
def OnlyNames (action : Build α) : Prop :=
  ∀ builder, (action.run builder).2.arena = builder.arena

/-- The step adds an expression with the given references and gives its index. -/
def AddsExpr (action : Build ExprId) (children : List NodeId) : Prop :=
  ∀ builder, ∃ node names, node.kind.children = children
    ∧ action.run builder
      = (⟨builder.arena.exprs.size⟩, { arena := (builder.arena.addExpr node).2, names })

/-- The step adds a statement with the given references and gives its index. -/
def AddsStmt (action : Build StmtId) (children : List NodeId) : Prop :=
  ∀ builder, ∃ node names, node.kind.children = children
    ∧ action.run builder
      = (⟨builder.arena.stmts.size⟩, { arena := (builder.arena.addStmt node).2, names })

/-- The step says something about an expression and keeps its kind. -/
def Notes (action : Build Unit) (id : ExprId) : Prop :=
  ∀ builder, ∃ change : Expr → Expr, ∃ names, (∀ node, (change node).kind = node.kind)
    ∧ action.run builder = ((), { arena := builder.arena.updateExpr id change, names })

namespace OnlyNames

/-- Doing nothing leaves the arena alone. -/
theorem pure (value : α) : OnlyNames (Pure.pure value) := fun _ => rfl

/-- Two steps that only intern names leave the arena alone together. -/
theorem bind {first : Build α} {next : α → Build β} (head : OnlyNames first)
    (tail : ∀ value, OnlyNames (next value))
    : OnlyNames (first >>= next) := by
  intro builder
  rw [run_bind]
  exact (tail _ _).trans (head builder)

/-- What is made of a step's result does not matter to the arena. -/
theorem map {action : Build α} (f : α → β) (names : OnlyNames action) : OnlyNames (f <$> action) :=
  names

/-- Interning for one item after the other leaves the arena alone, by induction on the items. -/
theorem mapM {action : α → Build β} (each : ∀ item, OnlyNames (action item)) (items : List α)
    : OnlyNames (items.mapM action) := by
  induction items with
  | nil => exact pure []
  | cons item rest ih =>
      rw [List.mapM_cons]
      exact (each item).bind fun _ => ih.bind fun _ => pure _

/-- Interning before a constructor does not matter to the arena. -/
theorem addsExpr {first : Build α} {next : α → Build ExprId} {children : List NodeId}
    (head : OnlyNames first) (tail : ∀ value, AddsExpr (next value) children)
    : AddsExpr (first >>= next) children := by
  intro builder
  rw [run_bind, ← head builder]
  exact tail _ _

/-- A statement is added as well after names have been interned, since the arena is the same. -/
theorem addsStmt {first : Build α} {next : α → Build StmtId} {children : List NodeId}
    (head : OnlyNames first) (tail : ∀ builder, AddsStmt (next (first.run builder).1) children)
    : AddsStmt (first >>= next) children := by
  intro builder
  rw [run_bind, ← head builder]
  exact tail builder _

/-- A node is annotated as well after names have been interned. -/
theorem notes {first : Build α} {next : α → Build Unit} {id : ExprId} (head : OnlyNames first)
    (tail : ∀ value, Notes (next value) id)
    : Notes (first >>= next) id := by
  intro builder
  rw [run_bind, ← head builder]
  exact tail _ _

end OnlyNames

/-- Interning a text leaves the arena alone. -/
theorem onlyNames_name (text : String) : OnlyNames (name text) := fun _ => rfl

/-- Interning the names of a type leaves the arena alone, by induction on the nesting of arrays. -/
theorem onlyNames_type (written : ResolvedType String) : OnlyNames (type written) := by
  induction written with
  | void | null | primitive type => exact .pure _
  | classType className => exact (onlyNames_name className).map _
  | array component ih => exact ih.map _

/-- Interning the names of a declaration leaves the arena alone, by cases on the declaration. -/
theorem onlyNames_declaration (decl : Declaration String) : OnlyNames (declaration decl) := by
  cases decl with
  | method decl =>
      refine (OnlyNames.mapM onlyNames_type decl.params).bind fun params => ?_
      refine (onlyNames_type decl.returns).bind fun returns => ?_
      refine (onlyNames_name decl.declaring).bind fun declaring => ?_
      exact (onlyNames_name decl.name).bind fun name => .pure _
  | constructor decl =>
      refine (OnlyNames.mapM onlyNames_type decl.params).bind fun params => ?_
      exact (onlyNames_name decl.declaring).bind fun declaring => .pure _
  | field decl =>
      refine (onlyNames_type decl.type).bind fun type => ?_
      refine (onlyNames_name decl.declaring).bind fun declaring => ?_
      exact (onlyNames_name decl.name).bind fun name => .pure _
  | «variable» decl =>
      refine (onlyNames_type decl.type).bind fun type => ?_
      exact (onlyNames_name decl.name).bind fun name => .pure _
  | classDecl className => exact (onlyNames_name className).map _
  | package package => exact (onlyNames_name package).map _

/-- A plain expression is added with the children of its kind. -/
theorem addsExpr_expr (node : Expr) : AddsExpr (expr node) node.kind.children :=
  fun builder => ⟨node, builder.names, rfl, rfl⟩

/-- A plain statement is added with the children of its kind. -/
theorem addsStmt_stmt (node : Stmt) : AddsStmt (stmt node) node.kind.children :=
  fun builder => ⟨node, builder.names, rfl, rfl⟩

/-- Annotating a node changes that node alone and keeps its kind. -/
theorem notes_annotate (id : ExprId) (decl : Declaration Name) : Notes (annotate id decl) id :=
  fun builder => ⟨fun node => { node with decl? := some decl }, builder.names, fun _ => rfl, rfl⟩

/-- Noting the type of a node changes that node alone and keeps its kind. -/
theorem notes_typed (id : ExprId) (type : ResolvedType Name) : Notes (typed id type) id :=
  fun builder => ⟨fun node => { node with type? := some type }, builder.names, fun _ => rfl, rfl⟩

/-- A constructor may go on to say something about its node.
Witness: changing the node that was just added is adding the changed one, whose kind is the same.
-/
theorem AddsExpr.noted {first : Build ExprId} {next : ExprId → Build Unit}
    {children : List NodeId} (adds : AddsExpr first children) (notes : ∀ id, Notes (next id) id)
    : AddsExpr (first >>= fun id => next id >>= fun _ => pure id) children := by
  intro builder
  obtain ⟨node, names, same, added⟩ := adds builder
  obtain ⟨change, names', kept, noted⟩ :=
    notes ⟨builder.arena.exprs.size⟩ { arena := (builder.arena.addExpr node).2, names }
  refine ⟨change node, names', (congrArg ExprKind.children (kept node)).trans same, ?_⟩
  rw [run_bind, added, run_bind]
  dsimp only
  rw [noted, Arena.updateExpr_addExpr]
  rfl

/-- A literal has no children; only a text has to be interned before it is added. -/
theorem addsExpr_literal (value : Literal String) : AddsExpr (literal value) [] := by
  cases value with
  | str text => exact (onlyNames_name text).addsExpr fun text => addsExpr_expr _
  | _ => exact addsExpr_expr _

/-- An identifier has no children. -/
theorem addsExpr_ident (text : String) : AddsExpr (ident text) [] :=
  (onlyNames_name text).addsExpr fun _ => addsExpr_expr _

/-- A class identifier is an identifier with its declaration noted. -/
theorem addsExpr_classIdent (text className : String) : AddsExpr (classIdent text className) [] :=
  (addsExpr_ident text).noted fun id =>
    (onlyNames_name className).notes fun name => notes_annotate id (.classDecl name)

/-- A package identifier is an identifier with its declaration noted. -/
theorem addsExpr_packageIdent (text package : String) : AddsExpr (packageIdent text package) [] :=
  (addsExpr_ident text).noted fun id =>
    (onlyNames_name package).notes fun name => notes_annotate id (.package name)

/-- An expression with its type noted has the children of its kind. -/
theorem addsExpr_exprOfType (kind : ExprKind) (type : ResolvedType Name)
    : AddsExpr (exprOfType kind type) kind.children :=
  (addsExpr_expr { kind }).noted fun id => notes_typed id type

/-- A call refers to its arguments. -/
theorem addsExpr_call (text : String) (args : List ExprId)
    : AddsExpr (call text args) (args.map .expr) :=
  (onlyNames_name text).addsExpr fun _ => addsExpr_expr _

/-- A new array refers to what its sizes or elements are computed from. -/
theorem addsExpr_newArray (component : ResolvedType String) (init : ArrayInit)
    : AddsExpr (newArray component init) (init.items.map .expr) :=
  (onlyNames_type component).addsExpr fun _ => addsExpr_exprOfType _ _

/-- A new object refers to its arguments. -/
theorem addsExpr_newObject (className : String) (args : List ExprId)
    : AddsExpr (newObject className args) (args.map .expr) :=
  (onlyNames_name className).addsExpr fun _ => addsExpr_exprOfType _ _

/-- A lambda refers to its body alone, with or without a target type.
Witness: parameters are names, and a target is a note on the node that was just added.
-/
theorem addsExpr_lambda (params : List String) (body : LambdaBody) (target? : Option String)
    : AddsExpr (lambda params body target?) [body.node] := by
  refine (OnlyNames.mapM onlyNames_name params).addsExpr fun params => ?_
  have adds := addsExpr_expr { kind := .lambda params body }
  cases target? with
  | some target =>
      exact adds.noted fun id =>
        (onlyNames_name target).notes fun target => notes_typed id (.classType target)
  | none => exact adds

/-- A for-each loop refers to its iterable and its body. -/
theorem addsStmt_forEach (varType : ResolvedType String) (var : String) (iterable : ExprId)
    (body : StmtId)
    : AddsStmt (forEach varType var iterable body) [.expr iterable, .stmt body] :=
  (onlyNames_type varType).addsStmt fun _ =>
    (onlyNames_name var).addsStmt fun _ => addsStmt_stmt _

/-- Interning the names of declarators keeps their initial values.
Witness: by induction on the declarators; an interned name comes with the initial value it had.
-/
theorem inits_declarators (declarators : List (String × Option ExprId)) (builder : Builder)
    : (((declarators.mapM fun declarator => do
          let name ← name declarator.1
          pure { name, init? := declarator.2 }
        : Build (List Declarator)).run builder).1.filterMap (·.init?))
      = declarators.filterMap (·.2) := by
  induction declarators generalizing builder with
  | nil => rfl
  | cons declarator rest ih =>
      rw [List.mapM_cons]
      show (_ :: _ : List Declarator).filterMap _ = _
      rw [List.filterMap_cons, List.filterMap_cons]
      have later := ih ((name declarator.1).run builder).2
      cases declarator.2 with
      | none => exact later
      | some init => exact congrArg (init :: ·) later

/-- A declaration refers to the initial values of its declarators.
Witness: interning their names keeps these values and leaves the arena alone.
-/
theorem addsStmt_varDecl (varType : ResolvedType String)
    (declarators : List (String × Option ExprId))
    : AddsStmt (varDecl varType declarators) ((declarators.filterMap (·.2)).map .expr) := by
  refine (onlyNames_type varType).addsStmt fun _ => ?_
  refine OnlyNames.addsStmt ?_ fun builder => ?_
  · have each (declarator : String × Option ExprId)
        : OnlyNames (do
            let name ← name declarator.1
            pure { name, init? := declarator.2 }
          : Build Declarator) :=
      (onlyNames_name declarator.1).bind fun _ => .pure _
    exact .mapM each declarators
  · rw [← inits_declarators declarators builder]
    exact addsStmt_stmt _

end Build

-----------------------------------------------------------------------------------------
-- Calls
-----------------------------------------------------------------------------------------

/-- A call of a builder. Constructors without texts of their own hand their node to `expr` or
`stmt`.
-/
inductive Call where
  | name (text : String)
  | type (written : ResolvedType String)
  | declaration (written : Declaration String)
  | expr (node : Expr)
  | stmt (node : Stmt)
  | exprOfType (kind : ExprKind) (type : ResolvedType Name)
  | literal (value : Literal String)
  | ident (text : String)
  | classIdent (text className : String)
  | packageIdent (text package : String)
  | call (text : String) (args : List ExprId)
  | newArray (component : ResolvedType String) (init : ArrayInit)
  | newObject (className : String) (args : List ExprId)
  | lambda (params : List String) (body : LambdaBody) (target? : Option String)
  | forEach (varType : ResolvedType String) (var : String) (iterable : ExprId) (body : StmtId)
  | varDecl (varType : ResolvedType String) (declarators : List (String × Option ExprId))
  | annotate (id : ExprId) (decl : Declaration Name)
  | typed (id : ExprId) (type : ResolvedType Name)
  | place (id : ExprId) (span : Span)
  | placeStmt (id : StmtId) (span : Span)

namespace Call

/-- The nodes that a call is given. -/
def inputs : Call → List NodeId
  | .name _ | .type _ | .declaration _ => []
  | .expr node => node.kind.children
  | .stmt node => node.kind.children
  | .exprOfType kind _ => kind.children
  | .literal _ | .ident _ | .classIdent _ _ | .packageIdent _ _ => []
  | .call _ args | .newObject _ args => args.map .expr
  | .newArray _ init => init.items.map .expr
  | .lambda _ body _ => [body.node]
  | .forEach _ _ iterable body => [.expr iterable, .stmt body]
  | .varDecl _ declarators => (declarators.filterMap (·.2)).map .expr
  | .annotate id _ | .typed id _ | .place id _ => [.expr id]
  | .placeStmt id _ => [.stmt id]

/-- Whether a call makes a node. -/
def constructs : Call → Bool
  | .name _ | .type _ | .declaration _ => false
  | .annotate _ _ | .typed _ _ | .place _ _ | .placeStmt _ _ => false
  | _ => true

/-- Runs a call, which gives the index of the node that it makes. -/
def run : Call → Build (Option NodeId)
  | .name text => do
    let _ ← Build.name text
    pure none
  | .type written => do
    let _ ← Build.type written
    pure none
  | .declaration written => do
    let _ ← Build.declaration written
    pure none
  | .expr node => made (Build.expr node)
  | .stmt node => madeStmt (Build.stmt node)
  | .exprOfType kind found => made (Build.exprOfType kind found)
  | .literal value => made (Build.literal value)
  | .ident text => made (Build.ident text)
  | .classIdent text className => made (Build.classIdent text className)
  | .packageIdent text package => made (Build.packageIdent text package)
  | .call text args => made (Build.call text args)
  | .newArray component init => made (Build.newArray component init)
  | .newObject className args => made (Build.newObject className args)
  | .lambda params body target? => made (Build.lambda params body target?)
  | .forEach varType var iterable body => madeStmt (Build.forEach varType var iterable body)
  | .varDecl varType declarators => madeStmt (Build.varDecl varType declarators)
  | .annotate id decl => do
    Build.annotate id decl
    pure none
  | .typed id found => do
    Build.typed id found
    pure none
  | .place id span => do
    Build.place id span
    pure none
  | .placeStmt id span => do
    Build.placeStmt id span
    pure none
where
  made (action : Build ExprId) : Build (Option NodeId) := do
    let id ← action
    pure (some (.expr id))
  madeStmt (action : Build StmtId) : Build (Option NodeId) := do
    let id ← action
    pure (some (.stmt id))

/-- What a call does to an expression that is there: nothing, unless it is one of the calls that are
made for that, which set one thing each.
-/
inductive Revises : Call → ExprId → Expr → Expr → Prop
  | not {call id node} : Revises call id node node
  | annotate {id decl node} : Revises (.annotate id decl) id node { node with decl? := some decl }
  | typed {id type node} : Revises (.typed id type) id node { node with type? := some type }
  | place {id span node} : Revises (.place id span) id node { node with span }

/-- What a call does to a statement that is there. -/
inductive RevisesStmt : Call → StmtId → Stmt → Stmt → Prop
  | not {call id node} : RevisesStmt call id node node
  | place {id span node} : RevisesStmt (.placeStmt id span) id node { node with span }

/-- Revising an expression keeps its kind. -/
theorem Revises.kind {call : Call} {id : ExprId} {node node' : Expr}
    (revises : call.Revises id node node')
    : node'.kind = node.kind := by
  cases revises <;> rfl

/-- Revising a statement keeps its kind. -/
theorem RevisesStmt.kind {call : Call} {id : StmtId} {node node' : Stmt}
    (revises : call.RevisesStmt id node node')
    : node'.kind = node.kind := by
  cases revises <;> rfl

/-- All that a call can do to an arena. -/
inductive Change (call : Call) (arena : Arena) : Option NodeId → Arena → Prop
  | nothing (plain : call.constructs = false) : call.Change arena none arena
  | addExpr {node} (makes : call.constructs = true) (children : node.kind.children = call.inputs)
    : call.Change arena (some (.expr ⟨arena.exprs.size⟩)) (arena.addExpr node).2
  | addStmt {node} (makes : call.constructs = true) (children : node.kind.children = call.inputs)
    : call.Change arena (some (.stmt ⟨arena.stmts.size⟩)) (arena.addStmt node).2
  | updateExpr {id change} (plain : call.constructs = false)
    (revises : ∀ node, call.Revises id node (change node))
    : call.Change arena none (arena.updateExpr id change)
  | updateStmt {id change} (plain : call.constructs = false)
    (revises : ∀ node, call.RevisesStmt id node (change node))
    : call.Change arena none (arena.updateStmt id change)

/-- What a call does is one of these, whatever texts it interns on the way.
Witness: by cases on the call: it adds one expression or statement after interning names, revises
one node, or only interns.
-/
theorem change (call : Call) (builder : Builder)
    : call.Change builder.arena (call.run.run builder).1 (call.run.run builder).2.arena := by
  have names {α : Type} {action : Build α} (plain : call.constructs = false)
      (only : action.OnlyNames)
      : call.Change builder.arena none (action.run builder).2.arena := by
    rw [only]
    exact .nothing plain
  have made {action : Build ExprId} (makes : call.constructs = true)
      (adds : action.AddsExpr call.inputs)
      : call.Change builder.arena (some (.expr (action.run builder).1))
          (action.run builder).2.arena := by
    obtain ⟨node, names, children, ran⟩ := adds builder
    rw [ran]
    exact .addExpr makes children
  have madeStmt {action : Build StmtId} (makes : call.constructs = true)
      (adds : action.AddsStmt call.inputs)
      : call.Change builder.arena (some (.stmt (action.run builder).1))
          (action.run builder).2.arena := by
    obtain ⟨node, names, children, ran⟩ := adds builder
    rw [ran]
    exact .addStmt makes children
  cases call with
  | name text => exact names rfl (Build.onlyNames_name text)
  | type written => exact names rfl (Build.onlyNames_type written)
  | declaration written => exact names rfl (Build.onlyNames_declaration written)
  | expr node => exact made rfl (Build.addsExpr_expr node)
  | stmt node => exact madeStmt rfl (Build.addsStmt_stmt node)
  | exprOfType kind found => exact made rfl (Build.addsExpr_exprOfType kind found)
  | literal value => exact made rfl (Build.addsExpr_literal value)
  | ident text => exact made rfl (Build.addsExpr_ident text)
  | classIdent text className => exact made rfl (Build.addsExpr_classIdent text className)
  | packageIdent text package => exact made rfl (Build.addsExpr_packageIdent text package)
  | call text args => exact made rfl (Build.addsExpr_call text args)
  | newArray component init => exact made rfl (Build.addsExpr_newArray component init)
  | newObject className args => exact made rfl (Build.addsExpr_newObject className args)
  | lambda params body target? => exact made rfl (Build.addsExpr_lambda params body target?)
  | forEach varType var iterable body =>
      exact madeStmt rfl (Build.addsStmt_forEach varType var iterable body)
  | varDecl varType declarators =>
      exact madeStmt rfl (Build.addsStmt_varDecl varType declarators)
  | annotate id decl => exact .updateExpr rfl fun _ => .annotate
  | typed id found => exact .updateExpr rfl fun _ => .typed
  | place id span => exact .updateExpr rfl fun _ => .place
  | placeStmt id span => exact .updateStmt rfl fun _ => .place

/-- What a call does to the nodes of an arena. Those that are there stay, and only a call that is
made for it changes anything about one of them. A constructor adds one node under a fresh index,
which refers to what the call was given; any other call adds none.
-/
structure Effect (call : Call) (arena : Arena) (answer? : Option NodeId) (later : Arena)
    : Prop where
  exprs
    : ∀ {id node}, arena.expr? id = some node
      → ∃ node', later.expr? id = some node' ∧ call.Revises id node node'
  stmts
    : ∀ {id node}, arena.stmt? id = some node
      → ∃ node', later.stmt? id = some node' ∧ call.RevisesStmt id node node'
  adds
    : call.constructs = true
      → ∃ new, answer? = some new ∧ ¬arena.Holds new ∧ later.children new = call.inputs
          ∧ ∀ node, later.Holds node ↔ node = new ∨ arena.Holds node
  addsNone
    : call.constructs = false
      → answer? = none ∧ ∀ node, later.Holds node ↔ arena.Holds node

/-- What a call does to an arena keeps the kinds of the nodes in it. -/
theorem Effect.keeps {call : Call} {arena later : Arena} {answer? : Option NodeId}
    (effect : call.Effect arena answer? later)
    : arena.Keeps later := by
  constructor
  · intro id node found
    obtain ⟨node', found, revises⟩ := effect.exprs found
    exact ⟨node', found, revises.kind⟩
  · intro id node found
    obtain ⟨node', found, revises⟩ := effect.stmts found
    exact ⟨node', found, revises.kind⟩

/-- Each of the changes that a call can make has the effect that belongs to the call.
Witness: by cases on the change; a new node is found at the first free id, which no other node had.
-/
theorem Change.effect {call : Call} {arena later : Arena} {answer? : Option NodeId}
    (change : call.Change arena answer? later)
    : call.Effect arena answer? later := by
  cases change with
  | nothing plain =>
      refine ⟨fun found => ⟨_, found, .not⟩, fun found => ⟨_, found, .not⟩, fun makes => ?_, ?_⟩
      · simp [plain] at makes
      · exact fun _ => ⟨rfl, fun _ => .rfl⟩
  | addExpr makes children =>
      refine ⟨fun {id node} found => ⟨node, ?_, .not⟩, fun found => ⟨_, found, .not⟩, ?_, ?_⟩
      · have there := (Array.getElem?_eq_some_iff.mp found).choose
        rw [Arena.expr?_addExpr, if_neg there.ne, found]
      · intro _
        refine ⟨_, rfl, Nat.lt_irrefl _, ?_, Arena.holds_addExpr _⟩
        rw [← children]
        exact Arena.children_expr ((Arena.expr?_addExpr _ _).trans (if_pos rfl))
      · intro plain
        simp [makes] at plain
  | addStmt makes children =>
      refine ⟨fun found => ⟨_, found, .not⟩, fun {id node} found => ⟨node, ?_, .not⟩, ?_, ?_⟩
      · have there := (Array.getElem?_eq_some_iff.mp found).choose
        rw [Arena.stmt?_addStmt, if_neg there.ne, found]
      · intro _
        refine ⟨_, rfl, Nat.lt_irrefl _, ?_, Arena.holds_addStmt _⟩
        rw [← children]
        exact Arena.children_stmt ((Arena.stmt?_addStmt _ _).trans (if_pos rfl))
      · intro plain
        simp [makes] at plain
  | @updateExpr changed change plain revises =>
      refine ⟨fun {id node} found => ?_, fun found => ⟨_, found, .not⟩, fun makes => ?_,
        fun _ => ?_⟩
      · rw [Arena.expr?_updateExpr, found]
        by_cases same : id = changed
        · exact ⟨change node, if_pos same, same ▸ revises node⟩
        · exact ⟨node, if_neg same, .not⟩
      · simp [plain] at makes
      · exact ⟨rfl, Arena.holds_updateExpr changed change⟩
  | @updateStmt changed change plain revises =>
      refine ⟨fun found => ⟨_, found, .not⟩, fun {id node} found => ?_, fun makes => ?_,
        fun _ => ?_⟩
      · rw [Arena.stmt?_updateStmt, found]
        by_cases same : id = changed
        · exact ⟨change node, if_pos same, same ▸ revises node⟩
        · exact ⟨node, if_neg same, .not⟩
      · simp [plain] at makes
      · exact ⟨rfl, Arena.holds_updateStmt changed change⟩

/-- Every call has its effect, on any builder. -/
theorem effect (call : Call) (builder : Builder)
    : call.Effect builder.arena (call.run.run builder).1 (call.run.run builder).2.arena :=
  (call.change builder).effect

end Call

-----------------------------------------------------------------------------------------
-- Sequences of calls
-----------------------------------------------------------------------------------------

/-- A builder together with the nodes that it returned so far, the latest first. -/
structure Workbench where
  builder : Builder
  returned : List NodeId := []

namespace Workbench

/-- A new builder over the given names. -/
def start (names : Interner) : Workbench := { builder := { names } }

def perform (bench : Workbench) (call : Call) : Workbench :=
  {
    builder := (call.run.run bench.builder).2
    returned := (call.run.run bench.builder).1.toList ++ bench.returned
  }

/-- From a workbench to a later one by calls that are given only nodes which were returned
before.
-/
inductive Reaches : Workbench → List Call → Workbench → Prop
  | done {bench : Workbench} : bench.Reaches [] bench
  | call {bench later : Workbench} {call : Call} {calls : List Call}
    (known : call.inputs ⊆ bench.returned)
    (rest : (bench.perform call).Reaches calls later)
    : bench.Reaches (call :: calls) later

/-- The arena is sound, and its nodes are exactly those that were returned, each of them once. -/
structure Valid (bench : Workbench) : Prop where
  sound : bench.builder.arena.Sound
  returned : ∀ node, node ∈ bench.returned ↔ bench.builder.arena.Holds node
  nodup : bench.returned.Nodup

/-- A workbench starts valid: there is no node, so none refers to another. -/
theorem valid_start (names : Interner) : (start names).Valid := by
  have none (parent child : NodeId) : child ∉ (start names).builder.arena.children parent := by
    rcases parent with ⟨⟨index⟩⟩ | ⟨⟨index⟩⟩
    · simp [start, Arena.children, Arena.expr?]
    · simp [start, Arena.children, Arena.stmt?]
  refine ⟨⟨fun parent child member => ?_, 0, fun parent child member => ?_⟩, fun node => ?_, .nil⟩
  · exact absurd member (none parent child)
  · exact absurd member (none parent child)
  · cases node <;> simp [start, Arena.Holds]

/-- A call that is given only returned nodes keeps a workbench valid.
Witness: a call that constructs adds one node, which refers to returned ones and is ranked above
them; any other call changes no reference.
-/
theorem Valid.perform {bench : Workbench} (valid : bench.Valid) {call : Call}
    (known : call.inputs ⊆ bench.returned)
    : (bench.perform call).Valid := by
  have effect := call.effect bench.builder
  have kept := effect.keeps
  cases makes : call.constructs with
  | true =>
      obtain ⟨new, answer, fresh, children, holds⟩ := effect.adds makes
      have returned : (bench.perform call).returned = new :: bench.returned := by
        simp [Workbench.perform, answer]
      refine ⟨valid.sound.of_new fresh (fun node => kept.holds) ?_ ?_, fun node => ?_, ?_⟩
      · intro node other
        exact kept.children_eq fun there => ((holds node).mp there).resolve_left other
      · intro child member
        exact (valid.returned child).mp (known (children ▸ member))
      · rw [returned, List.mem_cons, valid.returned]
        exact (holds node).symm
      · rw [returned, List.nodup_cons, valid.returned]
        exact ⟨fresh, valid.nodup⟩
  | false =>
      obtain ⟨answer, holds⟩ := effect.addsNone makes
      have returned : (bench.perform call).returned = bench.returned := by
        simp [Workbench.perform, answer]
      refine ⟨valid.sound.of_children (fun node => kept.holds) ?_, fun node => ?_, ?_⟩
      · exact fun node => kept.children_eq (holds node).mp
      · rw [returned, valid.returned]
        exact (holds node).symm
      · rw [returned]
        exact valid.nodup

/-- Calls keep a workbench valid, and every node that is built, by induction on them. -/
theorem Reaches.valid {bench later : Workbench} {calls : List Call}
    (reaches : bench.Reaches calls later) (valid : bench.Valid)
    : later.Valid := by
  induction reaches with
  | done => exact valid
  | call known rest ih => exact ih (valid.perform known)

/-- Every sequence of calls keeps the kinds of the nodes, by induction on the calls. -/
theorem Reaches.keeps {bench later : Workbench} {calls : List Call}
    (reaches : bench.Reaches calls later)
    : bench.builder.arena.Keeps later.builder.arena := by
  induction reaches with
  | done => exact .refl _
  | call known rest ih => exact (Call.effect _ _).keeps.trans ih

/-- A builder only makes well-formed arenas. After any calls that were given only nodes which
earlier ones returned, each reference leads to a node of the arena and no chain of them back to
its start; the nodes are those that were returned, each once. A further such call has no other
effect than its own, and however many follow, what is built stays under its index and keeps its
kind.
-/
theorem building_is_well_formed {names : Interner} {calls : List Call} {bench : Workbench}
    (built : (start names).Reaches calls bench)
    : bench.builder.arena.Closed
      ∧ (∀ node, ¬Relation.TransGen bench.builder.arena.Refers node node)
      ∧ (∀ node, node ∈ bench.returned ↔ bench.builder.arena.Holds node)
      ∧ bench.returned.Nodup
      ∧ (∀ call : Call, call.inputs ⊆ bench.returned
          → call.Effect bench.builder.arena (call.run.run bench.builder).1
              (bench.perform call).builder.arena)
      ∧ ∀ more later, bench.Reaches more later
          → bench.builder.arena.Keeps later.builder.arena := by
  have valid := built.valid (valid_start names)
  refine ⟨valid.sound.closed, valid.sound.acyclic.not_transGen, valid.returned, valid.nodup, ?_, ?_⟩
  · exact fun call _ => call.effect bench.builder
  · exact fun more later reaches => reaches.keeps

/-- The lambda `x -> { x * 2; }`, whose product gets its type when everything is built. The
statement in it comes after three expressions and before the fourth.
-/
def doubling : List Call :=
  [
    .ident "x",
    .literal (.int 2),
    .expr { kind := .binary .mul ⟨0⟩ ⟨1⟩ },
    .stmt { kind := .expr ⟨2⟩ },
    .lambda ["x"] (.block ⟨0⟩) (some "java.util.function.IntConsumer"),
    .typed ⟨2⟩ (.primitive .int)
  ]

/-- Building a small lambda takes admissible calls only, so its arena is closed and acyclic. -/
theorem doubling_is_well_formed
    : (start {}).Reaches doubling (doubling.foldl perform (start {}))
      ∧ (doubling.foldl perform (start {})).builder.arena.Closed
      ∧ (∀ node, ¬Relation.TransGen
          (doubling.foldl perform (start {})).builder.arena.Refers node node) := by
  have built : (start {}).Reaches doubling (doubling.foldl perform (start {})) := by
    refine .call (by decide) (.call (by decide) (.call ?_ (.call ?_ (.call ?_ (.call ?_ .done)))))
    · decide
    · decide
    · decide
    · decide
  obtain ⟨closed, acyclic, _⟩ := building_is_well_formed built
  exact ⟨built, closed, acyclic⟩

end Workbench

end Scratchpad
