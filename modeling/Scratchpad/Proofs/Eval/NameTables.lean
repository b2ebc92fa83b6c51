import Scratchpad.Proofs.Eval.Invocation

/-! A table of names matters only by the texts of the names that are mentioned. An evaluation goes
the same way under two tables that agree on the names that its arena mentions and that the arenas of
the lambdas in reach mention.
-/

namespace Scratchpad

variable {ω ν μ : Type}

-----------------------------------------------------------------------------------------
-- Mentioned names
-----------------------------------------------------------------------------------------

/-- The class that a type mentions, if it mentions one. -/
def ResolvedType.names : ResolvedType ν → List ν
  | .classType name => [name]
  | .array component => component.names
  | _ => []

def MethodDecl.names (decl : MethodDecl ν) : List ν :=
  decl.declaring :: decl.name :: (decl.params.flatMap (·.names) ++ decl.returns.names)

def ConstructorDecl.names (decl : ConstructorDecl ν) : List ν :=
  decl.declaring :: decl.params.flatMap (·.names)

/-- The names that a declaration mentions. -/
def Declaration.names : Declaration ν → List ν
  | .method decl => decl.names
  | .constructor decl => decl.names
  | .field decl => decl.declaring :: decl.name :: decl.type.names
  | .variable decl => decl.name :: decl.type.names
  | .classDecl name => [name]
  | .package name => [name]

def Literal.names : Literal ν → List ν
  | .str text => [text]
  | _ => []

/-- The names that stand in a node itself, not in the nodes that it refers to. -/
def ExprKind.names : ExprKind → List Name
  | .literal value => value.names
  | .ident name => [name]
  | .call name _ => [name]
  | .alloc (.array component _) => component.names
  | .alloc (.object className _) => [className]
  | .lambda params _ => params
  | _ => []

/-- The names of a node and of what the resolver found out about it. -/
def Expr.names (expr : Expr) : List Name :=
  expr.kind.names ++ expr.decl?.toList.flatMap (·.names) ++ expr.type?.toList.flatMap (·.names)

def StmtKind.names : StmtKind → List Name
  | .forEach var type _ _ => var :: type.names
  | .varDecl type declarators => type.names ++ declarators.map (·.name)
  | _ => []

/-- The names that the nodes of an arena mention. -/
def Arena.names (arena : Arena) : List Name :=
  arena.exprs.toList.flatMap (·.names) ++ arena.stmts.toList.flatMap (·.kind.names)

/-- Two tables have the same texts for the given names. -/
def Interner.AgreeOn (names : List Name) (first second : Interner) : Prop :=
  ∀ name ∈ names, second.text name = first.text name

/-- Tables that agree on some names agree on fewer. -/
theorem Interner.AgreeOn.subset {names fewer : List Name} {first second : Interner}
    (agree : AgreeOn names first second) (included : fewer ⊆ names)
    : AgreeOn fewer first second :=
  fun name member => agree name (included member)

/-- The names of an expression are names of its arena. -/
theorem Arena.names_expr {arena : Arena} {id : ExprId} {expr : Expr}
    (found : arena.expr? id = some expr)
    : expr.names ⊆ arena.names := by
  intro name member
  have held : expr ∈ arena.exprs.toList := Array.mem_def.mp (Array.mem_of_getElem? found)
  exact List.mem_append_left _ (List.mem_flatMap.mpr ⟨expr, held, member⟩)

/-- The names of a statement are names of its arena. -/
theorem Arena.names_stmt {arena : Arena} {id : StmtId} {stmt : Stmt}
    (found : arena.stmt? id = some stmt)
    : stmt.kind.names ⊆ arena.names := by
  intro name member
  have held : stmt ∈ arena.stmts.toList := Array.mem_def.mp (Array.mem_of_getElem? found)
  exact List.mem_append_right _ (List.mem_flatMap.mpr ⟨stmt, held, member⟩)

/-- A type is renamed alike by functions that agree on the class it mentions. -/
theorem ResolvedType.map_congr {f g : ν → μ} {type : ResolvedType ν}
    (same : ∀ name ∈ type.names, f name = g name)
    : type.map f = type.map g := by
  induction type with
  | classType name => exact congrArg ResolvedType.classType (same name (by simp [names]))
  | array component ih => exact congrArg ResolvedType.array (ih same)
  | _ => rfl

/-- Types are read alike where the two readings agree on the names in them. -/
theorem ResolvedType.maps_congr {f g : ν → μ} {types : List (ResolvedType ν)}
    (same : ∀ name ∈ types.flatMap (·.names), f name = g name)
    : types.map (·.map f) = types.map (·.map g) := by
  refine List.map_congr_left fun type member => map_congr fun name inside => ?_
  exact same name (List.mem_flatMap.mpr ⟨type, member, inside⟩)

/-- A method is read alike where the two readings agree on its names. -/
theorem MethodDecl.map_congr {f g : ν → μ} {decl : MethodDecl ν}
    (same : ∀ name ∈ decl.names, f name = g name)
    : decl.map f = decl.map g := by
  have params : decl.params.map (·.map f) = decl.params.map (·.map g) :=
    ResolvedType.maps_congr fun name member => same name <| by
      simp only [names, List.mem_cons, List.mem_append, member, true_or, or_true]
  have returns : decl.returns.map f = decl.returns.map g :=
    ResolvedType.map_congr fun name member => same name <| by
      simp only [names, List.mem_cons, List.mem_append, member, or_true]
  simp only [map, params, returns, same decl.declaring (by simp [names]),
    same decl.name (by simp [names])]

/-- A constructor is read alike where the two readings agree on its names. -/
theorem ConstructorDecl.map_congr {f g : ν → μ} {decl : ConstructorDecl ν}
    (same : ∀ name ∈ decl.names, f name = g name)
    : decl.map f = decl.map g := by
  have params : decl.params.map (·.map f) = decl.params.map (·.map g) :=
    ResolvedType.maps_congr fun name member => same name (List.mem_cons_of_mem _ member)
  simp only [map, params, same decl.declaring (by simp [names])]

-----------------------------------------------------------------------------------------
-- Nodes under another table
-----------------------------------------------------------------------------------------

namespace Machine

/-- The machine under another table of names. -/
def withNames (m : Machine ω) (names : Interner) : Machine ω := { m with names }

variable {m : Machine ω} {names : Interner} {again : Job → Eval ω Value} {arena : Arena}

/-- A class resolves alike under both tables, since the host is told its text. -/
theorem resolveClass_withNames {name : Name} (same : names.text name = m.names.text name)
    : (m.withNames names).resolveClass name = m.resolveClass name := by
  simp only [resolveClass, withNames, same]

/-- A declared field is read alike under both tables. -/
theorem declaredField_withNames {text : String} {decl? : Option (Declaration Name)}
    (agree : Interner.AgreeOn (decl?.toList.flatMap (·.names)) m.names names)
    : (m.withNames names).declaredField text decl? = m.declaredField text decl? := by
  unfold declaredField
  split
  · next field =>
    have same : names.text field.declaring = m.names.text field.declaring :=
      agree _ (by simp [Declaration.names])
    simp only [withNames, same]
    rfl
  · rfl

/-- What a declaration stands for is the same under both tables. -/
theorem declaredValue_withNames {text : String} {target : Value} {explicit : Bool}
    {decl? : Option (Declaration Name)}
    (agree : Interner.AgreeOn (decl?.toList.flatMap (·.names)) m.names names)
    : (m.withNames names).declaredValue text target explicit decl?
      = m.declaredValue text target explicit decl? := by
  unfold declaredValue
  split
  · next className =>
    rw [resolveClass_withNames (agree _ (by simp [Declaration.names]))]
  · next package =>
    rw [withNames, agree package (by simp [Declaration.names])]
  · rfl

/-- An identifier stands for the same under both tables.
Witness: its text is the same, and so is what its declaration stands for.
-/
theorem identifier_withNames {name : Name} {decl? : Option (Declaration Name)}
    {receiver : Option Value} (same : names.text name = m.names.text name)
    (agree : Interner.AgreeOn (decl?.toList.flatMap (·.names)) m.names names)
    : (m.withNames names).identifier name decl? receiver = m.identifier name decl? receiver := by
  have field (target : Value)
      : (m.withNames names).readField (m.names.text name) target decl?
        = m.readField (m.names.text name) target decl? := by
    simp only [readField, declaredField_withNames agree]
    rfl
  have value (target : Value)
      : (m.withNames names).declaredValue (m.names.text name) target receiver.isSome decl?
        = m.declaredValue (m.names.text name) target receiver.isSome decl? :=
    declaredValue_withNames agree
  have text : (m.withNames names).names.text name = m.names.text name := same
  simp only [identifier, text, field, value]

/-- A declared method is called alike, since the host is told the same declaration. -/
theorem callDeclared_withNames {method : MethodDecl Name} {target : Value} {args : List ExprId}
    (agree : Interner.AgreeOn method.names m.names names)
    : (m.withNames names).callDeclared again arena method target args
      = m.callDeclared again arena method target args := by
  have decl : method.map names.text = method.map m.names.text := MethodDecl.map_congr agree
  have same : names.text method.name = m.names.text method.name :=
    agree _ (by simp [MethodDecl.names])
  simp only [callDeclared, withNames, decl, same]
  rfl

/-- A method is found and called alike: a lambda by the text of its name, a declared method by its
declaration, an accessor by its text.
-/
theorem callMethod_withNames {name : Name} {args : List ExprId}
    {decl? : Option (Declaration Name)} {receiver : Option Value}
    (same : names.text name = m.names.text name)
    (agree : Interner.AgreeOn (decl?.toList.flatMap (·.names)) m.names names)
    : (m.withNames names).callMethod again arena name args decl? receiver
      = m.callMethod again arena name args decl? receiver := by
  have text : (m.withNames names).names.text name = m.names.text name := same
  have declared {method : MethodDecl Name} (target : Value)
      (known : decl? = some (.method method))
      : (m.withNames names).callDeclared again arena method target args
        = m.callDeclared again arena method target args := by
    refine callDeclared_withNames (agree.subset ?_)
    simp [known, Declaration.names]
  unfold callMethod
  rw [text]
  refine bind_congr fun state => ?_
  dsimp only
  split
  · rfl
  · split
    · next method => exact declared _ rfl
    · rfl

/-- A step of a variable goes alike; the table is asked for the text of an error only. -/
theorem stepVariable_withNames {op : UnaryOp} {name : Name}
    (same : names.text name = m.names.text name)
    : (m.withNames names).stepVariable op name = m.stepVariable op name := by
  simp only [stepVariable, withNames, same]
  rfl

/-- The variable that an assignment writes to is a name of its target.
Witness: an identifier is assigned to under its own name.
-/
theorem mem_names_of_assignable? {expr : Expr} {name : Name}
    (known : assignable? expr = some name)
    : name ∈ expr.names := by
  unfold assignable? at known
  split at known
  · next other kind =>
    split at known
    · simp at known
    · obtain rfl := Option.some.inj known
      simp [Expr.names, kind, ExprKind.names]
  · simp at known

/-- A unary operator goes alike under both tables; its operand is a node of the arena. -/
theorem unary_withNames {op : UnaryOp} {operand : ExprId}
    (agree : Interner.AgreeOn arena.names m.names names)
    : (m.withNames names).unary again arena op operand = m.unary again arena op operand := by
  unfold unary
  split
  · split
    · rfl
    · next found =>
      split
      · next known =>
        refine stepVariable_withNames (agree _ ?_)
        exact Arena.names_expr found (mem_names_of_assignable? known)
      · rfl
  · rfl

/-- An assignment to a variable goes alike; the table is asked for the text of an error only. -/
theorem assignVariable_withNames {op : AssignOp} {name : Name}
    {type? : Option (ResolvedType Name)} {operand : Value}
    (same : names.text name = m.names.text name)
    : (m.withNames names).assignVariable op name type? operand
      = m.assignVariable op name type? operand := by
  simp only [assignVariable, variableValue, withNames, same]
  rfl

/-- An assignment goes alike under both tables; its target is a node of the arena. -/
theorem assign_withNames {op : AssignOp} {target value : ExprId}
    (agree : Interner.AgreeOn arena.names m.names names)
    : (m.withNames names).assign again arena op target value
      = m.assign again arena op target value := by
  unfold assign
  refine bind_congr fun operand => ?_
  split
  · rfl
  · next found =>
    split
    · next known =>
      refine assignVariable_withNames (agree _ ?_)
      exact Arena.names_expr found (mem_names_of_assignable? known)
    · rfl
    · rfl

/-- A new array has the same component under both tables. -/
theorem newArray_withNames {component : ResolvedType Name} {init : ArrayInit}
    (agree : Interner.AgreeOn component.names m.names names)
    : (m.withNames names).newArray again arena component init
      = m.newArray again arena component init := by
  have type : component.map names.text = component.map m.names.text :=
    ResolvedType.map_congr agree
  simp only [newArray, withNames, type]
  rfl

/-- A new object is made alike, by its constructor or its class. -/
theorem newObject_withNames {className : Name} {args : List ExprId}
    {decl? : Option (Declaration Name)} (same : names.text className = m.names.text className)
    (agree : Interner.AgreeOn (decl?.toList.flatMap (·.names)) m.names names)
    : (m.withNames names).newObject again arena className args decl?
      = m.newObject again arena className args decl? := by
  unfold newObject
  split
  · next decl =>
    have map : decl.map names.text = decl.map m.names.text :=
      ConstructorDecl.map_congr (agree.subset (by simp [Declaration.names]))
    simp only [withNames, map]
    rfl
  · simp only [withNames, same]
  · rw [resolveClass_withNames same]
    rfl

/-- What a type stands for is the same under both tables. -/
theorem typeValue_withNames {type? : Option (ResolvedType Name)}
    {decl? : Option (Declaration Name)}
    (types : Interner.AgreeOn (type?.toList.flatMap (·.names)) m.names names)
    (agree : Interner.AgreeOn (decl?.toList.flatMap (·.names)) m.names names)
    : (m.withNames names).typeValue type? decl? = m.typeValue type? decl? := by
  unfold typeValue
  split
  · rw [resolveClass_withNames (types _ (by simp [ResolvedType.names]))]
  · rw [resolveClass_withNames (agree _ (by simp [Declaration.names]))]
  · next type _ _ =>
    have map : type.map names.text = type.map m.names.text :=
      ResolvedType.map_congr (types.subset (by simp))
    simp only [withNames, map]
  · rfl

/-- A lambda is made alike, since its target has the same text.
Witness: whether a shape is known for the target depends on that text alone.
-/
theorem createLambda_withNames {params : List Name} {body : LambdaBody}
    {type? : Option (ResolvedType Name)}
    (types : Interner.AgreeOn (type?.toList.flatMap (·.names)) m.names names)
    : (m.withNames names).createLambda arena params body type?
      = m.createLambda arena params body type? := by
  have target : (m.withNames names).lambdaTarget type? = m.lambdaTarget type? := by
    unfold lambdaTarget
    split
    · next name => rw [withNames, types name (by simp [ResolvedType.names])]
    · next type _ =>
      have map : type.map names.text = type.map m.names.text :=
        ResolvedType.map_congr (types.subset (by simp))
      simp only [withNames, map]
    · rfl
  unfold createLambda
  rw [target]

/-- A literal is the same value under both tables; only a text is looked up. -/
theorem literal_withNames {value : Literal Name}
    (agree : Interner.AgreeOn value.names m.names names)
    : (m.withNames names).literal value = m.literal value := by
  cases value with
  | str text => exact congrArg Value.str (agree text (by simp [Literal.names]))
  | _ => rfl

/-- An expression of the arena is evaluated alike under both tables.
Witness: by cases on the kind of the expression, each of whose names is one of the arena.
-/
theorem evalExpr_withNames {expr : Expr} {receiver : Option Value}
    (agree : Interner.AgreeOn arena.names m.names names) (own : expr.names ⊆ arena.names)
    : (m.withNames names).evalExpr again arena expr receiver
      = m.evalExpr again arena expr receiver := by
  obtain ⟨kind, span, decl?, type?⟩ := expr
  have node := agree.subset own
  have kinds : Interner.AgreeOn kind.names m.names names := node.subset fun name member => by
    simp [Expr.names, member]
  have decls : Interner.AgreeOn (decl?.toList.flatMap (·.names)) m.names names :=
    node.subset fun name member => by
      simp only [Expr.names, List.mem_append, member, true_or, or_true]
  have types : Interner.AgreeOn (type?.toList.flatMap (·.names)) m.names names :=
    node.subset fun name member => by
      simp only [Expr.names, List.mem_append, member, or_true]
  cases kind with
  | literal value => exact congrArg pure (literal_withNames kinds)
  | ident name => exact identifier_withNames (kinds name (by simp [ExprKind.names])) decls
  | call name args => exact callMethod_withNames (kinds name (by simp [ExprKind.names])) decls
  | unary op operand => exact unary_withNames agree
  | assign op target value => exact assign_withNames agree
  | alloc allocation =>
      cases allocation with
      | array component init => exact newArray_withNames kinds
      | object className args =>
          exact newObject_withNames (kinds className (by simp [ExprKind.names])) decls
  | lambda params body => exact createLambda_withNames types
  | typeRef => exact typeValue_withNames types decls
  | _ => rfl

/-- A declaration binds its names alike, by induction on the declarators; it asks the table for
nothing.
-/
theorem declare_withNames {type : ResolvedType Name} {declarators : List Declarator}
    : (m.withNames names).declare again arena type declarators
      = m.declare again arena type declarators := by
  induction declarators with
  | nil => rfl
  | cons declarator rest ih =>
      simp only [declare, ih]
      rfl

/-- A declaration hands on the names of its declarators only, by induction on them.
Witness: each declarator binds its own name and hands it to the rest.
-/
theorem declare_bind_congr {α : Type} {type : ResolvedType Name}
    {declarators : List Declarator} {next next' : List (Name × Value) → Eval ω α}
    (same
      : ∀ bound, bound.map Prod.fst ⊆ declarators.map (·.name) → next bound = next' bound)
    : m.declare again arena type declarators >>= next
      = m.declare again arena type declarators >>= next' := by
  induction declarators generalizing next next' with
  | nil =>
      simp only [declare, pure_bind]
      exact same [] (List.nil_subset _)
  | cons declarator rest ih =>
      unfold declare
      split
      · exact ih fun bound included => same bound (List.subset_cons_of_subset _ included)
      · simp only [bind_assoc, pure_bind]
        refine bind_congr fun initial => bind_congr fun value => bind_congr fun _ => ih ?_
        intro bound included
        exact same _ (List.cons_subset_cons declarator.name included)

/-- The value of a declaration is alike, as its text names what was bound. -/
theorem declared_withNames {bound : List (Name × Value)}
    (agree : Interner.AgreeOn (bound.map Prod.fst) m.names names)
    : (m.withNames names).declared bound = m.declared bound := by
  unfold declared
  split
  · rfl
  · rfl
  · have entries (scene : Scene)
        : bound.map (fun entry => names.text entry.1 ++ " = " ++ scene.display entry.2)
          = bound.map fun entry => m.names.text entry.1 ++ " = " ++ scene.display entry.2 := by
      refine List.map_congr_left fun entry member => ?_
      rw [agree entry.1 (List.mem_map_of_mem member)]
    refine bind_congr fun scene => ?_
    exact congrArg (fun texts => pure (Value.str (", ".intercalate texts))) (entries scene)

/-- A statement of the arena is executed alike under both tables: only the summary of a declaration
shows the texts of names.
-/
theorem execStmt_withNames {stmt : Stmt}
    (agree : Interner.AgreeOn arena.names m.names names)
    (own : stmt.kind.names ⊆ arena.names)
    : (m.withNames names).execStmt again arena stmt = m.execStmt again arena stmt := by
  obtain ⟨kind, span⟩ := stmt
  cases kind with
  | varDecl type declarators =>
      simp only [execStmt, declare_withNames]
      refine declare_bind_congr fun bound included => declared_withNames (agree.subset ?_)
      exact List.Subset.trans included (List.Subset.trans (List.subset_append_right _ _) own)
  | _ => rfl

/-- A job on an arena is done alike under both tables.
Witness: a job is on a node of the arena, whose names are names of the arena.
-/
theorem perform_withNames {job : Job}
    (agree : Interner.AgreeOn job.arena.names m.names names)
    : (m.withNames names).perform again job = m.perform again job := by
  unfold perform
  split
  · split
    · rfl
    · next expr found =>
      exact congrArg (Eval.atSpan expr.span)
        (evalExpr_withNames agree (Arena.names_expr found))
  · split
    · rfl
    · next stmt found =>
      exact congrArg (Eval.atSpan stmt.span)
        (execStmt_withNames agree (Arena.names_stmt found))

end Machine

-----------------------------------------------------------------------------------------
-- Evaluations
-----------------------------------------------------------------------------------------

/-- Two tables agree on what the lambdas mention. -/
def Heap.AgreeOn (first second : Interner) (heap : Heap) : Prop :=
  ∀ closure ∈ heap.closures, Interner.AgreeOn closure.arena.names first second

namespace Coupling

/-- Follows a run whose lambdas mention only names on which two tables agree. -/
def renamed (first second : Interner) : Coupling ω :=
  invariant (·.heap.AgreeOn first second) fun _ _ => True

variable {first second : Interner}

/-- Only making a lambda adds names to a heap. -/
theorem renamed_invariant {m : Machine ω}
    : StatementInvariant m fun state => state.heap.AgreeOn first second where
  hosted := fun agree extended _ _ closure member => by
    rw [State.hosted, extended.closures] at member
    exact agree closure member
  assign := fun agree _ _ => agree
  define := fun agree _ _ => agree
  withBreak := fun agree _ => agree

/-- A lambda on whose arena the tables agree is invoked alike. -/
theorem renamed_invoke (m : Machine ω) {again again' : Job → Eval ω Value}
    (jobs
      : ∀ job : Job, Interner.AgreeOn job.arena.names first second
        → (renamed first second).Couples (again job) (again' job))
    {closure : Closure} (agree : Interner.AgreeOn closure.arena.names first second)
    (args : List Value)
    : (renamed first second).Couples (m.invoke again closure args)
        (m.invoke again' closure args) := by
  refine invariant_invoke m .all args fun heap _ _ _ => ?_
  have job : Interner.AgreeOn closure.job.arena.names first second := by
    rwa [closure.job_arena]
  exact ⟨(·.heap.AgreeOn first second), heap, jobs _ job, fun _ later => later⟩

/-- A job goes the same way under both tables, by induction on the fuel.
Witness: with less fuel the jobs inside go the same way, under each table; lambdas that are made on
the way get the arena of their job.
-/
theorem renamed_run (m : Machine ω) (fuel : Nat) {names : Interner} {job : Job}
    (agree : Interner.AgreeOn job.arena.names m.names names)
    : (renamed m.names names).Couples (m.run fuel job)
        ((m.withNames names).run fuel job) := by
  induction fuel generalizing job with
  | zero => exact .throw fun _ => trivial
  | succ fuel ih =>
      have effects : (renamed m.names names).StatementEffects m m :=
        renamed_invariant.effects .all fun _ _ => trivial
      unfold Machine.run
      rw [Machine.perform_withNames agree]
      refine effects.performNear (fun _ _ _ => trivial) (fun _ => True) (fun _ _ => trivial)
        (fun _ _ _ _ => trivial) (fun _ _ => trivial) (fun _ _ _ _ => trivial)
        (fun other same _ => ih (same ▸ agree))
        (fun related member args => renamed_invoke m (fun _ => ih) (related.2 _ member) args)
        fun params body type? _ => ?_
      refine invariant_createLambda m .all type? fun heap same _ => ?_
      intro other member
      rcases Array.mem_push.mp member with known | rfl
      · exact heap other known
      · rwa [same]

end Coupling

/-- A statement runs alike under both tables, and the lambdas it makes mention no other names. -/
theorem Machine.exec_withNames (m : Machine ω) {names : Interner} {arena : Arena} (root : StmtId)
    (agree : Interner.AgreeOn arena.names m.names names) {state : State ω}
    (heap : state.heap.AgreeOn m.names names)
    : ((m.withNames names).exec arena root).run state = (m.exec arena root).run state
      ∧ ((m.exec arena root).run state).2.heap.AgreeOn m.names names := by
  have job : Interner.AgreeOn (Job.exec arena root).arena.names m.names names := agree
  obtain ⟨value, same, later⟩ :=
    (Coupling.renamed_run m (fuelFor arena state) job).agree (fun _ => id) ⟨rfl, heap⟩
  exact ⟨Prod.ext value same.symm, later⟩

end Scratchpad
