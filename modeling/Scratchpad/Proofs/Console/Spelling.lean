import Scratchpad.Program.Written
import Scratchpad.Proofs.Console.History
import Scratchpad.Proofs.Program.Building
import Scratchpad.Proofs.Program.Renaming

/-! Building one program over two tables of names. Whatever the tables hold already, the arenas are
alike up to names of the same text, and an index means the same node in both.
-/

namespace Scratchpad

variable {α β : Type}

-----------------------------------------------------------------------------------------
-- Tables
-----------------------------------------------------------------------------------------

namespace Interner

/-- Two names that stand for one text, each in its own table. -/
structure SameText (first second : Interner) (name name' : Name) : Prop where
  known : first.Knows name
  known' : second.Knows name'
  text : second.text name' = first.text name

/-- A reserved name stands for one text in all sound tables. -/
theorem Sound.sameText_reserved {first second : Interner} (sound : first.Sound)
    (sound' : second.Sound) {name : Name} (reserved : ({} : Interner).Knows name)
    : first.SameText second name name where
  known := sound.reserved.knows reserved
  known' := sound'.reserved.knows reserved
  text := (sound'.reserved.text reserved).trans (sound.reserved.text reserved).symm

end Interner

/-- Programs that are the same but for their names, which stand for the same texts in two tables. -/
def Likeness.byText (first second : Interner) : Likeness := .upTo (first.SameText second)

/-- The tables of two builders or consoles. -/
structure Tables where
  first : Interner
  second : Interner
  sound : first.Sound
  sound' : second.Sound

namespace Tables

variable {t later last : Tables}

abbrev likeness (t : Tables) : Likeness := .byText t.first t.second

/-- Names of the same text are told apart alike in two sound tables.
Witness: a sound table tells its names apart by their texts.
-/
theorem faithful (t : Tables) : t.likeness.Faithful where
  eq_iff := fun {name name' other other'} same others => by
    constructor
    · rintro rfl
      exact t.sound.name_eq same.known others.known (same.text.symm.trans others.text)
    · rintro rfl
      exact t.sound'.name_eq same.known' others.known' (same.text.trans others.text.symm)
  this := t.sound.sameText_reserved t.sound' (by decide)
  length := t.sound.sameText_reserved t.sound' (by decide)

/-- Both tables know all their names still. -/
structure Grows (t later : Tables) : Prop where
  first : t.first.Grows later.first
  second : t.second.Grows later.second

/-- A pair of tables that nothing was added to has grown into itself. -/
theorem Grows.refl (t : Tables) : t.Grows t := ⟨.refl _, .refl _⟩

/-- Growing twice is growing, in each of the two tables. -/
theorem Grows.trans (early : t.Grows later) (late : later.Grows last) : t.Grows last :=
  ⟨early.first.trans late.first, early.second.trans late.second⟩

/-- Names that had the same text have it in all later tables, since neither table changes a text
that it knows.
-/
theorem Grows.sameText (grown : t.Grows later) {name name' : Name}
    (same : t.first.SameText t.second name name')
    : later.first.SameText later.second name name' where
  known := grown.first.knows same.known
  known' := grown.second.knows same.known'
  text :=
    calc later.second.text name'
      _ = t.second.text name' := grown.second.text same.known'
      _ = t.first.text name := same.text
      _ = later.first.text name := (grown.first.text same.known).symm

/-- What is alike stays alike when texts are interned. -/
theorem Grows.le (grown : t.Grows later) : t.likeness.Le later.likeness :=
  Likeness.upTo_le fun _ _ => grown.sameText

/-- The tables after a text has been interned in both. -/
def intern (t : Tables) (text : String) : Tables where
  first := (t.first.intern text).2
  second := (t.second.intern text).2
  sound := t.sound.intern text
  sound' := t.sound'.intern text

/-- Interning one text in both tables lets both grow. -/
theorem grows_intern (t : Tables) (text : String) : t.Grows (t.intern text) :=
  ⟨.intern _ text, .intern _ text⟩

/-- Interning one text in both tables gives names of the same text.
Witness: each table reads the text back from the name that it gave.
-/
theorem sameText_intern (t : Tables) (text : String)
    : (t.intern text).likeness.Names (t.first.intern text).1 (t.second.intern text).1 := by
  obtain ⟨known, read⟩ := t.sound.text_intern text
  obtain ⟨known', read'⟩ := t.sound'.text_intern text
  exact ⟨known, known', read'.trans read.symm⟩

/-- Changing alike elements alike at one index keeps lists alike, by induction on them.
Witness: at index zero the heads are changed, and behind them the tails.
-/
theorem forall₂_modify {R : α → β → Prop} {first : List α} {second : List β}
    {change : α → α} {change' : β → β} (alike : List.Forall₂ R first second)
    (changed : ∀ item item', R item item' → R (change item) (change' item')) (index : Nat)
    : List.Forall₂ R (first.modify index change) (second.modify index change') := by
  induction alike generalizing index with
  | nil => cases index <;> exact .nil
  | cons head tail ih =>
      cases index with
      | zero => exact .cons (changed _ _ head) tail
      | succ index => exact .cons head (ih index)

-----------------------------------------------------------------------------------------
-- Two builds
-----------------------------------------------------------------------------------------

/-- What two builders give and hold, after they began with the given tables. -/
inductive Built (t : Tables) (R : Tables → α → α → Prop) : α × Builder → α × Builder → Prop
  | intro {later value value' arena arena'} (grown : t.Grows later)
    (arenas : later.likeness.Arenas arena arena') (same : R later value value')
    : t.Built R (value, ⟨arena, later.first⟩) (value', ⟨arena', later.second⟩)

/-- With the given tables and alike arenas, two steps keep the arenas alike, and what they give
is as the relation says under the tables they leave.
-/
def MakeBy (t : Tables) (R : Tables → α → α → Prop) (first second : Build α) : Prop :=
  ∀ arena arena', t.likeness.Arenas arena arena'
    → t.Built R (first.run ⟨arena, t.first⟩) (second.run ⟨arena', t.second⟩)

/-- Two steps that keep arenas alike and give the same. -/
abbrev Make (t : Tables) (first second : Build α) : Prop :=
  t.MakeBy (fun _ value value' => value' = value) first second

variable {R : Tables → α → α → Prop} {S : Tables → β → β → Prop}

/-- Giving a value builds nothing. -/
theorem MakeBy.pure {value value' : α} (same : R t value value')
    : t.MakeBy R (pure value) (pure value') :=
  fun _ _ arenas => .intro (.refl t) arenas same

/-- Two building steps stay alike if their parts do.
Witness: what comes second is built over the tables that the first part leaves, which have only
grown.
-/
theorem MakeBy.bind {first second : Build α} {next next' : α → Build β}
    (start : t.MakeBy R first second)
    (rest : ∀ {later value value'}, t.Grows later → R later value value'
      → later.MakeBy S (next value) (next' value'))
    : t.MakeBy S (first >>= next) (second >>= next') := by
  intro arena arena' arenas
  have built := start _ _ arenas
  rw [Build.run_bind, Build.run_bind]
  generalize first.run ⟨arena, t.first⟩ = left at built
  generalize second.run ⟨arena', t.second⟩ = right at built
  cases built with
  | @intro later value value' _ _ grown arenas same =>
      -- The next steps start from the tables that the first ones leave.
      have built := rest grown same _ _ arenas
      dsimp only
      generalize (next value).run _ = left at built ⊢
      generalize (next' value').run _ = right at built ⊢
      cases built with
      | intro grown' arenas same => exact .intro (grown.trans grown') arenas same

/-- After parts with the same result the rest goes on from that result. -/
theorem Make.bind {first second : Build α} {next next' : α → Build β}
    (start : t.Make first second)
    (rest : ∀ {later value}, t.Grows later → later.MakeBy S (next value) (next' value))
    : t.MakeBy S (first >>= next) (second >>= next') := by
  refine MakeBy.bind start fun {later value value'} grown same => ?_
  obtain rfl : value' = value := same
  exact rest grown

/-- What is made of related results is related. -/
theorem MakeBy.map {first second : Build α} {f f' : α → β}
    (start : t.MakeBy R first second)
    (rest : ∀ {later value value'}, R later value value' → S later (f value) (f' value'))
    : t.MakeBy S (f <$> first) (f' <$> second) := by
  rw [map_eq_pure_bind, map_eq_pure_bind]
  exact start.bind fun _ same => .pure (rest same)

/-- What holds of the elements holds still after later ones are built.
Witness: by induction on the items; each builds over tables that have grown since.
-/
theorem MakeBy.mapM {κ : Type} {act act' : κ → Build α}
    (each : ∀ item (t : Tables), t.MakeBy R (act item) (act' item))
    (kept : ∀ {t later : Tables} {value value'}, t.Grows later → R t value value'
      → R later value value')
    (items : List κ) (t : Tables)
    : t.MakeBy (fun later => List.Forall₂ (R later)) (items.mapM act) (items.mapM act') := by
  induction items generalizing t with
  | nil => exact .pure .nil
  | cons item rest ih =>
      rw [List.mapM_cons, List.mapM_cons]
      refine (each item t).bind fun _ same => ?_
      refine (ih _).bind fun grown others => ?_
      exact .pure (.cons (kept grown same) others)

-----------------------------------------------------------------------------------------
-- Interning
-----------------------------------------------------------------------------------------

/-- One text becomes names of the same text. -/
theorem make_name (text : String) (t : Tables)
    : t.MakeBy (fun later => later.likeness.Names) (Build.name text) (Build.name text) :=
  fun _ _ arenas =>
    .intro (t.grows_intern text) ((t.grows_intern text).le.arenas arenas) (t.sameText_intern text)

/-- A list of texts becomes names of the same texts, one by one. -/
theorem make_names (texts : List String) (t : Tables)
    : t.MakeBy (fun later => List.Forall₂ later.likeness.Names) (texts.mapM Build.name)
        (texts.mapM Build.name) :=
  .mapM make_name (fun grown => grown.le.names _ _) texts t

/-- A written type becomes types with names of the same texts, by induction on the nesting of
arrays.
-/
theorem make_type (written : ResolvedType String) (t : Tables)
    : t.MakeBy (fun later => later.likeness.Types) (Build.type written) (Build.type written) := by
  induction written with
  | void => exact .pure .void
  | null => exact .pure .null
  | primitive type => exact .pure .primitive
  | classType className => exact (make_name className t).map .classType
  | array component ih => exact ih.map .array

/-- A list of written types becomes alike types, one by one. -/
theorem make_types (written : List (ResolvedType String)) (t : Tables)
    : t.MakeBy (fun later => List.Forall₂ later.likeness.Types) (written.mapM Build.type)
        (written.mapM Build.type) :=
  .mapM make_type (fun grown => grown.le.types _ _) written t

/-- A written declaration becomes alike declarations.
Witness: by cases on the declaration; what was interned first is still alike after the rest.
-/
theorem make_declaration (written : Declaration String) (t : Tables)
    : t.MakeBy (fun later => later.likeness.Decls) (Build.declaration written)
        (Build.declaration written) := by
  cases written with
  | method decl =>
      refine (make_types decl.params t).bind fun _ params => ?_
      refine (make_type decl.returns _).bind fun grown returns => ?_
      refine (make_name decl.declaring _).bind fun grown' declaring => ?_
      refine (make_name decl.name _).bind fun grown'' name => ?_
      refine .pure (.method ⟨grown''.sameText declaring, name, ?_, ?_, rfl⟩)
      · exact params.imp ((grown.trans grown').trans grown'').le.types
      · exact (grown'.trans grown'').le.types _ _ returns
  | constructor decl =>
      refine (make_types decl.params t).bind fun _ params => ?_
      refine (make_name decl.declaring _).bind fun grown declaring => ?_
      exact .pure (.constructor ⟨declaring, params.imp grown.le.types⟩)
  | field decl =>
      refine (make_type decl.type t).bind fun _ type => ?_
      refine (make_name decl.declaring _).bind fun grown declaring => ?_
      refine (make_name decl.name _).bind fun grown' name => ?_
      refine .pure (.field ⟨grown'.sameText declaring, name, ?_, rfl⟩)
      exact (grown.trans grown').le.types _ _ type
  | «variable» decl =>
      refine (make_type decl.type t).bind fun _ type => ?_
      refine (make_name decl.name _).bind fun grown name => ?_
      exact .pure (.variable ⟨name, grown.le.types _ _ type⟩)
  | classDecl className => exact (make_name className t).map .classDecl
  | package package => exact (make_name package t).map .package

-----------------------------------------------------------------------------------------
-- Nodes
-----------------------------------------------------------------------------------------

/-- Adding alike expressions gives the same id.
Witness: there were equally many expressions on both sides.
-/
theorem make_expr {node node' : Expr} (alike : t.likeness.Exprs node node')
    : t.Make (Build.expr node) (Build.expr node') := by
  intro arena arena' arenas
  have length := arenas.exprs.length_eq
  simp only [Array.length_toList] at length
  refine .intro (.refl t) ⟨?_, arenas.stmts⟩ (congrArg ExprId.mk length.symm)
  simp only [Array.toList_push]
  exact List.rel_append arenas.exprs (.cons alike .nil)

/-- Adding alike statements gives the same id, as there were equally many. -/
theorem make_stmt {node node' : Stmt} (alike : t.likeness.Stmts node node')
    : t.Make (Build.stmt node) (Build.stmt node') := by
  intro arena arena' arenas
  have length := arenas.stmts.length_eq
  simp only [Array.length_toList] at length
  refine .intro (.refl t) ⟨arenas.exprs, ?_⟩ (congrArg StmtId.mk length.symm)
  simp only [Array.toList_push]
  exact List.rel_append arenas.stmts (.cons alike .nil)

/-- One kind of expression, without anything noted on it. -/
theorem make_kind {kind kind' : ExprKind} (alike : t.likeness.ExprKinds kind kind')
    : t.Make (Build.expr { kind }) (Build.expr { kind := kind' }) :=
  make_expr ⟨alike, rfl, .none, .none⟩

/-- One kind of statement, without a place. -/
theorem make_stmtKind {kind kind' : StmtKind} (alike : t.likeness.StmtKinds kind kind')
    : t.Make (Build.stmt { kind }) (Build.stmt { kind := kind' }) :=
  make_stmt ⟨alike, rfl⟩

/-- Changing alike expressions alike keeps arenas alike. -/
theorem make_updateExpr {change change' : Expr → Expr} (id : ExprId)
    (alike : ∀ node node', t.likeness.Exprs node node'
      → t.likeness.Exprs (change node) (change' node'))
    : t.Make (Build.updateExpr id change) (Build.updateExpr id change') := by
  intro arena arena' arenas
  refine .intro (.refl t) ⟨?_, arenas.stmts⟩ rfl
  simp only [Arena.updateExpr, Array.toList_modify]
  exact forall₂_modify arenas.exprs alike id.index

/-- Annotating a node with alike declarations keeps arenas alike. -/
theorem make_annotate (id : ExprId) {decl decl' : Declaration Name}
    (same : t.likeness.Decls decl decl')
    : t.Make (Build.annotate id decl) (Build.annotate id decl') :=
  make_updateExpr id fun _ _ alike => { alike with decl? := .some same }

/-- Noting alike types of a node keeps arenas alike. -/
theorem make_typed (id : ExprId) {type type' : ResolvedType Name}
    (same : t.likeness.Types type type')
    : t.Make (Build.typed id type) (Build.typed id type') :=
  make_updateExpr id fun _ _ alike => { alike with type? := .some same }

/-- Placing an expression at a span keeps arenas alike. -/
theorem make_place (id : ExprId) (span : Span)
    : t.Make (Build.place id span) (Build.place id span) :=
  make_updateExpr id fun _ _ alike => { alike with span := rfl }

/-- Placing a statement at a span keeps arenas alike. -/
theorem make_placeStmt (id : StmtId) (span : Span)
    : t.Make (Build.placeStmt id span) (Build.placeStmt id span) := by
  intro arena arena' arenas
  have placed (node node' : Stmt) (alike : t.likeness.Stmts node node')
      : t.likeness.Stmts { node with span } { node' with span } :=
    ⟨alike.kind, rfl⟩
  refine .intro (.refl t) ⟨arenas.exprs, ?_⟩ rfl
  simp only [Arena.updateStmt, Array.toList_modify]
  exact forall₂_modify arenas.stmts placed id.index

/-- An expression and its type are noted alike, where the type is still alike after the node is
added.
-/
theorem make_exprOfType {kind kind' : ExprKind} (alike : t.likeness.ExprKinds kind kind')
    {type type' : ResolvedType Name} (same : t.likeness.Types type type')
    : t.Make (Build.exprOfType kind type) (Build.exprOfType kind' type') := by
  refine (make_kind alike).bind fun grown => ?_
  refine (make_typed _ (grown.le.types _ _ same)).bind fun _ => ?_
  exact .pure rfl

-----------------------------------------------------------------------------------------
-- Nodes that mention texts
-----------------------------------------------------------------------------------------

/-- A literal is built alike; only a text has to be interned for it. -/
theorem make_literal (value : Literal String) (t : Tables)
    : t.Make (Build.literal value) (Build.literal value) := by
  cases value with
  | str text =>
      refine (make_name text t).bind fun _ same => ?_
      exact make_kind (.literal (.str same))
  | null => exact make_kind (.literal .null)
  | bool value => exact make_kind (.literal .bool)
  | int value => exact make_kind (.literal .int)
  | long value => exact make_kind (.literal .long)
  | float bits => exact make_kind (.literal .float)
  | double bits => exact make_kind (.literal .double)
  | char value => exact make_kind (.literal .char)

/-- An identifier is built alike. -/
theorem make_ident (text : String) (t : Tables)
    : t.Make (Build.ident text) (Build.ident text) :=
  (make_name text t).bind fun _ same => make_kind (.ident same)

/-- A class identifier is built alike: its text, its class and then the note. -/
theorem make_classIdent (text className : String) (t : Tables)
    : t.Make (Build.classIdent text className) (Build.classIdent text className) := by
  refine (make_ident text t).bind fun _ => ?_
  refine (make_name className _).bind fun _ same => ?_
  refine (make_annotate _ (.classDecl same)).bind fun _ => ?_
  exact .pure rfl

/-- A package identifier is built alike: its text, its package and then the note. -/
theorem make_packageIdent (text package : String) (t : Tables)
    : t.Make (Build.packageIdent text package) (Build.packageIdent text package) := by
  refine (make_ident text t).bind fun _ => ?_
  refine (make_name package _).bind fun _ same => ?_
  refine (make_annotate _ (.package same)).bind fun _ => ?_
  exact .pure rfl

/-- A call is built alike. -/
theorem make_call (text : String) (args : List ExprId) (t : Tables)
    : t.Make (Build.call text args) (Build.call text args) :=
  (make_name text t).bind fun _ same => make_kind (.call same)

/-- A new array is built alike, with the array type of its component. -/
theorem make_newArray (component : ResolvedType String) (init : ArrayInit) (t : Tables)
    : t.Make (Build.newArray component init) (Build.newArray component init) :=
  (make_type component t).bind fun _ same => make_exprOfType (.newArray same) (.array same)

/-- A new object is built alike, with its class as type. -/
theorem make_newObject (className : String) (args : List ExprId) (t : Tables)
    : t.Make (Build.newObject className args) (Build.newObject className args) :=
  (make_name className t).bind fun _ same => make_exprOfType (.newObject same) (.classType same)

/-- A lambda is built alike: its parameters, its node, and its target if it has one. -/
theorem make_lambda (params : List String) (body : LambdaBody) (target? : Option String)
    (t : Tables)
    : t.Make (Build.lambda params body target?) (Build.lambda params body target?) := by
  refine (make_names params t).bind fun _ same => ?_
  refine (make_kind (.lambda same)).bind fun _ => ?_
  cases target? with
  | none => exact .pure rfl
  | some target =>
      refine (make_name target _).bind fun _ same => ?_
      refine (make_typed _ (.classType same)).bind fun _ => ?_
      exact .pure rfl

/-- A for-each loop is built alike: its type, its variable and then the statement. -/
theorem make_forEach (type : ResolvedType String) (var : String) (iterable : ExprId)
    (body : StmtId) (t : Tables)
    : t.Make (Build.forEach type var iterable body) (Build.forEach type var iterable body) := by
  refine (make_type type t).bind fun _ typed => ?_
  refine (make_name var _).bind fun grown named => ?_
  exact make_stmtKind (.forEach named (grown.le.types _ _ typed))

/-- A declaration is built alike.
Witness: its declarators are interned one by one and stay alike as the tables grow.
-/
theorem make_varDecl (type : ResolvedType String) (declarators : List (String × Option ExprId))
    (t : Tables)
    : t.Make (Build.varDecl type declarators) (Build.varDecl type declarators) := by
  have make_declarator (declarator : String × Option ExprId) (t : Tables)
      : t.MakeBy (fun later => later.likeness.Declarators)
          (do
            let name ← Build.name declarator.1
            pure { name, init? := declarator.2 })
          (do
            let name ← Build.name declarator.1
            pure { name, init? := declarator.2 }) :=
    (make_name declarator.1 t).bind fun _ named => .pure ⟨named, rfl⟩
  refine (make_type type t).bind fun _ typed => ?_
  have kept {t later : Tables} {first second : Declarator} (grown : t.Grows later)
      (same : t.likeness.Declarators first second)
      : later.likeness.Declarators first second :=
    ⟨grown.sameText same.name, same.init?⟩
  refine (MakeBy.mapM make_declarator kept declarators _).bind fun grown declared => ?_
  exact make_stmtKind (.varDecl (grown.le.types _ _ typed) declared)

end Tables

-----------------------------------------------------------------------------------------
-- Programs
-----------------------------------------------------------------------------------------

namespace Written

open Tables

mutual

/-- A written expression is built alike over any two tables, by induction on it.
Witness: each part is built over the tables that the parts before it leave.
-/
theorem Expr.makes (t : Tables) : (expr : Expr) → t.Make expr.build expr.build
  | .literal value => make_literal value t
  | .ident name => make_ident name t
  | .this => make_kind (.ident t.faithful.this)
  | .classIdent name className => make_classIdent name className t
  | .packageIdent name package => make_packageIdent name package t
  | .call args name =>
    (makes_exprs t args).bind fun {later args} _ => make_call name args later
  | .binary op left right =>
    (left.makes t).bind fun _ => (right.makes _).bind fun _ => make_kind .binary
  | .unary op operand => (operand.makes t).bind fun _ => make_kind .unary
  | .ternary cond thenExpr elseExpr =>
    (cond.makes t).bind fun _ => (thenExpr.makes _).bind fun _ => (elseExpr.makes _).bind fun _ =>
      make_kind .ternary
  | .assign op target value =>
    (target.makes t).bind fun _ => (value.makes _).bind fun _ => make_kind .assign
  | .index array index =>
    (array.makes t).bind fun _ => (index.makes _).bind fun _ => make_kind .index
  | .chain segments => (makes_exprs t segments).bind fun _ => make_kind .chain
  | .newArray items component =>
    (makes_exprs t items).bind fun {later items} _ =>
      make_newArray component (.elements items) later
  | .newSized size component =>
    (size.makes t).bind fun {later size} _ => make_newArray component (.dimension size) later
  | .newObject args className =>
    (makes_exprs t args).bind fun {later args} _ => make_newObject className args later
  | .lambda body params target? =>
    (body.makes t).bind fun {later body} _ => make_lambda params body target? later
  | .typeRef => make_kind .typeRef
  | .noted expr span? type? decl? => by
    refine (expr.makes t).bind fun {later id} _ => ?_
    refine Make.bind (?_ : later.Make (span?.forM _) (span?.forM _)) fun {later _} _ => ?_
    · cases span? with
      | none => exact .pure rfl
      | some span => exact make_place id span
    refine Make.bind (?_ : later.Make (type?.forM _) (type?.forM _)) fun {later _} _ => ?_
    · cases type? with
      | none => exact .pure rfl
      | some type => exact (make_type type _).bind fun _ same => make_typed id same
    refine Make.bind (?_ : later.Make (decl?.forM _) (decl?.forM _)) fun {later _} _ => ?_
    · cases decl? with
      | none => exact .pure rfl
      | some decl => exact (make_declaration decl _).bind fun _ same => make_annotate id same
    exact .pure rfl

/-- The body of a lambda is built alike. -/
theorem Body.makes (t : Tables) : (body : Body) → t.Make body.build body.build
  | .expr expr => (expr.makes t).map (congrArg LambdaBody.expr)
  | .block stmt => (stmt.makes t).map (congrArg LambdaBody.block)

/-- A declarator is built alike, with or without an initial value. -/
theorem Declarator.makes (t : Tables)
    : (declarator : Declarator) → t.Make declarator.build declarator.build
  | .mk _ init? => (makes_expr? t init?).bind fun _ => .pure rfl

/-- A written statement is built alike over any two tables, by induction on it, with its
expressions.
-/
theorem Stmt.makes (t : Tables) : (stmt : Stmt) → t.Make stmt.build stmt.build
  | .block body => (makes_stmts t body).bind fun _ => make_stmtKind .block
  | .expr expr => (expr.makes t).bind fun _ => make_stmtKind .expr
  | .ifElse cond thenBranch elseBranch? =>
    (cond.makes t).bind fun _ => (thenBranch.makes _).bind fun _ =>
      (makes_stmt? _ elseBranch?).bind fun _ => make_stmtKind .ifElse
  | .whileLoop cond body =>
    (cond.makes t).bind fun _ => (body.makes _).bind fun _ => make_stmtKind .whileLoop
  | .doWhile body cond =>
    (body.makes t).bind fun _ => (cond.makes _).bind fun _ => make_stmtKind .doWhile
  | .forLoop init cond? update body =>
    (makes_stmts t init).bind fun _ => (makes_expr? _ cond?).bind fun _ =>
      (makes_exprs _ update).bind fun _ => (body.makes _).bind fun _ => make_stmtKind .forLoop
  | .forEach iterable body type var =>
    (iterable.makes t).bind fun {_ iterable} _ => (body.makes _).bind fun {later body} _ =>
      make_forEach type var iterable body later
  | .varDecl declarators type =>
    (makes_declarators t declarators).bind fun {later declarators} _ =>
      make_varDecl type declarators later
  | .returns value? => (makes_expr? t value?).bind fun _ => make_stmtKind .returns
  | .breakLoop => make_stmtKind .breakLoop
  | .synchronized lock body =>
    (lock.makes t).bind fun _ => (body.makes _).bind fun _ => make_stmtKind .synchronized
  | .unsupported _ => make_stmtKind .unsupported
  | .placed stmt span =>
    (stmt.makes t).bind fun {_ id} _ => (make_placeStmt id span).bind fun _ => .pure rfl

/-- A list of expressions is built alike, one after the other. -/
theorem makes_exprs (t : Tables)
    : (exprs : List Expr) → t.Make (buildExprs exprs) (buildExprs exprs)
  | [] => .pure rfl
  | expr :: rest => (expr.makes t).bind fun _ => (makes_exprs _ rest).bind fun _ => .pure rfl

/-- An expression that may be missing is built alike. -/
theorem makes_expr? (t : Tables)
    : (expr? : Option Expr) → t.Make (buildExpr? expr?) (buildExpr? expr?)
  | none => .pure rfl
  | some expr => (expr.makes t).map (congrArg some)

/-- A list of statements is built alike, one after the other. -/
theorem makes_stmts (t : Tables)
    : (stmts : List Stmt) → t.Make (buildStmts stmts) (buildStmts stmts)
  | [] => .pure rfl
  | stmt :: rest => (stmt.makes t).bind fun _ => (makes_stmts _ rest).bind fun _ => .pure rfl

/-- A statement that may be missing is built alike. -/
theorem makes_stmt? (t : Tables)
    : (stmt? : Option Stmt) → t.Make (buildStmt? stmt?) (buildStmt? stmt?)
  | none => .pure rfl
  | some stmt => (stmt.makes t).map (congrArg some)

/-- A list of declarators is built alike, one after the other. -/
theorem makes_declarators (t : Tables)
    : (declarators : List Declarator)
      → t.Make (buildDeclarators declarators) (buildDeclarators declarators)
  | [] => .pure rfl
  | declarator :: rest =>
    (declarator.makes t).bind fun _ => (makes_declarators _ rest).bind fun _ => .pure rfl

end

def Submission.build (submission : Submission) : Build SourceStatement := do
  let root ← submission.stmt.build
  pure { root, errors := submission.errors }

/-- A unit is what its submissions build on an empty arena. -/
theorem buildUnit_eq (names : Interner) (program : List Submission)
    : buildUnit names program
      = ({
            arena := ((program.mapM Submission.build).run ⟨{}, names⟩).2.arena
            statements := ((program.mapM Submission.build).run ⟨{}, names⟩).1
          },
          ((program.mapM Submission.build).run ⟨{}, names⟩).2.names) :=
  rfl

/-- One program over two tables becomes one list of statements over alike arenas.
Witness: every submission is built alike, over the tables that the ones before it leave.
-/
theorem buildUnit_alike (t : Tables) (program : List Submission)
    : ∃ later : Tables, t.Grows later
        ∧ (buildUnit t.first program).2 = later.first
        ∧ (buildUnit t.second program).2 = later.second
        ∧ (buildUnit t.second program).1.statements = (buildUnit t.first program).1.statements
        ∧ later.likeness.Arenas (buildUnit t.first program).1.arena
            (buildUnit t.second program).1.arena := by
  have each (submission : Submission) (t : Tables) : t.Make submission.build submission.build :=
    (submission.stmt.makes t).bind fun _ => .pure rfl
  have built := MakeBy.mapM each (fun _ same => same) program t {} {} ⟨.nil, .nil⟩
  rw [buildUnit_eq, buildUnit_eq]
  generalize (program.mapM Submission.build).run ⟨{}, t.first⟩ = left at built ⊢
  generalize (program.mapM Submission.build).run ⟨{}, t.second⟩ = right at built ⊢
  cases built with
  | intro grown arenas same =>
      have statements := List.Forall₂.flip same
      rw [List.forall₂_eq_eq_eq] at statements
      exact ⟨_, grown, rfl, rfl, statements, arenas⟩

end Written

end Scratchpad
