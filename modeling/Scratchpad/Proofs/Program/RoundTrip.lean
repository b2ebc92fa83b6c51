import Scratchpad.Console
import Scratchpad.Program.Encoding

/-! What is written as JSON reads back as it was: numbers, enumerations, lists, annotations, nodes
and whole units. A form is lawful if reading undoes writing, and the laws of the parts carry those
of the whole.
-/

namespace Scratchpad

/-- Reading gives back what was written. -/
class LawfulForm (α : Type) [JsonForm α] : Prop where
  ofJson?_toJson (value : α) : (ofJson? (toJson value) : Option α) = some value

export LawfulForm (ofJson?_toJson)

/-- A form that is never written as null, so that an optional value can be told from a missing
one.
-/
class PresentForm (α : Type) [JsonForm α] : Prop extends LawfulForm α where
  toJson_ne_null (value : α) : toJson value ≠ .null

variable {α β : Type}

-----------------------------------------------------------------------------------------
-- Parts
-----------------------------------------------------------------------------------------

section Parts

variable [JsonForm α] [LawfulForm α]

/-- A reader that wraps the contents of a tag reads what was written under that tag. -/
theorem read_tagged {tag : String} {value : α} {read : Json → Option β} (wrap : α → β)
    (reads : ∀ contents, read (.object [(tag, contents)]) = (ofJson? contents).map wrap)
    : read (Json.tagged tag value) = some (wrap value) := by
  rw [Json.tagged, reads, ofJson?_toJson, Option.map_some]

/-- A reader that starts with a field goes on with what was written there. -/
theorem read_field {fields : List (String × Json)} {name : String} {value : α}
    {next : α → Option β} {result : Option β}
    (found : fields.lookup name = some (toJson value)) (rest : next value = result)
    : ((Json.object fields).read? name >>= next) = result := by
  have read : (Json.object fields).read? name = some value := by
    rw [Json.read?, Json.field?, found, Option.bind_some, ofJson?_toJson]
  rw [read]
  exact rest

/-- A form that wraps another one reads as that one does. -/
theorem read_wrapped (wrap : α → β) (value : α)
    : (ofJson? (toJson value)).map wrap = some (wrap value) := by
  rw [ofJson?_toJson, Option.map_some]

/-- Lists read item by item, by induction on them.
Witness: the first item reads back by its own form.
-/
theorem readAll?_map_toJson (items : List α)
    : JsonForm.readAll? (items.map toJson) = some items := by
  induction items with
  | nil => rfl
  | cons item rest ih =>
      rw [List.map_cons, JsonForm.readAll?, ofJson?_toJson, ih]
      rfl

end Parts

/-- A reader that tells variants apart goes on with the tag and the contents. -/
theorem read_variant {tag : String} {contents : Json} {next : String × Json → Option β}
    {result : Option β} (rest : next (tag, contents) = result)
    : ((Json.tagged tag contents).variant? >>= next) = result :=
  rest

/-- A name reads back from where it is written. -/
theorem named?_named (name : Name) [LawfulForm Name] : named? (named name) = some name :=
  ofJson?_toJson name

/-- A field with a name in it reads back, and reading goes on with that name. -/
theorem read_named [LawfulForm Name] {fields : List (String × Json)} {name : String}
    {value : Name} {next : Name → Option β} {result : Option β}
    (found : fields.lookup name = some (named value)) (rest : next value = result)
    : (((Json.object fields).field? name).bind named? >>= next) = result := by
  rw [Json.field?, found, Option.bind_some, named?_named]
  exact rest

/-- An integer within the bounds reads as itself. -/
theorem read_integer {least limit number : Int} {wrap : Int → β} (low : least ≤ number)
    (high : number < limit)
    : ((Json.number number).integer? least limit).map wrap = some (wrap number) := by
  rw [Json.integer?, if_pos ⟨low, high⟩, Option.map_some]

-----------------------------------------------------------------------------------------
-- Numbers, texts, lists
-----------------------------------------------------------------------------------------

instance : LawfulForm Bool where
  ofJson?_toJson _ := rfl

instance : LawfulForm Nat where
  ofJson?_toJson _ := rfl

instance : LawfulForm String where
  ofJson?_toJson _ := rfl

instance : LawfulForm Int32 where
  ofJson?_toJson value := by
    have low : -2147483648 ≤ value.toInt := value.le_toInt
    have high : value.toInt < 2147483648 := value.toInt_lt
    exact (read_integer low high).trans (by rw [Int32.ofInt_toInt])

instance : LawfulForm Int64 where
  ofJson?_toJson value := by
    have low : -9223372036854775808 ≤ value.toInt := value.le_toInt
    have high : value.toInt < 9223372036854775808 := value.toInt_lt
    exact (read_integer low high).trans (by rw [Int64.ofInt_toInt])

instance : LawfulForm UInt32 where
  ofJson?_toJson value := by
    have range : value.toNat < 4294967296 := value.toNat_lt
    refine (read_integer (by omega) (by omega)).trans ?_
    rw [Int.toNat_natCast, UInt32.ofNat_toNat]

instance : LawfulForm UInt64 where
  ofJson?_toJson value := by
    have range : value.toNat < 18446744073709551616 := value.toNat_lt
    refine (read_integer (by omega) (by omega)).trans ?_
    rw [Int.toNat_natCast, UInt64.ofNat_toNat]

/-- A character is a text of its own. -/
instance : LawfulForm Char where
  ofJson?_toJson value := by
    simp only [toJson, ofJson?, Char.toString, String.toList_singleton]

instance [JsonForm α] [LawfulForm α] : LawfulForm (List α) where
  ofJson?_toJson items := readAll?_map_toJson items

instance [JsonForm α] [PresentForm α] : LawfulForm (Option α) where
  ofJson?_toJson value? := by
    cases value? with
    | none => rfl
    | some value =>
        have present : toJson value ≠ .null := PresentForm.toJson_ne_null value
        have read := read_wrapped some value
        show (match toJson value with
          | .null => some none
          | json => (ofJson? json).map some) = some (some value)
        split
        · next null => exact absurd null present
        · exact read

-----------------------------------------------------------------------------------------
-- Enumerations, names, indices
-----------------------------------------------------------------------------------------

instance : LawfulForm BinaryOp where
  ofJson?_toJson op := by cases op <;> rfl

instance : LawfulForm UnaryOp where
  ofJson?_toJson op := by cases op <;> rfl

instance : LawfulForm AssignOp where
  ofJson?_toJson op := by cases op <;> rfl

instance : LawfulForm PrimitiveType where
  ofJson?_toJson type := by cases type <;> rfl

instance : LawfulForm UnsupportedStmt where
  ofJson?_toJson form := by cases form <;> rfl

instance : LawfulForm Name where
  ofJson?_toJson name := read_wrapped Name.mk name.index

instance : PresentForm ExprId where
  ofJson?_toJson id := read_wrapped ExprId.mk id.index
  toJson_ne_null _ := nofun

instance : PresentForm StmtId where
  ofJson?_toJson id := read_wrapped StmtId.mk id.index
  toJson_ne_null _ := nofun

instance : LawfulForm Span where
  ofJson?_toJson span := by
    refine read_field rfl ?_
    exact read_field rfl rfl

-----------------------------------------------------------------------------------------
-- Types and declarations
-----------------------------------------------------------------------------------------

/-- Types read back, by induction on the nesting of array types.
Witness: every other type is written with its tag and reads back by it.
-/
theorem ResolvedType.decode?_encode (type : ResolvedType Name)
    : ResolvedType.decode? type.encode = some type := by
  induction type with
  | void => rfl
  | null => rfl
  | primitive type => exact read_tagged ResolvedType.primitive fun _ => rfl
  | classType name => exact congrArg (Option.map ResolvedType.classType) (named?_named name)
  | array component ih =>
      show (ResolvedType.decode? component.encode).map ResolvedType.array = _
      rw [ih, Option.map_some]

instance : PresentForm (ResolvedType Name) where
  ofJson?_toJson := ResolvedType.decode?_encode
  toJson_ne_null type := by cases type <;> nofun

instance : LawfulForm (MethodDecl Name) where
  ofJson?_toJson decl := by
    refine read_named rfl ?_
    refine read_field rfl ?_
    refine read_field rfl ?_
    refine read_field rfl ?_
    exact read_field rfl rfl

instance : LawfulForm (ConstructorDecl Name) where
  ofJson?_toJson decl := by
    refine read_named rfl ?_
    exact read_field rfl rfl

instance : LawfulForm (FieldDecl Name) where
  ofJson?_toJson decl := by
    refine read_named rfl ?_
    refine read_field rfl ?_
    refine read_field rfl ?_
    exact read_field rfl rfl

instance : LawfulForm (VariableDecl Name) where
  ofJson?_toJson decl := by
    refine read_field rfl ?_
    exact read_field rfl rfl

instance : PresentForm (Declaration Name) where
  ofJson?_toJson decl := by
    cases decl with
    | method decl => exact read_tagged Declaration.method fun _ => rfl
    | constructor decl => exact read_tagged Declaration.constructor fun _ => rfl
    | field decl => exact read_tagged Declaration.field fun _ => rfl
    | «variable» decl => exact read_tagged Declaration.variable fun _ => rfl
    | classDecl name => exact congrArg (Option.map Declaration.classDecl) (named?_named name)
    | package name => exact congrArg (Option.map Declaration.package) (named?_named name)
  toJson_ne_null decl := by cases decl <;> nofun

-----------------------------------------------------------------------------------------
-- Expressions
-----------------------------------------------------------------------------------------

instance : LawfulForm (Literal Name) where
  ofJson?_toJson literal := by
    cases literal with
    | null => rfl
    | bool value => exact read_tagged Literal.bool fun _ => rfl
    | int value => exact read_tagged Literal.int fun _ => rfl
    | long value => exact read_tagged Literal.long fun _ => rfl
    | float bits => exact read_tagged Literal.float fun _ => rfl
    | double bits => exact read_tagged Literal.double fun _ => rfl
    | char value => exact read_tagged Literal.char fun _ => rfl
    | str text => exact read_tagged Literal.str fun _ => rfl

instance : LawfulForm ArrayInit where
  ofJson?_toJson init := by
    cases init with
    | elements items => exact read_tagged ArrayInit.elements fun _ => rfl
    | dimension size => exact read_tagged ArrayInit.dimension fun _ => rfl

instance : LawfulForm Allocation where
  ofJson?_toJson allocation := by
    cases allocation with
    | array component init =>
        refine read_variant ?_
        refine read_field rfl ?_
        exact read_field rfl rfl
    | object className args =>
        refine read_variant ?_
        refine read_named rfl ?_
        exact read_field rfl rfl

instance : LawfulForm LambdaBody where
  ofJson?_toJson body := by
    cases body with
    | expr id => exact read_tagged LambdaBody.expr fun _ => rfl
    | block id => exact read_tagged LambdaBody.block fun _ => rfl

instance : LawfulForm ExprKind where
  ofJson?_toJson kind := by
    cases kind with
    | literal value => exact read_tagged ExprKind.literal fun _ => rfl
    | ident name => exact read_tagged ExprKind.ident fun _ => rfl
    | call name args =>
        refine read_variant ?_
        refine read_field rfl ?_
        exact read_field rfl rfl
    | binary op left right =>
        refine read_variant ?_
        refine read_field rfl ?_
        refine read_field rfl ?_
        exact read_field rfl rfl
    | unary op operand =>
        refine read_variant ?_
        refine read_field rfl ?_
        exact read_field rfl rfl
    | ternary cond thenExpr elseExpr =>
        refine read_variant ?_
        refine read_field rfl ?_
        refine read_field rfl ?_
        exact read_field rfl rfl
    | assign op target value =>
        refine read_variant ?_
        refine read_field rfl ?_
        refine read_field rfl ?_
        exact read_field rfl rfl
    | index array index =>
        refine read_variant ?_
        refine read_field rfl ?_
        exact read_field rfl rfl
    | chain segments => exact read_tagged ExprKind.chain fun _ => rfl
    | alloc allocation => exact read_tagged ExprKind.alloc fun _ => rfl
    | lambda params body =>
        refine read_variant ?_
        refine read_field rfl ?_
        exact read_field rfl rfl
    | typeRef => rfl

instance : LawfulForm Expr where
  ofJson?_toJson expr := by
    refine read_field rfl ?_
    refine read_field rfl ?_
    refine read_field rfl ?_
    exact read_field rfl rfl

-----------------------------------------------------------------------------------------
-- Statements and units
-----------------------------------------------------------------------------------------

instance : LawfulForm Declarator where
  ofJson?_toJson declarator := by
    refine read_field rfl ?_
    exact read_field rfl rfl

instance : LawfulForm StmtKind where
  ofJson?_toJson kind := by
    cases kind with
    | block body => exact read_tagged StmtKind.block fun _ => rfl
    | expr id => exact read_tagged StmtKind.expr fun _ => rfl
    | ifElse cond thenBranch elseBranch? =>
        refine read_variant ?_
        refine read_field rfl ?_
        refine read_field rfl ?_
        exact read_field rfl rfl
    | whileLoop cond body =>
        refine read_variant ?_
        refine read_field rfl ?_
        exact read_field rfl rfl
    | doWhile body cond =>
        refine read_variant ?_
        refine read_field rfl ?_
        exact read_field rfl rfl
    | forLoop init cond? update body =>
        refine read_variant ?_
        refine read_field rfl ?_
        refine read_field rfl ?_
        refine read_field rfl ?_
        exact read_field rfl rfl
    | forEach var type iterable body =>
        refine read_variant ?_
        refine read_field rfl ?_
        refine read_field rfl ?_
        refine read_field rfl ?_
        exact read_field rfl rfl
    | varDecl type declarators =>
        refine read_variant ?_
        refine read_field rfl ?_
        exact read_field rfl rfl
    | returns value? => exact read_tagged StmtKind.returns fun _ => rfl
    | breakLoop => rfl
    | synchronized lock body =>
        refine read_variant ?_
        refine read_field rfl ?_
        exact read_field rfl rfl
    | unsupported form => exact read_tagged StmtKind.unsupported fun _ => rfl

instance : LawfulForm Stmt where
  ofJson?_toJson stmt := by
    refine read_field rfl ?_
    exact read_field rfl rfl

instance : LawfulForm Arena where
  ofJson?_toJson arena := by
    refine read_field rfl ?_
    exact read_field rfl rfl

instance : LawfulForm SemanticError where
  ofJson?_toJson error := by
    refine read_field rfl ?_
    exact read_field rfl rfl

instance : LawfulForm SourceStatement where
  ofJson?_toJson statement := by
    refine read_field rfl ?_
    exact read_field rfl rfl

instance : LawfulForm SourceUnit where
  ofJson?_toJson unit := by
    refine read_field rfl ?_
    exact read_field rfl rfl

/-- Different values of a lawful form are written differently. -/
theorem toJson_injective [JsonForm α] [LawfulForm α]
    : Function.Injective (toJson : α → Json) := by
  intro first second same
  have read : (ofJson? (toJson first) : Option α) = ofJson? (toJson second) := by rw [same]
  rw [ofJson?_toJson, ofJson?_toJson] at read
  exact Option.some.inj read

/-- Every unit reads back from its JSON as it was, so no two units share one, and what was read runs
as the unit itself does.
-/
theorem units_survive_json
    : (∀ unit : SourceUnit, ofJson? (toJson unit) = some unit)
      ∧ Function.Injective (toJson : SourceUnit → Json)
      ∧ ∀ {ω : Type} (console : Console ω) (client : Client ω) (unit : SourceUnit),
          (ofJson? (toJson unit)).map (console.run client) = some (console.run client unit) := by
  refine ⟨ofJson?_toJson, toJson_injective, fun console client unit => ?_⟩
  exact read_wrapped (console.run client) unit

end Scratchpad
