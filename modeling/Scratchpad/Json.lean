/-! JSON as a tree, and how values are written to one and read back. Numbers are integers. -/

namespace Scratchpad

inductive Json where
  | null
  | bool (value : Bool)
  | number (value : Int)
  | string (text : String)
  | array (items : List Json)
  | object (fields : List (String × Json))
deriving Inhabited

/-- A type with a JSON form. -/
class JsonForm (α : Type) where
  toJson : α → Json
  ofJson? : Json → Option α

export JsonForm (toJson ofJson?)

namespace Json

/-- The value of a field of an object. -/
def field? (json : Json) (name : String) : Option Json :=
  match json with
  | .object fields => fields.lookup name
  | _ => none

/-- A field of an object, read. -/
def read? {α : Type} [JsonForm α] (json : Json) (name : String) : Option α :=
  (json.field? name).bind ofJson?

/-- A variant with contents: an object with the tag as its only field. -/
def tagged {α : Type} [JsonForm α] (tag : String) (contents : α) : Json :=
  .object [(tag, toJson contents)]

/-- The tag and the contents of a variant; a variant without contents is a text. -/
def variant? : Json → Option (String × Json)
  | .string tag => some (tag, .null)
  | .object [(tag, contents)] => some (tag, contents)
  | _ => none

/-- An integer within bounds. -/
def integer? (least limit : Int) : Json → Option Int
  | .number value => if least ≤ value ∧ value < limit then some value else none
  | _ => none

end Json

namespace JsonForm

instance : JsonForm Json where
  toJson json := json
  ofJson? json := some json

instance : JsonForm Bool where
  toJson value := .bool value
  ofJson?
    | .bool value => some value
    | _ => none

instance : JsonForm Nat where
  toJson value := .number value
  ofJson?
    | .number (.ofNat value) => some value
    | _ => none

instance : JsonForm Int32 where
  toJson value := .number value.toInt
  ofJson? json := (json.integer? (-2147483648) 2147483648).map Int32.ofInt

instance : JsonForm Int64 where
  toJson value := .number value.toInt
  ofJson? json := (json.integer? (-9223372036854775808) 9223372036854775808).map Int64.ofInt

instance : JsonForm UInt32 where
  toJson value := .number value.toNat
  ofJson? json := (json.integer? 0 4294967296).map fun value => UInt32.ofNat value.toNat

instance : JsonForm UInt64 where
  toJson value := .number value.toNat
  ofJson? json := (json.integer? 0 18446744073709551616).map fun value => UInt64.ofNat value.toNat

instance : JsonForm String where
  toJson text := .string text
  ofJson?
    | .string text => some text
    | _ => none

instance : JsonForm Char where
  toJson value := .string value.toString
  ofJson?
    | .string text =>
      match text.toList with
      | [value] => some value
      | _ => none
    | _ => none

/-- Reads every item, if each can be read. -/
def readAll? {α : Type} [JsonForm α] : List Json → Option (List α)
  | [] => some []
  | json :: rest => do
    let item ← ofJson? json
    let items ← readAll? rest
    pure (item :: items)

instance {α : Type} [JsonForm α] : JsonForm (List α) where
  toJson items := .array (items.map toJson)
  ofJson?
    | .array items => readAll? items
    | _ => none

instance {α : Type} [JsonForm α] : JsonForm (Option α) where
  toJson
    | none => .null
    | some value => toJson value
  ofJson?
    | .null => some none
    | json => (ofJson? json).map some

end JsonForm

end Scratchpad
