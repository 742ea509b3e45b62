import VmAdmission.Datum.Canonical

/-!
# Schemas

A schema says which data are values of a kind. Here it is only written, as a JSON Schema document
in the draft-07 vocabulary, with its keywords in one order, its properties in that of their names,
and its kinds under names of their own.
-/

namespace VmAdmission

/-- Which data are admitted. -/
inductive Schema where
  | text
  /-- A text that spells an identifier. -/
  | uuid
  | bool
  /-- A natural number of so many bits. -/
  | word (bits : Nat)
  /-- One of some texts. -/
  | oneOf (texts : List String)
  /-- A kind of another name. -/
  | named (name : String)
  | nullable (schema : Schema)
  | list (items : Schema)
  /-- A record with these properties, and others unless it is strict. -/
  | record (strict : Bool) (properties : List (String × Schema))
  /-- Exactly one of the alternatives. -/
  | union (alternatives : List Schema)
  | described (description : String) (schema : Schema)
  /-- A property that may be left out, and what stands for it then. -/
  | defaulting (value : Datum) (schema : Schema)

namespace Schema

/-- Whether a property of the schema may be left out. -/
def isOptional : Schema → Bool
  | .defaulting _ _ => true
  | .described _ schema => schema.isOptional
  | _ => false

/-- The keywords, in the order in which they are written. -/
def keywords : List String :=
  ["$schema", "title", "description", "default", "type", "format", "enum", "allOf", "anyOf",
   "oneOf", "minimum", "items", "required", "properties", "additionalProperties", "$ref",
   "definitions"]

/-- The members in the order of the keywords. -/
def inOrder (members : List (String × Datum)) : List (String × Datum) :=
  keywords.flatMap fun keyword => members.filter (·.1 = keyword)

/-- The members of a schema that something is said about: a name for a kind is wrapped. -/
def wrapped : List (String × Datum) → List (String × Datum)
  | [("$ref", target)] => [("allOf", .list [.record [("$ref", target)]])]
  | members => members

/-- The members of a schema that admits null too. -/
def withNull : List (String × Datum) → List (String × Datum)
  | ("type", type) :: members => ("type", .list [type, .text "null"]) :: members
  | members => [("anyOf", .list [.record members, .record [("type", .text "null")]])]

/-- The names of the properties that must be there, in order. -/
def requiredNames (properties : List (String × Schema)) : List String :=
  ((properties.filter (!·.2.isOptional)).map Prod.fst).mergeSort

mutual

/-- The members of a schema's document. -/
def members : Schema → List (String × Datum)
  | .text => [("type", .text "string")]
  | .uuid => [("type", .text "string"), ("format", .text "uuid")]
  | .bool => [("type", .text "boolean")]
  | .word bits =>
    [("type", .text "integer"), ("format", .text ("uint" ++ bits.repr)),
     ("minimum", .decimal "0.0")]
  | .oneOf texts => [("type", .text "string"), ("enum", .list (texts.map .text))]
  | .named name => [("$ref", .text ("#/definitions/" ++ name))]
  | .nullable schema => withNull schema.members
  | .list items => [("type", .text "array"), ("items", .record (inOrder items.members))]
  | .record strict properties =>
    let required := requiredNames properties
    [("type", .text "object")] ++
      (if required.isEmpty then [] else [("required", .list (required.map .text))]) ++
      [("properties", .record (Datum.sortedByKey (propertyMembers properties)))] ++
      (if strict then [("additionalProperties", .bool false)] else [])
  | .union alternatives => [("oneOf", .list (alternativeItems alternatives))]
  | .described description schema =>
    ("description", .text description) :: wrapped schema.members
  | .defaulting value schema => ("default", value.canonical) :: wrapped schema.members

/-- The documents of properties. -/
def propertyMembers : List (String × Schema) → List (String × Datum)
  | [] => []
  | (name, schema) :: properties =>
    (name, .record (inOrder schema.members)) :: propertyMembers properties

/-- The documents of alternatives. -/
def alternativeItems : List Schema → List Datum
  | [] => []
  | schema :: alternatives => .record (inOrder schema.members) :: alternativeItems alternatives

end

/-- The document of a schema with a title, and with the kinds that it names. -/
def document (title : String) (schema : Schema) (definitions : List (String × Schema)) : Datum :=
  .record (inOrder
    ([("$schema", .text "http://json-schema.org/draft-07/schema#"), ("title", .text title)] ++
      schema.members ++
      [("definitions", .record (Datum.sortedByKey (propertyMembers definitions)))]))

end Schema

end VmAdmission
