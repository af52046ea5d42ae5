import HookRelay.Json.Basic

/-!
# Schemas

The form of a value as the cluster is told it, so that it can refuse what does not fit and show
what a field is for.

## Main definitions

* `Schema` : the form of a value
* `Schema.toJson` : the written form of a schema
-/

namespace HookRelay.Manifest

/-- What is said about a value beside its form. -/
structure Note where
  description : Option String := none
  nullable : Bool := false
  default : Option Json := none
  title : Option String := none

/-- The form of a value. -/
inductive Schema where
  | text (note : Note)
  | flag (note : Note)
  /-- A signed number of 64 bits. -/
  | number (note : Note)
  | list (note : Note) (items : Schema)
  /-- Fields under their names, and whether each has to be there. -/
  | record (note : Note) (fields : List (String × Bool × Schema))

/-- What is said about a value, as fields. -/
def Note.fields (n : Note) : List (String × Json) :=
  (n.description.toList.map fun d => ("description", .string d))
    ++ (if n.nullable then [("nullable", .bool true)] else [])
    ++ (n.default.toList.map fun d => ("default", d))
    ++ (n.title.toList.map fun t => ("title", .string t))

/-- The names of the fields that have to be there. -/
def requiredNames (fields : List (String × Bool × Schema)) : List String :=
  (fields.filter fun f => f.2.1).map Prod.fst

/-- The list of fields that have to be there, if there are any. -/
def requiredField (names : List String) : List (String × Json) :=
  if names.isEmpty then [] else [("required", .array (names.map .string))]

mutual

/-- The written form of a schema. -/
def Schema.toJson : Schema → Json
  | .text note => Json.ofFields (("type", .string "string") :: note.fields)
  | .flag note => Json.ofFields (("type", .string "boolean") :: note.fields)
  | .number note =>
    Json.ofFields (("type", .string "integer") :: ("format", .string "int64") :: note.fields)
  | .list note items =>
    Json.ofFields (("type", .string "array") :: ("items", items.toJson) :: note.fields)
  | .record note fields =>
    Json.ofFields (("type", .string "object") :: ("properties", Json.ofFields (propertiesOf fields))
      :: (requiredField (requiredNames fields) ++ note.fields))

/-- The written forms of fields. -/
def propertiesOf : List (String × Bool × Schema) → List (String × Json)
  | [] => []
  | (name, _, s) :: rest => (name, s.toJson) :: propertiesOf rest

end

end HookRelay.Manifest
