import ElementSync.Json

/-!
# Schemas

A schema describes a record type of the external system. In JSON it is an object
whose unknown keys are ignored, or the array of its values in declaration order.
-/
namespace ElementSync

structure FieldSchema where
  name : String
  type : String
  createable : Bool := false
  updateable : Bool := false
  compound : Option String := none
  referenceTo : List String := []

structure TypeSchema where
  name : String
  fields : List FieldSchema

/-- Reads one member of a record: from the object by key, from the array by place.
The default serves a member that is not there. -/
def Json.member? {α : Type} (j : Json) (key : String) (place : Nat) (read : Json → Option α)
    (default : Option α) : Option α :=
  match j with
  | .object entries => match entries.lookup key with
    | some v => read v
    | none => default
  | .array items => match items[place]? with
    | some v => read v
    | none => default
  | _ => none

/-- An array that stands for a record has at most the record's members. -/
def Json.hasMembers (j : Json) (count : Nat) : Bool :=
  match j with
  | .array items => items.length ≤ count
  | _ => true

def Json.nullable? {α : Type} (read : Json → Option α) : Json → Option (Option α)
  | .null => some none
  | j => (read j).map some

namespace FieldSchema

def ofJson? (j : Json) : Option FieldSchema := do
  let name ← j.member? "name" 0 Json.string? none
  let type ← j.member? "type" 1 Json.string? none
  let createable ← j.member? "createable" 2 Json.bool? (some false)
  let updateable ← j.member? "updateable" 3 Json.bool? (some false)
  let compound ← j.member? "compoundFieldName" 4 (Json.nullable? Json.string?) (some none)
  let referenceTo ← j.member? "referenceTo" 5 Json.strings? (some [])
  if j.hasMembers 6 then
    return { name, type, createable, updateable, compound, referenceTo }
  else none

def toJson (f : FieldSchema) : Json :=
  .object [("name", .string f.name), ("type", .string f.type),
    ("createable", .bool f.createable), ("updateable", .bool f.updateable),
    ("compoundFieldName", (f.compound.map Json.string).getD .null),
    ("referenceTo", .array (f.referenceTo.map .string))]

end FieldSchema

namespace TypeSchema

def ofJson? (j : Json) : Option TypeSchema := do
  let name ← j.member? "name" 0 Json.string? none
  let fields ← j.member? "fields" 1
    (fun v => v.array?.bind (·.mapM FieldSchema.ofJson?)) none
  if j.hasMembers 2 then return { name, fields } else none

def toJson (t : TypeSchema) : Json :=
  .object [("name", .string t.name), ("fields", .array (t.fields.map FieldSchema.toJson))]

end TypeSchema

end ElementSync
