import ElementSync.Client.Schema
import ElementSync.Element.Basic

/-!
# Types from schemas

A schema becomes an object type whose fields keep what the system allows on them.
The parts of a compound field are left out, for the compound field carries them.
-/
namespace ElementSync

/-- The name of the adapter, which starts every id. -/
def salesforce : String := "salesforce"

def typePath (typeName : String) : List String := [salesforce, "Types", typeName]

def recordPath (typeName name : String) : List String :=
  [salesforce, "Records", typeName, name]

namespace FieldType

def externalTexts : List String :=
  ["string", "textarea", "picklist", "multipicklist", "id", "reference", "email", "phone", "url",
   "date", "datetime", "time"]

def externalNumbers : List String := ["double", "int", "long", "currency", "percent"]

def ofExternal (name : String) : FieldType :=
  if externalTexts.contains name then .string
  else if externalNumbers.contains name then .number
  else if name = "boolean" then .boolean
  else .unknown

end FieldType

def FieldSchema.toField (parent : ElementId) (f : FieldSchema) : Field Element where
  parent := parent
  name := f.name
  type := .ofExternal f.type
  annotations :=
    [(AnnotationKey.apiName, .text (parent.typeName ++ "." ++ f.name)),
     (AnnotationKey.createable, .bool f.createable), (AnnotationKey.updateable, .bool f.updateable)] ++
    if f.referenceTo.isEmpty then []
    else [(AnnotationKey.referenceTo, .sequence (f.referenceTo.map Value.text))]

def TypeSchema.toObjectType (t : TypeSchema) (metadataType : String) : ObjectType Element :=
  let id := ElementId.type salesforce t.name
  let fields := (t.fields.filter (·.compound.isNone)).map (FieldSchema.toField id)
  fields.foldl ObjectType.addField {
    id
    annotations := [(AnnotationKey.apiName, .text t.name), (AnnotationKey.metadataType, .text metadataType)]
    path := some (typePath t.name) }

end ElementSync
