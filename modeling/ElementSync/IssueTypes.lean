import ElementSync.Element.Basic

/-!
# Issue types of a scheme

A scheme lists its issue types as mappings. Each mapping gives way to what it holds
as the issue type; one that holds none goes.
-/
namespace ElementSync.IssueTypes

def schemeType : String := "IssueTypeScheme"

def issueTypesField : String := "issueTypes"

def issueTypeKey : String := "issueTypeId"

def flattenInstance (i : Instance Element) : Instance Element :=
  if i.typeName = schemeType then
    match (i.get? issueTypesField).bind Value.sequence? with
    | some ms =>
      i.set issueTypesField
        (.sequence (ms.filterMap fun m => m.mapping?.bind (·.lookup issueTypeKey)))
    | none => i
  else i

def flattenElement : Element → Element
  | .inst i => .inst (flattenInstance i)
  | e => e

def flatten (es : List Element) : List Element := es.map flattenElement

end ElementSync.IssueTypes
