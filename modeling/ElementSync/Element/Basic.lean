import ElementSync.Value.Json
import ElementSync.Value.Leaves

/-!
# Elements

An element is an object type, a field of a type, or an instance of a type. Types
own their fields; an instance keeps the type it was made with. The id of a field
or instance is computed from its name and what it belongs to. An instance of a custom
object is a data record, as opposed to an instance of a metadata type.
-/
namespace ElementSync

inductive FieldType where
  | string
  | number
  | boolean
  | unknown
  | named (id : ElementId)
  | list (inner : FieldType)
deriving DecidableEq

structure Field (η : Type) where
  parent : ElementId
  name : String
  type : FieldType
  annotations : List (String × Value η) := []

structure ObjectType (η : Type) where
  id : ElementId
  fields : List (Field η) := []
  annotations : List (String × Value η) := []
  path : Option (List String) := none

structure Instance (η : Type) where
  name : String
  type : ObjectType η
  value : List (String × Value η) := []
  annotations : List (String × Value η) := []
  path : Option (List String) := none

/-- An element. References inside it carry elements as snapshots. -/
inductive Element where
  | objectType (t : ObjectType Element)
  | field (f : Field Element)
  | inst (i : Instance Element)

variable {η : Type}

namespace AnnotationKey

def apiName : String := "apiName"
def metadataType : String := "metadataType"
def label : String := "label"
def createable : String := "createable"
def updateable : String := "updateable"
def referenceTo : String := "referenceTo"
def changedAt : String := "_changed_at"
def generatedDependencies : String := "_generated_dependencies"

end AnnotationKey

namespace Field

def id (f : Field η) : ElementId := .field f.parent.adapter f.parent.typeName f.name

def annotate (f : Field η) (key : String) (v : Value η) : Field η :=
  { f with annotations := Assoc.put f.annotations key v }

/-- A yes-or-no annotation; anything but a written yes is no. -/
def flag (f : Field η) (key : String) : Bool :=
  ((f.annotations.lookup key).bind Value.bool?).getD false

end Field

namespace ObjectType

/-- A field takes the place of the field of the same name. -/
def addField (t : ObjectType η) (f : Field η) : ObjectType η :=
  { t with fields := go t.fields }
where
  go : List (Field η) → List (Field η)
    | [] => [f]
    | g :: gs => if g.name = f.name then f :: gs else g :: go gs

def field? (t : ObjectType η) (name : String) : Option (Field η) :=
  t.fields.find? (·.name = name)

def removeField (t : ObjectType η) (name : String) : ObjectType η :=
  { t with fields := t.fields.eraseP (·.name = name) }

def annotate (t : ObjectType η) (key : String) (v : Value η) : ObjectType η :=
  { t with annotations := Assoc.put t.annotations key v }

def annotateField (t : ObjectType η) (name key : String) (v : Value η) : ObjectType η :=
  { t with fields := t.fields.map fun f => if f.name = name then f.annotate key v else f }

def annotationText? (t : ObjectType η) (key : String) : Option String :=
  (t.annotations.lookup key).bind Value.text?

end ObjectType

namespace Instance

def id (i : Instance η) : ElementId := .inst i.type.id.adapter i.type.id.typeName i.name

def typeName (i : Instance η) : String := i.type.id.typeName

def get? (i : Instance η) (key : String) : Option (Value η) := i.value.lookup key

def text? (i : Instance η) (key : String) : Option String := (i.get? key).bind Value.text?

def set (i : Instance η) (key : String) (v : Value η) : Instance η :=
  { i with value := Assoc.put i.value key v }

def erase (i : Instance η) (key : String) : Instance η :=
  { i with value := Assoc.remove i.value key }

def annotate (i : Instance η) (key : String) (v : Value η) : Instance η :=
  { i with annotations := Assoc.put i.annotations key v }

@[simp] theorem id_set (i : Instance η) (key : String) (v : Value η) : (i.set key v).id = i.id := rfl

@[simp] theorem type_set (i : Instance η) (key : String) (v : Value η) :
    (i.set key v).type = i.type := rfl

end Instance

namespace Element

def id : Element → ElementId
  | .objectType t => t.id
  | .field f => f.id
  | .inst i => i.id

def annotations : Element → Values Element
  | .objectType t => t.annotations
  | .field f => f.annotations
  | .inst i => i.annotations

def setAnnotations (e : Element) (as : Values Element) : Element :=
  match e with
  | .objectType t => .objectType { t with annotations := as }
  | .field f => .field { f with annotations := as }
  | .inst i => .inst { i with annotations := as }

def inst? : Element → Option (Instance Element)
  | .inst i => some i
  | _ => none

def objectType? : Element → Option (ObjectType Element)
  | .objectType t => some t
  | _ => none

def isInst (e : Element) : Bool := e.inst?.isSome

def children : Element → List Element
  | .objectType t => t.fields.map .field
  | _ => []

end Element

/-- Why an operation on elements is refused. -/
inductive ElementError where
  | handleMismatch (target handle : ElementId)
  | unresolved (cause : Unresolved)
  | duplicate (id : ElementId)
  | stateless
  | stateMismatch (before after : ElementId)
  | notAnInstance (id : ElementId)
deriving DecidableEq

def ElementError.message : ElementError → String
  | handleMismatch target handle =>
    "reference to " ++ target.fullName ++ " carries a handle to " ++ handle.fullName
  | unresolved cause => "unresolved value: " ++ cause.message
  | duplicate id => "duplicate element id " ++ id.fullName
  | stateless => "invalid change: a change needs a before or an after state"
  | stateMismatch before after =>
    "invalid change: before state " ++ before.fullName ++ " and after state " ++ after.fullName
      ++ " differ"
  | notAnInstance id => id.fullName ++ " is not an instance"

def Element.toInst (e : Element) : Except ElementError (Instance Element) :=
  match e.inst? with
  | some i => .ok i
  | none => .error (.notAnInstance e.id)

namespace Reference

def ofElement (e : Element) : Reference Element := ⟨e.id, some e⟩

/-- A reference carries a snapshot of its own target only. -/
def withHandle (target : ElementId) (e : Element) : Except ElementError (Reference Element) :=
  if e.id = target then .ok ⟨target, some e⟩ else .error (.handleMismatch target e.id)

end Reference

/-! ### Data records -/

def customObject : String := "CustomObject"

/-- Where the external system puts the identifier that it gives to a record. -/
def idField : String := "Id"

def Instance.isRecord (i : Instance Element) : Bool :=
  i.type.annotationText? AnnotationKey.metadataType = some customObject

namespace Approval

def ruleType : String := "sbaa__ApprovalRule__c"

def conditionType : String := "sbaa__ApprovalCondition__c"

/-- The field of a condition that refers to its rule. -/
def ruleField : String := "sbaa__ApprovalRule__c"

end Approval

end ElementSync
