import ElementSync.Text.Split

/-!
# Element ids

An id addresses a type, or a field, instance or attribute of it, or a value
nested inside one of these. Its text joins the parts with dots; reading the text
accepts no empty part.
-/
namespace ElementSync

inductive ElementId.Kind where
  | type
  | field
  | inst
  | attr
deriving DecidableEq, Inhabited

structure ElementId where
  adapter : String
  typeName : String
  kind : ElementId.Kind
  parts : List String
deriving DecidableEq, Inhabited

namespace ElementId

namespace Kind

def word : Kind → String
  | .type => "type"
  | .field => "field"
  | .inst => "instance"
  | .attr => "attr"

def ofWord? : String → Option Kind
  | "type" => some .type
  | "field" => some .field
  | "instance" => some .inst
  | "attr" => some .attr
  | _ => none

def rank : Kind → Nat
  | .type => 0
  | .field => 1
  | .inst => 2
  | .attr => 3

end Kind

def type (adapter typeName : String) : ElementId := ⟨adapter, typeName, .type, []⟩

def field (adapter typeName name : String) : ElementId := ⟨adapter, typeName, .field, [name]⟩

def inst (adapter typeName name : String) : ElementId := ⟨adapter, typeName, .inst, [name]⟩

def attr (adapter typeName name : String) : ElementId := ⟨adapter, typeName, .attr, [name]⟩

/-- The last part, or the type's name when there is none. -/
def name (id : ElementId) : String := id.parts.getLast?.getD id.typeName

def isBareType (id : ElementId) : Bool := id.kind = .type && id.parts.isEmpty

/-- How many parts the id of a whole element has. -/
def depth : Kind → Nat
  | .type => 0
  | _ => 1

def isTopLevel (id : ElementId) : Bool := id.parts.length = depth id.kind

def typeId (id : ElementId) : ElementId := type id.adapter id.typeName

def nest (id : ElementId) (path : List String) : ElementId :=
  { id with parts := id.parts ++ path }

/-- The element that an id lies in, and the path inside it. -/
def topLevel (id : ElementId) : ElementId × List String :=
  ({ id with parts := id.parts.take (depth id.kind) }, id.parts.drop (depth id.kind))

/-- A type is above all else that carries its name; any other id is above those
that extend its parts. -/
def isAbove (a b : ElementId) : Bool :=
  a.adapter = b.adapter && a.typeName = b.typeName &&
    if a.isBareType then !b.isBareType
    else a.kind = b.kind && a.parts.length < b.parts.length && a.parts.isPrefixOf b.parts

/-- By adapter, type name, kind and parts, text compared by code points. -/
def compare (a b : ElementId) : Ordering :=
  (Ord.compare a.adapter b.adapter).then <|
    (Ord.compare a.typeName b.typeName).then <|
      (Ord.compare a.kind.rank b.kind.rank).then <|
        List.compareLex Ord.compare a.parts b.parts

def segments (id : ElementId) : List String :=
  id.adapter :: id.typeName :: if id.isBareType then [] else id.kind.word :: id.parts

def fullName (id : ElementId) : String := ".".intercalate id.segments

inductive ParseError where
  | tooShort (text : String)
  | emptySegment (text : String)
  | unknownKind (word : String)
  | missingName (text word : String)
deriving DecidableEq

def ParseError.message : ParseError → String
  | tooShort s => "element id '" ++ s ++ "' needs at least an adapter and a type name"
  | emptySegment s => "element id '" ++ s ++ "' contains an empty segment"
  | unknownKind w => "unknown id type '" ++ w ++ "'"
  | missingName s w => "element id '" ++ s ++ "' has id type '" ++ w ++ "' but no name"

def parse (text : String) : Except ParseError ElementId :=
  let segments := Text.split '.' text
  if segments.any String.isEmpty then .error (.emptySegment text)
  else match segments with
    | [adapter, typeName] => .ok (type adapter typeName)
    | [_, _, word] => .error (.missingName text word)
    | adapter :: typeName :: word :: parts => match Kind.ofWord? word with
      | some kind => .ok ⟨adapter, typeName, kind, parts⟩
      | none => .error (.unknownKind word)
    | _ => .error (.tooShort text)

/-- Ids that their text determines. -/
def WellFormed (id : ElementId) : Prop :=
  (∀ s ∈ id.adapter :: id.typeName :: id.parts, s ≠ "" ∧ '.' ∉ s.toList) ∧
    (id.kind = .type ∨ id.parts ≠ [])

@[simp] theorem Kind.ofWord?_word (k : Kind) : ofWord? k.word = some k := by
  cases k <;> rfl

theorem topLevel_nest (id : ElementId) : id.topLevel.1.nest id.topLevel.2 = id := by
  simp [topLevel, nest]

end ElementId

end ElementSync
