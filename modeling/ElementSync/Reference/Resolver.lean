import ElementSync.Reference.Context

/-!
# Resolving instances

Every reference in an instance is replaced by what it resolves to. A template
becomes text when all its references resolve to scalars. What stays unresolved is
dropped or kept, as the policy says.
-/
namespace ElementSync

inductive UnresolvedPolicy where
  | drop
  | keep
deriving DecidableEq

structure Resolver where
  context : LookupContext
  rules : List SerializationRule := []
  policy : UnresolvedPolicy := .drop

/-- The innermost key of a path that does not look like a position. -/
def Path.fieldName (path : Path) : String :=
  (path.reverse.find? fun s => !Text.isPosition s).getD ""

/-- What a template turns into: text, or still a template because a target has
no scalar yet, or because a target is unresolved. -/
inductive Rendering where
  | text (s : String)
  | pending
  | unresolved

def Rendering.prepend (s : String) : Rendering → Rendering
  | text t => text (s ++ t)
  | r => r

/-- The first reference without a scalar decides. -/
def Template.render (resolve : Reference Element → Resolution) :
    List (Part Element) → Rendering
  | [] => .text ""
  | .literal s :: ps => (render resolve ps).prepend s
  | .reference r :: ps => match resolve r with
    | .resolved (.scalar s) => (render resolve ps).prepend s.render
    | .unresolved => .unresolved
    | _ => .pending

namespace Resolver
variable (σ : Resolver)

def resolve (field parentType : String) (r : Reference Element) : Resolution :=
  σ.context.resolve (SerializationRule.strategyFor? σ.rules field parentType) r

/-- What is left of a value that does not resolve. -/
def unresolved (v : Value Element) : Option (Value Element) :=
  match σ.policy with
  | .drop => none
  | .keep => some v

def resolveLeaf (parentType : String) (path : Path) : Leaf Element → Option (Value Element)
  | .scalar s => some (.scalar s)
  | .reference r => match σ.resolve path.fieldName parentType r with
    | .resolved v => some v
    | .deferred e => some (.reference (.ofElement e))
    | .unresolved => σ.unresolved (.reference r)
  | .template t => match Template.render (σ.resolve path.fieldName parentType) t.parts with
    | .text s => some (.text s)
    | .pending => some (.template t)
    | .unresolved => σ.unresolved (.template t)

def resolveInstance (i : Instance Element) : Instance Element :=
  { i with value := Values.mapLeaves (σ.resolveLeaf i.typeName) i.value }

def resolveChange (c : RecordChange) : RecordChange := c.map σ.resolveInstance

@[simp] theorem id_resolveInstance (i : Instance Element) : (σ.resolveInstance i).id = i.id := rfl

end Resolver

end ElementSync
