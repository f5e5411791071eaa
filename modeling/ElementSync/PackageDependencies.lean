import ElementSync.Validation.Package

/-!
# Dependencies on installed packages

An element whose name carries the namespace of an installed package depends on it.
The fields of a type get a dependency of their own only when the type has none.
-/
namespace ElementSync.PackageDependencies

def referenceKey : String := "reference"

/-- The installed package of a namespace; of several the last counts. -/
def package? (es : List Element) (namespaceName : String) : Option Element :=
  es.reverse.find? fun e =>
    e.inst?.any (fun i => i.typeName = Validation.installedPackage
      && i.text? fullNameField = some namespaceName)

def packageOf? (es : List Element) (e : Element) : Option Element :=
  if e.hasNamespace then package? es e.namespaceName else none

def dependsOn (target : ElementId) (dependency : Value Element) : Bool :=
  ((dependency.mapping?.bind (·.lookup referenceKey)).bind Value.reference?).any
    (·.target = target)

/-- Adds a dependency that is not there yet. What is no list of dependencies stays. -/
def extend (package : Element) (annotations : Values Element) : Values Element :=
  let add (dependencies : List (Value Element)) : Values Element :=
    Assoc.put annotations AnnotationKey.generatedDependencies
      (.sequence (dependencies ++ [.mapping [(referenceKey, .reference (.ofElement package))]]))
  match annotations.lookup AnnotationKey.generatedDependencies with
  | none => add []
  | some (.sequence ds) => if ds.any (dependsOn package.id) then annotations else add ds
  | some _ => annotations

def linkField (es : List Element) (f : Field Element) : Field Element :=
  match packageOf? es (.field f) with
  | some package => { f with annotations := extend package f.annotations }
  | none => f

def linkElement (es : List Element) (e : Element) : Element :=
  match packageOf? es e, e with
  | some package, e => e.setAnnotations (extend package e.annotations)
  | none, .objectType t => .objectType { t with fields := t.fields.map (linkField es) }
  | none, e => e

def link (es : List Element) : List Element := es.map (linkElement es)

end ElementSync.PackageDependencies
