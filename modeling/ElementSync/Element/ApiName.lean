import ElementSync.Element.Basic

/-!
# API names and package namespaces

The API name of an element is the name that the external system knows it by. A
name from a managed package starts with the namespace of the package and two
underscores; a custom name ends in two underscores and a suffix.
-/
namespace ElementSync

def fullNameField : String := "fullName"

namespace Element

def apiName? : Element → Option String
  | .objectType t => some ((t.annotationText? AnnotationKey.apiName).getD t.id.typeName)
  | .field f =>
    some (((f.annotations.lookup AnnotationKey.apiName).bind Value.text?).getD
      (f.parent.typeName ++ "." ++ f.name))
  | .inst i => i.text? fullNameField

def namespaceMark : List Char := ['_', '_']

def customSuffixes : List String :=
  ["c", "r", "mdt", "e", "b", "x", "xo", "share", "kav", "feed", "history"]

/-- The API name behind its last dot. -/
def relativeName? (e : Element) : Option (List Char) :=
  e.apiName?.map fun name => (Text.afterLast? ['.'] name.toList).getD name.toList

/-- Takes off the first suffix of the list that a name ends in. -/
def stripCustomSuffix (name : List Char) : List Char :=
  (customSuffixes.findSome? fun s => Text.stripSuffix? (namespaceMark ++ s.toList) name).getD name

def hasNamespace (e : Element) : Bool :=
  e.relativeName?.any fun name =>
    Text.contains namespaceMark (stripCustomSuffix (Text.before ['-'] name))

def namespaceName (e : Element) : String :=
  String.ofList ((e.relativeName?.map (Text.before namespaceMark)).getD [])

end Element

end ElementSync
