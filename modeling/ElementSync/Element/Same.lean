import ElementSync.Element.Basic

/-!
# Equality of elements

Types and fields are the same when all that they hold is the same, fields and
annotations regardless of order. Instances are compared by id, type id, values
and annotations; where they were read from does not count.
-/
namespace ElementSync
variable {η : Type}

def Field.same (f g : Field η) : Bool :=
  f.parent = g.parent && f.name = g.name && f.type = g.type &&
    Values.same f.annotations g.annotations

def ObjectType.same (t u : ObjectType η) : Bool :=
  t.id = u.id && t.fields.length = u.fields.length &&
    (t.fields.all fun f => (u.field? f.name).any f.same) &&
    Values.same t.annotations u.annotations && t.path = u.path

def Instance.same (i j : Instance η) : Bool :=
  i.id = j.id && i.type.id = j.type.id && Values.same i.value j.value &&
    Values.same i.annotations j.annotations

def Element.same : Element → Element → Bool
  | .objectType t, .objectType u => t.same u
  | .field f, .field g => f.same g
  | .inst i, .inst j => i.same j
  | _, _ => false

end ElementSync
