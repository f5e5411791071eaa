import ElementSync.Value.Basic

/-!
# Templates

A template in normal form has no empty literal and no two literals side by side.
Two templates in normal form agree exactly when they spell the same sequence of
characters and references.
-/
namespace ElementSync.Template
variable {η : Type}

/-- Puts a part in front of parts in normal form. -/
def prepend : Part η → List (Part η) → List (Part η)
  | .literal s, ps =>
    if s = "" then ps
    else match ps with
      | .literal t :: ps => .literal (s ++ t) :: ps
      | ps => .literal s :: ps
  | p, ps => p :: ps

def normalize : List (Part η) → List (Part η)
  | [] => []
  | p :: ps => prepend p (normalize ps)

def ofParts (ps : List (Part η)) : Template η := ⟨normalize ps⟩

def references (t : Template η) : List (Reference η) :=
  t.parts.filterMap fun
    | .reference r => some r
    | .literal _ => none

def hasReferences (t : Template η) : Bool := !t.references.isEmpty

def Part.display : Part η → String
  | .literal s => s
  | .reference r => "$\x7b" ++ r.target.fullName ++ "\x7d"

def display (t : Template η) : String := String.join (t.parts.map Part.display)

def Part.same : Part η → Part η → Bool
  | .literal s, .literal t => s = t
  | .reference r, .reference q => r.target = q.target
  | _, _ => false

def same (t u : Template η) : Bool := go t.parts u.parts
where
  go : List (Part η) → List (Part η) → Bool
    | [], [] => true
    | p :: ps, q :: qs => p.same q && go ps qs
    | _, _ => false

/-- A character of the text or the target of a reference. -/
abbrev Symbol := Char ⊕ ElementId

def Part.spell : Part η → List Symbol
  | .literal s => s.toList.map .inl
  | .reference r => [.inr r.target]

def spell (ps : List (Part η)) : List Symbol := ps.flatMap Part.spell

end ElementSync.Template
