import ElementSync.Change.Basic

/-!
# Outlines

The outline of a change is what is left without the values of its instances. The id of a change,
its action and the kinds and types of its states can be read off the outline.
-/

namespace ElementSync

def Instance.outline (i : Instance Element) : Instance Element := { i with value := [] }

def Element.outline : Element → Element
  | .inst i => .inst i.outline
  | e => e

def Change.outline (c : Change Element) : Change Element := c.map Element.outline

theorem Instance.type_eq_of_outline {i j : Instance Element} (h : i.outline = j.outline) :
    i.type = j.type :=
  (congrArg Instance.type h : i.outline.type = j.outline.type)

theorem Instance.id_eq_of_outline {i j : Instance Element} (h : i.outline = j.outline) :
    i.id = j.id :=
  (congrArg Instance.id h : i.outline.id = j.outline.id)

namespace Element

@[simp] theorem id_outline (e : Element) : e.outline.id = e.id := by
  cases e <;> rfl

@[simp] theorem isInst_outline (e : Element) : e.outline.isInst = e.isInst := by
  cases e <;> rfl

end Element

namespace Change

def IsUniform : Change Element → Prop
  | modification b a => b.isInst = a.isInst
  | _ => True

@[simp] theorem data_outline (c : Change Element) : c.outline.data = c.data.outline :=
  Change.data_map _ c

@[simp] theorem id_outline (c : Change Element) : c.outline.id = c.id := by
  rw [Change.id, data_outline, Element.id_outline]
  rfl

theorem isUniform_outline (c : Change Element) : c.outline.IsUniform ↔ c.IsUniform := by
  cases c with
  | modification b a => simp [outline, map, IsUniform]
  | _ => rfl

variable {cs cs' : List (Change Element)}

theorem map_eq_of_outlines {β : Type} {g : Change Element → β} (hg : ∀ c, g c.outline = g c)
    (h : cs'.map outline = cs.map outline) : cs'.map g = cs.map g := by
  have hmap := congrArg (List.map g) h
  simpa only [List.map_map, Function.comp_def, hg] using hmap

theorem forall_of_outlines {p : Change Element → Prop} (hp : ∀ c, p c.outline ↔ p c)
    (h : cs'.map outline = cs.map outline) (hcs : ∀ c ∈ cs, p c) : ∀ c ∈ cs', p c := by
  intro c' hc'
  have hmem : c'.outline ∈ cs.map outline := h ▸ List.mem_map_of_mem hc'
  obtain ⟨c, hc, heq⟩ := List.mem_map.1 hmem
  rw [← hp, ← heq, hp]
  exact hcs c hc

/-- A change of an instance is a change of a record. -/
theorem exists_toRecord {c : Change Element} (huniform : c.IsUniform) (hinst : c.data.isInst) :
    ∃ r, c.toRecord = .ok r ∧ r.toChange = c := by
  have hstate : ∀ e : Element, e.isInst → ∃ i, e.toInst = .ok i ∧ .inst i = e := by
    intro e he
    cases e with
    | inst i => exact ⟨i, rfl, rfl⟩
    | _ => cases he
  cases c with
  | addition a =>
    obtain ⟨i, hi, rfl⟩ := hstate a hinst
    exact ⟨.addition i, rfl, rfl⟩
  | removal b =>
    obtain ⟨i, hi, rfl⟩ := hstate b hinst
    exact ⟨.removal i, rfl, rfl⟩
  | modification b a =>
    obtain ⟨i, hi, rfl⟩ := hstate a hinst
    obtain ⟨j, hj, rfl⟩ := hstate b (huniform.trans hinst)
    exact ⟨.modification j i, rfl, rfl⟩

end Change

theorem RecordChange.id_toChange (c : RecordChange) : c.toChange.id = c.id := by
  cases c <;> rfl

end ElementSync
