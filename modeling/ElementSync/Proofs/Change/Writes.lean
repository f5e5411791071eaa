import ElementSync.Proofs.Change.Outline

/-!
# Writing fields

Writing fields keeps the outline of an instance and every other field. Writes to fields that are
there already may be put off behind writes to other fields, and the order of the fields does not
show it.
-/

namespace ElementSync

namespace Change
variable {α : Type}

@[simp] theorem data_mapData (f : α → α) (c : Change α) : (c.mapData f).data = f c.data := by
  cases c <;> rfl

@[simp] theorem mapData_mapData (f g : α → α) (c : Change α) :
    (c.mapData f).mapData g = c.mapData fun a => g (f a) := by
  cases c <;> rfl

theorem eq_addition {c : Change α} (h : c.action = .add) : c = .addition c.data := by
  cases c with
  | addition a => rfl
  | removal b => cases h
  | modification b a => cases h

end Change

namespace Instance
variable (i : Instance Element) {key key' : String} (v w : Value Element)

theorem get?_set (key key' : String) (v : Value Element) :
    (i.set key v).get? key' = if key' = key then some v else i.get? key' :=
  Assoc.lookup_put i.value key key' v

@[simp] theorem get?_set_self (key : String) (v : Value Element) :
    (i.set key v).get? key = some v := by
  rw [get?_set, if_pos rfl]

@[simp] theorem outline_set (key : String) (v : Value Element) :
    (i.set key v).outline = i.outline := rfl

theorem set_set (key : String) : (i.set key v).set key w = i.set key w :=
  congrArg (fun vs => { i with value := vs }) (Assoc.put_put i.value key v w)

variable {i v}

theorem set_of_get? (h : i.get? key = some v) : i.set key v = i :=
  congrArg (fun vs => { i with value := vs }) (Assoc.put_of_lookup h)

theorem mem_keys_of_get? (h : i.get? key = some v) : key ∈ Assoc.keys i.value :=
  List.mem_map.2 ⟨(key, v), Assoc.mem_of_lookup h, rfl⟩

theorem set_comm_of_get? {u : Value Element} (hne : key ≠ key') (h : i.get? key = some u) :
    (i.set key v).set key' w = (i.set key' w).set key v :=
  congrArg (fun vs => { i with value := vs })
    (Assoc.put_comm_of_mem hne (mem_keys_of_get? h) v w)

def write (i : Instance Element) (es : Values Element) : Instance Element :=
  es.foldl (fun i e => i.set e.1 e.2) i

@[simp] theorem write_nil (i : Instance Element) : i.write [] = i := rfl

theorem write_cons (i : Instance Element) (e : String × Value Element) (es : Values Element) :
    i.write (e :: es) = (i.set e.1 e.2).write es := rfl

@[simp] theorem outline_write (i : Instance Element) (es : Values Element) :
    (i.write es).outline = i.outline := by
  induction es generalizing i with
  | nil => rfl
  | cons e es ih => rw [write_cons, ih, outline_set]

theorem write_append (i : Instance Element) (es fs : Values Element) :
    (i.write es).write fs = i.write (es ++ fs) :=
  List.foldl_append.symm

theorem get?_write_of_notMem {es : Values Element} (h : key ∉ Assoc.keys es)
    (i : Instance Element) : (i.write es).get? key = i.get? key := by
  induction es generalizing i with
  | nil => rfl
  | cons e es ih =>
    rw [Assoc.keys, List.map_cons, List.mem_cons, not_or] at h
    rw [write_cons, ih h.2, get?_set, if_neg h.1]

theorem nodup_keys_set (h : (Assoc.keys i.value).Nodup) (key : String) (v : Value Element) :
    (Assoc.keys (i.set key v).value).Nodup := by
  by_cases hkey : key ∈ Assoc.keys i.value
  · exact (Assoc.keys_put_of_mem hkey v).symm ▸ h
  · have hkeys : Assoc.keys (i.set key v).value = Assoc.keys i.value ++ [key] :=
      Assoc.keys_put_of_notMem hkey v
    rw [hkeys, (List.perm_append_singleton key _).nodup_iff]
    exact List.nodup_cons.2 ⟨hkey, h⟩

theorem nodup_keys_write (h : (Assoc.keys i.value).Nodup) (es : Values Element) :
    (Assoc.keys (i.write es).value).Nodup := by
  induction es generalizing i with
  | nil => exact h
  | cons e es ih => exact ih (nodup_keys_set h e.1 e.2)

/-- A field that is there may as well be written last. -/
theorem write_set_of_notMem {es : Values Element} (hes : key ∉ Assoc.keys es)
    {i : Instance Element} {u : Value Element} (h : i.get? key = some u) :
    (i.set key v).write es = (i.write es).set key v := by
  induction es generalizing i u with
  | nil => rfl
  | cons e es ih =>
    rw [Assoc.keys, List.map_cons, List.mem_cons, not_or] at hes
    have hkept : (i.set e.1 e.2).get? key = some u := by
      rw [get?_set, if_neg hes.1, h]
    rw [write_cons, write_cons, set_comm_of_get? _ hes.1 h, ih hes.2 hkept]

end Instance

namespace Element

def write (e : Element) (es : Values Element) : Element :=
  match e with
  | .inst i => .inst (i.write es)
  | e => e

end Element

namespace Change

def write (c : Change Element) (es : Values Element) : Change Element :=
  c.mapData (·.write es)

@[simp] theorem write_nil (c : Change Element) : c.write [] = c := by
  have hstate : ∀ e : Element, e.write [] = e := fun e => by cases e <;> rfl
  cases c <;> simp [write, mapData, hstate]

end Change

namespace RecordChange

def write (c : RecordChange) (es : Values Element) : RecordChange := c.mapData (·.write es)

@[simp] theorem write_nil (c : RecordChange) : c.write [] = c := by
  cases c <;> rfl

theorem write_append (c : RecordChange) (es fs : Values Element) :
    (c.write es).write fs = c.write (es ++ fs) := by
  simp only [write, Change.mapData_mapData, Instance.write_append]

@[simp] theorem data_write (c : RecordChange) (es : Values Element) :
    (c.write es).data = c.data.write es :=
  Change.data_mapData _ c

@[simp] theorem id_write (c : RecordChange) (es : Values Element) : (c.write es).id = c.id := by
  rw [id, data_write, Instance.id_eq_of_outline (c.data.outline_write es)]
  rfl

theorem after?_write (c : RecordChange) (es : Values Element) :
    (c.write es).after? = c.after?.map (·.write es) := by
  cases c <;> rfl

theorem toChange_write (c : RecordChange) (es : Values Element) :
    toChange (c.write es) = c.toChange.write es := by
  cases c <;> rfl

end RecordChange

end ElementSync
