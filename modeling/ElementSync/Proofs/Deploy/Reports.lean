import ElementSync.Deploy.Batch
import ElementSync.Proofs.Change.Writes
import ElementSync.Proofs.Client.Exchanges

/-!
# Reports matched to changes

Which change a report is matched to depends on ids alone: looking up an id among the matched
changes is looking it up among the changes and among the reports. Every id is matched at most
once, whatever the client reports.
-/

namespace ElementSync

namespace RecordChange

@[simp] theorem id_mapData_set (c : RecordChange) (key : String) (v : Value Element) :
    RecordChange.id (c.mapData (·.set key v)) = c.id := by
  cases c <;> rfl

@[simp] theorem id_map_set (c : RecordChange) (key : String) (v : Value Element) :
    RecordChange.id (c.map (·.set key v)) = c.id := by
  cases c <;> rfl

@[simp] theorem id_resolveChange (resolver : Resolver) (c : RecordChange) :
    RecordChange.id (resolver.resolveChange c) = c.id := by
  cases c <;> rfl

theorem ids_resolveChange (resolver : Resolver) (cs : List RecordChange) :
    (cs.map resolver.resolveChange).map RecordChange.id = cs.map RecordChange.id := by
  rw [List.map_map]
  apply List.map_congr_left
  intro c _
  exact id_resolveChange resolver c

theorem isSome_find?_id {cs : List RecordChange} {i : ElementId} :
    (cs.find? (·.id = i)).isSome ↔ i ∈ cs.map RecordChange.id := by
  simp [List.find?_isSome]

theorem find?_id_of_mem {cs : List RecordChange} {c : RecordChange}
    (hcs : (cs.map RecordChange.id).Nodup) (hc : c ∈ cs) :
    cs.find? (·.id = c.id) = some c := by
  induction cs with
  | nil => cases hc
  | cons d cs ih =>
    obtain ⟨hd, hcs⟩ := List.nodup_cons.1 hcs
    rcases List.mem_cons.1 hc with rfl | hc
    · simp
    · have hne : d.id ≠ c.id := fun h => hd (h ▸ List.mem_map_of_mem hc)
      rw [List.find?_cons_of_neg (by simpa using hne), ih hcs hc]

end RecordChange

namespace Deploy

@[simp] theorem id_withAssignedId (c r : RecordChange) :
    RecordChange.id (withAssignedId c r) = c.id := by
  unfold withAssignedId
  split
  · rfl
  · rfl
  · exact c.id_mapData_set idField _

/-- The identifier in a report, unless it is a reference. -/
def identifierOf? (report : RecordChange) : Option (Value Element) :=
  (report.data.get? idField).filter fun v => v.reference?.isNone

theorem withAssignedId_eq (c report : RecordChange) :
    withAssignedId c report =
      (identifierOf? report).elim c fun v => c.mapData (·.set idField v) := by
  unfold withAssignedId identifierOf?
  cases hv : report.data.get? idField with
  | none => rfl
  | some v => cases v <;> rfl

theorem withAssignedId_of_none {c report : RecordChange} (h : identifierOf? report = none) :
    withAssignedId c report = c := by
  rw [withAssignedId_eq, h]
  rfl

theorem get?_withAssignedId (c report : RecordChange) :
    (withAssignedId c report).data.get? idField =
      (identifierOf? report).or (c.data.get? idField) := by
  rw [withAssignedId_eq]
  cases h : identifierOf? report with
  | none => rfl
  | some v => simp

/-- Finding an id among the changes whose id is another one. -/
theorem find?_reverse_filter_ne {changes : List RecordChange} {i j : ElementId} (hij : i ≠ j) :
    (changes.filter (·.id ≠ j)).reverse.find? (·.id = i) = changes.reverse.find? (·.id = i) := by
  rw [← List.filter_reverse, List.find?_filter]
  congr 1
  funext c
  by_cases hc : c.id = i <;> simp [hc, hij]

theorem find?_matchReports (changes reports : List RecordChange) (i : ElementId) :
    (matchReports changes reports).find? (·.id = i) =
      (changes.reverse.find? (·.id = i)).bind fun c =>
        (reports.find? (·.id = i)).map (withAssignedId c) := by
  induction reports generalizing changes with
  | nil => cases h : changes.reverse.find? (·.id = i) <;> simp [matchReports]
  | cons r reports ih =>
    unfold matchReports
    cases hc : changes.reverse.find? (·.id = r.id) with
    | some c =>
      have hid : c.id = r.id := by simpa using List.find?_some hc
      by_cases hi : r.id = i
      · subst hi
        simp [hc, hid]
      · have hne : i ≠ r.id := fun h => hi h.symm
        simp only [List.find?_cons, id_withAssignedId, hid, hi, decide_false]
        rw [ih, find?_reverse_filter_ne hne]
    | none =>
      by_cases hi : r.id = i
      · subst hi
        rw [ih, hc]
        rfl
      · rw [ih]
        simp [hi]

theorem mem_ids_matchReports {changes reports : List RecordChange} {i : ElementId} :
    i ∈ (matchReports changes reports).map RecordChange.id ↔
      i ∈ changes.map RecordChange.id ∧ i ∈ reports.map RecordChange.id := by
  have hchanges : i ∈ changes.map RecordChange.id ↔
      (changes.reverse.find? (·.id = i)).isSome := by
    rw [RecordChange.isSome_find?_id, List.map_reverse, List.mem_reverse]
  have hreports : i ∈ reports.map RecordChange.id ↔ (reports.find? (·.id = i)).isSome :=
    RecordChange.isSome_find?_id.symm
  rw [← RecordChange.isSome_find?_id, find?_matchReports, hchanges, hreports]
  cases changes.reverse.find? (·.id = i) <;> simp

theorem nodup_ids_matchReports (changes reports : List RecordChange) :
    ((matchReports changes reports).map RecordChange.id).Nodup := by
  induction reports generalizing changes with
  | nil => exact List.nodup_nil
  | cons r reports ih =>
    unfold matchReports
    cases hc : changes.reverse.find? (·.id = r.id) with
    | none => exact ih changes
    | some c =>
      have hid : c.id = r.id := by simpa using List.find?_some hc
      rw [List.map_cons, id_withAssignedId, hid, List.nodup_cons]
      refine ⟨?_, ih _⟩
      intro hmem
      obtain ⟨d, hd, hdr⟩ := List.mem_map.1 (mem_ids_matchReports.1 hmem).1
      exact of_decide_eq_true (List.mem_filter.1 hd).2 hdr

/-- A change that was matched, with the report that it was matched to. -/
theorem exists_of_mem_matchReports {changes reports : List RecordChange} {a : RecordChange}
    (h : a ∈ matchReports changes reports) :
    ∃ c r, changes.reverse.find? (·.id = a.id) = some c ∧
      reports.find? (·.id = a.id) = some r ∧ a = withAssignedId c r := by
  have hfind := RecordChange.find?_id_of_mem (nodup_ids_matchReports changes reports) h
  rw [find?_matchReports, Option.bind_eq_some_iff] at hfind
  obtain ⟨c, hc, hmap⟩ := hfind
  obtain ⟨r, hr, ha⟩ := Option.map_eq_some_iff.1 hmap
  exact ⟨c, r, hc, hr, ha.symm⟩

def outcome (changes : List RecordChange) : BatchAnswer → DeployResult
  | .done r => { r with applied := matchReports changes r.applied }
  | .failed e => .failed changes e
  | .crashed text => .failed changes (.ofCrash text)

theorem applied_outcome (changes : List RecordChange) (a : BatchAnswer) :
    (outcome changes a).applied = matchReports changes a.applied := by
  cases a <;> rfl

variable {σ : Type}

/-- A batch makes one exchange, which holds the changes as they are resolved. -/
theorem batch_run (client : Client σ) (resolver : Resolver) (changes : List RecordChange)
    (s : Session σ) :
    ∃ (x : Exchange) (s' : Session σ), client.sendBatch x.sent s = (x.answer, s') ∧
      x.sent = changes.map resolver.resolveChange ∧
      batch client resolver changes s = (outcome changes x.answer, s') := by
  let answered := client.sendBatch (changes.map resolver.resolveChange) s
  refine ⟨⟨changes.map resolver.resolveChange, answered.1⟩, answered.2, rfl, rfl, ?_⟩
  change (match answered.1 with
    | .done r => (return { r with applied := matchReports changes r.applied } : Wire σ DeployResult)
    | .failed e => return .failed changes e
    | .crashed text => return .failed changes (.ofCrash text)) answered.2 = _
  cases answered.1 <;> rfl

end Deploy

end ElementSync
