import ElementSync.Proofs.Adapter.Prepared
import ElementSync.Proofs.Fetch.Records
import ElementSync.Proofs.Graph

/-!
# A fetch as the filters leave it

The filters of an adapter ask the client for the tooling types only. What else they do to fetched
elements is a function of these, and none of them fails, so a fetch that brings in records ends
with the elements as the function leaves them, unless two of these have one id.
-/

namespace ElementSync

def Element.mapInst (g : Instance Element → Instance Element) : Element → Element
  | .inst i => .inst (g i)
  | e => e

theorem RecordReferences.linkElement_eq (rs : List (Instance Element)) :
    linkElement rs = Element.mapInst (linkInstance rs) := by
  funext e
  cases e <;> rfl

theorem ConditionLogic.unpackElement_eq (es : List Element) :
    unpackElement es = Element.mapInst (unpackInstance es) := by
  funext e
  cases e <;> rfl

theorem IssueTypes.flattenElement_eq : flattenElement = Element.mapInst flattenInstance := by
  funext e
  cases e <;> rfl

namespace FilterContext
variable (context : FilterContext) (es : List Element)

def unpackLogic : List Element :=
  if context.profile.isFeatureEnabled ConditionLogic.feature then ConditionLogic.unpackAll es
  else es

def refine : List Element :=
  ChangeTimes.update context.source (IssueTypes.flatten (PackageDependencies.link
    (Labels.split (context.unpackLogic (RecordReferences.link es)))))

end FilterContext

variable {σ : Type}

theorem Pipeline.onFetch_builtInWith (client : Client σ) (context : FilterContext)
    (maxDescribes : Nat) (templates : ConditionLogic.SavedByType) (labels : List (Change Element))
    (es : List Element) (s : Session σ) :
    let tooling := context.profile.fetchTooling client maxDescribes s
    ∃ warnings, onFetch client context (Filter.builtInWith maxDescribes templates labels) es s =
      (⟨context.refine (es ++ tooling.1.elements), .ok warnings⟩, tooling.2) :=
  ⟨_, rfl⟩

namespace Adapter
variable (a : Adapter) (client : Client σ) (maxDescribes : Nat)
  (templates : ConditionLogic.SavedByType) (labels : List (Change Element)) {s s' : Session σ}

def refined (es : List Element) (s : Session σ) : List Element :=
  a.context.refine (es ++ (a.profile.fetchTooling client maxDescribes s).1.elements)

theorem fetch_of_error {e : Failure}
    (h : a.profile.fetchRecords client a.config.client.maxDescribes s = (.error e, s')) :
    ((a.withSaved maxDescribes templates labels).fetch client s).1 = .error e := by
  have hrecords : (a.withSaved maxDescribes templates labels).profile.fetchRecords client
      (a.withSaved maxDescribes templates labels).config.client.maxDescribes s = _ := h
  simp only [fetch, bind, StateT.bind, hrecords]
  rfl

/-- Once the records are there, only two elements with one id make a fetch fail. -/
theorem fetch_of_ok {data : Fetched}
    (h : a.profile.fetchRecords client a.config.client.maxDescribes s = (.ok data, s')) :
    ∃ warnings, ((a.withSaved maxDescribes templates labels).fetch client s).1 =
      match ElementGraph.ofElements (a.refined client maxDescribes data.elements s') with
      | .error e => .error (.element e)
      | .ok graph => .ok { elements := graph.elements, warnings } := by
  have hrecords : (a.withSaved maxDescribes templates labels).profile.fetchRecords client
      (a.withSaved maxDescribes templates labels).config.client.maxDescribes s = _ := h
  obtain ⟨warnings, hfilters⟩ : ∃ warnings,
      Pipeline.onFetch client (a.withSaved maxDescribes templates labels).context
          (a.withSaved maxDescribes templates labels).filters data.elements s' =
        (⟨a.refined client maxDescribes data.elements s', .ok warnings⟩, _) :=
    Pipeline.onFetch_builtInWith client a.context maxDescribes templates labels data.elements s'
  refine ⟨data.warnings ++ warnings, ?_⟩
  simp only [fetch, bind, StateT.bind, hrecords, hfilters]
  cases ElementGraph.ofElements (a.refined client maxDescribes data.elements s') <;> rfl

theorem fetch_of_nodup {data : Fetched}
    (h : a.profile.fetchRecords client a.config.client.maxDescribes s = (.ok data, s'))
    (hnodup : ((a.refined client maxDescribes data.elements s').map Element.id).Nodup) :
    ∃ warnings, ((a.withSaved maxDescribes templates labels).fetch client s).1 =
      .ok { elements := a.refined client maxDescribes data.elements s', warnings } := by
  obtain ⟨warnings, hfetch⟩ := a.fetch_of_ok client maxDescribes templates labels h
  rw [ElementGraph.ofElements_of_nodup hnodup] at hfetch
  exact ⟨warnings, hfetch⟩

theorem fetch_of_not_nodup {data : Fetched}
    (h : a.profile.fetchRecords client a.config.client.maxDescribes s = (.ok data, s'))
    (hdup : ¬ ((a.refined client maxDescribes data.elements s').map Element.id).Nodup) :
    ∃ id, ((a.withSaved maxDescribes templates labels).fetch client s).1 =
      .error (.element (.duplicate id)) := by
  obtain ⟨_, hfetch⟩ := a.fetch_of_ok client maxDescribes templates labels h
  obtain ⟨id, hid⟩ := ElementGraph.exists_ofElements_eq_error hdup
  rw [hid] at hfetch
  exact ⟨id, hfetch⟩

/-- What a fetch ends with has distinct ids. -/
theorem exists_of_fetch {fetched : Fetched}
    (h : ((a.withSaved maxDescribes templates labels).fetch client s).1 = .ok fetched) :
    ∃ data s₁, a.profile.fetchRecords client a.config.client.maxDescribes s = (.ok data, s₁) ∧
      fetched.elements = a.refined client maxDescribes data.elements s₁ ∧
      (fetched.elements.map Element.id).Nodup := by
  cases hrecords : a.profile.fetchRecords client a.config.client.maxDescribes s with
  | mk answer s₁ =>
  cases answer with
  | error e =>
    rw [a.fetch_of_error client maxDescribes templates labels hrecords] at h
    cases h
  | ok data =>
    by_cases hnodup : ((a.refined client maxDescribes data.elements s₁).map Element.id).Nodup
    case pos =>
      obtain ⟨warnings, hfetch⟩ :=
        a.fetch_of_nodup client maxDescribes templates labels hrecords hnodup
      rw [hfetch] at h
      cases h
      exact ⟨data, s₁, rfl, rfl, hnodup⟩
    case neg =>
      obtain ⟨id, hfetch⟩ :=
        a.fetch_of_not_nodup client maxDescribes templates labels hrecords hnodup
      rw [hfetch] at h
      cases h

/-- Two elements with one id are the only reason for which a fetch reports an id. -/
theorem exists_duplicate_iff :
    (∃ id, ((a.withSaved maxDescribes templates labels).fetch client s).1 =
        .error (.element (.duplicate id))) ↔
      ∃ data s₁, a.profile.fetchRecords client a.config.client.maxDescribes s = (.ok data, s₁) ∧
        ¬ ((a.refined client maxDescribes data.elements s₁).map Element.id).Nodup := by
  constructor
  · rintro ⟨id, h⟩
    cases hrecords : a.profile.fetchRecords client a.config.client.maxDescribes s with
    | mk answer s₁ =>
    cases answer with
    | error e =>
      have hbrings := a.profile.fetchRecords_brings client a.config.client.maxDescribes s
      rw [a.fetch_of_error client maxDescribes templates labels hrecords] at h
      rw [hrecords] at hbrings
      obtain ⟨c, rfl⟩ := hbrings
      cases h
    | ok data =>
      refine ⟨data, s₁, rfl, fun hnodup => ?_⟩
      obtain ⟨warnings, hfetch⟩ :=
        a.fetch_of_nodup client maxDescribes templates labels hrecords hnodup
      rw [hfetch] at h
      cases h
  · rintro ⟨data, s₁, hrecords, hdup⟩
    exact a.fetch_of_not_nodup client maxDescribes templates labels hrecords hdup

end Adapter

end ElementSync
