import ElementSync.Proofs.Fetch.Ids

/-!
# The order in which descriptions arrive

Types are described side by side, and the answers arrive in any order. Sorting the types by name
takes the order away again: the queries and elements of a fetch are the same for every order, and
so are the warnings but for their order.
-/

namespace ElementSync

/-! ### Sorting -/

theorem Text.pairwise_sortBy {α : Type} (key : α → String) (xs : List α) :
    (sortBy key xs).Pairwise fun a b => key a ≤ key b := by
  have hsorted : (sortBy key xs).Pairwise fun a b => !decide (key b < key a) := by
    apply List.pairwise_mergeSort
    · intro a b c hab hbc
      simp only [Bool.not_eq_true', decide_eq_false_iff_not, String.not_lt] at *
      exact String.le_trans hab hbc
    · intro a b
      simp only [Bool.or_eq_true, Bool.not_eq_true', decide_eq_false_iff_not, String.not_lt]
      exact String.le_total (key a) (key b)
  apply hsorted.imp
  intro a b hab
  simpa only [Bool.not_eq_true', decide_eq_false_iff_not, String.not_lt] using hab

/-- Distinct keys stand in one order only. -/
theorem Text.sortBy_eq_of_perm {α : Type} {key : α → String} {xs ys : List α} (h : xs.Perm ys)
    (hkeys : (xs.map key).Nodup) : sortBy key xs = sortBy key ys := by
  apply List.Perm.eq_of_pairwise _ (pairwise_sortBy key xs) (pairwise_sortBy key ys)
  · exact ((sortBy_perm key xs).trans h).trans (sortBy_perm key ys).symm
  · intro a b ha hb hab hba
    refine List.inj_on_of_nodup_map hkeys (mem_sortBy.1 ha) ?_ (String.le_antisymm hab hba)
    exact h.mem_iff.2 (mem_sortBy.1 hb)

theorem Text.pairwise_lt_sortBy {α : Type} {key : α → String} {xs : List α}
    (hkeys : (xs.map key).Nodup) : (sortBy key xs).Pairwise fun a b => key a < key b := by
  have hnodup : ((sortBy key xs).map key).Nodup := ((sortBy_perm key xs).map key).nodup_iff.2 hkeys
  apply ((pairwise_sortBy key xs).and (List.pairwise_map.1 hnodup)).imp
  rintro a b ⟨hle, hne⟩
  exact String.not_le.1 fun hge => hne (String.le_antisymm hle hge)

/-! ### Types and warnings -/

namespace Descriptions

def schemaNames (ds : Descriptions) : List String :=
  ds.filterMap fun d => d.2.toOption.map TypeSchema.name

def described (ds : Descriptions) : List (ObjectType Element) :=
  ds.filterMap fun d => d.2.toOption.map (·.toObjectType customObject)

theorem typeNames_described (ds : Descriptions) :
    ds.described.map (·.id.typeName) = ds.schemaNames := by
  rw [described, List.map_filterMap]
  apply List.filterMap_congr
  intro d _
  cases d.2 with
  | error e => rfl
  | ok schema =>
    have hid := schema.id_toObjectType customObject
    exact congrArg some (congrArg ElementId.typeName hid)

theorem types_eq_of_perm {ds ds' : Descriptions} (h : ds.Perm ds') (hnames : ds.schemaNames.Nodup) :
    ds.types = ds'.types := by
  apply Text.sortBy_eq_of_perm (h.filterMap _)
  exact (ds.typeNames_described).symm ▸ hnames

theorem warnings_perm {ds ds' : Descriptions} (h : ds.Perm ds') :
    ds.warnings.Perm ds'.warnings :=
  h.filterMap _

end Descriptions

/-! ### Queries -/

namespace RecordStream

/-- The fetch of a type goes on: its records came without an error, or are too many. -/
def GoesThrough (most : Nat) (stream : RecordStream) : Prop :=
  stream.records.length ≤ most → stream.failure = none

end RecordStream

def ObjectType.instances (t : ObjectType Element) (rs : List Record) : List (Instance Element) :=
  List.zipWith (Record.toInstance t) rs (Record.elementNames [] rs)

theorem ObjectType.forall₂_instances (t : ObjectType Element) (rs : List Record) :
    List.Forall₂ (fun r i => ∃ name, i = Record.toInstance t r name) rs (t.instances rs) := by
  have hnames : ∀ taken, List.Forall₂ (fun r i => ∃ name, i = Record.toInstance t r name) rs
      (List.zipWith (Record.toInstance t) rs (Record.elementNames taken rs)) := by
    induction rs with
    | nil => exact fun _ => .nil
    | cons r rs ih => exact fun taken => .cons ⟨_, rfl⟩ (ih _)
  exact hnames []

theorem Client.sendQuery_run {σ : Type} (client : Client σ) (text : String) (s : Session σ) :
    client.sendQuery text s = ((client.query text s.state).1,
      { state := (client.query text s.state).2
        trace := { s.trace with queries := s.trace.queries ++ [text] } }) :=
  rfl

namespace FetchProfile
variable {σ : Type} (p : FetchProfile) (client : Client σ)

def elementsOf (x : ObjectType Element × RecordStream) : List Element :=
  .objectType x.1 ::
    if x.2.records.length ≤ p.maxInstances then (x.1.instances x.2.records).map .inst else []

def warningsOf (x : ObjectType Element × RecordStream) : List String :=
  if x.2.records.length ≤ p.maxInstances then [] else [p.tooMany x.1]

theorem fetchType_of_goesThrough {t : ObjectType Element} {s : Session σ} {stream : RecordStream}
    {state : σ} (hquery : client.query t.query s.state = (stream, state))
    (h : stream.GoesThrough p.maxInstances) :
    p.fetchType client t s =
      (.ok { elements := p.elementsOf (t, stream), warnings := p.warningsOf (t, stream) },
        { state, trace := { s.trace with queries := s.trace.queries ++ [t.query] } }) := by
  simp only [fetchType, bind, StateT.bind, client.sendQuery_run, hquery, elementsOf, warningsOf]
  by_cases hmost : stream.records.length ≤ p.maxInstances
  · rw [RecordStream.instances?, if_neg (Nat.not_lt.2 hmost), h hmost, if_pos hmost, if_pos hmost]
    rfl
  · rw [RecordStream.instances?, if_pos (Nat.lt_of_not_le hmost), if_neg hmost, if_neg hmost]
    rfl

theorem fetchType_of_not_goesThrough {t : ObjectType Element} {s : Session σ}
    {stream : RecordStream} {state : σ}
    (hquery : client.query t.query s.state = (stream, state))
    (h : ¬ stream.GoesThrough p.maxInstances) :
    ∃ e s', p.fetchType client t s = (.error (.client e), s') := by
  obtain ⟨hmost, hfailure⟩ := Classical.not_imp.1 h
  obtain ⟨e, he⟩ := Option.ne_none_iff_exists'.1 hfailure
  simp only [fetchType, bind, StateT.bind, client.sendQuery_run, hquery]
  rw [RecordStream.instances?, if_neg (Nat.not_lt.2 hmost), he]
  exact ⟨e, _, rfl⟩

/-- The queries are those of the types in order, and the fetch goes through when each does. -/
theorem fetchTypes_run (ts : List (ObjectType Element)) (s : Session σ) :
    ∃ streams state,
      (ts.map ObjectType.query).mapM client.query s.state = (streams, state) ∧
      ((∀ stream ∈ streams, stream.GoesThrough p.maxInstances) →
        p.fetchTypes client ts s =
          (.ok { elements := (ts.zip streams).flatMap p.elementsOf
                 warnings := (ts.zip streams).flatMap p.warningsOf },
            { state, trace :=
              { s.trace with queries := s.trace.queries ++ ts.map ObjectType.query } })) ∧
      ((∃ stream ∈ streams, ¬ stream.GoesThrough p.maxInstances) →
        ∃ e s', p.fetchTypes client ts s = (.error (.client e), s')) := by
  induction ts generalizing s with
  | nil =>
    refine ⟨[], s.state, rfl, fun _ => ?_, by simp⟩
    rw [List.map_nil, List.append_nil]
    rfl
  | cons t ts ih =>
    obtain ⟨stream, next, hquery⟩ : ∃ stream next, client.query t.query s.state = (stream, next) :=
      ⟨_, _, rfl⟩
    obtain ⟨streams, state, hqueries, hthrough, hfails⟩ := ih
      { state := next, trace := { s.trace with queries := s.trace.queries ++ [t.query] } }
    have hall : ((t :: ts).map ObjectType.query).mapM client.query s.state =
        (stream :: streams, state) := by
      simp only [List.map_cons, List.mapM_cons, bind, StateT.bind, hquery, hqueries]
      rfl
    refine ⟨stream :: streams, state, hall, fun h => ?_, fun h => ?_⟩
    · have hfirst := p.fetchType_of_goesThrough client hquery (h stream List.mem_cons_self)
      have hrest := hthrough fun stream hs => h stream (List.mem_cons_of_mem _ hs)
      simp only [fetchTypes, bind, StateT.bind, hfirst, hrest, List.map_cons, List.append_assoc]
      rfl
    · by_cases hgoes : stream.GoesThrough p.maxInstances
      case neg =>
        obtain ⟨e, s', hfirst⟩ := p.fetchType_of_not_goesThrough client hquery hgoes
        simp only [fetchTypes, bind, StateT.bind, hfirst]
        exact ⟨e, s', rfl⟩
      case pos =>
        have hfirst := p.fetchType_of_goesThrough client hquery hgoes
        have hlater : ∃ stream ∈ streams, ¬ stream.GoesThrough p.maxInstances := by
          simpa [hgoes] using h
        obtain ⟨e, s', hrest⟩ := hfails hlater
        simp only [fetchTypes, bind, StateT.bind, hfirst, hrest]
        exact ⟨e, s', rfl⟩

end FetchProfile

/-! ### Arrivals -/

namespace Client
variable {σ : Type} (client : Client σ)

def describeSelected (selection : Selection) (maxDescribes : Nat) :
    Wire σ (Except ClientError Descriptions) := do
  match ← Wire.call client.listTypes with
  | .error e => return .error e
  | .ok names =>
    return .ok (← client.describeAll (Text.sort (names.filter selection.includes)) maxDescribes)

variable {client}

/-- Each selected type is described once, as the client describes it. -/
theorem asked_of_describeSelected {selection : Selection} {maxDescribes : Nat} {s s₁ : Session σ}
    {ds : Descriptions} (h : client.describeSelected selection maxDescribes s = (.ok ds, s₁)) :
    ∃ names, (client.listTypes s.state).1 = .ok names ∧
      ds.map Prod.fst = Text.sort (names.filter selection.includes) ∧ client.Describes ds := by
  rcases hlisted : client.listTypes s.state with ⟨_ | names, state⟩
  · simp only [describeSelected, bind, StateT.bind, Wire.call, hlisted] at h
    cases h
  · obtain ⟨hasked, hdescribes⟩ := client.describeAll_describes
      (Text.sort (names.filter selection.includes)) maxDescribes { s with state }
    simp only [describeSelected, bind, StateT.bind, Wire.call, hlisted] at h
    cases h
    exact ⟨names, rfl, hasked, hdescribes⟩

/-- An orderly client does not answer with one name twice. -/
theorem IsOrderly.nodup_schemaNames (hclient : client.IsOrderly) {selection : Selection}
    {maxDescribes : Nat} {s s₁ : Session σ} {ds : Descriptions}
    (h : client.describeSelected selection maxDescribes s = (.ok ds, s₁)) :
    ds.schemaNames.Nodup := by
  obtain ⟨names, hlisted, hasked, hdescribes⟩ := asked_of_describeSelected h
  have hnames : (ds.map Prod.fst).Nodup := by
    rw [hasked, (Text.sort_perm _).nodup_iff]
    exact (hclient.listed s.state names hlisted).filter _
  rw [← ds.typeNames_described]
  exact hnames.sublist (hdescribes.sublist hclient)

end Client

/-- The same elements in the same order and the same warnings in any order, or the same failure. -/
def Fetched.Agree : Except Failure Fetched → Except Failure Fetched → Prop
  | .ok a, .ok b => a.elements = b.elements ∧ a.warnings.Perm b.warnings
  | .error e, .error e' => e = e'
  | _, _ => False

namespace FetchProfile
variable {σ : Type} (p : FetchProfile) (client : Client σ)

def fetchArriving (selection : Selection) (arrive : Descriptions → Descriptions)
    (maxDescribes : Nat) : Wire σ (Except Failure Fetched) := do
  match ← client.describeSelected selection maxDescribes with
  | .error e => return .error (.client e)
  | .ok ds => p.fetchDescribed client (arrive ds)

/-- The fetch as it is has the descriptions arrive in the order they were asked for. -/
theorem fetchRecords_eq_fetchArriving {selection : Selection}
    (hselection : p.selection = some selection) (maxDescribes : Nat) (s : Session σ) :
    p.fetchRecords client maxDescribes s = p.fetchArriving client selection id maxDescribes s := by
  rcases hlisted : client.listTypes s.state with ⟨_ | names, state⟩
  · simp only [fetchRecords, fetchArriving, Client.describeSelected, hselection, bind, StateT.bind,
      Wire.call, hlisted]
    rfl
  · rw [p.fetchRecords_of_listTypes client hselection hlisted]
    simp only [fetchArriving, Client.describeSelected, bind, StateT.bind, Wire.call, hlisted]
    rfl

theorem fetchDescribed_eq (ds : Descriptions) (s : Session σ) :
    p.fetchDescribed client ds s =
      ((p.fetchTypes client ds.types s).1.map ({ warnings := ds.warnings : Fetched }).append,
        (p.fetchTypes client ds.types s).2) :=
  rfl

theorem fetchDescribed_agrees {ds ds' : Descriptions} (h : ds.Perm ds')
    (hnames : ds.schemaNames.Nodup) (s : Session σ) :
    Fetched.Agree (p.fetchDescribed client ds s).1 (p.fetchDescribed client ds' s).1 ∧
      (p.fetchDescribed client ds s).2 = (p.fetchDescribed client ds' s).2 := by
  rw [fetchDescribed_eq, fetchDescribed_eq, ← Descriptions.types_eq_of_perm h hnames]
  refine ⟨?_, rfl⟩
  cases (p.fetchTypes client ds.types s).1 with
  | error e => exact rfl
  | ok fetched => exact ⟨rfl, (Descriptions.warnings_perm h).append_right _⟩

/-- What a fetch of described types comes to: type by type in the order of their names, or an
error of the client when the records of one do not come. -/
def GoesInOrder (ds : Descriptions) (s : Session σ)
    (run : Except Failure Fetched × Session σ) : Prop :=
  ∃ (types : List (ObjectType Element)) (streams : List RecordStream) (state : σ),
    types.Pairwise (fun t u => t.id.typeName < u.id.typeName) ∧ types.Perm ds.described ∧
    (types.map ObjectType.query).mapM client.query s.state = (streams, state) ∧
    ((∀ stream ∈ streams, stream.GoesThrough p.maxInstances) → ∃ fetched,
      run = (.ok fetched, { state, trace :=
        { s.trace with queries := s.trace.queries ++ types.map ObjectType.query } }) ∧
      fetched.elements = (types.zip streams).flatMap p.elementsOf ∧
      fetched.warnings.Perm (ds.warnings ++ (types.zip streams).flatMap p.warningsOf)) ∧
    ((∃ stream ∈ streams, ¬ stream.GoesThrough p.maxInstances) →
      ∃ e s', run = (.error (.client e), s'))

theorem fetchDescribed_goesInOrder {ds ds' : Descriptions} (h : ds'.Perm ds)
    (hnames : ds.schemaNames.Nodup) (s : Session σ) :
    p.GoesInOrder client ds s (p.fetchDescribed client ds' s) := by
  have htypes : ds'.types = ds.types := (Descriptions.types_eq_of_perm h.symm hnames).symm
  obtain ⟨streams, state, hqueries, hthrough, hfails⟩ := p.fetchTypes_run client ds.types s
  refine ⟨ds.types, streams, state, ?_, Text.sortBy_perm _ _, hqueries, fun hall => ?_,
    fun hsome => ?_⟩
  · exact Text.pairwise_lt_sortBy ((ds.typeNames_described).symm ▸ hnames)
  · refine ⟨_, p.fetchDescribed_of_types client htypes (hthrough hall), rfl, ?_⟩
    exact (Descriptions.warnings_perm h).append_right _
  · obtain ⟨e, s', hrun⟩ := hfails hsome
    refine ⟨e, s', ?_⟩
    rw [fetchDescribed_eq, htypes, hrun]
    rfl

/-- The order in which descriptions arrive shows in the order of the warnings only. -/
theorem fetch_agrees_in_every_arrival_order {selection : Selection}
    (hselection : p.selection = some selection) (maxDescribes : Nat) (s : Session σ)
    (hnames : ∀ ds s₁, client.describeSelected selection maxDescribes s = (.ok ds, s₁) →
      ds.schemaNames.Nodup) :
    p.fetchRecords client maxDescribes s = p.fetchArriving client selection id maxDescribes s ∧
    (∀ arrive arrive' : Descriptions → Descriptions,
      (∀ ds, (arrive ds).Perm ds) → (∀ ds, (arrive' ds).Perm ds) →
      Fetched.Agree (p.fetchArriving client selection arrive maxDescribes s).1
          (p.fetchArriving client selection arrive' maxDescribes s).1 ∧
        (p.fetchArriving client selection arrive maxDescribes s).2 =
          (p.fetchArriving client selection arrive' maxDescribes s).2) ∧
    (∀ arrive : Descriptions → Descriptions, (∀ ds, (arrive ds).Perm ds) →
      ∀ ds s₁, client.describeSelected selection maxDescribes s = (.ok ds, s₁) →
        (∃ names, (client.listTypes s.state).1 = .ok names ∧
          ds.map Prod.fst = Text.sort (names.filter selection.includes) ∧
          client.Describes ds) ∧
        p.GoesInOrder client ds s₁ (p.fetchArriving client selection arrive maxDescribes s)) ∧
    ∀ (t : ObjectType Element) (rs : List Record),
      List.Forall₂ (fun r i => ∃ name, i = Record.toInstance t r name) rs (t.instances rs) := by
  have hrun : ∀ arrive, p.fetchArriving client selection arrive maxDescribes s =
      match client.describeSelected selection maxDescribes s with
      | (.error e, s₁) => (.error (.client e), s₁)
      | (.ok ds, s₁) => p.fetchDescribed client (arrive ds) s₁ := by
    intro arrive
    simp only [fetchArriving, bind, StateT.bind]
    rcases client.describeSelected selection maxDescribes s with ⟨_ | ds, s₁⟩ <;> rfl
  refine ⟨p.fetchRecords_eq_fetchArriving client hselection maxDescribes s, ?_, ?_,
    ObjectType.forall₂_instances⟩
  · intro arrive arrive' harrive harrive'
    rw [hrun, hrun]
    rcases hdescribed : client.describeSelected selection maxDescribes s with ⟨_ | ds, s₁⟩
    · exact ⟨rfl, rfl⟩
    · apply p.fetchDescribed_agrees client ((harrive ds).trans (harrive' ds).symm)
      exact (((harrive ds).filterMap _).nodup_iff).2 (hnames ds s₁ hdescribed)
  · intro arrive harrive ds s₁ hdescribed
    refine ⟨Client.asked_of_describeSelected hdescribed, ?_⟩
    rw [hrun, hdescribed]
    exact p.fetchDescribed_goesInOrder client (harrive ds) (hnames ds s₁ hdescribed) s₁

def regions : InMemory where
  schemas :=
    [("Region__c", { name := "Region__c", fields := [] }),
     ("Tier__c", { name := "Tier__c", fields := [] })]
  records :=
    [("Region__c", [[("Id", .string "a0Ra"), ("Name", .string "North")],
        [("Id", .string "a0Rb"), ("Name", .string "South")]]),
     ("Tier__c", [[("Id", .string "a0Ta"), ("Name", .string "Gold")]])]

def everyType : Selection := { included := [.empty], excluded := [] }

theorem describeSelected_regions :
    (regions.client.describeSelected everyType 2 { state := 0 }).1 =
      .ok (regions.schemas.map fun e => (e.1, .ok e.2)) := by
  have hsorted : ∀ names : List String, (names.Pairwise fun a b => !decide (b < a)) →
      Text.sort names = names := fun _ => List.mergeSort_of_pairwise
  have hlisted : regions.typeNames = ["Region__c", "Tier__c"] := hsorted _ (by decide +kernel)
  have hasked : Text.sort (regions.typeNames.filter everyType.includes) =
      ["Region__c", "Tier__c"] := by
    rw [hlisted, hsorted _ (by decide +kernel)]
    decide +kernel
  have hrun : (regions.client.describeSelected everyType 2 { state := 0 }).1 =
      .ok (regions.client.describeAll
        (Text.sort (regions.typeNames.filter everyType.includes)) 2 { state := 0 }).1 := rfl
  rw [hrun, hasked]
  rfl

theorem fetch_agrees_in_every_arrival_order_regions :
    let p : FetchProfile := { selection := some everyType, maxInstances := 1 }
    let first := p.fetchArriving regions.client everyType id 2 { state := 0 }
    let last := p.fetchArriving regions.client everyType List.reverse 2 { state := 0 }
    Fetched.Agree first.1 last.1 ∧ first.2 = last.2 ∧
      ∃ s₁, p.GoesInOrder regions.client (regions.schemas.map fun e => (e.1, .ok e.2)) s₁ last := by
  intro p first last
  have horderly : regions.client.IsOrderly :=
    InMemory.isOrderly (by decide +kernel) (by decide +kernel)
  obtain ⟨-, hagree, hinOrder, -⟩ := p.fetch_agrees_in_every_arrival_order regions.client rfl 2
    { state := 0 } fun ds s₁ => horderly.nodup_schemaNames
  obtain ⟨heq, hsession⟩ := hagree id List.reverse List.Perm.refl List.reverse_perm
  exact ⟨heq, hsession, _,
    (hinOrder List.reverse List.reverse_perm _ _ (Prod.ext describeSelected_regions rfl)).2⟩

end FetchProfile

end ElementSync
