import CollibraGovernance.Comparison.Registration
import CollibraGovernance.Domain.Elements

/-! The first pass registers the elements of the model, each under the identity of its names. -/
namespace CollibraGovernance.Comparison
open Library Domain Snapshots

/-- An element with the identity it is registered under. -/
abbrev Located := ComparisonObjectIdentity × Element String

section Locate

def tableLocated (s : Schema) (t : Table) : List Located :=
  (tableIdentity s t, tableElement t) ::
    (t.columns.map (fun c => (columnIdentity s t c, columnElement t c)) ++
      t.primaryKey.toList.map (fun k => (primaryKeyIdentity s t k, primaryKeyElement k)) ++
      t.foreignKeys.map (fun k => (foreignKeyIdentity s t k, foreignKeyElement k)))

def schemaLocated (s : Schema) : List Located :=
  (schemaIdentity s, schemaElement s) :: s.tables.flatMap (tableLocated s)

variable (m : GovernanceModel)

/-- The table a relationship starts from, with the schema it names. -/
def relationshipHolder (r : Relationship) : Option (Schema × Table) :=
  ((tableById m).get? r.fromTableId).bind (fun t => ((schemaById m).get? t.schemaId).map (fun s => (s, t)))

def relationshipLocated (r : Relationship) : Option Located :=
  (relationshipHolder m r).map (fun h => (relationshipIdentity h.1 h.2 r, relationshipElement r))

/-- The elements of a model with their identities, in the order they are registered. -/
def located (source : DataSource) (d : Database) : List Located :=
  (.dataSource, dataSourceElement source) :: (.database, databaseElement d) ::
    d.schemas.flatMap schemaLocated ++ m.relationships.filterMap (relationshipLocated m)

/-- The back references that the first pass checks. -/
structure BackReferences (source : DataSource) (d : Database) : Prop where
  database : d.datasourceId = source.id
  schemas : ∀ s ∈ d.schemas, s.databaseId = d.id
  tables : ∀ s ∈ d.schemas, ∀ t ∈ s.tables, t.schemaId = s.id
  primaryKeys : ∀ s ∈ d.schemas, ∀ t ∈ s.tables, ∀ k ∈ t.primaryKey, k.tableId = t.id
  foreignKeys : ∀ s ∈ d.schemas, ∀ t ∈ s.tables, ∀ k ∈ t.foreignKeys, k.tableId = t.id
  relationships : ∀ r ∈ m.relationships, (relationshipHolder m r).isSome = true

end Locate

section Registrations
variable {side : String}

/-- Raw id and identity of what is registered. -/
def registeredIds (xs : List Step) : List (String × ComparisonObjectIdentity) :=
  (registrations xs).map (fun r => (r.1, r.2.objectIdentity))

lemma registeredIds_append (xs ys : List Step) :
    registeredIds (xs ++ ys) = registeredIds xs ++ registeredIds ys := by
  rw [registeredIds, registrations_append, List.map_append]
  rfl

lemma registeredIds_flatMap {α : Type} (xs : List α) (f : α → List Step) :
    registeredIds (xs.flatMap f) = xs.flatMap (fun x => registeredIds (f x)) := by
  rw [registeredIds, registrations_flatMap, List.map_flatMap]
  rfl

lemma registeredIds_map {α : Type} (xs : List α) (f : α → Step) :
    registeredIds (xs.map f) = xs.flatMap (fun x => registeredIds [f x]) := by
  rw [List.map_eq_flatMap, registeredIds_flatMap]

lemma registeredIds_tableSteps (s : Schema) (t : Table) : registeredIds (tableSteps side s t) =
    (tableLocated s t).map (fun l => (l.2.id, l.1)) := by
  have hcolumns : registeredIds (t.columns.map (columnStep s t)) =
      t.columns.map (fun c => (c.id, columnIdentity s t c)) := by
    rw [registeredIds_map, List.map_eq_flatMap]
    rfl
  have hprimary : registeredIds (t.primaryKey.toList.flatMap (primaryKeySteps side s t)) =
      t.primaryKey.toList.map (fun k => (k.id, primaryKeyIdentity s t k)) := by
    rw [registeredIds_flatMap, List.map_eq_flatMap]
    rfl
  have hforeign : registeredIds (t.foreignKeys.flatMap (foreignKeySteps side s t)) =
      t.foreignKeys.map (fun k => (k.id, foreignKeyIdentity s t k)) := by
    rw [registeredIds_flatMap, List.map_eq_flatMap]
    rfl
  rw [tableSteps, tableLocated, List.map_cons, List.map_append, List.map_append, List.map_map,
    List.map_map, List.map_map]
  change (t.id, tableIdentity s t) :: registeredIds _ = _
  rw [registeredIds_append, registeredIds_append, hcolumns, hprimary, hforeign]
  rfl

lemma registeredIds_schemaSteps (d : Database) (s : Schema) : registeredIds (schemaSteps side d s) =
    (schemaLocated s).map (fun l => (l.2.id, l.1)) := by
  rw [schemaSteps, schemaLocated, List.map_cons, List.map_flatMap]
  change (s.id, schemaIdentity s) :: registeredIds _ = _
  rw [registeredIds_flatMap]
  simp only [registeredIds_tableSteps]
  rfl

lemma registeredIds_relationshipStep (m : GovernanceModel) (r : Relationship) :
    registeredIds [relationshipStep side m r] =
      (relationshipLocated m r).toList.map (fun l => (l.2.id, l.1)) := by
  rw [relationshipStep, relationshipLocated, relationshipHolder]
  cases (tableById m).get? r.fromTableId with
  | none => rfl
  | some t =>
    rw [Option.bind_some]
    dsimp only
    cases (schemaById m).get? t.schemaId with
    | none => rfl
    | some s => rfl

/-- The first pass registers the located elements. -/
theorem registeredIds_steps (m : GovernanceModel) (source : DataSource) (d : Database) :
    registeredIds (steps side m source d) = (located m source d).map (fun l => (l.2.id, l.1)) := by
  rw [steps, registeredIds_append, registeredIds_append, located, List.map_append, List.map_cons,
    List.map_cons, registeredIds_map]
  have hrelationships : (m.relationships.flatMap (fun r => registeredIds [relationshipStep side m r])) =
      (m.relationships.filterMap (relationshipLocated m)).map (fun l => (l.2.id, l.1)) := by
    simp only [registeredIds_relationshipStep]
    rw [List.filterMap_eq_flatMap_toList, List.map_flatMap]
  rw [hrelationships]
  congr 1
  change (source.id, _) :: registeredIds (databaseSteps side source d) = _
  refine congrArg _ ?_
  rw [databaseSteps]
  change (d.id, _) :: registeredIds _ = _
  rw [registeredIds_flatMap, List.map_flatMap]
  simp only [registeredIds_schemaSteps]
  rfl

lemma checksHold_map_columns (s : Schema) (t : Table) : ChecksHold (t.columns.map (columnStep s t)) := by
  induction t.columns with
  | nil => trivial
  | cons c cs ih => exact ih

lemma checksHold_tableSteps (s : Schema) (t : Table) : ChecksHold (tableSteps side s t) ↔
    t.schemaId = s.id ∧ (∀ k ∈ t.primaryKey, k.tableId = t.id) ∧
      ∀ k ∈ t.foreignKeys, k.tableId = t.id := by
  simp [tableSteps, ChecksHold, checksHold_append, checksHold_flatMap, checksHold_map_columns,
    primaryKeySteps, foreignKeySteps]

/-- The checks of the first pass are the back references. -/
theorem checksHold_steps (m : GovernanceModel) (source : DataSource) (d : Database) :
    ChecksHold (steps side m source d) ↔ BackReferences m source d := by
  have hrelationship : ∀ r, ChecksHold [relationshipStep side m r] ↔
      (relationshipHolder m r).isSome = true := by
    intro r
    rw [relationshipStep, relationshipHolder]
    cases (tableById m).get? r.fromTableId with
    | none => simp [ChecksHold]
    | some t =>
      rw [Option.bind_some]
      dsimp only
      cases (schemaById m).get? t.schemaId with
      | none => simp [ChecksHold]
      | some s => simp [ChecksHold]
  have hsteps : ChecksHold (steps side m source d) ↔ d.datasourceId = source.id ∧
      (∀ s ∈ d.schemas, s.databaseId = d.id ∧ ∀ t ∈ s.tables, t.schemaId = s.id ∧
        (∀ k ∈ t.primaryKey, k.tableId = t.id) ∧ ∀ k ∈ t.foreignKeys, k.tableId = t.id) ∧
      ∀ r ∈ m.relationships, (relationshipHolder m r).isSome = true := by
    rw [steps, List.map_eq_flatMap, checksHold_append, checksHold_append, checksHold_flatMap]
    simp only [hrelationship, dataSourceSteps, databaseSteps, schemaSteps, ChecksHold,
      checksHold_flatMap, checksHold_tableSteps, decide_eq_true_eq, true_and, and_assoc]
  rw [hsteps]
  constructor
  · rintro ⟨hdatabase, hschemas, hrelationships⟩
    exact ⟨hdatabase, fun s hs => (hschemas s hs).1, fun s hs t ht => ((hschemas s hs).2 t ht).1,
      fun s hs t ht => ((hschemas s hs).2 t ht).2.1, fun s hs t ht => ((hschemas s hs).2 t ht).2.2,
      hrelationships⟩
  · intro h
    exact ⟨h.database, fun s hs => ⟨h.schemas s hs, fun t ht => ⟨h.tables s hs t ht,
      h.primaryKeys s hs t ht, h.foreignKeys s hs t ht⟩⟩, h.relationships⟩

end Registrations

section Elements
variable {m : GovernanceModel} {source : DataSource} {d : Database}

/-- The located elements are the elements of the model. -/
theorem located_elements (hsource : m.dataSources = [source]) (hdatabase : source.databases = [d])
    (h : BackReferences m source d) : (located m source d).map Prod.snd = elements m := by
  have htable : ∀ s t, (tableLocated s t).map Prod.snd = tableElements t := by
    intro s t
    simp [tableLocated, tableElements, Function.comp_def]
  have hschema : ∀ s, (schemaLocated s).map Prod.snd = schemaElements s := by
    intro s
    simp [schemaLocated, schemaElements, List.map_flatMap, htable]
  have hrelationships : (m.relationships.filterMap (relationshipLocated m)).map Prod.snd =
      m.relationships.map relationshipElement := by
    rw [List.map_filterMap, ← List.filterMap_eq_map]
    refine List.filterMap_congr ?_
    intro r hr
    obtain ⟨holder, hholder⟩ := Option.isSome_iff_exists.mp (h.relationships r hr)
    simp [relationshipLocated, hholder]
  rw [located, List.map_append, hrelationships, elements, hsource, List.flatMap_singleton,
    dataSourceElements, hdatabase, List.flatMap_singleton, databaseElements]
  simp [List.map_flatMap, hschema]

end Elements
end CollibraGovernance.Comparison
