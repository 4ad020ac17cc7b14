import CollibraGovernance.Domain.Elements
import CollibraGovernance.Collibra.MappedModel
import CollibraGovernance.Collibra.PlanSpec
import Mathlib.Data.List.Count

/-! Mapping and planning account for every element and every link of a model, and which models
lose a link on the way. -/
namespace CollibraGovernance.Collibra
open Library Domain

section Scope

lemma flatMap_cons_perm {α β : Type*} (f : α → β) (g : α → List β) (xs : List α) :
    (xs.flatMap (fun x => f x :: g x)).Perm (xs.map f ++ xs.flatMap g) := by
  induction xs with
  | nil => rfl
  | cons x xs ih =>
    simp only [List.flatMap_cons, List.map_cons, List.cons_append]
    refine List.Perm.cons _ ((List.Perm.append_left _ ih).trans ?_)
    rw [← List.append_assoc, ← List.append_assoc]
    exact List.perm_append_comm.append_right _

def tableIds (m : GovernanceModel) : List String := m.tables.map Table.id
def schemaIds (m : GovernanceModel) : List String := m.schemas.map Schema.id
def columnIds (m : GovernanceModel) : List String :=
  m.tables.flatMap (fun t => t.columns.map Column.id)

/-- The elements of a model, level by level. -/
theorem elementIds_perm (m : GovernanceModel) :
    (elementIds m).Perm (m.databases.map Database.id ++
      (schemaIds m ++ (tableIds m ++ columnIds m))) := by
  have htables : (m.tables.flatMap tableElementIds).Perm (tableIds m ++ columnIds m) :=
    flatMap_cons_perm Table.id (fun t => t.columns.map Column.id) m.tables
  have hschemas : (m.schemas.flatMap schemaElementIds).Perm
      (schemaIds m ++ m.tables.flatMap tableElementIds) := by
    refine (flatMap_cons_perm Schema.id (fun s => s.tables.flatMap tableElementIds)
      m.schemas).trans (List.Perm.of_eq ?_)
    rw [← List.flatMap_assoc]
    rfl
  have hdatabases : (elementIds m).Perm
      (m.databases.map Database.id ++ m.schemas.flatMap schemaElementIds) := by
    refine (flatMap_cons_perm Database.id (fun d => d.schemas.flatMap schemaElementIds)
      m.databases).trans (List.Perm.of_eq ?_)
    rw [← List.flatMap_assoc]
    rfl
  exact hdatabases.trans ((hschemas.trans (htables.append_left _)).append_left _)

/-- With unique element ids no table id is also a schema or a column id. -/
lemma tableIds_disjoint {m : GovernanceModel} (h : (elementIds m).Nodup) {i : String}
    (hi : i ∈ tableIds m) : i ∉ schemaIds m ∧ i ∉ columnIds m := by
  rw [(elementIds_perm m).nodup_iff] at h
  have hlower := (List.nodup_append.mp h).2.1
  obtain ⟨-, htc, hst⟩ := List.nodup_append.mp hlower
  obtain ⟨-, -, hcross⟩ := List.nodup_append.mp htc
  refine ⟨fun hs => hst i hs i (List.mem_append_left _ hi) rfl, fun hc => hcross i hi i hc rfl⟩

/-- A containment link starts at a database, a schema or a table and ends one level below. -/
lemma mem_containmentLinks {config : CollibraMappingConfig} {m : GovernanceModel} {l : Link}
    (h : l ∈ containmentLinks config m) :
    l.2.2.1 ∈ schemaIds m ∨ l.2.1 ∈ schemaIds m ∨ l.2.2.1 ∈ columnIds m := by
  obtain ⟨d, hd, h⟩ := List.mem_flatMap.mp h
  obtain ⟨s, hs, h⟩ := List.mem_flatMap.mp h
  have hschema : s ∈ m.schemas := List.mem_flatMap.mpr ⟨d, hd, hs⟩
  rcases List.mem_cons.mp h with rfl | h
  · exact .inl (List.mem_map_of_mem hschema)
  · obtain ⟨t, ht, h⟩ := List.mem_flatMap.mp h
    have htable : t ∈ m.tables := List.mem_flatMap.mpr ⟨s, hschema, ht⟩
    rcases List.mem_cons.mp h with rfl | h
    · exact .inr (.inl (List.mem_map_of_mem hschema))
    · obtain ⟨c, hc, rfl⟩ := List.mem_map.mp h
      exact .inr (.inr (List.mem_flatMap.mpr ⟨t, htable, List.mem_map_of_mem hc⟩))

/-- Foreign keys whose two tables are both part of the model. -/
def foreignKeysInScope (m : GovernanceModel) : List ForeignKey :=
  (m.tables.flatMap Table.foreignKeys).filter
    (fun k => k.tableId ∈ tableIds m ∧ k.referencedTableId ∈ tableIds m)

def foreignKeyEnds (k : ForeignKey) : String × String := (k.tableId, k.referencedTableId)

end Scope

/-- The key the planner files a link under. -/
def linkKey (l : Link) : String × String × String := l.2

/-- The relationship stands for the foreign key. -/
def StandsFor (config : CollibraMappingConfig) (k : ForeignKey) (r : CollibraRelationshipSpec) :
    Prop :=
  r.sourceLocalId = k.tableId ∧ r.targetLocalId = k.referencedTableId ∧
    r.relationTypeRef = config.relationTypeRefs.tableFk

/-- Plan entries about one asset. -/
def assetEntries (plan : SyncPlan) (localId : String) : Nat :=
  plan.actions.countP (fun a => a.objectKind = .asset ∧ a.localId = some localId)

/-- Plan entries about one desired relationship. -/
def relationshipEntries (plan : SyncPlan) (rel : CollibraRelationshipSpec) : Nat :=
  plan.actions.countP (fun a => a.objectKind = .relationship ∧ a.desiredRelationship = some rel)

/-- Every element is a distinct desired asset, every link a distinct desired relationship, every
foreign key is stood for by one of its own, and each of them has exactly one plan entry. -/
structure NothingLost (config : CollibraMappingConfig) (model : GovernanceModel)
    (desired : CollibraDesiredState) (remote : CollibraRemoteState) : Prop where
  assets : (desired.assets.map CollibraAssetSpec.localId).Perm (elementIds model)
  assets_distinct : (desired.assets.map CollibraAssetSpec.localId).Nodup
  links : (desired.relationships.map relationshipLink).Perm (modelLinks config model)
  links_distinct : (desired.relationships.map CollibraRelationshipSpec.localKey).Nodup
  foreignKeys : ∃ chosen : List CollibraRelationshipSpec,
    List.Forall₂ (StandsFor config) (foreignKeysInScope model) chosen ∧ chosen.Nodup ∧
      ∀ r ∈ chosen, r ∈ desired.relationships
  asset_once : ∀ a ∈ desired.assets, assetEntries (buildSyncPlan desired remote) a.localId = 1
  relationship_once : ∀ r ∈ desired.relationships,
    relationshipEntries (buildSyncPlan desired remote) r = 1

/-- No two links of the model share source, target and type, no two foreign keys share their two
tables, and each foreign key's tables are linked by a model relationship. -/
def LinksSeparated (config : CollibraMappingConfig) (model : GovernanceModel) : Prop :=
  ((modelLinks config model).map linkKey).Nodup ∧
  ((foreignKeysInScope model).map foreignKeyEnds).Nodup ∧
  ∀ k ∈ foreignKeysInScope model, ∃ r ∈ model.relationships,
    r.fromTableId = k.tableId ∧ r.toTableId = k.referencedTableId

section Entries
variable {desired : CollibraDesiredState} (remote : CollibraRemoteState)

/-- Each desired local id has exactly one asset entry, whatever the remote side holds. -/
theorem assetEntries_eq_one {a : CollibraAssetSpec} (ha : a ∈ desired.assets) :
    assetEntries (buildSyncPlan desired remote) a.localId = 1 := by
  unfold assetEntries
  have hcount := countP_asset desired remote (fun x => x.localId = some a.localId)
  simp only [decide_eq_true_eq] at hcount
  rw [hcount]
  have hmap : (assetActions desired remote).countP (fun x => x.localId = some a.localId) =
      ((assetActions desired remote).map SyncAction.localId).count (some a.localId) := by
    rw [List.count_eq_countP, List.countP_map]
    exact List.countP_congr (by simp)
  have hkey : a.localId ∈ (desiredAssetIndex desired).keys :=
    Dict.mem_keys_index.mpr ⟨a, ha, rfl⟩
  rw [hmap, assetActions_localIds, List.count_append,
    List.count_map_of_injective _ _ (Option.some_injective _),
    List.count_map_of_injective _ _ (Option.some_injective _),
    List.count_eq_one_of_mem (Dict.keys_nodup _) hkey, List.count_eq_zero_of_not_mem]
  intro hrest
  obtain ⟨e, he, hek⟩ := List.mem_map.mp hrest
  have hnot := (List.mem_filter.mp he).2
  rw [hek, Dict.contains_iff.mpr hkey] at hnot
  exact absurd hnot (by decide)

lemma desiredRelationshipIndex_key {e : (String × String × String) × CollibraRelationshipSpec}
    (h : e ∈ (desiredRelationshipIndex desired).entries) :
    desiredKey e.2 = e.1 ∧ e.2 ∈ desired.relationships := by
  obtain ⟨r, hr, hk, rfl⟩ := Dict.exists_of_mem_index h
  exact ⟨hk, hr⟩

/-- A desired relationship has one entry exactly when the planner's index kept it. -/
theorem relationshipEntries_eq_one_iff (rel : CollibraRelationshipSpec) :
    relationshipEntries (buildSyncPlan desired remote) rel = 1 ↔
      rel ∈ (desiredRelationshipIndex desired).values := by
  have hnodup : (desiredRelationshipIndex desired).values.Nodup := by
    refine List.Nodup.map_on ?_ (Dict.entries_nodup _)
    intro x hx y hy hxy
    refine Prod.ext ?_ hxy
    rw [← (desiredRelationshipIndex_key hx).1, ← (desiredRelationshipIndex_key hy).1, hxy]
  unfold relationshipEntries
  have hcount := countP_relationship desired remote (fun x => x.desiredRelationship = some rel)
  simp only [decide_eq_true_eq] at hcount
  rw [hcount]
  have hmap : (relationshipActions desired remote).countP
      (fun x => x.desiredRelationship = some rel) =
      ((relationshipActions desired remote).filterMap SyncAction.desiredRelationship).count rel := by
    rw [List.count_filterMap]
    exact List.countP_congr (by simp)
  rw [hmap, relationshipActions_desired]
  constructor
  · intro h
    exact List.count_pos_iff.mp (by omega)
  · exact List.count_eq_one_of_mem hnodup

/-- Every desired relationship keeps its entry exactly when their keys are pairwise distinct. -/
theorem relationship_once_iff
    (hkeys : (desired.relationships.map CollibraRelationshipSpec.localKey).Nodup) :
    (∀ r ∈ desired.relationships, relationshipEntries (buildSyncPlan desired remote) r = 1) ↔
      (desired.relationships.map desiredKey).Nodup := by
  simp only [relationshipEntries_eq_one_iff]
  constructor
  · intro h
    refine List.Nodup.map_on ?_ (List.Nodup.of_map _ hkeys)
    intro x hx y hy hxy
    obtain ⟨e, he, rfl⟩ := List.mem_map.mp (h x hx)
    obtain ⟨f, hf, rfl⟩ := List.mem_map.mp (h y hy)
    have hef : e.1 = f.1 := by
      rw [← (desiredRelationshipIndex_key he).1, ← (desiredRelationshipIndex_key hf).1, hxy]
    have hsame := Dict.get?_eq_some.mpr he
    have hsame' := Dict.get?_eq_some.mpr hf
    rw [hef, hsame'] at hsame
    exact (Option.some_inj.mp hsame).symm
  · intro h r hr
    unfold Dict.values desiredRelationshipIndex
    rw [Dict.entries_index_of_nodup h, List.map_map]
    exact List.mem_map.mpr ⟨r, hr, rfl⟩

end Entries

lemma map_linkKey (rels : List CollibraRelationshipSpec) :
    (rels.map relationshipLink).map linkKey = rels.map desiredKey := by
  rw [List.map_map]
  rfl

/-- A desired table-to-table relationship of the foreign-key type is a model relationship. -/
lemma exists_relationship_of_standsFor {config : CollibraMappingConfig} {model : GovernanceModel}
    {desired : CollibraDesiredState} (h : Represents config model desired)
    {k : ForeignKey} (hk : k ∈ foreignKeysInScope model) {r : CollibraRelationshipSpec}
    (hr : r ∈ desired.relationships) (hstands : StandsFor config k r) :
    ∃ m ∈ model.relationships, m.fromTableId = k.tableId ∧ m.toTableId = k.referencedTableId := by
  obtain ⟨hsource, htarget, -⟩ := hstands
  obtain ⟨-, hends⟩ := List.mem_filter.mp hk
  simp only [decide_eq_true_eq] at hends
  have hlink := h.relationships.mem_iff.mp (List.mem_map_of_mem (f := relationshipLink) hr)
  rcases List.mem_append.mp hlink with hlink | hlink
  · obtain ⟨hns, -⟩ := tableIds_disjoint h.ids_nodup hends.1
    obtain ⟨hns', hnc'⟩ := tableIds_disjoint h.ids_nodup hends.2
    simp only [relationshipLink] at hlink
    rcases mem_containmentLinks hlink with hcase | hcase | hcase
    · exact absurd (htarget ▸ hcase) hns'
    · exact absurd (hsource ▸ hcase) hns
    · exact absurd (htarget ▸ hcase) hnc'
  · obtain ⟨m, hm, heq⟩ := List.mem_map.mp hlink
    simp only [foreignKeyLink, relationshipLink, Prod.mk.injEq] at heq
    exact ⟨m, hm, by rw [heq.2.1, hsource], by rw [heq.2.2.1, htarget]⟩

section Chosen
variable {config : CollibraMappingConfig} {ks : List ForeignKey}
variable {chosen : List CollibraRelationshipSpec}

def relationshipEnds (r : CollibraRelationshipSpec) : String × String :=
  (r.sourceLocalId, r.targetLocalId)

lemma standsFor_ends (h : List.Forall₂ (StandsFor config) ks chosen) :
    ks.map foreignKeyEnds = chosen.map relationshipEnds := by
  induction h with
  | nil => rfl
  | cons hs _ ih =>
    rw [List.map_cons, List.map_cons, ih, foreignKeyEnds, relationshipEnds, hs.1, hs.2.1]

lemma standsFor_type (h : List.Forall₂ (StandsFor config) ks chosen) :
    ∀ r ∈ chosen, r.relationTypeRef = config.relationTypeRefs.tableFk := by
  induction h with
  | nil => simp
  | cons hs _ ih =>
    intro r hr
    rcases List.mem_cons.mp hr with rfl | hr
    · exact hs.2.2
    · exact ih r hr

lemma standsFor_of_mem (h : List.Forall₂ (StandsFor config) ks chosen) :
    ∀ k ∈ ks, ∃ r ∈ chosen, StandsFor config k r := by
  induction h with
  | nil => simp
  | @cons k r _ _ hs _ ih =>
    intro x hx
    rcases List.mem_cons.mp hx with rfl | hx
    · exact ⟨r, List.mem_cons_self .., hs⟩
    · obtain ⟨y, hy, hxy⟩ := ih x hx
      exact ⟨y, List.mem_cons_of_mem _ hy, hxy⟩

/-- Pick a relationship for every foreign key; distinct table pairs make the picks distinct. -/
lemma exists_chosen {rels : List CollibraRelationshipSpec}
    (h : ∀ k ∈ ks, ∃ r ∈ rels, StandsFor config k r) (hends : (ks.map foreignKeyEnds).Nodup) :
    ∃ chosen, List.Forall₂ (StandsFor config) ks chosen ∧ chosen.Nodup ∧
      ∀ r ∈ chosen, r ∈ rels := by
  have hpick : ∃ chosen, List.Forall₂ (StandsFor config) ks chosen ∧ ∀ r ∈ chosen, r ∈ rels := by
    clear hends
    induction ks with
    | nil => exact ⟨[], .nil, by simp⟩
    | cons k ks ih =>
      obtain ⟨r, hr, hs⟩ := h k (List.mem_cons_self ..)
      obtain ⟨chosen, hall, hmem⟩ := ih (fun x hx => h x (List.mem_cons_of_mem _ hx))
      exact ⟨r :: chosen, .cons hs hall, by simpa using ⟨hr, hmem⟩⟩
  obtain ⟨chosen, hall, hmem⟩ := hpick
  rw [standsFor_ends hall] at hends
  exact ⟨chosen, hall, List.Nodup.of_map _ hends, hmem⟩

end Chosen

section Main
variable {model : GovernanceModel} {config : CollibraMappingConfig} {desired : CollibraDesiredState}
variable {remote : CollibraRemoteState}

lemma linkKeys_nodup_iff (h : Represents config model desired) :
    ((modelLinks config model).map linkKey).Nodup ↔
      (desired.relationships.map desiredKey).Nodup := by
  rw [← (h.relationships.map linkKey).nodup_iff, map_linkKey]

lemma NothingLost.separated (h : Represents config model desired)
    (hlost : NothingLost config model desired remote) : LinksSeparated config model := by
  have honce := (relationship_once_iff remote h.keys_nodup).mp hlost.relationship_once
  obtain ⟨chosen, hall, hdistinct, hmem⟩ := hlost.foreignKeys
  refine ⟨(linkKeys_nodup_iff h).mpr honce, ?_, ?_⟩
  · -- foreign keys between the same two tables would be stood for by one relationship
    rw [standsFor_ends hall]
    refine List.Nodup.map_on ?_ hdistinct
    intro x hx y hy hxy
    simp only [relationshipEnds, Prod.mk.injEq] at hxy
    refine List.inj_on_of_nodup_map honce (hmem x hx) (hmem y hy) ?_
    simp only [desiredKey, hxy.1, hxy.2, standsFor_type hall x hx, standsFor_type hall y hy]
  · intro k hk
    obtain ⟨r, hr, hstands⟩ := standsFor_of_mem hall k hk
    exact exists_relationship_of_standsFor h hk (hmem r hr) hstands

lemma LinksSeparated.nothingLost (h : Represents config model desired)
    (hsep : LinksSeparated config model) : NothingLost config model desired remote := by
  obtain ⟨hkeys, hends, hlinked⟩ := hsep
  refine ⟨h.assets, (h.assets.nodup_iff).mpr h.ids_nodup, h.relationships, h.keys_nodup,
    exists_chosen ?_ hends, fun a ha => assetEntries_eq_one remote ha,
    (relationship_once_iff remote h.keys_nodup).mpr ((linkKeys_nodup_iff h).mp hkeys)⟩
  intro k hk
  obtain ⟨m, hm, hfrom, hto⟩ := hlinked k hk
  have hlink : foreignKeyLink config m ∈ desired.relationships.map relationshipLink :=
    h.relationships.mem_iff.mpr (List.mem_append_right _ (List.mem_map_of_mem hm))
  obtain ⟨r, hr, heq⟩ := List.mem_map.mp hlink
  simp only [foreignKeyLink, relationshipLink, Prod.mk.injEq] at heq
  exact ⟨r, hr, by rw [heq.2.1, hfrom], by rw [heq.2.2.1, hto], heq.2.2.2⟩

/-- Mapping and planning lose nothing of a model, against any remote state, exactly when its links
are separated. -/
theorem nothing_lost_iff (hmap : mapToDesiredState model config = .ok desired) :
    (∀ remote, NothingLost config model desired remote) ↔ LinksSeparated config model := by
  have h := mapToDesiredState_represents hmap
  constructor
  · intro hlost
    exact (hlost (CollibraRemoteState.create [] [] 0 0)).separated h
  · intro hsep remote
    exact hsep.nothingLost h

end Main

section Shop

instance (config : CollibraMappingConfig) (model : GovernanceModel) :
    Decidable (LinksSeparated config model) := by
  unfold LinksSeparated
  infer_instance

theorem customer_shop_nothing_lost : ∃ desired,
    mapToDesiredState customerShop mockMappingConfig = .ok desired ∧
      ∀ remote, NothingLost mockMappingConfig customerShop desired remote := by
  have hok : (mapToDesiredState customerShop mockMappingConfig).toOption.isSome = true := by
    decide +kernel
  obtain ⟨desired, hmap⟩ := exists_ok hok
  exact ⟨desired, hmap, (nothing_lost_iff hmap).mpr (by decide +kernel)⟩

/-- Two foreign keys between the same tables pass the mapping; one of them has no plan entry. -/
theorem buyer_and_payer_lost : ∃ desired,
    mapToDesiredState buyerAndPayerShop mockMappingConfig = .ok desired ∧
      ¬ ∀ remote, NothingLost mockMappingConfig buyerAndPayerShop desired remote := by
  have hok : (mapToDesiredState buyerAndPayerShop mockMappingConfig).toOption.isSome = true := by
    decide +kernel
  obtain ⟨desired, hmap⟩ := exists_ok hok
  refine ⟨desired, hmap, fun hlost => ?_⟩
  have hsep := (hlost (CollibraRemoteState.create [] [] 0 0)).separated
    (mapToDesiredState_represents hmap)
  exact absurd hsep (by decide +kernel)

end Shop

end CollibraGovernance.Collibra
