import CollibraGovernance.Collibra.Mapping
import CollibraGovernance.Library.Outcome

/-! What a successful mapping produced: one asset for each element of the model and one
relationship for each containment link and each model relationship. -/
namespace CollibraGovernance.Collibra
open Library Domain

/-- Key, source, target and type of a relationship. -/
abbrev Link := String × String × String × String

def relationshipLink (rel : CollibraRelationshipSpec) : Link :=
  (rel.localKey, rel.sourceLocalId, rel.targetLocalId, rel.relationTypeRef)

/-- The link from a container to one of its parts. -/
def containmentLinkOf (parent child relationTypeRef : String) : Link :=
  ("rel:contains:" ++ parent ++ "->" ++ child, parent, child, relationTypeRef)

section Elements
variable (config : CollibraMappingConfig)

def tableElementIds (t : Table) : List String := t.id :: t.columns.map Column.id
def schemaElementIds (s : Schema) : List String := s.id :: s.tables.flatMap tableElementIds
def databaseElementIds (d : Database) : List String := d.id :: d.schemas.flatMap schemaElementIds

/-- Ids of the databases, schemas, tables and columns of the model. -/
def elementIds (m : GovernanceModel) : List String := m.databases.flatMap databaseElementIds

def columnLink (t : Table) (c : Column) : Link :=
  containmentLinkOf t.id c.id config.relationTypeRefs.tableColumn

def tableLinks (s : Schema) (t : Table) : List Link :=
  containmentLinkOf s.id t.id config.relationTypeRefs.schemaTable ::
    t.columns.map (columnLink config t)

def schemaLinks (d : Database) (s : Schema) : List Link :=
  containmentLinkOf d.id s.id config.relationTypeRefs.databaseSchema ::
    s.tables.flatMap (tableLinks config s)

def databaseLinks (d : Database) : List Link := d.schemas.flatMap (schemaLinks config d)

/-- The containment links of the model. -/
def containmentLinks (m : GovernanceModel) : List Link := m.databases.flatMap (databaseLinks config)

/-- The link of one model relationship. -/
def foreignKeyLink (r : Relationship) : Link :=
  (r.id, r.fromTableId, r.toTableId, config.relationTypeRefs.tableFk)

/-- Every link the mapping has to represent. -/
def modelLinks (m : GovernanceModel) : List Link :=
  containmentLinks config m ++ m.relationships.map (foreignKeyLink config)

/-- References of a mapped asset all come from the mapping profile. -/
structure MappedAsset (a : CollibraAssetSpec) : Prop where
  domain : a.domainRef = config.domainRef
  type : a.assetTypeRef ∈ config.assetTypeRefs.values
  attributes : ∀ t ∈ a.attributes, t.attributeTypeRef ∈ config.attributeTypeRefs.values

/-- A mapping step appended exactly these assets and links, refusing repeated ids. -/
structure Extends (st : MappingState) (ids : List String) (links : List Link)
    (st' : MappingState) : Prop where
  assets : ∃ assets, st'.assets = st.assets ++ assets ∧
    assets.map CollibraAssetSpec.localId = ids ∧ ∀ a ∈ assets, MappedAsset config a
  relationships : ∃ rels, st'.relationships = st.relationships ++ rels ∧
    rels.map relationshipLink = links
  assetIds : st'.assetIds = st.assetIds ++ ids
  nodup : st.assetIds.Nodup → st'.assetIds.Nodup

variable {config}

theorem Extends.refl (st : MappingState) : Extends config st [] [] st :=
  ⟨⟨[], by simp⟩, ⟨[], by simp⟩, by simp, id⟩

theorem Extends.trans {st st' st'' : MappingState} {ids ids' : List String}
    {links links' : List Link} (h : Extends config st ids links st')
    (h' : Extends config st' ids' links' st'') :
    Extends config st (ids ++ ids') (links ++ links') st'' := by
  obtain ⟨as, has, hids, hmapped⟩ := h.assets
  obtain ⟨as', has', hids', hmapped'⟩ := h'.assets
  obtain ⟨rs, hrs, hlinks⟩ := h.relationships
  obtain ⟨rs', hrs', hlinks'⟩ := h'.relationships
  refine ⟨⟨as ++ as', by rw [has', has, List.append_assoc], by rw [List.map_append, hids, hids'],
    ?_⟩, ⟨rs ++ rs', by rw [hrs', hrs, List.append_assoc], by rw [List.map_append, hlinks, hlinks']⟩,
    by rw [h'.assetIds, h.assetIds, List.append_assoc], fun hn => h'.nodup (h.nodup hn)⟩
  intro a ha
  rcases List.mem_append.mp ha with ha | ha
  · exact hmapped a ha
  · exact hmapped' a ha

/-- A loop of mapping steps appends what its steps append. -/
theorem Extends.foldlM {α : Type} {step : MappingState → α → Except String MappingState}
    (ids : α → List String) (links : α → List Link)
    (hstep : ∀ st a st', step st a = .ok st' → Extends config st (ids a) (links a) st')
    {xs : List α} {st st' : MappingState} (h : xs.foldlM step st = .ok st') :
    Extends config st (xs.flatMap ids) (xs.flatMap links) st' :=
  foldlM_ok (R := fun st xs st' => Extends config st (xs.flatMap ids) (xs.flatMap links) st')
    Extends.refl (fun _ _ _ _ _ ha hrest => (hstep _ _ _ ha).trans hrest) h

end Elements

section Steps
variable {config : CollibraMappingConfig}

theorem addAsset_extends {st st' : MappingState} {asset : CollibraAssetSpec}
    (h : addAsset st asset = .ok st') (ha : MappedAsset config asset) :
    Extends config st [asset.localId] [] st' := by
  unfold addAsset at h
  split at h
  · cases h
  · rename_i hfresh
    cases h
    refine ⟨⟨[asset], rfl, rfl, by simpa using ha⟩, ⟨[], by simp, rfl⟩, rfl, fun hn => ?_⟩
    exact List.nodup_append.mpr ⟨hn, List.nodup_singleton _, by
      rintro x hx y hy rfl
      exact hfresh (List.mem_singleton.mp hy ▸ hx)⟩

theorem addRelationship_extends (st : MappingState) (rel : CollibraRelationshipSpec) :
    Extends config st [] [relationshipLink rel] (addRelationship st rel) :=
  ⟨⟨[], by simp [addRelationship]⟩, ⟨[rel], rfl, rfl⟩, by simp [addRelationship], id⟩

lemma containmentLink_ok {parent child type : String} {rel : CollibraRelationshipSpec}
    (h : containmentLink parent child type = .ok rel) :
    relationshipLink rel = containmentLinkOf parent child type := by
  obtain ⟨hk, hs, ht, hy⟩ := CollibraRelationshipSpec.create_ok h
  simp only [relationshipLink, containmentLinkOf, hk, hs, ht, hy]

/-- A container's asset followed by the link that hangs it on its parent. -/
lemma Extends.assetAndLink {st st₁ : MappingState} {asset : CollibraAssetSpec}
    {rel : CollibraRelationshipSpec} {parent type : String}
    (hadd : addAsset st asset = .ok st₁) (ha : MappedAsset config asset)
    (hrel : containmentLink parent asset.localId type = .ok rel) :
    Extends config st [asset.localId] [containmentLinkOf parent asset.localId type]
      (addRelationship st₁ rel) := by
  have h := (addAsset_extends hadd ha).trans (addRelationship_extends st₁ rel)
  rwa [containmentLink_ok hrel] at h

lemma descriptionAttribute_ok {description : Json} {attrs : List CollibraAttributeSpec}
    (h : descriptionAttribute config description = .ok attrs) :
    ∀ t ∈ attrs, t.attributeTypeRef = config.attributeTypeRefs.description := by
  cases description with
  | null => cases h; simp
  | str s =>
    simp only [descriptionAttribute] at h
    split at h
    · cases h; simp
    · obtain ⟨a, ha, h⟩ := bind_eq_ok.mp h
      cases pure_eq_ok.mp h
      simpa using (CollibraAttributeSpec.create_ok ha).1
  | _ => cases h

lemma ownerAttribute_ok {ownership : Option Ownership} {attrs : List CollibraAttributeSpec}
    (h : ownerAttribute config ownership = .ok attrs) :
    ∀ t ∈ attrs, t.attributeTypeRef = config.attributeTypeRefs.owner := by
  cases ownership with
  | none => cases h; simp
  | some o =>
    obtain ⟨a, ha, h⟩ := bind_eq_ok.mp h
    cases pure_eq_ok.mp h
    simpa using (CollibraAttributeSpec.create_ok ha).1

lemma commonAttributes_ok {localId : String} {description : Json} {ownership : Option Ownership}
    {attrs : List CollibraAttributeSpec}
    (h : commonAttributes config localId description ownership = .ok attrs) :
    ∀ t ∈ attrs, t.attributeTypeRef ∈ config.attributeTypeRefs.values := by
  obtain ⟨a, ha, h⟩ := bind_eq_ok.mp h
  obtain ⟨ds, hd, h⟩ := bind_eq_ok.mp h
  obtain ⟨os, ho, h⟩ := bind_eq_ok.mp h
  cases pure_eq_ok.mp h
  intro t ht
  simp only [List.mem_cons, List.mem_append] at ht
  rcases ht with rfl | ht | ht
  · simp [AttributeTypeRefs.values, (CollibraAttributeSpec.create_ok ha).1]
  · simp [AttributeTypeRefs.values, descriptionAttribute_ok hd t ht]
  · simp [AttributeTypeRefs.values, ownerAttribute_ok ho t ht]

lemma columnAttributes_ok {column : Column} {attrs : List CollibraAttributeSpec}
    (h : columnAttributes config column = .ok attrs) :
    ∀ t ∈ attrs, t.attributeTypeRef ∈ config.attributeTypeRefs.values := by
  obtain ⟨d, hd, h⟩ := bind_eq_ok.mp h
  obtain ⟨n, hn, h⟩ := bind_eq_ok.mp h
  obtain ⟨o, ho, h⟩ := bind_eq_ok.mp h
  cases pure_eq_ok.mp h
  simp [AttributeTypeRefs.values, (CollibraAttributeSpec.create_ok hd).1,
    (CollibraAttributeSpec.create_ok hn).1, (CollibraAttributeSpec.create_ok ho).1]

lemma mappedAsset_of_create {localId name type : String} {displayName : Option String}
    {attrs : List CollibraAttributeSpec} {a : CollibraAssetSpec}
    (h : CollibraAssetSpec.create localId name type config.domainRef displayName attrs = .ok a)
    (ht : type ∈ config.assetTypeRefs.values)
    (hattrs : ∀ t ∈ attrs, t.attributeTypeRef ∈ config.attributeTypeRefs.values) :
    a.localId = localId ∧ MappedAsset config a := by
  obtain ⟨hid, -, htype, hdomain, -, has⟩ := CollibraAssetSpec.create_ok h
  refine ⟨hid, hdomain, by rw [htype]; exact ht, ?_⟩
  rw [has]
  intro t hmem
  exact hattrs t (mem_sortBy.mp hmem)

theorem mapColumn_extends {databaseName schemaName : String} {table : Table}
    {st st' : MappingState} {column : Column}
    (h : mapColumn config databaseName schemaName table st column = .ok st') :
    Extends config st [column.id] [columnLink config table column] st' := by
  obtain ⟨common, hcommon, h⟩ := bind_eq_ok.mp h
  obtain ⟨own, hown, h⟩ := bind_eq_ok.mp h
  obtain ⟨asset, hasset, h⟩ := bind_eq_ok.mp h
  obtain ⟨st₁, hadd, h⟩ := bind_eq_ok.mp h
  obtain ⟨rel, hrel, h⟩ := bind_eq_ok.mp h
  cases pure_eq_ok.mp h
  obtain ⟨hid, hmapped⟩ := mappedAsset_of_create hasset (by simp [AssetTypeRefs.values]) (by
    intro t ht
    rcases List.mem_append.mp ht with ht | ht
    · exact commonAttributes_ok hcommon t ht
    · exact columnAttributes_ok hown t ht)
  rw [← hid] at hrel
  have hext := Extends.assetAndLink hadd hmapped hrel
  rwa [hid] at hext

theorem mapTable_extends {databaseName : String} {schema : Schema} {st st' : MappingState}
    {table : Table} (h : mapTable config databaseName schema st table = .ok st') :
    Extends config st (tableElementIds table) (tableLinks config schema table) st' := by
  obtain ⟨attrs, hattrs, h⟩ := bind_eq_ok.mp h
  obtain ⟨asset, hasset, h⟩ := bind_eq_ok.mp h
  obtain ⟨st₁, hadd, h⟩ := bind_eq_ok.mp h
  obtain ⟨rel, hrel, h⟩ := bind_eq_ok.mp h
  obtain ⟨hid, hmapped⟩ := mappedAsset_of_create hasset (by simp [AssetTypeRefs.values])
    (commonAttributes_ok hattrs)
  rw [← hid] at hrel
  have hself := Extends.assetAndLink hadd hmapped hrel
  rw [hid] at hself
  have hcolumns := Extends.foldlM (fun c : Column => [c.id])
    (fun c => [columnLink config table c]) (fun _ _ _ => mapColumn_extends) h
  rw [← List.map_eq_flatMap, ← List.map_eq_flatMap] at hcolumns
  exact hself.trans hcolumns

theorem mapSchema_extends {database : Database} {st st' : MappingState} {schema : Schema}
    (h : mapSchema config database st schema = .ok st') :
    Extends config st (schemaElementIds schema) (schemaLinks config database schema) st' := by
  obtain ⟨attrs, hattrs, h⟩ := bind_eq_ok.mp h
  obtain ⟨asset, hasset, h⟩ := bind_eq_ok.mp h
  obtain ⟨st₁, hadd, h⟩ := bind_eq_ok.mp h
  obtain ⟨rel, hrel, h⟩ := bind_eq_ok.mp h
  obtain ⟨hid, hmapped⟩ := mappedAsset_of_create hasset (by simp [AssetTypeRefs.values])
    (commonAttributes_ok hattrs)
  rw [← hid] at hrel
  have hself := Extends.assetAndLink hadd hmapped hrel
  rw [hid] at hself
  exact hself.trans (Extends.foldlM tableElementIds (tableLinks config schema)
    (fun _ _ _ => mapTable_extends) h)

theorem mapDatabase_extends {st st' : MappingState} {database : Database}
    (h : mapDatabase config st database = .ok st') :
    Extends config st (databaseElementIds database) (databaseLinks config database) st' := by
  obtain ⟨attrs, hattrs, h⟩ := bind_eq_ok.mp h
  obtain ⟨asset, hasset, h⟩ := bind_eq_ok.mp h
  obtain ⟨st₁, hadd, h⟩ := bind_eq_ok.mp h
  obtain ⟨hid, hmapped⟩ := mappedAsset_of_create hasset (by simp [AssetTypeRefs.values])
    (commonAttributes_ok hattrs)
  have hself := addAsset_extends hadd hmapped
  rw [hid] at hself
  exact hself.trans (Extends.foldlM schemaElementIds (schemaLinks config database)
    (fun _ _ _ => mapSchema_extends) h)

theorem mapRelationship_extends {st st' : MappingState} {relationship : Relationship}
    (h : mapRelationship config st relationship = .ok st') :
    Extends config st [] [foreignKeyLink config relationship] st' := by
  unfold mapRelationship at h
  split at h
  · cases h
  · split at h
    · cases h
    · obtain ⟨rel, hrel, h⟩ := bind_eq_ok.mp h
      cases pure_eq_ok.mp h
      obtain ⟨hk, hs, ht, hy⟩ := CollibraRelationshipSpec.create_ok hrel
      have hext : Extends config st _ _ _ := addRelationship_extends st rel
      simpa only [relationshipLink, foreignKeyLink, hk, hs, ht, hy] using hext

lemma assertUniqueRelationshipKeys_ok {seen : List String}
    {rels : List CollibraRelationshipSpec} (h : assertUniqueRelationshipKeys seen rels = .ok ()) :
    (rels.map CollibraRelationshipSpec.localKey).Nodup ∧
      ∀ r ∈ rels, r.localKey ∉ seen := by
  induction rels generalizing seen with
  | nil => simp
  | cons r rest ih =>
    unfold assertUniqueRelationshipKeys at h
    split at h
    · cases h
    · rename_i hfresh
      obtain ⟨hnodup, hnew⟩ := ih h
      refine ⟨?_, ?_⟩
      · rw [List.map_cons, List.nodup_cons]
        refine ⟨?_, hnodup⟩
        intro hmem
        obtain ⟨x, hx, hxr⟩ := List.mem_map.mp hmem
        exact hnew x hx (by simp [hxr])
      · intro x hx
        rcases List.mem_cons.mp hx with rfl | hx
        · exact hfresh
        · exact fun hs => hnew x hx (List.mem_cons_of_mem _ hs)

end Steps

/-- What a successful mapping guarantees about the desired state. -/
structure Represents (config : CollibraMappingConfig) (model : GovernanceModel)
    (desired : CollibraDesiredState) : Prop where
  assets : (desired.assets.map CollibraAssetSpec.localId).Perm (elementIds model)
  ids_nodup : (elementIds model).Nodup
  relationships : (desired.relationships.map relationshipLink).Perm (modelLinks config model)
  keys_nodup : (desired.relationships.map CollibraRelationshipSpec.localKey).Nodup
  mapped : ∀ a ∈ desired.assets, MappedAsset config a

/-- Every link of a model has one of the profile's relation types. -/
lemma modelLinks_type {config : CollibraMappingConfig} {model : GovernanceModel} {l : Link}
    (h : l ∈ modelLinks config model) : l.2.2.2 ∈ config.relationTypeRefs.values := by
  rcases List.mem_append.mp h with h | h
  · simp only [containmentLinks, databaseLinks, schemaLinks, tableLinks, List.mem_flatMap,
      List.mem_cons, List.mem_map] at h
    obtain ⟨d, -, s, -, rfl | ⟨t, -, rfl | ⟨c, -, rfl⟩⟩⟩ := h <;>
      simp [containmentLinkOf, columnLink, RelationTypeRefs.values]
  · obtain ⟨r, -, rfl⟩ := List.mem_map.mp h
    simp [foreignKeyLink, RelationTypeRefs.values]

theorem Represents.relationTypes {config : CollibraMappingConfig} {model : GovernanceModel}
    {desired : CollibraDesiredState} (h : Represents config model desired) :
    ∀ rel ∈ desired.relationships, rel.relationTypeRef ∈ config.relationTypeRefs.values :=
  fun _ hrel => modelLinks_type
    (h.relationships.mem_iff.mp (List.mem_map_of_mem (f := relationshipLink) hrel))

/-- The mapping represents every element and every link of the model. -/
theorem mapToDesiredState_represents {model : GovernanceModel} {config : CollibraMappingConfig}
    {desired : CollibraDesiredState} (h : mapToDesiredState model config = .ok desired) :
    Represents config model desired := by
  obtain ⟨st, hdb, h⟩ := bind_eq_ok.mp h
  obtain ⟨st', hrel, h⟩ := bind_eq_ok.mp h
  obtain ⟨u, hkeys, h⟩ := bind_eq_ok.mp h
  cases pure_eq_ok.mp h
  have hdbs := Extends.foldlM databaseElementIds (databaseLinks config)
    (fun _ _ _ => mapDatabase_extends) hdb
  have hrels := Extends.foldlM (fun _ => []) (fun r => [foreignKeyLink config r])
    (fun _ _ _ => mapRelationship_extends) hrel
  have hnone : model.relationships.flatMap (fun _ => ([] : List String)) = [] := by simp
  rw [hnone, ← List.map_eq_flatMap] at hrels
  have hall := hdbs.trans hrels
  rw [List.append_nil] at hall
  obtain ⟨assets, hassets, hids, hmapped⟩ := hall.assets
  obtain ⟨rels, hrs, hlinks⟩ := hall.relationships
  have hempty : MappingState.initial.assets = [] ∧ MappingState.initial.relationships = [] ∧
    MappingState.initial.assetIds = [] := ⟨rfl, rfl, rfl⟩
  rw [hempty.1, List.nil_append] at hassets
  rw [hempty.2.1, List.nil_append] at hrs
  have hidsEq := hall.assetIds
  rw [hempty.2.2, List.nil_append] at hidsEq
  have hnodup := hall.nodup (by rw [hempty.2.2]; exact List.nodup_nil)
  rw [hidsEq] at hnodup
  have hperm := sortBy_perm CollibraRelationshipSpec.localKey st'.relationships
  refine ⟨?_, hnodup, ?_, ?_, ?_⟩
  · have := (sortBy_perm CollibraAssetSpec.localId st'.assets).map CollibraAssetSpec.localId
    rw [hassets, hids] at this
    rw [hassets]
    exact this
  · have := hperm.map relationshipLink
    rw [hrs, hlinks] at this
    rw [hrs]
    exact this
  · exact ((hperm.map _).nodup_iff).mpr (assertUniqueRelationshipKeys_ok hkeys).1
  · intro a ha
    refine hmapped a ?_
    rw [← hassets]
    exact mem_sortBy.mp ha

end CollibraGovernance.Collibra
