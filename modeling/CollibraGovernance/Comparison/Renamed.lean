import CollibraGovernance.Comparison.Projected
import CollibraGovernance.Domain.Renaming

/-! Renaming the raw ids of a snapshot moves none of its elements. -/
namespace CollibraGovernance.Snapshots
open Domain

def GovernanceSnapshot.rename (ρ : Renaming) (s : GovernanceSnapshot) : GovernanceSnapshot :=
  { s with model := s.model.rename ρ }

end CollibraGovernance.Snapshots

namespace CollibraGovernance.Comparison
open Library Domain Snapshots

section Located
variable {ρ : Renaming} {m : GovernanceModel} {source : DataSource} {d : Database}

/-- A located element with its raw ids replaced. -/
def Located.rename (ρ : Renaming) (l : Located) : Located := (l.1, l.2.map ρ)

lemma tableLocated_rename (s : Schema) (t : Table) :
    (tableLocated (s.rename ρ) (t.rename ρ)).Perm ((tableLocated s t).map (Located.rename ρ)) := by
  have hcolumns : ((t.rename ρ).columns.map (fun c => (columnIdentity (s.rename ρ) (t.rename ρ) c,
      columnElement (t.rename ρ) c))).Perm
        ((t.columns.map (fun c => (columnIdentity s t c, columnElement t c))).map (Located.rename ρ)) := by
    refine ((sortBy_perm _ _).map _).trans ?_
    rw [List.map_map, List.map_map]
    exact List.Perm.refl _
  have hforeign : ((t.rename ρ).foreignKeys.map (fun k => (foreignKeyIdentity (s.rename ρ) (t.rename ρ) k,
      foreignKeyElement k))).Perm
        ((t.foreignKeys.map (fun k => (foreignKeyIdentity s t k, foreignKeyElement k))).map
          (Located.rename ρ)) := by
    refine ((sortBy_perm _ _).map _).trans ?_
    rw [List.map_map, List.map_map]
    exact List.Perm.refl _
  have hprimary : ((t.rename ρ).primaryKey.toList.map (fun k =>
      (primaryKeyIdentity (s.rename ρ) (t.rename ρ) k, primaryKeyElement k))) =
        ((t.primaryKey.toList.map (fun k => (primaryKeyIdentity s t k, primaryKeyElement k))).map
          (Located.rename ρ)) := by
    cases hk : t.primaryKey with
    | none => simp [Table.rename, hk]
    | some k =>
      simp only [Table.rename, hk, Option.map_some, Option.toList_some, List.map_cons, List.map_nil]
      rfl
  rw [tableLocated, tableLocated, List.map_cons, List.map_append, List.map_append]
  exact ((hcolumns.append (.of_eq hprimary)).append hforeign).cons _

lemma schemaLocated_rename (s : Schema) :
    (schemaLocated (s.rename ρ)).Perm ((schemaLocated s).map (Located.rename ρ)) := by
  have htables : ((s.rename ρ).tables.flatMap (tableLocated (s.rename ρ))).Perm
      ((s.tables.flatMap (tableLocated s)).map (Located.rename ρ)) := by
    refine ((sortBy_perm _ _).flatMap_right _).trans ?_
    rw [List.flatMap_map, List.map_flatMap]
    exact List.Perm.flatMap_left _ (fun t _ => tableLocated_rename s t)
  rw [schemaLocated, schemaLocated, List.map_cons]
  exact htables.cons _

lemma sources_rename (h : m.dataSources = [source]) : (m.rename ρ).dataSources = [source.rename ρ] := by
  simp [GovernanceModel.rename, h, sortBy]

lemma databases_rename (h : source.databases = [d]) : (source.rename ρ).databases = [d.rename ρ] := by
  simp [DataSource.rename, h, sortBy]

end Located

section Holders
variable {ρ : Renaming} {m : GovernanceModel} {source : DataSource} {d : Database}
  {raw : Dict String ComparisonObjectIdentity}

lemma mem_elementIdsOf (h : FirstPass m source d raw) {l : Located} (hl : l ∈ located m source d) :
    l.2.id ∈ elementIdsOf m := by
  rw [elementIdsOf, ← located_elements h.dataSources h.databases h.back, List.map_map]
  exact List.mem_map_of_mem (f := Element.id ∘ Prod.snd) hl

lemma schemas_rename (h : FirstPass m source d raw) :
    (m.rename ρ).schemas.Perm (m.schemas.map (Schema.rename ρ)) := by
  have hschemas : (m.rename ρ).schemas = (d.rename ρ).schemas := by
    simp [GovernanceModel.schemas, GovernanceModel.databases, sources_rename h.dataSources,
      databases_rename h.databases]
  rw [hschemas, h.schemas_eq]
  exact sortBy_perm _ _

lemma tables_rename (h : FirstPass m source d raw) :
    (m.rename ρ).tables.Perm (m.tables.map (Table.rename ρ)) := by
  refine ((schemas_rename h).flatMap_right _).trans ?_
  rw [List.flatMap_map, GovernanceModel.tables, List.map_flatMap]
  exact List.Perm.flatMap_left _ (fun s _ => sortBy_perm _ _)

variable (h : FirstPass m source d raw) (hρ : Set.InjOn ρ {i | i ∈ elementIdsOf m})
include h hρ

lemma get?_tableById_rename {t : Table} (ht : t ∈ m.tables) :
    (tableById (m.rename ρ)).get? (ρ t.id) = some (t.rename ρ) := by
  have hnodup : ((m.rename ρ).tables.map Table.id).Nodup := by
    rw [((tables_rename h).map Table.id).nodup_iff, List.map_map]
    change (m.tables.map (ρ ∘ Table.id)).Nodup
    rw [← List.map_map]
    refine h.tables_nodup.map_on ?_
    intro i hi j hj hij
    have hmem : ∀ i ∈ m.tables.map Table.id, i ∈ elementIdsOf m := by
      intro i hi
      obtain ⟨t, ht, rfl⟩ := List.mem_map.mp hi
      obtain ⟨s, hs, hts⟩ := h.mem_tables.mp ht
      exact mem_elementIdsOf h (h.table_mem hs hts (mem_tableLocated.mpr (Or.inl rfl)))
    exact hρ (hmem i hi) (hmem j hj) hij
  have hmem : t.rename ρ ∈ (m.rename ρ).tables := (tables_rename h).mem_iff.mpr (List.mem_map_of_mem ht)
  exact Dict.get?_index_of_nodup hnodup hmem

lemma get?_schemaById_rename {s : Schema} (hs : s ∈ m.schemas) :
    (schemaById (m.rename ρ)).get? (ρ s.id) = some (s.rename ρ) := by
  have hnodup : ((m.rename ρ).schemas.map Schema.id).Nodup := by
    rw [((schemas_rename h).map Schema.id).nodup_iff, List.map_map]
    change (m.schemas.map (ρ ∘ Schema.id)).Nodup
    rw [← List.map_map]
    refine h.schemas_nodup.map_on ?_
    intro i hi j hj hij
    have hmem : ∀ i ∈ m.schemas.map Schema.id, i ∈ elementIdsOf m := by
      intro i hi
      obtain ⟨s, hs, rfl⟩ := List.mem_map.mp hi
      rw [h.schemas_eq] at hs
      exact mem_elementIdsOf h (mem_located.mpr (Or.inr (Or.inr (Or.inl ⟨s, hs, rfl⟩))))
    exact hρ (hmem i hi) (hmem j hj) hij
  have hmem : s.rename ρ ∈ (m.rename ρ).schemas := (schemas_rename h).mem_iff.mpr (List.mem_map_of_mem hs)
  exact Dict.get?_index_of_nodup hnodup hmem

/-- A renamed relationship starts from the renamed table. -/
lemma relationshipHolder_rename {r : Relationship} (hr : r ∈ m.relationships) :
    relationshipHolder (m.rename ρ) (r.rename ρ) =
      (relationshipHolder m r).map (fun x => (x.1.rename ρ, x.2.rename ρ)) := by
  obtain ⟨⟨s, t⟩, hholder⟩ := Option.isSome_iff_exists.mp (h.back.relationships r hr)
  rw [hholder]
  obtain ⟨t', ht', hs'⟩ := Option.bind_eq_some_iff.mp hholder
  obtain ⟨s', hs', heq⟩ := Option.map_eq_some_iff.mp hs'
  cases heq
  obtain ⟨ht, htid⟩ := h.tableById_eq_some.mp ht'
  have hs := h.schemaById_eq_some.mp hs'
  have htable := get?_tableById_rename h hρ ht
  have hschema := get?_schemaById_rename h hρ hs.1
  rw [relationshipHolder]
  change ((tableById (m.rename ρ)).get? (ρ r.fromTableId)).bind _ = _
  rw [← htid, htable, Option.bind_some]
  change ((schemaById (m.rename ρ)).get? (ρ t.schemaId)).map _ = _
  rw [← hs.2, hschema]
  rfl

/-- The elements of a renamed model stand where they stood. -/
theorem located_rename : (located (m.rename ρ) (source.rename ρ) (d.rename ρ)).Perm
    ((located m source d).map (Located.rename ρ)) := by
  have hschemas : ((d.rename ρ).schemas.flatMap schemaLocated).Perm
      ((d.schemas.flatMap schemaLocated).map (Located.rename ρ)) := by
    refine ((sortBy_perm _ _).flatMap_right _).trans ?_
    rw [List.flatMap_map, List.map_flatMap]
    exact List.Perm.flatMap_left _ (fun s _ => schemaLocated_rename s)
  have hrelationships : ((m.rename ρ).relationships.filterMap (relationshipLocated (m.rename ρ))).Perm
      ((m.relationships.filterMap (relationshipLocated m)).map (Located.rename ρ)) := by
    refine ((sortBy_perm _ _).filterMap _).trans (.of_eq ?_)
    rw [List.filterMap_map, List.map_filterMap]
    refine List.filterMap_congr ?_
    intro r hr
    rw [Function.comp_apply, relationshipLocated, relationshipHolder_rename h hρ hr, relationshipLocated,
      Option.map_map, Option.map_map]
    rfl
  rw [located, located, List.map_append, List.map_cons, List.map_cons]
  exact ((hschemas.cons _).cons _).append hrelationships

lemma backReferences_rename : BackReferences (m.rename ρ) (source.rename ρ) (d.rename ρ) := by
  constructor
  · exact congrArg ρ h.back.database
  · intro s hs
    obtain ⟨s, hs', rfl⟩ := Database.mem_schemas_rename.mp hs
    exact congrArg ρ (h.back.schemas s hs')
  · intro s hs t ht
    obtain ⟨s, hs', rfl⟩ := Database.mem_schemas_rename.mp hs
    obtain ⟨t, ht', rfl⟩ := Schema.mem_tables_rename.mp ht
    exact congrArg ρ (h.back.tables s hs' t ht')
  · intro s hs t ht k hk
    obtain ⟨s, hs', rfl⟩ := Database.mem_schemas_rename.mp hs
    obtain ⟨t, ht', rfl⟩ := Schema.mem_tables_rename.mp ht
    obtain ⟨k, hk', rfl⟩ := Option.map_eq_some_iff.mp hk
    exact congrArg ρ (h.back.primaryKeys s hs' t ht' k hk')
  · intro s hs t ht k hk
    obtain ⟨s, hs', rfl⟩ := Database.mem_schemas_rename.mp hs
    obtain ⟨t, ht', rfl⟩ := Schema.mem_tables_rename.mp ht
    obtain ⟨k, hk', rfl⟩ := Table.mem_foreignKeys_rename.mp hk
    exact congrArg ρ (h.back.foreignKeys s hs' t ht' k hk')
  · intro r hr
    obtain ⟨r, hr', rfl⟩ := GovernanceModel.mem_relationships_rename.mp hr
    rw [relationshipHolder_rename h hρ hr', Option.isSome_map]
    exact h.back.relationships r hr'

omit hρ in
lemma keyReferences_rename (hkeys : KeyReferences m) : KeyReferences (m.rename ρ) := by
  have htables : ∀ t, t ∈ (m.rename ρ).tables ↔ ∃ t' ∈ m.tables, t'.rename ρ = t := by
    intro t
    rw [(tables_rename h).mem_iff, List.mem_map]
  constructor
  · intro t ht k hk c hc
    obtain ⟨t, ht', rfl⟩ := (htables t).mp ht
    obtain ⟨k, hk', rfl⟩ := Option.map_eq_some_iff.mp hk
    obtain ⟨c, hc', rfl⟩ := List.mem_map.mp hc
    exact Table.columnIds_rename (hkeys.primaryKeys t ht' k hk' c hc')
  · intro t ht k hk c hc
    obtain ⟨t, ht', rfl⟩ := (htables t).mp ht
    obtain ⟨k, hk', rfl⟩ := Table.mem_foreignKeys_rename.mp hk
    obtain ⟨c, hc', rfl⟩ := List.mem_map.mp hc
    exact Table.columnIds_rename (hkeys.foreignKeys t ht' k hk' c hc')
  · intro t ht k hk
    obtain ⟨t, ht', rfl⟩ := (htables t).mp ht
    obtain ⟨k, hk', rfl⟩ := Table.mem_foreignKeys_rename.mp hk
    obtain ⟨r, hr, hrid, hreferenced⟩ := hkeys.referenced t ht' k hk'
    refine ⟨r.rename ρ, (htables _).mpr ⟨r, hr, rfl⟩, congrArg ρ hrid, ?_⟩
    intro c hc
    obtain ⟨c, hc', rfl⟩ := List.mem_map.mp hc
    exact Table.columnIds_rename (hreferenced c hc')
  · intro r hr
    obtain ⟨r, hr', rfl⟩ := GovernanceModel.mem_relationships_rename.mp hr
    obtain ⟨t, ht, htid⟩ := hkeys.relationships r hr'
    exact ⟨t.rename ρ, (htables _).mpr ⟨t, ht, rfl⟩, congrArg ρ htid⟩
  · intro r hr k hk
    obtain ⟨r, hr', rfl⟩ := GovernanceModel.mem_relationships_rename.mp hr
    obtain ⟨k, hk', rfl⟩ := Option.map_eq_some_iff.mp hk
    obtain ⟨t, ht, f, hf, hfid, hfrom, hto⟩ := hkeys.relationship_keys r hr' k hk'
    exact ⟨t.rename ρ, (htables _).mpr ⟨t, ht, rfl⟩, f.rename ρ, Table.mem_foreignKeys_rename.mpr ⟨f, hf, rfl⟩,
      congrArg ρ hfid, congrArg ρ hfrom, congrArg ρ hto⟩

end Holders

section Snapshots
variable {ρ : Renaming} {s : GovernanceSnapshot} {source : DataSource} {d : Database}
  {raw : Dict String ComparisonObjectIdentity}

/-- A renamed snapshot is as acceptable as before. -/
theorem Acceptable.rename (h : Acceptable s source d) (hpass : FirstPass s.model source d raw)
    (hρ : Set.InjOn ρ {i | i ∈ elementIdsOf s.model}) :
    Acceptable (s.rename ρ) (source.rename ρ) (d.rename ρ) := by
  have hlocated := located_rename hpass hρ
  refine ⟨sources_rename h.dataSources, databases_rename h.databases, ?_, backReferences_rename hpass hρ, ?_,
    ?_, keyReferences_rename hpass h.keys⟩
  · exact ⟨h.envelope.sourceName, h.envelope.databaseName, h.envelope.systemType, h.envelope.scanner,
      h.envelope.version⟩
  · refine (hlocated.map _).nodup_iff.mpr ?_
    have hids : ((located s.model source d).map (Located.rename ρ)).map (fun l => l.2.id) =
        ((located s.model source d).map (fun l => l.2.id)).map ρ := by
      simp [Located.rename, Function.comp_def]
    rw [hids]
    refine h.ids.map_on ?_
    intro i hi j hj hij
    obtain ⟨l, hl, rfl⟩ := List.mem_map.mp hi
    obtain ⟨l', hl', rfl⟩ := List.mem_map.mp hj
    exact hρ (mem_elementIdsOf hpass hl) (mem_elementIdsOf hpass hl') hij
  · refine (hlocated.map _).nodup_iff.mpr ?_
    rw [List.map_map]
    exact h.identities

end Snapshots
end CollibraGovernance.Comparison
