import CollibraGovernance.Comparison.References

/-! The second pass: which references it accepts, and which properties it writes. -/
namespace CollibraGovernance.Comparison
open Library Domain Snapshots

/-- The properties of a key or a relationship that refer to other objects. -/
def referenceProperties :
    Element ComparisonObjectIdentity → List (String × ComparablePropertyValue)
  | .primaryKey _ _ _ columns => [("/column_ids", .of (.arr (columns.map identityRef)))]
  | .foreignKey _ _ _ columns table referenced => [("/column_ids", .of (.arr (columns.map identityRef))),
      ("/referenced_table_id", .of (identityRef table)),
      ("/referenced_column_ids", .of (.arr (referenced.map identityRef)))]
  | .relationship _ _ table _ key _ => [("/to_table_id", .of (identityRef table)),
      ("/foreign_key_id", .of ((key.map identityRef).getD .null))]
  | _ => []

/-- The patch of an element once its references resolve. -/
def patchOf (raw : Dict String ComparisonObjectIdentity) (e : Element String) : Patch :=
  ⟨identityOf raw e.id, referenceProperties (e.map (identityOf raw))⟩

/-- The keys and relationships of a model. -/
def referrers (m : GovernanceModel) : List (Element String) :=
  m.tables.flatMap (fun t => t.primaryKey.toList.map primaryKeyElement ++
    t.foreignKeys.map foreignKeyElement) ++ m.relationships.map relationshipElement

/-- One patch when the references resolve, an error when they do not. -/
structure Decides (o : PatchOutcome) (resolves : Prop) (p : Patch) : Prop where
  patch : resolves → o = ⟨[], some p⟩
  error : ¬ resolves → o.errors ≠ []

theorem Decides.errors_iff {o : PatchOutcome} {resolves : Prop} {p : Patch} (h : Decides o resolves p) :
    o.errors = [] ↔ resolves := by
  constructor
  · intro herrors
    by_contra hnot
    exact h.error hnot herrors
  · intro hresolves
    rw [h.patch hresolves]

namespace FirstPass
variable {side : String} {m : GovernanceModel} {source : DataSource} {d : Database}
  {raw : Dict String ComparisonObjectIdentity}

lemma tableById_eq_some (h : FirstPass m source d raw) {rawId : String} {t : Table} :
    (tableById m).get? rawId = some t ↔ t ∈ m.tables ∧ t.id = rawId :=
  Dict.get?_index_id_eq_some h.tables_nodup

lemma schemaById_eq_some (h : FirstPass m source d raw) {rawId : String} {s : Schema} :
    (schemaById m).get? rawId = some s ↔ s ∈ m.schemas ∧ s.id = rawId :=
  Dict.get?_index_id_eq_some h.schemas_nodup

lemma fkById_eq_some (h : FirstPass m source d raw) {rawId : String} {k : ForeignKey} :
    (fkById m).get? rawId = some k ↔ k ∈ m.tables.flatMap Table.foreignKeys ∧ k.id = rawId :=
  Dict.get?_index_id_eq_some h.foreignKeys_nodup

lemma columnById_isSome (h : FirstPass m source d raw) {t : Table} (ht : t ∈ m.tables) {rawId : String}
    (hc : rawId ∈ t.columns.map Column.id) : ∃ c, (columnById m).get? rawId = some c := by
  obtain ⟨c, hmem, rfl⟩ := List.mem_map.mp hc
  have hmem : c ∈ m.tables.flatMap Table.columns := List.mem_flatMap.mpr ⟨t, ht, hmem⟩
  exact ⟨c, Dict.get?_index_of_nodup h.columns_nodup hmem⟩

/-- A raw id resolves to a kind when an element of that kind carries it. -/
theorem resolveKind_eq (h : FirstPass m source d raw) (kind : GovernedObjectKind) (rawId : String) :
    resolveKind raw kind rawId =
      if rawId ∈ idsOfKind kind (located m source d) then some (identityOf raw rawId) else none := by
  have hmem : rawId ∈ idsOfKind kind (located m source d) ↔
      ∃ i, raw.get? rawId = some i ∧ i.kind = kind := by
    simp only [idsOfKind, List.mem_map, List.mem_filter, decide_eq_true_eq, h.get?_eq_some]
    constructor
    · rintro ⟨⟨i, e⟩, ⟨hl, hkind⟩, hid⟩
      exact ⟨i, ⟨e, hl, hid⟩, hkind⟩
    · rintro ⟨i, ⟨e, hl, hid⟩, hkind⟩
      exact ⟨(i, e), ⟨hl, hkind⟩, hid⟩
  rw [resolveKind, identityOf]
  cases hget : raw.get? rawId with
  | none =>
    have hnot : rawId ∉ idsOfKind kind (located m source d) := by
      rw [hmem, hget]
      rintro ⟨i, hi, -⟩
      cases hi
    rw [if_neg hnot]
    rfl
  | some i =>
    have hiff : rawId ∈ idsOfKind kind (located m source d) ↔ i.kind = kind := by
      rw [hmem, hget]
      simp
    by_cases hkind : i.kind = kind
    · rw [if_pos (hiff.mpr hkind), Option.filter_some_pos (by simpa using hkind)]
      rfl
    · rw [if_neg (mt hiff.mp hkind), Option.filter_some_neg (by simpa using hkind)]

lemma resolveKind_table (h : FirstPass m source d raw) (rawId : String) : resolveKind raw .table rawId =
    if rawId ∈ m.tables.map Table.id then some (identityOf raw rawId) else none := by
  rw [h.resolveKind_eq, idsOfKind_table, ← List.map_flatMap, ← h.tables_eq]

lemma resolveKind_column (h : FirstPass m source d raw) (rawId : String) : resolveKind raw .column rawId =
    if rawId ∈ (m.tables.flatMap Table.columns).map Column.id then some (identityOf raw rawId)
    else none := by
  rw [h.resolveKind_eq, idsOfKind_column, ← List.flatMap_assoc, ← h.tables_eq, ← List.map_flatMap]

lemma resolveKind_foreignKey (h : FirstPass m source d raw) (rawId : String) :
    resolveKind raw .foreignKey rawId =
      if rawId ∈ (m.tables.flatMap Table.foreignKeys).map ForeignKey.id then
        some (identityOf raw rawId) else none := by
  rw [h.resolveKind_eq, idsOfKind_foreignKey, ← List.flatMap_assoc, ← h.tables_eq, ← List.map_flatMap]

section Columns
variable {t : Table} {columnIds segments : List String}

/-- The column references of a table resolve when they are columns of it. -/
lemma resolveColumnRefs_ok (h : FirstPass m source d raw) (ht : t ∈ m.tables)
    (hcolumns : ∀ c ∈ columnIds, c ∈ t.columns.map Column.id) :
    resolveColumnRefs side m raw columnIds t.id segments =
      .ok (columnIds.map (fun c => identityRef (identityOf raw c))) := by
  rw [resolveColumnRefs, h.tableById_eq_some.mpr ⟨ht, rfl⟩]
  refine mapM_eq_map ?_
  intro c hc
  obtain ⟨column, hcolumn⟩ := h.columnById_isSome ht (hcolumns c hc)
  have hmem : c ∈ (m.tables.flatMap Table.columns).map Column.id := by
    obtain ⟨x, hx, hxc⟩ := List.mem_map.mp (hcolumns c hc)
    exact List.mem_map.mpr ⟨x, List.mem_flatMap.mpr ⟨t, ht, hx⟩, hxc⟩
  simp only [hcolumn, h.resolveKind_column, if_pos hmem, if_pos (hcolumns c hc)]

lemma mem_of_resolveColumnRefs (h : FirstPass m source d raw) (ht : t ∈ m.tables) {refs : List Json}
    (hrefs : resolveColumnRefs side m raw columnIds t.id segments = .ok refs) :
    ∀ c ∈ columnIds, c ∈ t.columns.map Column.id := by
  rw [resolveColumnRefs, h.tableById_eq_some.mpr ⟨ht, rfl⟩] at hrefs
  intro c hc
  obtain ⟨ref, -, href⟩ := (mapM_mem hrefs).2 c hc
  split at href
  · split at href
    · assumption
    · cases href
  · cases href

end Columns

section Outcomes

theorem patchPrimaryKey_decides (h : FirstPass m source d raw) {t : Table} (ht : t ∈ m.tables)
    {k : PrimaryKey} (hk : k ∈ t.primaryKey) : Decides (patchPrimaryKey side m raw t k)
      (∀ c ∈ k.columnIds, c ∈ t.columns.map Column.id) (patchOf raw (primaryKeyElement k)) := by
  obtain ⟨s, hs, hts⟩ := h.mem_tables.mp ht
  have hlocated : (primaryKeyIdentity s t k, primaryKeyElement k) ∈ located m source d :=
    h.table_mem hs hts (mem_tableLocated.mpr (Or.inr (Or.inr (Or.inl ⟨k, hk, rfl⟩))))
  have hget : raw.get? k.id = some (primaryKeyIdentity s t k) := h.get?_located hlocated
  have hidentity : identityOf raw (primaryKeyElement k).id = primaryKeyIdentity s t k :=
    h.identityOf_located hlocated
  constructor
  · intro hcolumns
    rw [patchPrimaryKey, hget]
    simp only [h.resolveColumnRefs_ok ht hcolumns, patchOf, hidentity]
    simp only [primaryKeyElement, Element.map, referenceProperties, List.map_map]
    rfl
  · intro hcolumns herrors
    rw [patchPrimaryKey, hget] at herrors
    dsimp only at herrors
    cases hrefs : resolveColumnRefs side m raw k.columnIds t.id ["primary_keys", k.name, "column_ids"] with
    | error e => simp [hrefs] at herrors
    | ok refs => exact hcolumns (h.mem_of_resolveColumnRefs ht hrefs)

theorem patchForeignKey_decides (h : FirstPass m source d raw) {t : Table} (ht : t ∈ m.tables)
    {k : ForeignKey} (hk : k ∈ t.foreignKeys) : Decides (patchForeignKey side m raw t k)
      ((∀ c ∈ k.columnIds, c ∈ t.columns.map Column.id) ∧ ∃ r ∈ m.tables, r.id = k.referencedTableId ∧
        ∀ c ∈ k.referencedColumnIds, c ∈ r.columns.map Column.id) (patchOf raw (foreignKeyElement k)) := by
  obtain ⟨s, hs, hts⟩ := h.mem_tables.mp ht
  have hlocated : (foreignKeyIdentity s t k, foreignKeyElement k) ∈ located m source d :=
    h.table_mem hs hts (mem_tableLocated.mpr (Or.inr (Or.inr (Or.inr ⟨k, hk, rfl⟩))))
  have hget : raw.get? k.id = some (foreignKeyIdentity s t k) := h.get?_located hlocated
  have hidentity : identityOf raw (foreignKeyElement k).id = foreignKeyIdentity s t k :=
    h.identityOf_located hlocated
  constructor
  · rintro ⟨hcolumns, r, hr, hrid, hreferenced⟩
    have htable : k.referencedTableId ∈ m.tables.map Table.id := hrid ▸ List.mem_map_of_mem hr
    have hsources : resolveColumnRefs side m raw k.columnIds t.id
        ["foreign_keys", k.name, "column_ids"] = .ok (k.columnIds.map (fun c => identityRef (identityOf raw c))) :=
      h.resolveColumnRefs_ok ht hcolumns
    have hrefs : resolveColumnRefs side m raw k.referencedColumnIds k.referencedTableId
        ["foreign_keys", k.name, "referenced_column_ids"] =
          .ok (k.referencedColumnIds.map (fun c => identityRef (identityOf raw c))) :=
      hrid ▸ h.resolveColumnRefs_ok hr hreferenced
    rw [patchForeignKey, hget]
    simp only [h.resolveKind_table, if_pos htable, k.length_eq, ne_eq, not_true, if_false, hsources, hrefs,
      patchOf, hidentity]
    simp only [foreignKeyElement, Element.map, referenceProperties, List.map_map]
    rfl
  · intro hnot herrors
    rw [patchForeignKey, hget] at herrors
    dsimp only at herrors
    rw [h.resolveKind_table] at herrors
    by_cases htable : k.referencedTableId ∈ m.tables.map Table.id
    · obtain ⟨r, hr, hrid⟩ := List.mem_map.mp htable
      rw [if_pos htable] at herrors
      simp only [k.length_eq, ne_eq, not_true, if_false] at herrors
      rw [← hrid] at herrors
      cases hsources : resolveColumnRefs side m raw k.columnIds t.id
          ["foreign_keys", k.name, "column_ids"] with
      | error e =>
        rw [hsources] at herrors
        cases hrefs : resolveColumnRefs side m raw k.referencedColumnIds r.id
          ["foreign_keys", k.name, "referenced_column_ids"] <;> simp [hrefs, errorsOf] at herrors
      | ok sources =>
        cases hrefs : resolveColumnRefs side m raw k.referencedColumnIds r.id
            ["foreign_keys", k.name, "referenced_column_ids"] with
        | error e => simp [hsources, hrefs, errorsOf] at herrors
        | ok refs => exact hnot ⟨h.mem_of_resolveColumnRefs ht hsources, r, hr, hrid,
            h.mem_of_resolveColumnRefs hr hrefs⟩
    · rw [if_neg htable] at herrors
      simp at herrors

/-- The key of a relationship resolves to the foreign key between its two tables. -/
lemma relationshipKey_ok (h : FirstPass m source d raw) {r : Relationship}
    (hkey : ∀ k ∈ r.foreignKeyId, ∃ t ∈ m.tables, ∃ f ∈ t.foreignKeys, f.id = k ∧
      f.tableId = r.fromTableId ∧ f.referencedTableId = r.toTableId) :
    relationshipKey side m raw r =
      .ok ((r.foreignKeyId.map (fun k => identityRef (identityOf raw k))).getD .null) := by
  rw [relationshipKey]
  cases hk : r.foreignKeyId with
  | none => rfl
  | some k =>
    obtain ⟨t, ht, f, hf, rfl, hfrom, hto⟩ := hkey k hk
    have hmem : f ∈ m.tables.flatMap Table.foreignKeys := List.mem_flatMap.mpr ⟨t, ht, hf⟩
    simp only [h.fkById_eq_some.mpr ⟨hmem, rfl⟩, h.resolveKind_foreignKey,
      if_pos (List.mem_map_of_mem (f := ForeignKey.id) hmem), hfrom, hto, ne_eq, not_true, if_false]
    rfl

lemma of_relationshipKey (h : FirstPass m source d raw) {r : Relationship} {value : Json}
    (hvalue : relationshipKey side m raw r = .ok value) : ∀ k ∈ r.foreignKeyId, ∃ t ∈ m.tables,
      ∃ f ∈ t.foreignKeys, f.id = k ∧ f.tableId = r.fromTableId ∧ f.referencedTableId = r.toTableId := by
  intro k hk
  rw [relationshipKey, hk] at hvalue
  dsimp only at hvalue
  split at hvalue
  · rename_i f i hf hi
    obtain ⟨hmem, hid⟩ := h.fkById_eq_some.mp hf
    obtain ⟨t, ht, hft⟩ := List.mem_flatMap.mp hmem
    split_ifs at hvalue with hfrom hto
    exact ⟨t, ht, f, hft, hid, not_not.mp hfrom, not_not.mp hto⟩
  · cases hvalue

theorem patchRelationship_decides (h : FirstPass m source d raw) {r : Relationship}
    (hr : r ∈ m.relationships) : Decides (patchRelationship side m raw r)
      ((∃ t ∈ m.tables, t.id = r.toTableId) ∧ ∀ k ∈ r.foreignKeyId, ∃ t ∈ m.tables,
        ∃ f ∈ t.foreignKeys, f.id = k ∧ f.tableId = r.fromTableId ∧ f.referencedTableId = r.toTableId)
      (patchOf raw (relationshipElement r)) := by
  obtain ⟨⟨s, t⟩, hholder⟩ := Option.isSome_iff_exists.mp (h.back.relationships r hr)
  have hrelationship : relationshipLocated m r = some (relationshipIdentity s t r, relationshipElement r) := by
    rw [relationshipLocated, hholder]
    rfl
  have hlocated : (relationshipIdentity s t r, relationshipElement r) ∈ located m source d :=
    mem_located.mpr (Or.inr (Or.inr (Or.inr (Or.inr ⟨r, hr, hrelationship⟩))))
  have hget : raw.get? r.id = some (relationshipIdentity s t r) := h.get?_located hlocated
  have hidentity : identityOf raw (relationshipElement r).id = relationshipIdentity s t r :=
    h.identityOf_located hlocated
  have hfrom : ((tableById m).get? r.fromTableId).bind (fun t => (schemaById m).get? t.schemaId) = some s := by
    obtain ⟨t', ht', hs'⟩ := Option.bind_eq_some_iff.mp hholder
    obtain ⟨s', hs', heq⟩ := Option.map_eq_some_iff.mp hs'
    cases heq
    exact Option.bind_eq_some_iff.mpr ⟨t, ht', hs'⟩
  have htables : r.toTableId ∈ m.tables.map Table.id ↔ ∃ t ∈ m.tables, t.id = r.toTableId := List.mem_map
  constructor
  · rintro ⟨hto, hkey⟩
    rw [patchRelationship, hget]
    simp only [h.resolveKind_table, if_pos (htables.mpr hto), h.relationshipKey_ok hkey, hfrom, patchOf,
      hidentity]
    simp only [relationshipElement, Element.map, referenceProperties, Option.map_map]
    rfl
  · intro hnot herrors
    rw [patchRelationship, hget] at herrors
    dsimp only at herrors
    rw [h.resolveKind_table] at herrors
    by_cases hto : r.toTableId ∈ m.tables.map Table.id
    · rw [if_pos hto] at herrors
      cases hvalue : relationshipKey side m raw r with
      | error e => simp [hvalue] at herrors
      | ok value => exact hnot ⟨htables.mp hto, h.of_relationshipKey hvalue⟩
    · rw [if_neg hto] at herrors
      cases herrors

lemma tableById_values (h : FirstPass m source d raw) : (tableById m).values = m.tables := by
  rw [Dict.values, tableById, Dict.entries_index_of_nodup h.tables_nodup, List.map_map]
  exact List.map_id _

/-- The second pass finds no error when every key and relationship resolves. -/
theorem patchOutcomes_errors (h : FirstPass m source d raw) :
    (patchOutcomes side m raw).flatMap PatchOutcome.errors = [] ↔ KeyReferences m := by
  rw [patchOutcomes, h.tableById_values, List.flatMap_eq_nil_iff]
  simp only [List.mem_append, List.mem_flatMap, List.mem_map, Option.mem_toList]
  constructor
  · intro herrors
    have hprimary : ∀ t ∈ m.tables, ∀ k ∈ t.primaryKey, (patchPrimaryKey side m raw t k).errors = [] :=
      fun t ht k hk => herrors _ (Or.inl ⟨t, ht, Or.inl ⟨k, hk, rfl⟩⟩)
    have hforeign : ∀ t ∈ m.tables, ∀ k ∈ t.foreignKeys, (patchForeignKey side m raw t k).errors = [] :=
      fun t ht k hk => herrors _ (Or.inl ⟨t, ht, Or.inr ⟨k, hk, rfl⟩⟩)
    have hrelationships : ∀ r ∈ m.relationships, (patchRelationship side m raw r).errors = [] :=
      fun r hr => herrors _ (Or.inr ⟨r, hr, rfl⟩)
    exact ⟨fun t ht k hk => (h.patchPrimaryKey_decides ht hk).errors_iff.mp (hprimary t ht k hk),
      fun t ht k hk => ((h.patchForeignKey_decides ht hk).errors_iff.mp (hforeign t ht k hk)).1,
      fun t ht k hk => ((h.patchForeignKey_decides ht hk).errors_iff.mp (hforeign t ht k hk)).2,
      fun r hr => ((h.patchRelationship_decides hr).errors_iff.mp (hrelationships r hr)).1,
      fun r hr => ((h.patchRelationship_decides hr).errors_iff.mp (hrelationships r hr)).2⟩
  · rintro hkeys o (⟨t, ht, ⟨k, hk, rfl⟩ | ⟨k, hk, rfl⟩⟩ | ⟨r, hr, rfl⟩)
    · exact (h.patchPrimaryKey_decides ht hk).errors_iff.mpr (hkeys.primaryKeys t ht k hk)
    · exact (h.patchForeignKey_decides ht hk).errors_iff.mpr
        ⟨hkeys.foreignKeys t ht k hk, hkeys.referenced t ht k hk⟩
    · exact (h.patchRelationship_decides hr).errors_iff.mpr
        ⟨hkeys.relationships r hr, hkeys.relationship_keys r hr⟩

lemma filterMap_patch {α : Type} {xs : List α} {f : α → PatchOutcome} {g : α → Element String}
    (hpatch : ∀ x ∈ xs, f x = ⟨[], some (patchOf raw (g x))⟩) :
    (xs.map f).filterMap PatchOutcome.patch = (xs.map g).map (patchOf raw) := by
  rw [List.filterMap_map, List.map_map, ← List.filterMap_eq_map]
  refine List.filterMap_congr ?_
  intro x hx
  exact congrArg PatchOutcome.patch (hpatch x hx)

/-- What the second pass then writes. -/
theorem patchOutcomes_patches (h : FirstPass m source d raw) (hkeys : KeyReferences m) :
    (patchOutcomes side m raw).filterMap PatchOutcome.patch = (referrers m).map (patchOf raw) := by
  have hrelationships : (m.relationships.map (patchRelationship side m raw)).filterMap PatchOutcome.patch =
      (m.relationships.map relationshipElement).map (patchOf raw) :=
    filterMap_patch (fun r hr => (h.patchRelationship_decides hr).patch
      ⟨hkeys.relationships r hr, hkeys.relationship_keys r hr⟩)
  rw [patchOutcomes, h.tableById_values, List.filterMap_append, hrelationships, referrers, List.map_append,
    List.filterMap_flatMap, List.map_flatMap]
  refine congrArg (· ++ _) (List.flatMap_congr ?_)
  intro t ht
  rw [List.filterMap_append, List.map_append]
  congr 1
  · exact filterMap_patch (fun k hk => (h.patchPrimaryKey_decides ht (Option.mem_toList.mp hk)).patch
      (hkeys.primaryKeys t ht k (Option.mem_toList.mp hk)))
  · exact filterMap_patch (fun k hk => (h.patchForeignKey_decides ht hk).patch
      ⟨hkeys.foreignKeys t ht k hk, hkeys.referenced t ht k hk⟩)

end Outcomes

end FirstPass
end CollibraGovernance.Comparison
