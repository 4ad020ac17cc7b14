import CollibraGovernance.Comparison.Compare
import CollibraGovernance.Comparison.Renamed

/-! Comparison depends on the structured identity of elements and on nothing else about raw ids. -/
namespace CollibraGovernance.Comparison
open Library Domain Snapshots

/-- The objects are those of the listed elements, each in its place. -/
structure Represents (objects : ObjectMap) (es : List (Element ComparisonObjectIdentity)) : Prop where
  keys : objects.keys = es.map Element.id
  placed : ∀ e ∈ es, Placed e
  shows : ∀ e ∈ es, ∃ o, objects.get? e.id = some o ∧ o.objectIdentity = e.id ∧
    o.parentIdentity = e.id.expectedParent ∧ o.properties.Same (comparableProperties e)

namespace Represents
variable {objects objects' : ObjectMap} {es es' : List (Element ComparisonObjectIdentity)}

lemma ids_nodup (h : Represents objects es) : (es.map Element.id).Nodup := h.keys ▸ objects.keys_nodup

lemma mem_keys (h : Represents objects es) {i : ComparisonObjectIdentity} :
    i ∈ objects.keys ↔ ∃ e ∈ es, e.id = i := by
  rw [h.keys, List.mem_map]

/-- The same elements make the same objects. -/
theorem sameObjects (h : Represents objects es) (h' : Represents objects' es') (hperm : es.Perm es') :
    SameObjects objects objects' := by
  intro i
  by_cases hi : i ∈ objects.keys
  · obtain ⟨e, he, rfl⟩ := h.mem_keys.mp hi
    obtain ⟨o, ho, hidentity, hparent, hproperties⟩ := h.shows e he
    obtain ⟨o', ho', hidentity', hparent', hproperties'⟩ := h'.shows e (hperm.mem_iff.mp he)
    rw [ho, ho']
    exact .some ⟨hidentity.trans hidentity'.symm, hparent.trans hparent'.symm,
      hproperties.trans hproperties'.symm⟩
  · have hi' : i ∉ objects'.keys := by
      rwa [h'.keys, ← (hperm.map Element.id).mem_iff, ← h.keys]
    rw [Dict.get?_eq_none.mpr hi, Dict.get?_eq_none.mpr hi']
    exact .none

/-- A property that is there has a value, so values tell what is there. -/
lemma get?_eq_of_valueOf {e e' : Element ComparisonObjectIdentity} {p : String}
    (h : valueOf (comparableProperties e) p = valueOf (comparableProperties e') p) :
    (comparableProperties e).get? p = (comparableProperties e').get? p := by
  rw [valueOf, valueOf] at h
  cases hleft : (comparableProperties e).get? p with
  | none =>
    cases hright : (comparableProperties e').get? p with
    | none => rfl
    | some w =>
      obtain ⟨w, rfl⟩ := comparableProperties_present hright
      rw [hleft, hright] at h
      cases h
  | some v =>
    obtain ⟨v, rfl⟩ := comparableProperties_present hleft
    cases hright : (comparableProperties e').get? p with
    | none =>
      rw [hleft, hright] at h
      cases h
    | some w =>
      rw [hleft, hright] at h
      exact congrArg some h

/-- Two sides are identical when their elements are the same. -/
theorem identical_iff (h : Represents objects es) (h' : Represents objects' es') :
    statusOf (compareProjected objects objects').summary = "identical" ↔ es.Perm es' := by
  rw [statusOf_compareProjected]
  constructor
  · rintro ⟨hkeys, hdiff⟩
    have hmem : ∀ e ∈ es, ∀ e' ∈ es', e.id = e'.id → e = e' := by
      intro e he e' he' hid
      obtain ⟨o, ho, -, -, hproperties⟩ := h.shows e he
      obtain ⟨o', ho', -, -, hproperties'⟩ := h'.shows e' he'
      have hnil := hdiff e.id o o' ho (hid ▸ ho')
      rw [diffProperties_congr hproperties hproperties', diffProperties_eq_nil] at hnil
      exact eq_of_same (h.placed e he) (h'.placed e' he') hid (fun p => get?_eq_of_valueOf (hnil p))
    rw [List.perm_ext_iff_of_nodup (List.Nodup.of_map _ h.ids_nodup) (List.Nodup.of_map _ h'.ids_nodup)]
    intro e
    constructor
    · intro he
      obtain ⟨e', he', hid⟩ := h'.mem_keys.mp ((hkeys e.id).mp (h.mem_keys.mpr ⟨e, he, rfl⟩))
      exact hmem e he e' he' hid.symm ▸ he'
    · intro he'
      obtain ⟨e', he, hid⟩ := h.mem_keys.mp ((hkeys e.id).mpr (h'.mem_keys.mpr ⟨e, he', rfl⟩))
      exact hmem e' he e he' hid ▸ he
  · intro hperm
    refine ⟨fun i => ?_, ?_⟩
    · rw [h.keys, h'.keys]
      exact (hperm.map Element.id).mem_iff
    · intro i left right hleft hright
      obtain ⟨e, he, rfl⟩ := h.mem_keys.mp (Dict.mem_keys_iff.mpr ⟨left, hleft⟩)
      obtain ⟨o, ho, -, -, hproperties⟩ := h.shows e he
      obtain ⟨o', ho', -, -, hproperties'⟩ := h'.shows e (hperm.mem_iff.mp he)
      rw [ho] at hleft
      rw [ho'] at hright
      cases hleft
      cases hright
      rw [diffProperties_congr hproperties hproperties', diffProperties_eq_nil]
      exact fun p => rfl

end Represents

/-- The elements of a projected snapshot, with an identity for every raw id. -/
def relabelled (p : ProjectedSnapshot) : List (Element ComparisonObjectIdentity) :=
  (elements p.snapshot.model).map (Element.map (identityOf p.rawToIdentity))

section Projected
variable {isPrintable : Char → Bool} {side : String} {s : GovernanceSnapshot} {source : DataSource}
  {d : Database} {raw : Dict String ComparisonObjectIdentity}

/-- A relationship starts from a table of its schema. -/
lemma relationshipHolder_mem {m : GovernanceModel} (h : FirstPass m source d raw) {r : Relationship}
    {s : Schema} {t : Table} (hholder : relationshipHolder m r = some (s, t)) :
    s ∈ d.schemas ∧ t ∈ s.tables ∧ t.id = r.fromTableId := by
  obtain ⟨t', ht', hs'⟩ := Option.bind_eq_some_iff.mp hholder
  obtain ⟨s', hs', heq⟩ := Option.map_eq_some_iff.mp hs'
  cases heq
  obtain ⟨ht, htid⟩ := h.tableById_eq_some.mp ht'
  obtain ⟨hs, hsid⟩ := h.schemaById_eq_some.mp hs'
  obtain ⟨s₀, hs₀, hts₀⟩ := h.mem_tables.mp ht
  have hsame : s = s₀ := by
    refine List.inj_on_of_nodup_map h.schemas_nodup hs (h.schemas_eq ▸ hs₀) ?_
    rw [hsid, h.back.tables s₀ hs₀ t hts₀]
  subst hsame
  exact ⟨hs₀, hts₀, htid⟩

/-- An element with identities for raw ids is where its identity says. -/
lemma placed_located {m : GovernanceModel} (h : FirstPass m source d raw) {l : Located}
    (hl : l ∈ located m source d) : Placed (l.2.map (identityOf raw)) := by
  have hid : (l.2.map (identityOf raw)).id = l.1 := by
    rw [Element.id_map, h.identityOf_located hl]
  have hsource : identityOf raw source.id = .dataSource :=
    h.identityOf_located (mem_located.mpr (Or.inl rfl))
  have hdatabase : identityOf raw d.id = .database :=
    h.identityOf_located (mem_located.mpr (Or.inr (Or.inl rfl)))
  have hschema : ∀ s ∈ d.schemas, identityOf raw s.id = schemaIdentity s := by
    intro s hs
    exact h.identityOf_located (mem_located.mpr (Or.inr (Or.inr (Or.inl ⟨s, hs, rfl⟩))))
  have htable : ∀ s ∈ d.schemas, ∀ t ∈ s.tables, identityOf raw t.id = tableIdentity s t := by
    intro s hs t ht
    exact h.identityOf_located (h.table_mem hs ht (mem_tableLocated.mpr (Or.inl rfl)))
  have hcases := mem_located.mp hl
  rcases hcases with rfl | rfl | ⟨s, hs, rfl⟩ | ⟨s, hs, t, ht, hl'⟩ | ⟨r, hr, hr'⟩
  · refine ⟨by rw [hid]; rfl, by rw [hid]; rfl, attributesOf_sorted _, attributesOf_nodup _⟩
  · refine ⟨by rw [hid]; rfl, ?_, List.Pairwise.nil, List.nodup_nil⟩
    rw [hid]
    exact congrArg some (h.back.database ▸ hsource)
  · refine ⟨by rw [hid]; rfl, ?_, List.Pairwise.nil, List.nodup_nil⟩
    rw [hid]
    exact congrArg some (h.back.schemas s hs ▸ hdatabase)
  · rcases mem_tableLocated.mp hl' with rfl | ⟨c, hc, rfl⟩ | ⟨k, hk, rfl⟩ | ⟨k, hk, rfl⟩
    · refine ⟨by rw [hid]; rfl, ?_, attributesOf_sorted _, attributesOf_nodup _⟩
      rw [hid]
      exact congrArg some (h.back.tables s hs t ht ▸ hschema s hs)
    · refine ⟨by rw [hid]; rfl, ?_, attributesOf_sorted _, attributesOf_nodup _⟩
      rw [hid]
      exact congrArg some (htable s hs t ht)
    · refine ⟨by rw [hid]; rfl, ?_, List.Pairwise.nil, List.nodup_nil⟩
      rw [hid]
      exact congrArg some (h.back.primaryKeys s hs t ht k hk ▸ htable s hs t ht)
    · refine ⟨by rw [hid]; rfl, ?_, List.Pairwise.nil, List.nodup_nil⟩
      rw [hid]
      exact congrArg some (h.back.foreignKeys s hs t ht k hk ▸ htable s hs t ht)
  · obtain ⟨s, t, hholder, rfl⟩ := relationshipLocated_eq_some hr'
    obtain ⟨hs, ht, htid⟩ := relationshipHolder_mem h hholder
    refine ⟨by rw [hid]; rfl, ?_, List.Pairwise.nil, List.nodup_nil⟩
    rw [hid]
    exact congrArg some (htid ▸ htable s hs t ht)

/-- What an accepted snapshot is projected to. -/
theorem represents_of_ok {p : ProjectedSnapshot} (hp : projectSnapshot isPrintable side s = .ok p) :
    Represents p.objects (relabelled p) := by
  obtain ⟨source, d, -, hprojects, rfl⟩ := projects_of_ok hp
  have hpass := hprojects.pass
  have hrelabelled : relabelled p = (located p.snapshot.model source d).map
      (fun l => l.2.map (identityOf p.rawToIdentity)) := by
    rw [relabelled, ← located_elements hpass.dataSources hpass.databases hpass.back, List.map_map]
    rfl
  have hid : ∀ l ∈ located p.snapshot.model source d,
      (l.2.map (identityOf p.rawToIdentity)).id = l.1 := by
    intro l hl
    rw [Element.id_map, hpass.identityOf_located hl]
  rw [hrelabelled]
  constructor
  · rw [hprojects.objects_keys, List.map_map]
    exact List.map_congr_left (fun l hl => (hid l hl).symm)
  · intro e he
    obtain ⟨l, hl, rfl⟩ := List.mem_map.mp he
    exact placed_located hpass hl
  · intro e he
    obtain ⟨l, hl, rfl⟩ := List.mem_map.mp he
    rw [hid l hl]
    exact hprojects.shows l hl

/-- Whatever an element refers to is an element. -/
lemma references_mem {m : GovernanceModel} (h : FirstPass m source d raw) (hkeys : KeyReferences m)
    {l : Located} (hl : l ∈ located m source d) : ∀ i ∈ l.2.references, i ∈ elementIdsOf m := by
  have hown : l.2.id ∈ elementIdsOf m := mem_elementIdsOf h hl
  have hsource : source.id ∈ elementIdsOf m := mem_elementIdsOf h (mem_located.mpr (Or.inl rfl))
  have hdatabase : d.id ∈ elementIdsOf m := mem_elementIdsOf h (mem_located.mpr (Or.inr (Or.inl rfl)))
  have hschema : ∀ s ∈ d.schemas, s.id ∈ elementIdsOf m := by
    intro s hs
    exact mem_elementIdsOf h (mem_located.mpr (Or.inr (Or.inr (Or.inl ⟨s, hs, rfl⟩))))
  have hpart : ∀ t ∈ m.tables, ∃ s, ∀ l ∈ tableLocated s t, l.2.id ∈ elementIdsOf m := by
    intro t ht
    obtain ⟨s, hs, hts⟩ := h.mem_tables.mp ht
    exact ⟨s, fun l hl => mem_elementIdsOf h (h.table_mem hs hts hl)⟩
  have htable : ∀ t ∈ m.tables, t.id ∈ elementIdsOf m := by
    intro t ht
    obtain ⟨s, hs⟩ := hpart t ht
    exact hs _ (mem_tableLocated.mpr (Or.inl rfl))
  have hcolumns : ∀ t ∈ m.tables, ∀ i ∈ t.columns.map Column.id, i ∈ elementIdsOf m := by
    intro t ht i hi
    obtain ⟨c, hc, rfl⟩ := List.mem_map.mp hi
    obtain ⟨s, hs⟩ := hpart t ht
    exact hs _ (mem_tableLocated.mpr (Or.inr (Or.inl ⟨c, hc, rfl⟩)))
  have hforeign : ∀ t ∈ m.tables, ∀ k ∈ t.foreignKeys, k.id ∈ elementIdsOf m := by
    intro t ht k hk
    obtain ⟨s, hs⟩ := hpart t ht
    exact hs _ (mem_tableLocated.mpr (Or.inr (Or.inr (Or.inr ⟨k, hk, rfl⟩))))
  rcases mem_located.mp hl with rfl | rfl | ⟨s, hs, rfl⟩ | ⟨s, hs, t, ht, hl'⟩ | ⟨r, hr, hr'⟩
  · exact List.forall_mem_singleton.mpr hown
  · exact List.forall_mem_cons.mpr ⟨hown, List.forall_mem_singleton.mpr (h.back.database ▸ hsource)⟩
  · exact List.forall_mem_cons.mpr ⟨hown, List.forall_mem_singleton.mpr (h.back.schemas s hs ▸ hdatabase)⟩
  · have htm : t ∈ m.tables := h.mem_tables.mpr ⟨s, hs, ht⟩
    rcases mem_tableLocated.mp hl' with rfl | ⟨c, hc, rfl⟩ | ⟨k, hk, rfl⟩ | ⟨k, hk, rfl⟩
    · exact List.forall_mem_cons.mpr ⟨hown, List.forall_mem_singleton.mpr
        (h.back.tables s hs t ht ▸ hschema s hs)⟩
    · exact List.forall_mem_cons.mpr ⟨hown, List.forall_mem_singleton.mpr (htable t htm)⟩
    · refine List.forall_mem_cons.mpr ⟨hown, List.forall_mem_cons.mpr
        ⟨h.back.primaryKeys s hs t ht k hk ▸ htable t htm, ?_⟩⟩
      exact fun i hi => hcolumns t htm i (hkeys.primaryKeys t htm k hk i hi)
    · obtain ⟨r, hr, hrid, hreferenced⟩ := hkeys.referenced t htm k hk
      refine List.forall_mem_cons.mpr ⟨hown, List.forall_mem_cons.mpr
        ⟨h.back.foreignKeys s hs t ht k hk ▸ htable t htm, List.forall_mem_cons.mpr
          ⟨hrid ▸ htable r hr, List.forall_mem_append.mpr ⟨?_, ?_⟩⟩⟩⟩
      · exact fun i hi => hcolumns t htm i (hkeys.foreignKeys t htm k hk i hi)
      · exact fun i hi => hcolumns r hr i (hreferenced i hi)
  · obtain ⟨s, t, hholder, rfl⟩ := relationshipLocated_eq_some hr'
    obtain ⟨hs, ht, htid⟩ := relationshipHolder_mem h hholder
    obtain ⟨u, hu, huid⟩ := hkeys.relationships r hr
    refine List.forall_mem_cons.mpr ⟨hown, List.forall_mem_cons.mpr
      ⟨htid ▸ htable t (h.mem_tables.mpr ⟨s, hs, ht⟩), List.forall_mem_cons.mpr ⟨huid ▸ htable u hu, ?_⟩⟩⟩
    intro i hi
    obtain ⟨v, hv, f, hf, hfid, -, -⟩ := hkeys.relationship_keys r hr i (Option.mem_toList.mp hi)
    exact hfid ▸ hforeign v hv f hf

/-- Renamed raw ids stand for the identities that the old ones stood for. -/
lemma identityOf_rename {ρ : Renaming} {m : GovernanceModel} {raw' : Dict String ComparisonObjectIdentity}
    (h : FirstPass m source d raw) (h' : FirstPass (m.rename ρ) (source.rename ρ) (d.rename ρ) raw')
    (hρ : Set.InjOn ρ {i | i ∈ elementIdsOf m}) {i : String} (hi : i ∈ elementIdsOf m) :
    identityOf raw' (ρ i) = identityOf raw i := by
  rw [elementIdsOf, ← located_elements h.dataSources h.databases h.back, List.map_map] at hi
  obtain ⟨l, hl, rfl⟩ := List.mem_map.mp hi
  have hrenamed : Located.rename ρ l ∈ located (m.rename ρ) (source.rename ρ) (d.rename ρ) :=
    (located_rename h hρ).mem_iff.mpr (List.mem_map_of_mem hl)
  have hidentity := h'.identityOf_located hrenamed
  rw [Located.rename, Element.id_map] at hidentity
  exact hidentity.trans (h.identityOf_located hl).symm

/-- A renamed snapshot is accepted, and has the same elements under their identities. -/
theorem relabelled_rename {ρ : Renaming} {p : ProjectedSnapshot}
    (hp : projectSnapshot isPrintable side s = .ok p) (hρ : Set.InjOn ρ {i | i ∈ elementIdsOf s.model}) :
    ∃ p', projectSnapshot isPrintable side (s.rename ρ) = .ok p' ∧ (relabelled p').Perm (relabelled p) := by
  obtain ⟨source, d, hacceptable, hprojects, rfl⟩ := projects_of_ok hp
  have hpass := hprojects.pass
  obtain ⟨p', hp'⟩ := exists_projectSnapshot isPrintable side (hacceptable.rename hpass hρ)
  refine ⟨p', hp', ?_⟩
  obtain ⟨source', d', hacceptable', hprojects', hsnapshot⟩ := projects_of_ok hp'
  have hsource : source' = source.rename ρ := by
    have hsources := hacceptable'.dataSources
    rw [GovernanceSnapshot.rename, sources_rename hacceptable.dataSources] at hsources
    exact (List.cons.inj hsources).1.symm
  subst hsource
  have hdatabase : d' = d.rename ρ := by
    have hdatabases := hacceptable'.databases
    rw [databases_rename hacceptable.databases] at hdatabases
    exact (List.cons.inj hdatabases).1.symm
  subst hdatabase
  have hpass' := hprojects'.pass
  rw [relabelled, hsnapshot, relabelled, ← located_elements hpass'.dataSources hpass'.databases hpass'.back,
    ← located_elements hpass.dataSources hpass.databases hpass.back]
  refine (((located_rename hpass hρ).map Prod.snd).map _).trans (.of_eq ?_)
  rw [List.map_map, List.map_map, List.map_map]
  refine List.map_congr_left ?_
  intro l hl
  rw [Function.comp_apply, Function.comp_apply, Function.comp_apply, Located.rename, Element.map_map]
  refine Element.map_congr ?_
  intro i hi
  exact identityOf_rename hpass hpass' hρ (references_mem hpass hacceptable.keys hl i hi)

end Projected

section Compare
variable {isPrintable : Char → Bool} {left right : String} {baseline candidate : GovernanceSnapshot}
  {p q : ProjectedSnapshot}

/-- Renaming raw ids on either side changes nothing, and the sides are identical exactly when their
elements agree under structured identities. -/
theorem compareProjected_by_identity (hp : projectSnapshot isPrintable left baseline = .ok p)
    (hq : projectSnapshot isPrintable right candidate = .ok q) :
    (∀ ρ : Renaming, Set.InjOn ρ {i | i ∈ elementIdsOf baseline.model} →
      ∃ p', projectSnapshot isPrintable left (baseline.rename ρ) = .ok p' ∧
        compareProjected p'.objects q.objects = compareProjected p.objects q.objects) ∧
    (∀ ρ : Renaming, Set.InjOn ρ {i | i ∈ elementIdsOf candidate.model} →
      ∃ q', projectSnapshot isPrintable right (candidate.rename ρ) = .ok q' ∧
        compareProjected p.objects q'.objects = compareProjected p.objects q.objects) ∧
    (statusOf (compareProjected p.objects q.objects).summary = "identical" ↔
      (relabelled p).Perm (relabelled q)) := by
  have hrepresents := represents_of_ok hp
  have hrepresents' := represents_of_ok hq
  refine ⟨?_, ?_, hrepresents.identical_iff hrepresents'⟩
  · intro ρ hρ
    obtain ⟨p', hp', hperm⟩ := relabelled_rename hp hρ
    exact ⟨p', hp', compareProjected_congr ((represents_of_ok hp').sameObjects hrepresents hperm)
      (hrepresents'.sameObjects hrepresents' (List.Perm.refl _))⟩
  · intro ρ hρ
    obtain ⟨q', hq', hperm⟩ := relabelled_rename hq hρ
    exact ⟨q', hq', compareProjected_congr (hrepresents.sameObjects hrepresents (List.Perm.refl _))
      ((represents_of_ok hq').sameObjects hrepresents' hperm)⟩

/-- A snapshot of a shop, as the scanner writes it. -/
def shopSnapshot (m : GovernanceModel) : GovernanceSnapshot :=
  ⟨m, "shop", "shop", "postgresql", "postgresql", Snapshots.scannerContractVersion⟩

/-- Every id of a copied model is marked. -/
def copied : Renaming := ⟨("copy:" ++ ·), fun _ h => isBlank_append_eq_false_right h⟩

lemma copied_injOn (ids : Set String) : Set.InjOn copied ids := by
  intro i _ j _ h
  exact (String.append_right_inj "copy:").mp h

/-- The copy of a shop compares as the shop does, and neither has the elements of a shop without a customer key. -/
theorem shops_compared_by_identity : ∃ p q copy,
    projectSnapshot (fun _ => true) "baseline" (shopSnapshot customerShop) = .ok p ∧
      projectSnapshot (fun _ => true) "candidate" (shopSnapshot anonymousShop) = .ok q ∧
      projectSnapshot (fun _ => true) "baseline" ((shopSnapshot customerShop).rename copied) = .ok copy ∧
      compareProjected copy.objects q.objects = compareProjected p.objects q.objects ∧
      ¬ (relabelled p).Perm (relabelled q) := by
  have hstatus : (projectSnapshot (fun _ => true) "baseline" (shopSnapshot customerShop)).toOption.bind (fun p =>
      (projectSnapshot (fun _ => true) "candidate" (shopSnapshot anonymousShop)).toOption.map fun q =>
        statusOf (compareProjected p.objects q.objects).summary) = some "different" := by decide +kernel
  obtain ⟨p, hp, hstatus⟩ := toOption_bind_eq_some.mp hstatus
  obtain ⟨q, hq, hstatus⟩ := toOption_map_eq_some.mp hstatus
  obtain ⟨hbaseline, -, hidentical⟩ := compareProjected_by_identity hp hq
  obtain ⟨copy, hcopy, hsame⟩ := hbaseline copied (copied_injOn _)
  refine ⟨p, q, copy, hp, hq, hcopy, hsame, ?_⟩
  rw [← hidentical, hstatus]
  decide

end Compare
end CollibraGovernance.Comparison
