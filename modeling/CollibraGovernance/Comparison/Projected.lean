import CollibraGovernance.Comparison.Properties
import Mathlib.Data.List.Flatten

/-! What a projected snapshot holds: one object for each element, with the properties of that element
after every raw id has given way to an identity. -/
namespace CollibraGovernance.Comparison
open Library Domain Snapshots

section Patches
variable {objects : Dict ComparisonObjectIdentity ComparableObject} {i : ComparisonObjectIdentity}

/-- An object with some of its properties replaced. -/
def ComparableObject.update (o : ComparableObject) (updates : List (String × ComparablePropertyValue)) :
    ComparableObject := { o with properties := updates.foldl (fun d u => d.set u.1 u.2) o.properties }

lemma get?_applyPatch (objects : Dict ComparisonObjectIdentity ComparableObject) (p : Patch) :
    (applyPatch objects p).get? i =
      if p.identity = i then (objects.get? i).map (fun o => o.update p.updates) else objects.get? i := by
  rw [applyPatch]
  cases ho : objects.get? p.identity with
  | none =>
    split_ifs with hi
    · rw [← hi, ho]
      rfl
    · rfl
  | some o =>
    dsimp only
    rw [Dict.get?_set]
    split_ifs with hi hi' hi'
    · rw [← hi', ho]
      rfl
    · exact absurd hi.symm hi'
    · exact absurd hi'.symm hi
    · rfl

/-- Patching leaves the set of objects as it is. -/
lemma keys_applyPatch (objects : Dict ComparisonObjectIdentity ComparableObject) (p : Patch) :
    (applyPatch objects p).keys = objects.keys := by
  rw [applyPatch]
  cases ho : objects.get? p.identity with
  | none => rfl
  | some o =>
    dsimp only
    rw [Dict.keys_set, if_pos (Dict.mem_keys_iff.mpr ⟨o, ho⟩)]

lemma keys_applyPatches (ps : List Patch) : (ps.foldl applyPatch objects).keys = objects.keys := by
  induction ps generalizing objects with
  | nil => rfl
  | cons p ps ih => rw [List.foldl_cons, ih, keys_applyPatch]

lemma get?_applyPatches_of_notMem {ps : List Patch} (hi : i ∉ ps.map Patch.identity) :
    (ps.foldl applyPatch objects).get? i = objects.get? i := by
  induction ps generalizing objects with
  | nil => rfl
  | cons p ps ih =>
    rw [List.map_cons, List.mem_cons, not_or] at hi
    rw [List.foldl_cons, ih hi.2, get?_applyPatch, if_neg (Ne.symm hi.1)]

/-- Among patches of different objects each is applied to its own. -/
lemma get?_applyPatches {ps : List Patch} (hnodup : (ps.map Patch.identity).Nodup) {p : Patch}
    (hp : p ∈ ps) : (ps.foldl applyPatch objects).get? p.identity =
      (objects.get? p.identity).map (fun o => o.update p.updates) := by
  induction ps generalizing objects with
  | nil => cases hp
  | cons q ps ih =>
    obtain ⟨hq, hps⟩ := List.nodup_cons.mp hnodup
    rw [List.foldl_cons]
    rcases List.mem_cons.mp hp with rfl | hp
    · rw [get?_applyPatches_of_notMem hq, get?_applyPatch, if_pos rfl]
    · have hne : q.identity ≠ p.identity := by
        intro heq
        exact hq (heq ▸ List.mem_map_of_mem hp)
      rw [ih hps hp, get?_applyPatch, if_neg hne]

end Patches

/-- An object shows an element in its place: the second pass only adds the references. -/
structure Shows (rawId : String) (o : ComparableObject) (l : Located) : Prop where
  rawId : rawId = l.2.id
  identity : o.objectIdentity = l.1
  parent : o.parentIdentity = l.1.expectedParent
  properties : ∀ f : String → ComparisonObjectIdentity,
    (o.update (referenceProperties (l.2.map f))).properties.Same (comparableProperties (l.2.map f))

section Registered
variable {side : String} {m : GovernanceModel} {source : DataSource} {d : Database}

lemma tableSteps_shown {s : Schema} {t : Table} {r : String × ComparableObject}
    (hr : r ∈ registrations (tableSteps side s t)) : ∃ l ∈ tableLocated s t, Shows r.1 r.2 l := by
  have hcolumns : ∀ cs : List Column, r ∈ registrations (cs.map (columnStep s t)) →
      ∃ c ∈ cs, r ∈ registrations [columnStep s t c] := by
    intro cs h
    rw [List.map_eq_flatMap, registrations_flatMap] at h
    exact List.mem_flatMap.mp h
  rw [tableSteps, registrations, registrations, registrations_append, registrations_append,
    registrations_flatMap, registrations_flatMap] at hr
  simp only [List.mem_cons, List.mem_append, List.mem_flatMap] at hr
  rcases hr with rfl | (hr | ⟨k, hk, hr⟩) | ⟨k, hk, hr⟩
  · refine ⟨_, mem_tableLocated.mpr (Or.inl rfl), rfl, rfl, rfl, ?_⟩
    intro f
    exact techProps_same _ _
  · obtain ⟨c, hc, hr⟩ := hcolumns _ hr
    cases List.mem_singleton.mp hr
    refine ⟨_, mem_tableLocated.mpr (Or.inr (Or.inl ⟨c, hc, rfl⟩)), rfl, rfl, rfl, ?_⟩
    intro f
    exact techProps_same _ _
  · cases List.mem_singleton.mp hr
    refine ⟨_, mem_tableLocated.mpr (Or.inr (Or.inr (Or.inl ⟨k, Option.mem_toList.mp hk, rfl⟩))), rfl, rfl,
      rfl, ?_⟩
    intro f
    exact Dict.Same.refl _
  · cases List.mem_singleton.mp hr
    refine ⟨_, mem_tableLocated.mpr (Or.inr (Or.inr (Or.inr ⟨k, hk, rfl⟩))), rfl, rfl, rfl, ?_⟩
    intro f
    exact Dict.Same.refl _

/-- Everything the first pass registers shows an element. -/
theorem steps_shown {r : String × ComparableObject} (hr : r ∈ registrations (steps side m source d)) :
    ∃ l ∈ located m source d, Shows r.1 r.2 l := by
  rw [steps, List.map_eq_flatMap, registrations_append, registrations_append, registrations_flatMap,
    databaseSteps, registrations, registrations, registrations_flatMap] at hr
  simp only [dataSourceSteps, registrations, List.mem_append, List.mem_cons, List.not_mem_nil, or_false,
    List.mem_flatMap] at hr
  rcases hr with (rfl | rfl | ⟨s, hs, hr⟩) | ⟨r', hr', hr⟩
  · refine ⟨_, mem_located.mpr (Or.inl rfl), rfl, rfl, rfl, ?_⟩
    intro f
    exact techProps_same _ _
  · refine ⟨_, mem_located.mpr (Or.inr (Or.inl rfl)), rfl, rfl, rfl, ?_⟩
    intro f
    exact Dict.Same.refl _
  · rw [schemaSteps, registrations, registrations, registrations_flatMap] at hr
    rcases List.mem_cons.mp hr with rfl | hr
    · refine ⟨_, mem_located.mpr (Or.inr (Or.inr (Or.inl ⟨s, hs, rfl⟩))), rfl, rfl, rfl, ?_⟩
      intro f
      exact Dict.Same.refl _
    · obtain ⟨t, ht, hr⟩ := List.mem_flatMap.mp hr
      obtain ⟨l, hl, hshows⟩ := tableSteps_shown hr
      exact ⟨l, mem_located.mpr (Or.inr (Or.inr (Or.inr (Or.inl ⟨s, hs, t, ht, hl⟩)))), hshows⟩
  · rw [relationshipStep] at hr
    cases ht : (tableById m).get? r'.fromTableId with
    | none => simp [ht, registrations] at hr
    | some t =>
      simp only [ht] at hr
      cases hs : (schemaById m).get? t.schemaId with
      | none => simp [hs, registrations] at hr
      | some s =>
        simp only [hs, registrations, List.mem_singleton] at hr
        have hlocated : relationshipLocated m r' = some (relationshipIdentity s t r', relationshipElement r') := by
          simp [relationshipLocated, relationshipHolder, ht, hs]
        subst hr
        refine ⟨_, mem_located.mpr (Or.inr (Or.inr (Or.inr (Or.inr ⟨r', hr', hlocated⟩)))), rfl, rfl, rfl, ?_⟩
        intro f
        exact Dict.Same.refl _

end Registered

section Project
variable {isPrintable : Char → Bool} {side : String} {s : GovernanceSnapshot} {source : DataSource}
  {d : Database}

/-- The envelope of a snapshot agrees with its model. -/
structure EnvelopeMatches (s : GovernanceSnapshot) (source : DataSource) (d : Database) : Prop where
  sourceName : s.sourceName = source.name
  databaseName : s.databaseName = d.name
  systemType : s.systemType = source.systemType
  scanner : s.scanner ≠ ""
  version : s.scannerContractVersion = Snapshots.scannerContractVersion

theorem diagnose_eq_nil {holds : Bool} {error : DiagnosticError} :
    diagnose holds error = [] ↔ holds = true := by
  cases holds <;> simp [diagnose]

theorem validateSnapshotShapeAndEnvelope_eq_ok :
    validateSnapshotShapeAndEnvelope isPrintable side s = .ok (source, d) ↔
      s.model.dataSources = [source] ∧ source.databases = [d] ∧ EnvelopeMatches s source d := by
  have hsystem : source.systemType ≠ "" := ne_empty_of_not_blank source.systemType_nonblank
  constructor
  · intro h
    rw [validateSnapshotShapeAndEnvelope] at h
    split at h
    · rename_i source' hsource
      split at h
      · rename_i d' hdatabase
        obtain ⟨⟨⟩, herrors, h⟩ := bind_eq_ok.mp h
        cases h
        simp only [raiseIfAny_eq_ok, List.append_eq_nil_iff, diagnose_eq_nil, decide_eq_true_eq] at herrors
        obtain ⟨⟨⟨⟨⟨hname, hdname⟩, hstype⟩, hscanner⟩, -⟩, hversion⟩ := herrors
        exact ⟨hsource, hdatabase, hname, hdname, hstype, hscanner, hversion⟩
      · cases h
    · cases h
  · rintro ⟨hsource, hdatabase, h⟩
    rw [validateSnapshotShapeAndEnvelope, hsource]
    dsimp only
    rw [hdatabase]
    refine bind_eq_ok.mpr ⟨(), ?_, rfl⟩
    have hversion : Snapshots.scannerContractVersion ≠ "" := by decide
    simp [raiseIfAny_eq_ok, diagnose_eq_nil, h.sourceName, h.databaseName, h.systemType, h.scanner, hsystem,
      hversion, h.version]

/-- The snapshots that can be projected. -/
structure Acceptable (s : GovernanceSnapshot) (source : DataSource) (d : Database) : Prop where
  dataSources : s.model.dataSources = [source]
  databases : source.databases = [d]
  envelope : EnvelopeMatches s source d
  back : BackReferences s.model source d
  ids : ((located s.model source d).map (fun l => l.2.id)).Nodup
  identities : ((located s.model source d).map Prod.fst).Nodup
  keys : KeyReferences s.model

/-- A projected snapshot, by what it holds. -/
structure Projects (s : GovernanceSnapshot) (source : DataSource) (d : Database) (p : ProjectedSnapshot) :
    Prop where
  pass : FirstPass s.model source d p.rawToIdentity
  objects_keys : p.objects.keys = (located s.model source d).map Prod.fst
  shows : ∀ l ∈ located s.model source d, ∃ o, p.objects.get? l.1 = some o ∧ o.objectIdentity = l.1 ∧
    o.parentIdentity = l.1.expectedParent ∧
      o.properties.Same (comparableProperties (l.2.map (identityOf p.rawToIdentity)))

/-- The outcome of the first pass. -/
def firstPass (side : String) (m : GovernanceModel) (source : DataSource) (d : Database) : Registered :=
  (steps side m source d).foldl (runStep side) .empty

section FirstPass
variable {m : GovernanceModel}

lemma registrations_located (side : String) (m : GovernanceModel) (source : DataSource) (d : Database) :
    (registrations (steps side m source d)).map Prod.fst = (located m source d).map (fun l => l.2.id) ∧
      (registrations (steps side m source d)).map (fun r => r.2.objectIdentity) =
        (located m source d).map Prod.fst := by
  have hids : (registrations (steps side m source d)).map (fun r => (r.1, r.2.objectIdentity)) =
      (located m source d).map (fun l => (l.2.id, l.1)) := registeredIds_steps m source d
  have hfst := congrArg (List.map Prod.fst) hids
  have hsnd := congrArg (List.map Prod.snd) hids
  simp only [List.map_map, Function.comp_def] at hfst hsnd
  exact ⟨hfst, hsnd⟩

theorem firstPass_errors : (firstPass side m source d).errors = [] ↔ BackReferences m source d ∧
    ((located m source d).map (fun l => l.2.id)).Nodup ∧ ((located m source d).map Prod.fst).Nodup := by
  obtain ⟨hraws, hidentities⟩ := registrations_located side m source d
  rw [firstPass, run_errors_iff recorded_empty, List.nil_append, checksHold_steps, Distinct, hraws,
    hidentities]

variable (hsource : m.dataSources = [source]) (hdatabase : source.databases = [d])
  (herrors : (firstPass side m source d).errors = [])
include herrors

lemma firstPass_recorded : Recorded (firstPass side m source d) (registrations (steps side m source d)) := by
  have hrecorded := run_recorded recorded_empty _ herrors
  rwa [List.nil_append] at hrecorded

include hsource hdatabase in
theorem firstPass_ok : FirstPass m source d (firstPass side m source d).rawToIdentity := by
  obtain ⟨hback, -, hidentities⟩ := firstPass_errors.mp herrors
  refine ⟨hsource, hdatabase, hback, ?_, hidentities⟩
  rw [(firstPass_recorded herrors).raw]
  exact registeredIds_steps m source d

lemma firstPass_keys : (firstPass side m source d).objects.keys = (located m source d).map Prod.fst := by
  rw [Dict.keys, (firstPass_recorded herrors).objects, List.map_map]
  exact (registrations_located side m source d).2

/-- Each element is shown by the object recorded for it. -/
lemma firstPass_shows {l : Located} (hl : l ∈ located m source d) :
    ∃ o, (firstPass side m source d).objects.get? l.1 = some o ∧ Shows l.2.id o l := by
  obtain ⟨-, hnodup, -⟩ := firstPass_errors.mp herrors
  have hid : (l.2.id, l.1) ∈ (registrations (steps side m source d)).map
      (fun r => (r.1, r.2.objectIdentity)) := by
    have hids : registeredIds (steps side m source d) = (located m source d).map (fun l => (l.2.id, l.1)) :=
      registeredIds_steps m source d
    rw [registeredIds] at hids
    rw [hids]
    exact List.mem_map_of_mem (f := fun l : Located => (l.2.id, l.1)) hl
  obtain ⟨⟨rawId, o⟩, hr, heq⟩ := List.mem_map.mp hid
  obtain ⟨l', hl', hshows⟩ := steps_shown hr
  obtain ⟨hraw, hidentity⟩ := Prod.mk.inj heq
  dsimp only at hraw hidentity hshows
  have hsame : l' = l := by
    have hid' : l'.2.id = l.2.id := by rw [← hshows.rawId, hraw]
    exact List.inj_on_of_nodup_map hnodup hl' hl hid'
  subst hsame
  refine ⟨o, ?_, hraw ▸ hshows⟩
  rw [Dict.get?_eq_some, (firstPass_recorded herrors).objects, ← hidentity]
  exact List.mem_map_of_mem (f := fun r : String × ComparableObject => (r.2.objectIdentity, r.2)) hr

end FirstPass

section Patched
variable {m : GovernanceModel} {raw : Dict String ComparisonObjectIdentity}

lemma referrers_sublist (h : FirstPass m source d raw) : (referrers m).Sublist (elements m) := by
  have htable : ∀ t : Table, (t.primaryKey.toList.map primaryKeyElement ++
      t.foreignKeys.map foreignKeyElement).Sublist (tableElements t) := by
    intro t
    rw [tableElements, List.append_assoc]
    exact (List.sublist_append_right _ _).cons _
  have hschemas : (m.tables.flatMap (fun t => t.primaryKey.toList.map primaryKeyElement ++
      t.foreignKeys.map foreignKeyElement)).Sublist (d.schemas.flatMap schemaElements) := by
    rw [h.tables_eq, List.flatMap_assoc]
    refine List.Sublist.flatMap_right _ ?_
    intro s _
    exact (List.Sublist.flatMap_right _ (fun t _ => htable t)).cons _
  rw [referrers, elements, h.dataSources, List.flatMap_singleton, dataSourceElements, h.databases,
    List.flatMap_singleton, databaseElements]
  exact ((hschemas.cons _).cons _).append (List.Sublist.refl _)

/-- Identities tell the elements apart. -/
lemma identityOf_injOn (h : FirstPass m source d raw) {e e' : Element String} (he : e ∈ elements m)
    (he' : e' ∈ elements m) (heq : identityOf raw e.id = identityOf raw e'.id) : e = e' := by
  rw [← located_elements h.dataSources h.databases h.back] at he he'
  obtain ⟨l, hl, rfl⟩ := List.mem_map.mp he
  obtain ⟨l', hl', rfl⟩ := List.mem_map.mp he'
  rw [h.identityOf_located hl, h.identityOf_located hl'] at heq
  exact congrArg Prod.snd (List.inj_on_of_nodup_map h.identities hl hl' heq)

lemma elements_nodup (h : FirstPass m source d raw) : (elements m).Nodup :=
  List.Nodup.of_map _ h.elementIds_nodup

lemma patches_nodup (h : FirstPass m source d raw) :
    (((referrers m).map (patchOf raw)).map Patch.identity).Nodup := by
  rw [List.map_map]
  refine List.Nodup.map_on ?_ ((elements_nodup h).sublist (referrers_sublist h))
  intro e he e' he' heq
  exact identityOf_injOn h ((referrers_sublist h).subset he) ((referrers_sublist h).subset he') heq

/-- What is neither a key nor a relationship refers to nothing. -/
lemma referenceProperties_of_notMem (h : FirstPass m source d raw) {l : Located}
    (hl : l ∈ located m source d) (hnot : l.2 ∉ referrers m) (f : String → ComparisonObjectIdentity) :
    referenceProperties (l.2.map f) = [] := by
  rcases mem_located.mp hl with rfl | rfl | ⟨s, hs, rfl⟩ | ⟨s, hs, t, ht, hl⟩ | ⟨r, hr, hr'⟩
  · rfl
  · rfl
  · rfl
  · have htable : t ∈ m.tables := h.mem_tables.mpr ⟨s, hs, ht⟩
    rcases mem_tableLocated.mp hl with rfl | ⟨c, hc, rfl⟩ | ⟨k, hk, rfl⟩ | ⟨k, hk, rfl⟩
    · rfl
    · rfl
    · refine absurd (List.mem_append_left _ (List.mem_flatMap.mpr ⟨t, htable, ?_⟩)) hnot
      exact List.mem_append_left _ (List.mem_map_of_mem (Option.mem_toList.mpr hk))
    · refine absurd (List.mem_append_left _ (List.mem_flatMap.mpr ⟨t, htable, ?_⟩)) hnot
      exact List.mem_append_right _ (List.mem_map_of_mem hk)
  · obtain ⟨s, t, -, rfl⟩ := relationshipLocated_eq_some hr'
    exact absurd (List.mem_append_right _ (List.mem_map_of_mem hr)) hnot

/-- Once patched, an object shows its element with every reference replaced. -/
theorem patched_shows (h : FirstPass m source d raw)
    {objects : Dict ComparisonObjectIdentity ComparableObject} {l : Located}
    (hl : l ∈ located m source d) {o : ComparableObject} (ho : objects.get? l.1 = some o)
    (hshows : Shows l.2.id o l) : ∃ o', (((referrers m).map (patchOf raw)).foldl applyPatch objects).get? l.1 =
      some o' ∧ o'.objectIdentity = l.1 ∧ o'.parentIdentity = l.1.expectedParent ∧
        o'.properties.Same (comparableProperties (l.2.map (identityOf raw))) := by
  refine ⟨o.update (referenceProperties (l.2.map (identityOf raw))), ?_, hshows.identity, hshows.parent,
    hshows.properties (identityOf raw)⟩
  have hidentity : identityOf raw l.2.id = l.1 := h.identityOf_located hl
  by_cases hmem : l.2 ∈ referrers m
  · have hpatch := @get?_applyPatches objects _ (patches_nodup h) _
      (List.mem_map_of_mem (f := patchOf raw) hmem)
    rw [patchOf, hidentity, ho] at hpatch
    exact hpatch
  · have hnot : l.1 ∉ ((referrers m).map (patchOf raw)).map Patch.identity := by
      rw [List.map_map, List.mem_map]
      rintro ⟨e, he, heq⟩
      have hmem' : l.2 ∈ elements m := by
        rw [← located_elements h.dataSources h.databases h.back]
        exact List.mem_map_of_mem hl
      have heq' : identityOf raw e.id = identityOf raw l.2.id := heq.trans hidentity.symm
      exact hmem (identityOf_injOn h ((referrers_sublist h).subset he) hmem' heq' ▸ he)
    rw [get?_applyPatches_of_notMem hnot, ho, referenceProperties_of_notMem h hl hmem]
    rfl

end Patched

/-- A projected snapshot is acceptable, and the projection holds its elements. -/
theorem projects_of_ok {p : ProjectedSnapshot} (hp : projectSnapshot isPrintable side s = .ok p) :
    ∃ source d, Acceptable s source d ∧ Projects s source d p ∧ p.snapshot = s := by
  rw [projectSnapshot] at hp
  obtain ⟨⟨source, d⟩, hvalid, hp⟩ := bind_eq_ok.mp hp
  obtain ⟨⟨⟩, hfirst, hp⟩ := bind_eq_ok.mp hp
  obtain ⟨⟨⟩, hsecond, hp⟩ := bind_eq_ok.mp hp
  cases hp
  obtain ⟨hsource, hdatabase, henvelope⟩ := validateSnapshotShapeAndEnvelope_eq_ok.mp hvalid
  rw [raiseIfAny_eq_ok] at hfirst hsecond
  obtain ⟨hback, hids, hidentities⟩ := firstPass_errors.mp hfirst
  have hpass := firstPass_ok hsource hdatabase hfirst
  have hkeys := hpass.patchOutcomes_errors.mp hsecond
  refine ⟨source, d, ⟨hsource, hdatabase, henvelope, hback, hids, hidentities, hkeys⟩, ⟨hpass, ?_, ?_⟩, rfl⟩
  · exact (keys_applyPatches _).trans (firstPass_keys hfirst)
  · intro l hl
    obtain ⟨o, ho, hshows⟩ := firstPass_shows hfirst hl
    have hpatches : (patchOutcomes side s.model _).filterMap PatchOutcome.patch = _ :=
      hpass.patchOutcomes_patches hkeys
    exact hpatches ▸ patched_shows hpass hl ho hshows

/-- Every acceptable snapshot is projected. -/
theorem exists_projectSnapshot (isPrintable : Char → Bool) (side : String) (h : Acceptable s source d) :
    ∃ p, projectSnapshot isPrintable side s = .ok p := by
  have hvalid : validateSnapshotShapeAndEnvelope isPrintable side s = .ok (source, d) :=
    validateSnapshotShapeAndEnvelope_eq_ok.mpr ⟨h.dataSources, h.databases, h.envelope⟩
  have hfirst : (firstPass side s.model source d).errors = [] :=
    firstPass_errors.mpr ⟨h.back, h.ids, h.identities⟩
  have hpass := firstPass_ok h.dataSources h.databases hfirst
  have hsecond : (patchOutcomes side s.model _).flatMap PatchOutcome.errors = [] :=
    hpass.patchOutcomes_errors.mpr h.keys
  exact ⟨_, bind_eq_ok.mpr ⟨_, hvalid, bind_eq_ok.mpr ⟨(), raiseIfAny_eq_ok.mpr hfirst,
    bind_eq_ok.mpr ⟨(), raiseIfAny_eq_ok.mpr hsecond, rfl⟩⟩⟩⟩

end Project
end CollibraGovernance.Comparison
