import CollibraGovernance.Odcs.OrderSpec

/-! Schema objects and whole contracts in another list order are mapped to the same parts. -/
namespace CollibraGovernance.Odcs
open Library Identity Domain

/-- The check of the properties of one schema object. -/
def assertDataset (path : String) : Json → Except OdcsError Unit
  | .obj schemaObj => assertPropertySiblings path ((Json.lookup schemaObj "properties").getD .null)
  | _ => .ok ()

/-- Two schema objects that the walk treats alike, wherever they stand. -/
structure SameSchemaObject (v v' : Json) : Prop where
  identity : datasetId v = datasetId v'
  siblings : ∀ path path', assertDataset path v = .ok () → assertDataset path' v' = .ok ()
  parts : ∀ c contract path path' p, mapSchemaObject c contract path v = .ok p →
    ∃ p', mapSchemaObject c contract path' v' = .ok p' ∧ p.Same p'

section SchemaObject
variable {m m' : List (String × Json)}

lemma dataset_siblings (h : Option.Rel SameList (Json.lookup m "properties") (Json.lookup m' "properties"))
    (path path' : String) (hok : assertDataset path (.obj m) = .ok ()) : assertDataset path' (.obj m') = .ok () := by
  unfold assertDataset at hok ⊢
  dsimp only at hok ⊢
  generalize Json.lookup m "properties" = o, Json.lookup m' "properties" = o' at h hok ⊢
  cases h with
  | none => rfl
  | some hsame => exact hsame.siblings _ _ hok

/-- The same name, identity and dataset node, and alike properties. -/
theorem SameSchemaObject.of_members (hname : Json.lookup m "name" = Json.lookup m' "name")
    (hidentity : logicalIdentity m = logicalIdentity m')
    (hnode : ∀ c identity name, entryNode c identity name m (datasetAttributes m) =
      entryNode c identity name m' (datasetAttributes m'))
    (hlist : Option.Rel SameList (Json.lookup m "properties") (Json.lookup m' "properties")) :
    SameSchemaObject (.obj m) (.obj m') where
  identity := hidentity
  siblings := dataset_siblings hlist
  parts c contract path path' p h := by
    obtain ⟨name, htext, h⟩ := bind_eq_ok.mp h
    rw [mapSchemaObject]
    have htext' : requireMappedStr (Json.lookup m' "name") (path' ++ "/name")
        "schema object name is required for graph mapping" = .ok name := by
      unfold requireMappedStr at htext ⊢
      rw [← hname]
      cases hstripped : strippedText (Json.lookup m "name") with
      | none =>
        rw [hstripped] at htext
        cases htext
      | some text =>
        rw [hstripped] at htext
        exact htext
    rw [htext', ok_bind]
    cases hlogical : logicalIdentity m with
    | none =>
      rw [hlogical] at h
      cases h
    | some logicalId =>
      rw [hlogical] at h
      obtain ⟨columns, hcolumns, h⟩ := bind_eq_ok.mp h
      obtain rfl := pure_eq_ok.mp h
      rw [← hidentity, hlogical]
      dsimp only
      rw [← hnode]
      obtain ⟨columns', hcolumns', hsame⟩ := nested_parts hlist path path' hcolumns
      exact ⟨_, bind_eq_ok.mpr ⟨columns', hcolumns', rfl⟩, (MappedParts.Same.refl _).append hsame⟩

end SchemaObject

/-- A schema object is treated as itself wherever it stands. -/
theorem sameSchemaObject_self (v : Json) : SameSchemaObject v v := by
  cases v with
  | obj m =>
    exact .of_members rfl rfl (fun _ _ _ => rfl) (rel_self (fun m _ => (sameSelf m.2).list) "properties")
  | _ =>
    refine ⟨rfl, fun _ _ _ => rfl, fun c contract path path' p h => ?_⟩
    cases h
    exact ⟨.empty, rfl, .refl _⟩

/-- The members that a dataset reads by themselves. -/
def datasetKeys : List String :=
  ["id", "name", "description", "logicalType", "physicalName", "physicalType", "businessName",
    "dataGranularityDescription"]

section Change
variable {pre post : List (String × Json)} {key : String} {v v' : Json}

theorem datasetAttributes_congr (hkey : key ∉ datasetKeys) (h : SharedAlike key v v') :
    normalMembers (datasetAttributes (pre ++ (key, v) :: post)) =
      normalMembers (datasetAttributes (pre ++ (key, v') :: post)) := by
  unfold datasetAttributes
  simp only [normalMembers_append]
  refine congrArg₂ (· ++ ·) ?_ (sharedAttributes_congr h)
  refine congrArg normalMembers (copied_congr fun hk => hkey ?_)
  simp only [List.map_cons, List.map_nil, List.mem_cons, List.not_mem_nil, or_false] at hk
  simp only [datasetKeys, List.mem_cons, List.not_mem_nil, or_false]
  tauto

/-- A change that neither the dataset nor the walk over its properties sees. -/
theorem SameSchemaObject.of_change (hkey : key ∉ datasetKeys) (hshared : SharedAlike key v v')
    (hlist : key = "properties" → SameList v v') :
    SameSchemaObject (.obj (pre ++ (key, v) :: post)) (.obj (pre ++ (key, v') :: post)) := by
  have hne : ∀ k ∈ datasetKeys, key ≠ k := fun k hk heq => hkey (heq ▸ hk)
  exact .of_members (lookup_eq (hne "name" (by decide)))
    (logicalIdentity_congr (hne "id" (by decide)) (hne "name" (by decide)))
    (fun c identity name => entryNode_congr (hne "description" (by decide)) (datasetAttributes_congr hkey hshared))
    (lookup_rel (fun j => (sameSelf j).list) hlist)

end Change

/-! ### The list of schema objects -/

/-- The check of the `schema` member. -/
def assertSchema : Json → Except OdcsError Unit
  | .arr entries => do
    assertUniqueSiblings [] "/schema" 0 (mappings entries)
    entries.zipIdx.forM fun e => assertDataset ("/schema/" ++ toString e.2 ++ "/properties") e.1
  | _ => .ok ()

/-- The schema objects of a `schema` member. -/
def schemaList : Json → List Json
  | .arr entries => entries
  | _ => []

/-- The parts of the schema objects, one after the other. -/
def mapSchema (c : Contract) (contract : GraphNodeIdentity) (schema : Json) : Except OdcsError (List MappedParts) :=
  (schemaList schema).zipIdx.mapM fun e => mapSchemaObject c contract ("/schema/" ++ toString e.2) e.1

/-- Two `schema` members that are treated alike. -/
structure SameSchema (v v' : Json) : Prop where
  siblings : assertSchema v = .ok () → assertSchema v' = .ok ()
  parts : ∀ c contract ps, mapSchema c contract v = .ok ps →
    ∃ ps', mapSchema c contract v' = .ok ps' ∧ (MappedParts.join ps).Same (.join ps')

lemma assertDatasets_iff {entries : List Json} {n : Nat} :
    (entries.zipIdx n).forM (fun e => assertDataset ("/schema/" ++ toString e.2 ++ "/properties") e.1) = .ok () ↔
      ∀ j ∈ entries, assertDataset "" j = .ok () := by
  rw [forM_eq_ok]
  constructor
  · intro h j hj
    obtain ⟨i, hi, rfl⟩ := List.mem_iff_getElem.mp hj
    have hmem : (entries[i], n + i) ∈ entries.zipIdx n := by
      rw [List.mem_zipIdx_iff_le_and_getElem?_sub]
      exact ⟨Nat.le_add_right n i, by rw [Nat.add_sub_cancel_left, List.getElem?_eq_getElem hi]⟩
    exact (sameSchemaObject_self _).siblings _ _ (h _ hmem)
  · intro h e he
    exact (sameSchemaObject_self _).siblings _ _ (h e.1 (List.fst_mem_of_mem_zipIdx he))

lemma assertSchema_arr {entries : List Json} :
    assertSchema (.arr entries) = .ok () ↔
      (entries.filterMap datasetId).Nodup ∧ ∀ j ∈ entries, assertDataset "" j = .ok () := by
  unfold assertSchema
  rw [bind_eq_ok]
  constructor
  · rintro ⟨⟨⟩, hunique, heach⟩
    exact ⟨assertUniqueSiblings_eq_ok.mp hunique |>.1 |> (filterMap_mappings entries ▸ ·),
      assertDatasets_iff.mp heach⟩
  · rintro ⟨hunique, heach⟩
    refine ⟨(), assertUniqueSiblings_eq_ok.mpr ⟨?_, fun _ _ => List.not_mem_nil⟩, assertDatasets_iff.mpr heach⟩
    rwa [filterMap_mappings]

lemma datasets_split {c : Contract} {contract : GraphNodeIdentity} {entries : List Json} {ps : List MappedParts}
    {n : Nat} (h : (entries.zipIdx n).mapM (fun e => mapSchemaObject c contract ("/schema/" ++ toString e.2) e.1) =
      .ok ps) :
    List.Forall₂ (fun j p => ∃ path, mapSchemaObject c contract path j = .ok p) entries ps := by
  induction entries generalizing n ps with
  | nil =>
    cases pure_eq_ok.mp h
    exact .nil
  | cons j js ih =>
    rw [List.zipIdx_cons, List.mapM_cons] at h
    obtain ⟨first, hfirst, h⟩ := bind_eq_ok.mp h
    obtain ⟨rest, hrest, h⟩ := bind_eq_ok.mp h
    cases pure_eq_ok.mp h
    exact .cons ⟨_, hfirst⟩ (ih hrest)

lemma datasets_build {c : Contract} {contract : GraphNodeIdentity} {entries entries' : List Json}
    {ps : List MappedParts} (hsame : List.Forall₂ SameSchemaObject entries entries')
    (h : List.Forall₂ (fun j p => ∃ path, mapSchemaObject c contract path j = .ok p) entries ps) (n : Nat) :
    ∃ ps', (entries'.zipIdx n).mapM (fun e => mapSchemaObject c contract ("/schema/" ++ toString e.2) e.1) = .ok ps' ∧
      (MappedParts.join ps).Same (.join ps') := by
  induction hsame generalizing ps n with
  | nil =>
    cases h
    exact ⟨[], rfl, .refl _⟩
  | cons hj _ ih =>
    cases h with
    | cons hown hrest =>
      obtain ⟨path, hown⟩ := hown
      obtain ⟨first, hfirst, hsame⟩ := hj.parts _ _ _ ("/schema/" ++ toString n) _ hown
      obtain ⟨rest, hrest, hsame'⟩ := ih hrest (n + 1)
      refine ⟨first :: rest, ?_, hsame.append hsame'⟩
      rw [List.zipIdx_cons, List.mapM_cons, hfirst, ok_bind, hrest]
      rfl

lemma forall₂_self (entries : List Json) : List.Forall₂ SameSchemaObject entries entries :=
  List.forall₂_same.mpr fun j _ => sameSchemaObject_self j

theorem SameSchema.of_perm {xs ys : List Json} (h : xs.Perm ys) : SameSchema (.arr xs) (.arr ys) where
  siblings hok := by
    rw [assertSchema_arr] at hok ⊢
    exact ⟨(h.filterMap datasetId).nodup_iff.mp hok.1, fun j hj => hok.2 j (h.mem_iff.mpr hj)⟩
  parts c contract ps hok := by
    obtain ⟨qs, hqs, hperm⟩ := List.perm_comp_forall₂ h.symm (datasets_split hok)
    obtain ⟨ps', hps', hsame⟩ := datasets_build (forall₂_self ys) hqs 0
    exact ⟨ps', hps', (MappedParts.Same.join_perm hperm.symm).trans hsame⟩

/-- One schema object in another order inside. -/
theorem SameSchema.of_element {xs ys : List Json} {v v' : Json} (h : SameSchemaObject v v') :
    SameSchema (.arr (xs ++ v :: ys)) (.arr (xs ++ v' :: ys)) where
  siblings hok := by
    rw [assertSchema_arr] at hok ⊢
    refine ⟨?_, fun j hj => ?_⟩
    · rw [List.filterMap_append, List.filterMap_cons, ← h.identity, ← List.filterMap_cons,
        ← List.filterMap_append]
      exact hok.1
    · rcases List.mem_append.mp hj with hj | hj
      · exact hok.2 j (List.mem_append_left _ hj)
      · rcases List.mem_cons.mp hj with rfl | hj
        · exact h.siblings _ _ (hok.2 v (List.mem_append_right _ List.mem_cons_self))
        · exact hok.2 j (List.mem_append_right _ (List.mem_cons_of_mem _ hj))
  parts c contract ps hok :=
    datasets_build (List.rel_append (forall₂_self xs) (.cons h (forall₂_self ys))) (datasets_split hok) 0

theorem sameSchema_self (v : Json) : SameSchema v v :=
  ⟨id, fun _ _ ps h => ⟨ps, h, .refl _⟩⟩

end CollibraGovernance.Odcs
