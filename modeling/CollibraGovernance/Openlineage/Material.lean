import CollibraGovernance.Openlineage.Events

/-! Facets are the same exactly when their material keys are. -/
namespace CollibraGovernance.Openlineage
open Library Identity Domain

lemma lookup_of_normalize {ms ms' : List (String × Json)} (h : (Json.obj ms).normalize = (Json.obj ms').normalize)
    (key : String) : (Json.lookup ms key).map Json.normalize = (Json.lookup ms' key).map Json.normalize := by
  rw [Json.normalize_obj_eq, Json.normalize_obj_eq, Json.obj.injEq] at h
  rw [← Json.lookup_sortedMembers, ← Json.lookup_sortedMembers, h]

lemma lookup_nil (key : String) : Json.lookup [] key = none := rfl

lemma lookup_cons (key key' : String) (j : Json) (rest : List (String × Json)) :
    Json.lookup ((key', j) :: rest) key = if key' = key then some j else Json.lookup rest key := by
  by_cases h : key' = key <;> simp [Json.lookup, h]

lemma lookup_toList_append (t : Option String) (key key' : String) (rest : List (String × Json)) :
    Json.lookup (t.toList.map (fun t => (key', Json.str t)) ++ rest) key =
      if key' = key then (t.map Json.str).or (Json.lookup rest key) else Json.lookup rest key := by
  cases t <;> by_cases h : key' = key <;> simp [lookup_cons, h]

lemma normalize_str_injective : Function.Injective (Json.normalize ∘ Json.str) := fun _ _ h => Json.str.inj h

lemma lookup_fields (h : FieldHead) (rest : List (String × Json)) :
    Json.lookup (headMembers h ++ rest) "fields" = Json.lookup rest "fields" := by
  obtain ⟨name, _ | type, _ | description⟩ := h <;> simp [headMembers, lookup_cons]

/-- A head is known by its members, whatever else the object holds under `fields`. -/
lemma head_inj {h h' : FieldHead} {fields fields' : Option (List Json)}
    (heq : (Json.obj (headMembers h ++ fields.toList.map (fun fs => ("fields", .arr fs)))).normalize =
      (Json.obj (headMembers h' ++ fields'.toList.map (fun fs => ("fields", .arr fs)))).normalize) : h = h' := by
  have hname := lookup_of_normalize heq "name"
  have htype := lookup_of_normalize heq "type"
  have hdescription := lookup_of_normalize heq "description"
  have hrest : ∀ (fs : Option (List Json)) (key : String), key ≠ "fields" →
      Json.lookup (fs.toList.map (fun fs => ("fields", Json.arr fs))) key = none := by
    intro fs key hkey
    cases fs <;> simp [lookup_nil, lookup_cons, Ne.symm hkey]
  obtain ⟨name, type, description⟩ := h
  obtain ⟨name', type', description'⟩ := h'
  simp [headMembers, lookup_cons, lookup_toList_append, hrest] at hname htype hdescription
  rw [Stripped.ext hname, Option.map_injective normalize_str_injective htype,
    Option.map_injective normalize_str_injective hdescription]

lemma plain_toJson (h : FieldHead) :
    (SchemaField.plain h).toJson =
      .obj (headMembers h ++ (none : Option (List Json)).toList.map (fun fs => ("fields", .arr fs))) := by
  rw [SchemaField.toJson, Option.toList_none, List.map_nil, List.append_nil]

lemma nested_toJson (h : FieldHead) (fs : List SchemaField) :
    (SchemaField.nested h fs).toJson =
      .obj (headMembers h ++ (some (fieldsToJson fs)).toList.map (fun fs => ("fields", .arr fs))) := by
  rw [SchemaField.toJson, Option.toList_some, List.map_singleton]

lemma fields_of_normalize {h h' : FieldHead} {fields fields' : Option (List Json)}
    (heq : (Json.obj (headMembers h ++ fields.toList.map (fun fs => ("fields", .arr fs)))).normalize =
      (Json.obj (headMembers h' ++ fields'.toList.map (fun fs => ("fields", .arr fs)))).normalize) :
    fields.map (List.map Json.normalize) = fields'.map (List.map Json.normalize) := by
  have hfields := lookup_of_normalize heq "fields"
  rw [lookup_fields, lookup_fields] at hfields
  cases fields <;> cases fields' <;> simp_all [lookup_nil, Json.normalize_arr]

mutual
/-- Schema fields that are written alike are the same. -/
theorem field_inj : ∀ f f' : SchemaField, f.toJson.normalize = f'.toJson.normalize → f = f'
  | .plain h, .plain h', heq => by
    rw [plain_toJson, plain_toJson] at heq
    rw [head_inj heq]
  | .plain h, .nested h' fs', heq => by
    rw [plain_toJson, nested_toJson] at heq
    cases fields_of_normalize heq
  | .nested h fs, .plain h', heq => by
    rw [plain_toJson, nested_toJson] at heq
    cases fields_of_normalize heq
  | .nested h fs, .nested h' fs', heq => by
    rw [nested_toJson, nested_toJson] at heq
    rw [head_inj heq, fields_inj fs fs' (Option.some.inj (fields_of_normalize heq))]

theorem fields_inj : ∀ fs fs' : List SchemaField,
    (fieldsToJson fs).map Json.normalize = (fieldsToJson fs').map Json.normalize → fs = fs'
  | [], [], _ => rfl
  | [], f' :: fs', heq => by
    rw [fieldsToJson, fieldsToJson] at heq
    cases heq
  | f :: fs, [], heq => by
    rw [fieldsToJson, fieldsToJson] at heq
    cases heq
  | f :: fs, f' :: fs', heq => by
    rw [fieldsToJson, fieldsToJson] at heq
    obtain ⟨hhead, htail⟩ := List.cons.inj heq
    rw [field_inj f f' hhead, fields_inj fs fs' htail]
end

lemma levels_inj {ls ls' : List HierarchyLevel}
    (h : (ls.map HierarchyLevel.toJson).map Json.normalize = (ls'.map HierarchyLevel.toJson).map Json.normalize) :
    ls = ls' := by
  rw [List.map_map, List.map_map] at h
  refine List.map_injective_iff.mpr (fun l l' hl => ?_) h
  have htype := lookup_of_normalize hl "type"
  have hname := lookup_of_normalize hl "name"
  obtain ⟨type, name⟩ := l
  obtain ⟨type', name'⟩ := l'
  simp [lookup_cons] at htype hname
  rw [Stripped.ext htype, Stripped.ext hname]

lemma owners_inj {os os' : List Owner}
    (h : (os.map Owner.toJson).map Json.normalize = (os'.map Owner.toJson).map Json.normalize) : os = os' := by
  rw [List.map_map, List.map_map] at h
  refine List.map_injective_iff.mpr (fun o o' ho => ?_) h
  have htype := lookup_of_normalize ho "type"
  have hname := lookup_of_normalize ho "name"
  obtain ⟨name, type⟩ := o
  obtain ⟨name', type'⟩ := o'
  simp [lookup_cons] at htype hname
  rw [Stripped.ext htype, Stripped.ext hname]

/-- Facets of one kind whose material keys agree state the same. -/
theorem material_inj {m m' : FacetMaterial} (hkey : m.key = m'.key) (h : m.materialKey = m'.materialKey) : m = m' := by
  have hnormal := Json.canonicalJson_inj.mp h
  cases m <;> cases m' <;> cases hkey
  case schema fields fields' =>
    have hfields := lookup_of_normalize hnormal "fields"
    simp [Json.normalize_arr] at hfields
    rw [fields_inj _ _ hfields]
  case hierarchy levels levels' =>
    have hlevels := lookup_of_normalize hnormal "hierarchy"
    simp only [lookup_cons, if_true, Option.map_some, Json.normalize_arr, Option.some.injEq, Json.arr.injEq] at hlevels
    rw [levels_inj hlevels]
  case datasetType t s t' s' =>
    have ht := lookup_of_normalize hnormal "datasetType"
    have hs := lookup_of_normalize hnormal "subType"
    cases s <;> cases s' <;> simp [lookup_nil, lookup_cons] at ht hs
    · rw [Stripped.ext ht]
    · rw [Stripped.ext ht, Stripped.ext hs]
  case storage l f l' f' =>
    have hl := lookup_of_normalize hnormal "storageLayer"
    have hf := lookup_of_normalize hnormal "fileFormat"
    cases f <;> cases f' <;> simp [lookup_nil, lookup_cons] at hl hf
    · rw [Stripped.ext hl]
    · rw [Stripped.ext hl, hf]
  case ownership owners owners' =>
    have howners := lookup_of_normalize hnormal "owners"
    simp only [lookup_cons, if_true, Option.map_some, Json.normalize_arr, Option.some.injEq, Json.arr.injEq] at howners
    rw [owners_inj howners]

end CollibraGovernance.Openlineage
