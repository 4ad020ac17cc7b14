import CollibraGovernance.Openlineage.Mapper
import CollibraGovernance.Openlineage.Faults

/-! Every event that validates can be read: the mapper finds each member it takes. -/
namespace CollibraGovernance.Openlineage
open Library

section Items

lemma lookup_of_get {mapping : List (String × Json)} {key text : String} (h : Json.get mapping key = .str text) :
    Json.lookup mapping key = some (.str text) := by
  unfold Json.get at h
  cases hlookup : Json.lookup mapping key with
  | none =>
    rw [hlookup] at h
    cases h
  | some value =>
    rw [hlookup] at h
    exact congrArg some h

lemma textItem_ok {mapping : List (String × Json)} {key text : String}
    (h : Json.lookup mapping key = some (.str text)) : textItem mapping key = .ok text := by
  unfold textItem itemOf
  rw [h]
  rfl

lemma exists_normId {text : String} (h : isBlank text = false) : ∃ id, normId text = .ok id :=
  ⟨_, dif_pos h⟩

lemma presentText_nonblank {mapping : List (String × Json)} {key text : String}
    (h : presentText mapping key = some text) : isBlank text = false := by
  unfold presentText at h
  split at h
  · split_ifs at h with hblank
    cases h
    rwa [Bool.not_eq_true] at hblank
  · cases h

lemma exists_idItem {mapping : List (String × Json)} {key path text : String}
    (h : textField mapping key path = .ok text) : ∃ id, idItem mapping key = .ok id := by
  obtain ⟨hget, hblank⟩ := textField_ok.mp h
  unfold idItem
  rw [textItem_ok (lookup_of_get hget)]
  exact exists_normId hblank

lemma eachItem_ok {path : String} {items : List Json} {check : Json → String → Checked Unit}
    (h : eachItem path items check = .ok ()) {item : Json} (hitem : item ∈ items) :
    ∃ itemPath, check item itemPath = .ok () := by
  obtain ⟨i, hi, rfl⟩ := List.mem_iff_getElem.mp hitem
  exact ⟨_, forM_eq_ok.mp h (items[i], i) (List.mem_zipIdx_iff_getElem?.mpr (List.getElem?_eq_getElem hi))⟩

lemma eachMember_ok {path : String} {members : List (String × Json)}
    {check : String → Json → String → Checked Unit} (h : eachMember path members check = .ok ())
    {m : String × Json} (hm : m ∈ members) : check m.1 m.2 (pointer path m.1) = .ok () := forM_eq_ok.mp h m hm

lemma whenPresent_ok {mapping : List (String × Json)} {key : String} {check : Json → Checked Unit} {value : Json}
    (h : whenPresent mapping key check = .ok ()) (hvalue : Json.lookup mapping key = some value) :
    check value = .ok () := by
  unfold whenPresent at h
  rwa [hvalue] at h

lemma itemOf_ok {mapping : List (String × Json)} {key : String} {value : Json}
    (h : Json.lookup mapping key = some value) : itemOf mapping key = .ok value := by
  unfold itemOf
  rw [h]

/-- Both texts of an object that has two. -/
lemma exists_pair {α : Type} {f : Stripped → Stripped → α} {mapping : List (String × Json)}
    {first second path s t : String} (hfirst : textField mapping first path = .ok s)
    (hsecond : textField mapping second path = .ok t) :
    ∃ a, (do
      let x ← idItem mapping first
      let y ← idItem mapping second
      return f x y : Checked α) = .ok a := by
  obtain ⟨x, hx⟩ := exists_idItem hfirst
  obtain ⟨y, hy⟩ := exists_idItem hsecond
  exact ⟨f x y, by rw [hx, ok_bind, hy, ok_bind]; rfl⟩

end Items

section Fields

lemma exists_readFieldHead {mapping : List (String × Json)} {seen : List String} {path name : String}
    (h : fieldName mapping seen path = .ok name) : ∃ head, readFieldHead mapping = .ok head := by
  unfold fieldName at h
  obtain ⟨text, htext, -⟩ := bind_eq_ok.mp h
  obtain ⟨id, hid⟩ := exists_idItem htext
  unfold readFieldHead
  rw [hid, ok_bind]
  exact ⟨_, rfl⟩

/-- A member that is no list of fields is passed over. -/
lemma exists_pastMember {path k : String} {v : Json} {rest : List (String × Json)} (hv : ∀ items, v ≠ .arr items)
    (h : validateFieldsMember path ((k, v) :: rest) = .ok ())
    (ih : validateFieldsMember path rest = .ok () → ∃ nested, readFieldsMember rest = .ok nested) :
    ∃ nested, readFieldsMember ((k, v) :: rest) = .ok nested := by
  rw [validateFieldsMember] at h
  rw [readFieldsMember.eq_3 k v rest hv]
  split_ifs at h ⊢
  · exact ⟨none, rfl⟩
  · exact ih h

mutual
/-- Fields that validate are read; the induction follows the validator. -/
lemma exists_readFields {path : String} {seen : List String} {index : Nat} :
    ∀ items, validateEachField path seen index items = .ok () → ∃ fields, readFields items = .ok fields
  | [], _ => ⟨[], by rw [readFields]⟩
  | j :: js, h => by
    rw [validateEachField] at h
    obtain ⟨name, hname, h⟩ := bind_eq_ok.mp h
    obtain ⟨first, hfirst⟩ := exists_readField j hname
    obtain ⟨rest, hrest⟩ := exists_readFields js h
    rw [readFields, hfirst, ok_bind, hrest, ok_bind]
    exact ⟨_, rfl⟩

lemma exists_readField {path : String} {seen : List String} :
    ∀ j {name}, validateField path seen j = .ok name → ∃ field, readField j = .ok field
  | .obj mapping, name, h => by
    rw [validateField] at h
    obtain ⟨n, hn, h⟩ := bind_eq_ok.mp h
    obtain ⟨⟨⟩, hmember, -⟩ := bind_eq_ok.mp h
    obtain ⟨head, hhead⟩ := exists_readFieldHead hn
    obtain ⟨nested, hnested⟩ := exists_readFieldsMember mapping hmember
    rw [readField, hhead, ok_bind, hnested, ok_bind]
    exact ⟨_, rfl⟩
  | .null, _, h => by cases h
  | .bool _, _, h => by cases h
  | .int _, _, h => by cases h
  | .float _, _, h => by cases h
  | .str _, _, h => by cases h
  | .arr _, _, h => by cases h

lemma exists_readFieldsMember {path : String} :
    ∀ members, validateFieldsMember path members = .ok () → ∃ nested, readFieldsMember members = .ok nested
  | [], _ => ⟨none, by rw [readFieldsMember]⟩
  | (k, .arr items) :: rest, h => by
    rw [validateFieldsMember] at h
    rw [readFieldsMember]
    split_ifs at h ⊢ with hk
    · rw [validateSchemaFields] at h
      obtain ⟨fields, hfields⟩ := exists_readFields items h
      rw [hfields, ok_bind]
      exact ⟨_, rfl⟩
    · exact exists_readFieldsMember rest h
  | (_, .null) :: rest, h => exists_pastMember (fun _ hv => by cases hv) h (exists_readFieldsMember rest)
  | (_, .bool _) :: rest, h => exists_pastMember (fun _ hv => by cases hv) h (exists_readFieldsMember rest)
  | (_, .int _) :: rest, h => exists_pastMember (fun _ hv => by cases hv) h (exists_readFieldsMember rest)
  | (_, .float _) :: rest, h => exists_pastMember (fun _ hv => by cases hv) h (exists_readFieldsMember rest)
  | (_, .str _) :: rest, h => exists_pastMember (fun _ hv => by cases hv) h (exists_readFieldsMember rest)
  | (_, .obj _) :: rest, h => exists_pastMember (fun _ hv => by cases hv) h (exists_readFieldsMember rest)
end

end Fields

section Facets

/-- The objects of a list of which every item was checked to be one. -/
lemma exists_mappingsOf {items : List Json} (h : ∀ item ∈ items, ∃ members, item = .obj members) :
    ∃ mappings, mappingsOf (.arr items) = .ok mappings ∧ ∀ mapping ∈ mappings, Json.obj mapping ∈ items := by
  unfold mappingsOf
  dsimp only
  induction items with
  | nil => exact ⟨[], rfl, by simp⟩
  | cons item items ih =>
    obtain ⟨mappings, hmappings, hmem⟩ := ih fun i hi => h i (List.mem_cons_of_mem _ hi)
    obtain ⟨members, rfl⟩ := h item List.mem_cons_self
    refine ⟨members :: mappings, ?_, ?_⟩
    · rw [List.mapM_cons, ok_bind, hmappings, ok_bind]
      rfl
    · rw [List.forall_mem_cons]
      exact ⟨List.mem_cons_self, fun mapping hm => List.mem_cons_of_mem _ (hmem mapping hm)⟩

/-- A list of named items that validates is read item by item. -/
lemma exists_namedItems {α : Type} {f : Stripped → Stripped → α} {facet : List (String × Json)}
    {key first second path : String} (h : validateNamedItems facet key first second path = .ok ()) :
    ∃ raw mappings items, itemOf facet key = .ok raw ∧ mappingsOf raw = .ok mappings ∧
      mappings.mapM (fun mapping => do
        let s ← idItem mapping first
        let t ← idItem mapping second
        return f s t : List (String × Json) → Checked α) = .ok items := by
  obtain ⟨raw, hraw, hlist⟩ := bind_eq_ok.mp h
  obtain ⟨items, hitems, hcheck⟩ := bind_eq_ok.mp hlist
  cases requireList_ok.mp hitems
  have hitem : ∀ item ∈ items, ∃ members path' s t, item = .obj members ∧
      textField members first path' = .ok s ∧ textField members second path' = .ok t := by
    intro item hitem
    obtain ⟨path', hobject⟩ := eachItem_ok hcheck hitem
    obtain ⟨members, hmembers, hfirst⟩ := bind_eq_ok.mp hobject
    obtain ⟨s, hs, hsecond⟩ := bind_eq_ok.mp hfirst
    obtain ⟨t, ht, -⟩ := bind_eq_ok.mp hsecond
    exact ⟨members, path', s, t, requireMapping_ok.mp hmembers, hs, ht⟩
  obtain ⟨mappings, hmappings, hmem⟩ := exists_mappingsOf fun item hi =>
    (hitem item hi).imp fun _ ⟨_, _, _, h, _⟩ => h
  obtain ⟨read, hread⟩ : ∃ read, mappings.mapM (fun mapping => do
      let s ← idItem mapping first
      let t ← idItem mapping second
      return f s t : List (String × Json) → Checked α) = .ok read := by
    refine exists_mapM_ok fun mapping hmapping => ?_
    obtain ⟨members, path', s, t, hobj, hs, ht⟩ := hitem _ (hmem mapping hmapping)
    cases hobj
    exact exists_pair hs ht
  exact ⟨_, mappings, read, itemOf_ok (requiredMember_ok.mp hraw), hmappings, hread⟩

lemma exists_readMaterial {key : FacetKey} {facet : List (String × Json)} {path : String}
    (h : validateFacetBody key facet path = .ok ()) : ∃ material, readMaterial key facet = .ok material := by
  cases key with
  | schema =>
    unfold readMaterial
    dsimp only
    split
    · rename_i items hitems
      have hfields := whenPresent_ok h hitems
      rw [validateSchemaFields] at hfields
      obtain ⟨fields, hread⟩ := exists_readFields items hfields
      rw [hread, ok_bind]
      exact ⟨_, rfl⟩
    · exact ⟨_, rfl⟩
  | hierarchy =>
    obtain ⟨raw, mappings, levels, hraw, hmappings, hread⟩ := exists_namedItems (f := HierarchyLevel.mk) h
    unfold readMaterial
    dsimp only
    rw [hraw, ok_bind, hmappings, ok_bind, hread, ok_bind]
    exact ⟨_, rfl⟩
  | datasetType =>
    obtain ⟨text, htext, -⟩ := bind_eq_ok.mp h
    obtain ⟨type, htype⟩ := exists_idItem htext
    unfold readMaterial
    dsimp only
    rw [htype, ok_bind]
    cases hsub : presentText facet "subType" with
    | none => exact ⟨_, rfl⟩
    | some sub =>
      obtain ⟨id, hid⟩ := exists_normId (presentText_nonblank hsub)
      dsimp only
      rw [hid]
      exact ⟨_, rfl⟩
  | storage =>
    obtain ⟨text, htext, -⟩ := bind_eq_ok.mp h
    obtain ⟨layer, hlayer⟩ := exists_idItem htext
    unfold readMaterial
    dsimp only
    rw [hlayer, ok_bind]
    exact ⟨_, rfl⟩
  | ownership =>
    obtain ⟨raw, mappings, owners, hraw, hmappings, hread⟩ := exists_namedItems (f := Owner.mk) h
    unfold readMaterial
    dsimp only
    rw [hraw, ok_bind, hmappings, ok_bind, hread, ok_bind]
    exact ⟨_, rfl⟩

variable {parsers : Parsers}

lemma uri_textItem {mapping : List (String × Json)} {key path url : String}
    (h : requireUriString parsers (Json.get mapping key) path = .ok url) : textItem mapping key = .ok url :=
  textItem_ok (lookup_of_get ((requireUriString_ok parsers).mp h).1)

lemma exists_readFacet {key : FacetKey} {facet : List (String × Json)} {path : String}
    (h : validateSupportedFacet parsers key facet path = .ok ()) : ∃ read, readFacet key facet = .ok read := by
  obtain ⟨producer, hproducer, h₁⟩ := bind_eq_ok.mp h
  obtain ⟨schemaUrl, hschemaUrl, h₂⟩ := bind_eq_ok.mp h₁
  obtain ⟨⟨⟩, -, hbody⟩ := bind_eq_ok.mp h₂
  obtain ⟨material, hmaterial⟩ := exists_readMaterial hbody
  unfold readFacet
  rw [hmaterial, ok_bind, uri_textItem hproducer, ok_bind, uri_textItem hschemaUrl, ok_bind]
  exact ⟨_, rfl⟩

lemma parse_columnLineage : FacetKey.parse "columnLineage" = none := by decide

lemma exists_readFacetMember {m : String × Json} {path : String}
    (h : validateDatasetFacet parsers m.1 m.2 path = .ok ()) : ∃ read, readFacetMember m = .ok read := by
  obtain ⟨key, value⟩ := m
  obtain ⟨members, hmembers, h₁⟩ := bind_eq_ok.mp h
  obtain rfl := requireMapping_ok.mp hmembers
  unfold readFacetMember
  dsimp only at h₁ ⊢
  cases hparse : FacetKey.parse key with
  | none => exact ⟨none, rfl⟩
  | some facetKey =>
    have hkey : key ≠ "columnLineage" := by
      rintro rfl
      rw [parse_columnLineage] at hparse
      cases hparse
    rw [if_neg hkey, hparse] at h₁
    obtain ⟨read, hread⟩ := exists_readFacet h₁
    dsimp only
    rw [hread]
    exact ⟨_, rfl⟩

end Facets

section Events
variable {parsers : Parsers}

lemma exists_readInputField {output : Stripped} {mapping : List (String × Json)} {path : String}
    (h : validateColumnLineageInputField (.obj mapping) path = .ok ()) :
    ∃ entry, readInputField output mapping = .ok entry := by
  obtain ⟨members, hmembers, h₁⟩ := bind_eq_ok.mp h
  cases requireMapping_ok.mp hmembers
  obtain ⟨ns, hns, h₂⟩ := bind_eq_ok.mp h₁
  obtain ⟨name, hname, h₃⟩ := bind_eq_ok.mp h₂
  obtain ⟨field, hfield, -⟩ := bind_eq_ok.mp h₃
  obtain ⟨_, hns⟩ := exists_idItem hns
  obtain ⟨_, hname⟩ := exists_idItem hname
  obtain ⟨_, hfield⟩ := exists_idItem hfield
  unfold readInputField
  rw [hns, ok_bind, hname, ok_bind, hfield, ok_bind]
  exact ⟨_, rfl⟩

lemma mem_mappings {items : List Json} {mapping : List (String × Json)} :
    mapping ∈ Odcs.mappings items ↔ Json.obj mapping ∈ items := by
  unfold Odcs.mappings
  rw [List.mem_filterMap]
  constructor
  · rintro ⟨item, hitem, h⟩
    cases item with
    | obj members =>
      cases h
      exact hitem
    | _ => cases h
  · intro h
    exact ⟨_, h, rfl⟩

lemma exists_readOutputField {m : String × Json} {path : String} (h : validateLineageField m.1 m.2 path = .ok ()) :
    ∃ entries, readOutputField m = .ok entries := by
  unfold validateLineageField at h
  split_ifs at h with hblank
  · cases h
  · obtain ⟨members, hmembers, h₁⟩ := bind_eq_ok.mp h
    obtain ⟨raw, hraw, h₂⟩ := bind_eq_ok.mp h₁
    obtain ⟨inputFields, hinputs, h₃⟩ := bind_eq_ok.mp h₂
    obtain ⟨⟨⟩, heach, -⟩ := bind_eq_ok.mp h₃
    rw [Bool.not_eq_true] at hblank
    obtain ⟨output, houtput⟩ := exists_normId hblank
    unfold readOutputField
    rw [requireMapping_ok.mp hmembers]
    dsimp only
    rw [requiredMember_ok.mp hraw, requireList_ok.mp hinputs]
    dsimp only
    rw [houtput, ok_bind]
    refine exists_mapM_ok fun mapping hmapping => ?_
    obtain ⟨path', hcheck⟩ := eachItem_ok heach (mem_mappings.mp hmapping)
    exact exists_readInputField hcheck

/-- The column lineage of a dataset whose facets all validate is read. -/
lemma exists_readLineage {facets : List (String × Json)} {path : String}
    (h : ∀ m ∈ facets, validateDatasetFacet parsers m.1 m.2 (pointer path m.1) = .ok ()) :
    ∃ lineage, readLineage facets = .ok lineage := by
  unfold readLineage
  split
  · rename_i facet hfacet
    obtain ⟨members, hmembers, h₁⟩ := bind_eq_ok.mp (h _ (Json.mem_of_lookup hfacet))
    cases requireMapping_ok.mp hmembers
    rw [if_pos rfl] at h₁
    obtain ⟨producer, hproducer, h₂⟩ := bind_eq_ok.mp h₁
    obtain ⟨schemaUrl, hschemaUrl, h₃⟩ := bind_eq_ok.mp h₂
    rw [uri_textItem hproducer, ok_bind, uri_textItem hschemaUrl, ok_bind]
    split_ifs at h₃
    · cases h₃
    · obtain ⟨⟨⟩, -, h₄⟩ := bind_eq_ok.mp h₃
      obtain ⟨raw, hraw, h₅⟩ := bind_eq_ok.mp h₄
      obtain ⟨fields, hfields, h₆⟩ := bind_eq_ok.mp h₅
      obtain ⟨⟨⟩, heach, -⟩ := bind_eq_ok.mp h₆
      rw [requiredMember_ok.mp hraw, requireMapping_ok.mp hfields]
      dsimp only
      obtain ⟨entries, hentries⟩ : ∃ entries, fields.mapM readOutputField = .ok entries :=
        exists_mapM_ok fun m hm => exists_readOutputField (eachMember_ok heach hm)
      rw [hentries, ok_bind]
      exact ⟨_, rfl⟩
  · exact ⟨none, rfl⟩

lemma exists_readDataset {mapping : List (String × Json)} {path : String}
    (h : validateDataset parsers (.obj mapping) path = .ok ()) : ∃ dataset, readDataset mapping = .ok dataset := by
  obtain ⟨members, hmembers, h₁⟩ := bind_eq_ok.mp h
  cases requireMapping_ok.mp hmembers
  obtain ⟨ns, hns, h₂⟩ := bind_eq_ok.mp h₁
  obtain ⟨name, hname, h₃⟩ := bind_eq_ok.mp h₂
  obtain ⟨⟨⟩, hfacets, -⟩ := bind_eq_ok.mp h₃
  have hmember : ∀ m ∈ facetMembers mapping,
      validateDatasetFacet parsers m.1 m.2 (pointer (pointer path "facets") m.1) = .ok () := by
    unfold facetMembers
    split
    · rename_i facets hlookup
      obtain ⟨members, hmembers, heach⟩ := bind_eq_ok.mp (whenPresent_ok hfacets hlookup)
      cases requireMapping_ok.mp hmembers
      exact fun m hm => eachMember_ok heach hm
    · exact fun m hm => absurd hm List.not_mem_nil
  obtain ⟨_, hns⟩ := exists_idItem hns
  obtain ⟨_, hname⟩ := exists_idItem hname
  obtain ⟨read, hread⟩ : ∃ read, (facetMembers mapping).mapM readFacetMember = .ok read :=
    exists_mapM_ok fun m hm => exists_readFacetMember (hmember m hm)
  obtain ⟨lineage, hlineage⟩ := exists_readLineage hmember
  unfold readDataset
  rw [hns, ok_bind, hname, ok_bind, hread, ok_bind, hlineage, ok_bind]
  exact ⟨_, rfl⟩

lemma exists_readDatasetList {event : List (String × Json)} {key path : String}
    (h : whenPresent event key (fun value => validateDatasetList parsers value path) = .ok ()) :
    ∃ datasets, readDatasetList event key = .ok datasets := by
  unfold readDatasetList
  split
  · rename_i items hitems
    obtain ⟨items', hlist, heach⟩ := bind_eq_ok.mp (whenPresent_ok h hitems)
    cases requireList_ok.mp hlist
    refine exists_mapM_ok fun mapping hmapping => ?_
    obtain ⟨path', hcheck⟩ := eachItem_ok heach (mem_mappings.mp hmapping)
    exact exists_readDataset hcheck
  · exact ⟨[], rfl⟩

lemma mappingItem_ok {event mapping : List (String × Json)} {key : String}
    (h : Json.lookup event key = some (.obj mapping)) : mappingItem event key = .ok mapping := by
  unfold mappingItem
  rw [itemOf_ok h]
  rfl

lemma exists_readJob {event : List (String × Json)} {job : Json} {path : String}
    (hjob : Json.lookup event "job" = some job) (h : validateJob job path = .ok ()) :
    ∃ read, readJob event = .ok read := by
  obtain ⟨members, hmembers, h₁⟩ := bind_eq_ok.mp h
  cases requireMapping_ok.mp hmembers
  obtain ⟨ns, hns, h₂⟩ := bind_eq_ok.mp h₁
  obtain ⟨name, hname, -⟩ := bind_eq_ok.mp h₂
  unfold readJob
  rw [mappingItem_ok hjob, ok_bind]
  exact exists_pair hns hname

lemma validate_list {event : List (String × Json)} {path : String}
    (h : validateInputsOutputs parsers event path = .ok ()) :
    (∃ inputs, readDatasetList event "inputs" = .ok inputs) ∧
      ∃ outputs, readDatasetList event "outputs" = .ok outputs := by
  obtain ⟨⟨⟩, hinputs, houtputs⟩ := bind_eq_ok.mp h
  exact ⟨exists_readDatasetList hinputs, exists_readDatasetList houtputs⟩

lemma exists_runId {run : List (String × Json)} {runId : Json} {path text : String}
    (hrunId : Json.lookup run "runId" = some runId) (h : requireUuid parsers runId path = .ok text) :
    ∃ id, idItem run "runId" = .ok id := by
  obtain ⟨text', htext, -⟩ := bind_eq_ok.mp h
  obtain ⟨rfl, hblank⟩ := requireText_ok.mp htext
  unfold idItem
  rw [textItem_ok hrunId]
  exact exists_normId hblank

lemma exists_readBody {kind : EventKind} {event : List (String × Json)} {path : String}
    (h : validateBody parsers kind event path = .ok ()) : ∃ body, readBody kind event = .ok body := by
  cases kind with
  | dataset =>
    obtain ⟨⟨⟩, -, h₁⟩ := bind_eq_ok.mp h
    obtain ⟨⟨⟩, -, h₂⟩ := bind_eq_ok.mp h₁
    obtain ⟨dataset, hdataset, h₃⟩ := bind_eq_ok.mp h₂
    obtain ⟨mapping, hmapping, -⟩ := bind_eq_ok.mp h₃
    obtain rfl := requireMapping_ok.mp hmapping
    obtain ⟨read, hread⟩ := exists_readDataset h₃
    unfold readBody
    dsimp only
    rw [mappingItem_ok (requiredMember_ok.mp hdataset), ok_bind, hread, ok_bind]
    exact ⟨_, rfl⟩
  | job =>
    obtain ⟨⟨⟩, -, h₁⟩ := bind_eq_ok.mp h
    obtain ⟨job, hjob, h₂⟩ := bind_eq_ok.mp h₁
    obtain ⟨⟨⟩, hvalid, h₃⟩ := bind_eq_ok.mp h₂
    obtain ⟨read, hread⟩ := exists_readJob (requiredMember_ok.mp hjob) hvalid
    obtain ⟨⟨inputs, hinputs⟩, outputs, houtputs⟩ := validate_list h₃
    unfold readBody
    dsimp only
    rw [hread, ok_bind, hinputs, ok_bind, houtputs, ok_bind]
    exact ⟨_, rfl⟩
  | run =>
    obtain ⟨raw, hraw, h₁⟩ := bind_eq_ok.mp h
    obtain ⟨run, hrun, h₂⟩ := bind_eq_ok.mp h₁
    obtain rfl := requireMapping_ok.mp hrun
    obtain ⟨runId, hrunId, h₃⟩ := bind_eq_ok.mp h₂
    obtain ⟨text, huuid, h₄⟩ := bind_eq_ok.mp h₃
    obtain ⟨⟨⟩, -, h₅⟩ := bind_eq_ok.mp h₄
    obtain ⟨job, hjob, h₆⟩ := bind_eq_ok.mp h₅
    obtain ⟨⟨⟩, hvalid, h₇⟩ := bind_eq_ok.mp h₆
    obtain ⟨⟨⟩, -, h₈⟩ := bind_eq_ok.mp h₇
    obtain ⟨id, hid⟩ := exists_runId (requiredMember_ok.mp hrunId) huuid
    obtain ⟨read, hread⟩ := exists_readJob (requiredMember_ok.mp hjob) hvalid
    obtain ⟨⟨inputs, hinputs⟩, outputs, houtputs⟩ := validate_list h₈
    unfold readBody
    dsimp only
    rw [mappingItem_ok (requiredMember_ok.mp hraw), ok_bind, hid, ok_bind, hread, ok_bind, hinputs, ok_bind,
      houtputs, ok_bind]
    exact ⟨_, rfl⟩

/-- An event that validates is read, at every path. -/
theorem exists_readEvent {event : Json} {mapping : List (String × Json)} {path : String}
    (h : validateEvent parsers event path = .ok mapping) (path' : String) :
    ∃ read, readEvent mapping path' = .ok read := by
  rw [validateEvent_eq] at h
  obtain ⟨members, hmembers, h₁⟩ := bind_eq_ok.mp h
  obtain rfl := requireMapping_ok.mp hmembers
  obtain ⟨url, hurl, h₂⟩ := bind_eq_ok.mp h₁
  obtain ⟨schemaUrl, htext, h₃⟩ := bind_eq_ok.mp h₂
  obtain ⟨rfl, -⟩ := requireText_ok.mp htext
  cases hkind : eventKindOf schemaUrl with
  | none =>
    rw [hkind] at h₃
    cases h₃
  | some kind =>
    rw [hkind] at h₃
    obtain ⟨time, -, h₄⟩ := bind_eq_ok.mp h₃
    obtain ⟨text, -, h₅⟩ := bind_eq_ok.mp h₄
    obtain ⟨⟨⟩, hrest, h₆⟩ := bind_eq_ok.mp h₅
    obtain rfl := pure_eq_ok.mp h₆
    obtain ⟨producer, hproducer, h₇⟩ := bind_eq_ok.mp hrest
    obtain ⟨producerUrl, huri, hbody⟩ := bind_eq_ok.mp h₇
    obtain ⟨rfl, -⟩ := (requireUriString_ok parsers).mp huri
    obtain ⟨body, hread⟩ := exists_readBody hbody
    unfold readEvent
    rw [textItem_ok (requiredMember_ok.mp hurl), ok_bind, textItem_ok (requiredMember_ok.mp hproducer), ok_bind,
      hkind]
    dsimp only
    rw [hread, ok_bind]
    exact ⟨_, rfl⟩

/-- Events that validate are all read. -/
theorem exists_readEvents {events : Json} {validated : List (List (String × Json))}
    (h : validateOpenlineageEvents parsers events = .ok validated) :
    ∃ read, (validated.zipIdx.mapM fun entry => readEvent entry.1 (pointerAt "" entry.2)) = .ok read := by
  unfold validateOpenlineageEvents at h
  cases events with
  | arr items =>
    dsimp only at h
    split_ifs at h
    · cases h
    · refine exists_mapM_ok fun entry hentry => ?_
      obtain ⟨e, -, hvalid⟩ := (mapM_mem h).1 entry.1 (List.fst_mem_of_mem_zipIdx hentry)
      exact exists_readEvent hvalid _
  | _ => cases h

end Events
end CollibraGovernance.Openlineage
