import CollibraGovernance.Comparison.CompatibleSpec
import CollibraGovernance.Comparison.Inverse

/-! Every change that a comparison lists is proper, and the list fits together. -/
namespace CollibraGovernance.Comparison
open Library Domain Identity Snapshots

/-- One object change on its own. -/
structure ProperChange (o : ObjectChange) : Prop where
  parent : o.parentIdentity = o.objectIdentity.expectedParent
  empty : o.change ≠ .changed → o.propertyChanges = []
  nonempty : o.change = .changed → o.propertyChanges ≠ []
  sorted : SortedBy id (o.propertyChanges.map PropertyChange.property)
  nodup : (o.propertyChanges.map PropertyChange.property).Nodup
  pointers : ∀ c ∈ o.propertyChanges, ∃ segments, segments ≠ [] ∧ pointerText segments = c.property
  compatible : ∀ c ∈ o.propertyChanges,
    comparisonChangePropertyCompatibleWithKind o.objectIdentity.kind c.property = true
  values : ∀ c ∈ o.propertyChanges,
    comparableChangeValueCompatible o.objectIdentity c.property c.baseline.toDict = true ∧
      comparableChangeValueCompatible o.objectIdentity c.property c.candidate.toDict = true
  different : ∀ c ∈ o.propertyChanges, c.baseline ≠ c.candidate
  coherent : o.objectIdentity.kind = .foreignKey →
    foreignKeyReferenceSidesCoherent (o.propertyChanges.map PropertyChange.toDict) = true

section Element
variable {e e' : Element ComparisonObjectIdentity}

def elementName : Element ComparisonObjectIdentity → String
  | .dataSource _ name .. => name
  | .database _ _ name .. => name
  | .schema _ _ name .. => name
  | .table _ _ name .. => name
  | .column _ _ name .. => name
  | .primaryKey _ _ name _ => name
  | .foreignKey _ _ name .. => name
  | .relationship _ _ _ name .. => name

lemma name_mem_baseEntries (e : Element ComparisonObjectIdentity) :
    ("/name", text (elementName e)) ∈ baseEntries e := by
  cases e <;> simp [baseEntries, elementName]

lemma valueOf_name (e : Element ComparisonObjectIdentity) :
    valueOf (comparableProperties e) "/name" = text (elementName e) := by
  rw [valueOf, comparableProperties_base (name_mem_baseEntries e), Option.getD_some]

lemma WellFormed.named (hwell : WellFormed e) (hkind : nameAllowedKind (elementKind e) = false) :
    Named e.id (elementName e) := by
  cases e with
  | dataSource => cases hkind
  | database => cases hkind
  | _ => exact hwell.1

lemma name_eq (hplaced : Placed e) (hplaced' : Placed e') (hwell : WellFormed e) (hwell' : WellFormed e')
    (hid : e.id = e'.id) (hkind : nameAllowedKind e.id.kind = false) : elementName e = elementName e' := by
  have hnamed := hwell.named (hplaced.kind ▸ hkind)
  have hnamed' := hwell'.named (hplaced'.kind ▸ hid ▸ hkind)
  rw [Named, hid] at hnamed
  exact Option.some.inj (hnamed.symm.trans hnamed')

/-- A property that differs is one of the kind, or a technical attribute of it. -/
lemma pointer_of_differs (hplaced : Placed e) (hplaced' : Placed e') (hid : e.id = e'.id) {p : String}
    (hne : valueOf (comparableProperties e) p ≠ valueOf (comparableProperties e') p) :
    p ∈ basePointers e.id.kind ∨
      (∃ key, technicalPointer key = p) ∧ technicalAttributesKind e.id.kind = true := by
  have hkeys : ∀ e : Element ComparisonObjectIdentity, Placed e → p ∈ (comparableProperties e).keys →
      p ∈ basePointers e.id.kind ∨
        (∃ key, technicalPointer key = p) ∧ technicalAttributesKind e.id.kind = true := by
    intro e hplaced hp
    rcases mem_comparableProperties hp with hp | ⟨a, ha, hpointer⟩
    · exact Or.inl (hplaced.kind ▸ hp)
    · refine Or.inr ⟨⟨a.1, hpointer⟩, ?_⟩
      rw [← hplaced.kind]
      cases e with
      | dataSource => rfl
      | table => rfl
      | column => rfl
      | _ => cases ha
  by_cases hleft : p ∈ (comparableProperties e).keys
  · exact hkeys e hplaced hleft
  · by_cases hright : p ∈ (comparableProperties e').keys
    · exact hid ▸ hkeys e' hplaced' hright
    · exact absurd (by rw [valueOf_of_notMem hleft, valueOf_of_notMem hright]) hne

lemma basePointers_eq_fixedPaths (kind : GovernedObjectKind) : basePointers kind = fixedPaths kind := by
  cases kind <;> rfl

lemma technicalPointer_eq (key : String) : technicalPointer key =
    "/technical_attributes/" ++ String.ofList (escapeSegment key.toList) := by
  have hfirst : String.ofList (escapeSegment "technical_attributes".toList) = "technical_attributes" := by
    decide
  rw [technicalPointer, pointerText, List.map_cons, List.map_cons, List.map_nil, hfirst]
  simp only [String.intercalate_cons_cons, String.intercalate_singleton]
  rw [← String.append_assoc, ← String.append_assoc]
  rfl

lemma isTechnical_technicalPointer (key : String) :
    isTechnicalAttributePointer (technicalPointer key) = true := by
  rw [isTechnicalAttributePointer, technicalPointer_eq, String.toList_append, List.isPrefixOf_iff_prefix]
  exact List.prefix_append _ _

/-- A technical attribute may change in every kind that has them. -/
lemma technical_compatible {kind : GovernedObjectKind} (hkind : technicalAttributesKind kind = true)
    (key : String) : comparisonChangePropertyCompatibleWithKind kind (technicalPointer key) = true := by
  have hne : ∀ p ∈ basePointers kind, technicalPointer key ≠ p :=
    fun p hp => technicalPointer_ne_base hp key
  have hsystem : technicalPointer key ≠ "/system_type" :=
    technicalPointer_ne ⟨"system_type", by decide⟩ key
  have hname : technicalPointer key ≠ "/name" := technicalPointer_ne ⟨"name", by decide⟩ key
  have hparse : parsePointer (technicalPointer key) = .ok ["technical_attributes", key] :=
    parsePointer_pointerText (by simp)
  simp [comparisonChangePropertyCompatibleWithKind, hsystem, hname, propertyPathCompatibleWithKind,
    isTechnical_technicalPointer, hkind, hparse]

/-- Between elements with one identity, and one system type, only compatible properties differ. -/
theorem differs_compatible (hplaced : Placed e) (hplaced' : Placed e') (hwell : WellFormed e)
    (hwell' : WellFormed e') (hid : e.id = e'.id) {p : String}
    (hsystem : e.id.kind = .dataSource → valueOf (comparableProperties e) "/system_type" =
      valueOf (comparableProperties e') "/system_type")
    (hne : valueOf (comparableProperties e) p ≠ valueOf (comparableProperties e') p) :
    comparisonChangePropertyCompatibleWithKind e.id.kind p = true ∧
      (p ∈ basePointers e.id.kind ∨ isTechnicalAttributePointer p = true) := by
  rcases pointer_of_differs hplaced hplaced' hid hne with hp | ⟨⟨key, rfl⟩, hkind⟩
  · refine ⟨?_, Or.inl hp⟩
    have hnotSystem : ¬ (e.id.kind = .dataSource ∧ p = "/system_type") := by
      rintro ⟨hkind, rfl⟩
      exact hne (hsystem hkind)
    have hnotName : ¬ (p = "/name" ∧ nameAllowedKind e.id.kind = false) := by
      rintro ⟨rfl, hkind⟩
      rw [valueOf_name, valueOf_name, name_eq hplaced hplaced' hwell hwell' hid hkind] at hne
      exact hne rfl
    rw [comparisonChangePropertyCompatibleWithKind, if_neg hnotSystem, if_neg hnotName,
      propertyPathCompatibleWithKind, basePointers_not_technical _ _ hp, if_neg (by decide),
      ← basePointers_eq_fixedPaths]
    exact List.contains_iff_mem.mpr hp
  · exact ⟨technical_compatible hkind key, Or.inr (isTechnical_technicalPointer key)⟩

lemma pointer_segments {kind : GovernedObjectKind} {p : String}
    (h : p ∈ basePointers kind ∨ ∃ key, technicalPointer key = p) :
    ∃ segments, segments ≠ [] ∧ pointerText segments = p := by
  rcases h with hp | ⟨key, rfl⟩
  · exact ⟨_, List.cons_ne_nil _ _, basePointers_segment kind p hp⟩
  · exact ⟨_, List.cons_ne_nil _ _, rfl⟩

end Element

section ForeignKeys
variable {e e' : Element ComparisonObjectIdentity}

lemma changeOf_toDict {changes : List PropertyChange} {p : String} {c : Json}
    (h : changeOf (changes.map PropertyChange.toDict) p = some c) :
    ∃ change ∈ changes, change.toDict = c ∧ change.property = p := by
  have hproperty := List.find?_some h
  obtain ⟨change, hmem, rfl⟩ := List.mem_map.mp (List.mem_of_find?_eq_some h)
  refine ⟨change, hmem, rfl, ?_⟩
  simpa [PropertyChange.toDict, membersOf, Json.get, Json.lookup] using hproperty

/-- The references of a foreign key fit together. -/
lemma referenceSideCoherent_of (hplaced : Placed e) (hwell : WellFormed e) (hkind : e.id.kind = .foreignKey) :
    referenceSideCoherent (valueOf (comparableProperties e) "/referenced_table_id").toDict
      (valueOf (comparableProperties e) "/referenced_column_ids").toDict = true := by
  have hkind' : elementKind e = .foreignKey := hplaced.kind.trans hkind
  cases e with
  | foreignKey i table n columns referencedTable referencedColumns =>
    obtain ⟨-, -, hreferenced, -, hcolumns⟩ := hwell
    have htable := comparableProperties_base
      (e := .foreignKey i table n columns referencedTable referencedColumns) (p := "/referenced_table_id")
      (v := .of (identityRef referencedTable)) (by simp [baseEntries])
    have hlist := comparableProperties_base
      (e := .foreignKey i table n columns referencedTable referencedColumns) (p := "/referenced_column_ids")
      (v := .of (.arr (referencedColumns.map identityRef))) (by simp [baseEntries])
    rw [valueOf, valueOf, htable, hlist, Option.getD_some, Option.getD_some]
    have hparse : parseIdentityDict (identityRef referencedTable) = some referencedTable :=
      parseIdentityDict_toDict _
    have hcolumn : ∀ c ∈ referencedColumns, (parseIdentityDict (identityRef c)).any
        (fun c => c.path.take 2 = referencedTable.path) = true := by
      intro c hc
      rw [identityRef, parseIdentityDict_toDict]
      exact decide_eq_true (take_path_of_parent hreferenced (hcolumns c hc).2)
    have hall : (referencedColumns.map identityRef).all (fun item =>
        (parseIdentityDict item).any (fun c => c.path.take 2 = referencedTable.path)) = true := by
      rw [List.all_map, List.all_eq_true]
      exact hcolumn
    simp only [ComparablePropertyValue.of, canonicalizeJsonValue, ComparablePropertyValue.toDict,
      referenceSideCoherent, normalize_identityRef, normalize_identityRefs]
    simp [Json.get, Json.lookup, Json.truthy, hparse, -List.all_map, hall]
  | _ => cases hkind'

/-- The changes of a foreign key keep its references together on both sides. -/
lemma foreignKeyReferenceSidesCoherent_of (hplaced : Placed e) (hplaced' : Placed e') (hwell : WellFormed e)
    (hwell' : WellFormed e') (hid : e.id = e'.id) (hkind : e.id.kind = .foreignKey) :
    foreignKeyReferenceSidesCoherent ((diffProperties (comparableProperties e)
      (comparableProperties e')).map PropertyChange.toDict) = true := by
  rw [foreignKeyReferenceSidesCoherent]
  split
  · rename_i tableChange columnChange htable hcolumn
    obtain ⟨t, ht, rfl, htp⟩ := changeOf_toDict htable
    obtain ⟨c, hc, rfl, hcp⟩ := changeOf_toDict hcolumn
    obtain ⟨htl, htr, -⟩ := mem_diffProperties.mp ht
    obtain ⟨hcl, hcr, -⟩ := mem_diffProperties.mp hc
    rw [htp] at htl htr
    rw [hcp] at hcl hcr
    have hbaseline : ∀ x : PropertyChange, Json.get (membersOf x.toDict) "baseline" = x.baseline.toDict := by
      intro x
      simp [PropertyChange.toDict, membersOf, Json.get]
    have hcandidate : ∀ x : PropertyChange, Json.get (membersOf x.toDict) "candidate" = x.candidate.toDict := by
      intro x
      simp [PropertyChange.toDict, membersOf, Json.get, Json.lookup]
    simp only [List.all_cons, List.all_nil, hbaseline, hcandidate, Bool.and_true, Bool.and_eq_true, htl, htr,
      hcl, hcr]
    exact ⟨referenceSideCoherent_of hplaced hwell hkind,
      referenceSideCoherent_of hplaced' hwell' (hid ▸ hkind)⟩
  · rfl

end ForeignKeys

section Diff
variable {a b : GovernanceSnapshot} {baseline candidate : ObjectMap}
  {es es' : List (Element ComparisonObjectIdentity)}

lemma parentIdentity_of (h : Represents baseline es) {i : ComparisonObjectIdentity} {o : ComparableObject}
    (ho : baseline.get? i = some o) : o.parentIdentity = i.expectedParent := by
  obtain ⟨e, he, rfl⟩ := h.mem_keys.mp (Dict.mem_keys_iff.mpr ⟨o, ho⟩)
  obtain ⟨o', ho', -, hparent, -⟩ := h.shows e he
  rw [ho] at ho'
  cases ho'
  exact hparent

lemma properties_of (h : Represents baseline es) {i : ComparisonObjectIdentity} {o : ComparableObject}
    (ho : baseline.get? i = some o) : ∃ e ∈ es, e.id = i ∧ o.properties.Same (comparableProperties e) := by
  obtain ⟨e, he, rfl⟩ := h.mem_keys.mp (Dict.mem_keys_iff.mpr ⟨o, ho⟩)
  obtain ⟨o', ho', -, -, hproperties⟩ := h.shows e he
  rw [ho] at ho'
  cases ho'
  exact ⟨e, he, rfl, hproperties⟩

/-- The data source is the only element of its kind. -/
lemma systemType_of (h : Represents baseline es) (hc : Coherent a es) {e : Element ComparisonObjectIdentity}
    (he : e ∈ es) (hkind : e.id.kind = .dataSource) :
    valueOf (comparableProperties e) "/system_type" = text a.systemType := by
  obtain ⟨description, ownership, attributes, hsource⟩ := hc.dataSource
  have hid : e.id = .dataSource := by
    cases hi : e.id <;> rw [hi] at hkind <;> first | rfl | cases hkind
  have hsame := List.inj_on_of_nodup_map h.ids_nodup he hsource hid
  subst hsame
  have hget := comparableProperties_base
    (e := .dataSource .dataSource a.sourceName a.systemType description ownership attributes)
    (p := "/system_type") (v := text a.systemType) (by simp [baseEntries])
  rw [valueOf, hget, Option.getD_some]

lemma properChange_lacking {o : ObjectChange} {change : ChangeKind} (hchange : change ≠ .changed)
    {here there : ObjectMap} {fs : List (Element ComparisonObjectIdentity)} (h : Represents here fs)
    (ho : o ∈ lackingChanges change here there) : ProperChange o := by
  obtain ⟨-, object, hobject, heq⟩ := mem_lackingChanges.mp ho
  have hparent := parentIdentity_of h hobject
  have hempty : o.propertyChanges = [] := by rw [heq]
  have hkind : o.change = change := by rw [heq]
  constructor
  · rw [heq]
    exact hparent
  · exact fun _ => hempty
  · intro hchanged
    exact absurd (hkind.symm.trans hchanged) hchange
  all_goals simp [hempty, SortedBy, foreignKeyReferenceSidesCoherent, changeOf]

variable (hl : Represents baseline es) (hr : Represents candidate es') (cl : Coherent a es)
  (cr : Coherent b es') (hsystem : a.systemType = b.systemType)
include hl hr cl cr hsystem

/-- Every change is proper. -/
theorem properChange_of_mem {o : ObjectChange} (ho : o ∈ unsortedChanges baseline candidate) :
    ProperChange o := by
  rcases List.mem_append.mp ho with ho | ho
  · rcases List.mem_append.mp ho with ho | ho
    · exact properChange_lacking (by decide) hr ho
    · exact properChange_lacking (by decide) hl ho
  obtain ⟨ho, hne⟩ := List.mem_filter.mp ho
  obtain ⟨left, right, hleft, hright, heq⟩ := mem_matchedChanges.mp ho
  obtain ⟨e, he, hid, hsame⟩ := properties_of hl hleft
  obtain ⟨e', he', hid', hsame'⟩ := properties_of hr hright
  have hids : e.id = e'.id := hid.trans hid'.symm
  have hplaced := hl.placed e he
  have hplaced' := hr.placed e' he'
  have hwell := cl.wellFormed e he
  have hwell' := cr.wellFormed e' he'
  have hchanges : o.propertyChanges = diffProperties (comparableProperties e) (comparableProperties e') := by
    rw [heq]
    exact diffProperties_congr hsame hsame'
  have hsystemType : e.id.kind = .dataSource → valueOf (comparableProperties e) "/system_type" =
      valueOf (comparableProperties e') "/system_type" := by
    intro hkind
    rw [systemType_of hl cl he hkind, systemType_of hr cr he' (hids ▸ hkind), hsystem]
  have hdiffers : ∀ c ∈ o.propertyChanges, c.baseline = valueOf (comparableProperties e) c.property ∧
      c.candidate = valueOf (comparableProperties e') c.property ∧ c.baseline ≠ c.candidate := by
    intro c hc
    rw [hchanges] at hc
    exact mem_diffProperties.mp hc
  have hvalues : ∀ c ∈ o.propertyChanges, valueOf (comparableProperties e) c.property ≠
      valueOf (comparableProperties e') c.property := by
    intro c hc
    obtain ⟨hb, hc', hne⟩ := hdiffers c hc
    rwa [hb, hc'] at hne
  have hcompatible : ∀ c ∈ o.propertyChanges,
      comparisonChangePropertyCompatibleWithKind e.id.kind c.property = true ∧
        (c.property ∈ basePointers e.id.kind ∨ isTechnicalAttributePointer c.property = true) :=
    fun c hc => differs_compatible hplaced hplaced' hwell hwell' hids hsystemType (hvalues c hc)
  constructor
  · rw [heq]
    exact parentIdentity_of hl hleft
  · intro hchange
    rw [heq] at hchange
    exact absurd rfl hchange
  · intro _
    exact of_decide_eq_true hne
  · rw [hchanges]
    exact diffProperties_sorted
  · rw [hchanges]
    exact diffProperties_nodup
  · intro c hc
    exact pointer_segments ((pointer_of_differs hplaced hplaced' hids (hvalues c hc)).imp_right And.left)
  · intro c hc
    rw [← hid]
    exact (hcompatible c hc).1
  · intro c hc
    obtain ⟨hb, hc', -⟩ := hdiffers c hc
    obtain ⟨hpath, hpointer⟩ := hcompatible c hc
    rw [hb, hc']
    refine ⟨hid ▸ value_compatible hplaced hwell hpath hpointer, hid' ▸ ?_⟩
    rw [hids] at hpath hpointer
    exact value_compatible hplaced' hwell' hpath hpointer
  · intro c hc
    exact (hdiffers c hc).2.2
  · intro hkind
    rw [hchanges]
    exact foreignKeyReferenceSidesCoherent_of hplaced hplaced' hwell hwell' hids (hid ▸ hkind)

omit hl hr cl cr hsystem

/-- The ancestors of an element are elements. -/
lemma ancestors_mem {is : List ComparisonObjectIdentity}
    (hparents : ∀ i ∈ is, ∀ parent, i.expectedParent = some parent → parent ∈ is)
    {i : ComparisonObjectIdentity} (hi : i ∈ is) : ∀ x ∈ i.ancestors, x ∈ is := by
  have hdatabase : .database ∈ is → .dataSource ∈ is := fun h => hparents _ h _ rfl
  have hschema : ∀ s, .schema s ∈ is → .database ∈ is := fun s h => hparents _ h _ rfl
  have htable : ∀ s t, .table s t ∈ is → .schema s ∈ is := fun s t h => hparents _ h _ rfl
  have hbelow : ∀ s t, .table s t ∈ is → ∀ x ∈ [ComparisonObjectIdentity.table s t, .schema s, .database,
      .dataSource], x ∈ is := by
    intro s t h
    have hs := htable s t h
    have hd := hschema s hs
    simp [h, hs, hd, hdatabase hd]
  cases i with
  | dataSource => exact fun x hx => absurd hx List.not_mem_nil
  | database => simpa [ComparisonObjectIdentity.ancestors] using hdatabase hi
  | schema s =>
    have hd := hschema s hi
    simp [ComparisonObjectIdentity.ancestors, hd, hdatabase hd]
  | table s t => exact fun x hx => hbelow s t hi x (List.mem_cons_of_mem _ hx)
  | column s t c => exact hbelow s t (hparents _ hi _ rfl)
  | primaryKey s t k => exact hbelow s t (hparents _ hi _ rfl)
  | foreignKey s t k => exact hbelow s t (hparents _ hi _ rfl)
  | relationship s t r => exact hbelow s t (hparents _ hi _ rfl)

lemma keys_parents (h : Represents baseline es) (hc : Coherent a es) : ∀ i ∈ baseline.keys, ∀ parent,
    i.expectedParent = some parent → parent ∈ baseline.keys := by
  intro i hi parent hparent
  obtain ⟨e, he, rfl⟩ := h.mem_keys.mp hi
  rw [h.keys]
  exact hc.parents e he parent hparent

/-- Which sides an object of a change is on. -/
lemma sides_of_mem {o : ObjectChange} (ho : o ∈ unsortedChanges baseline candidate) :
    (o.change ≠ .added ↔ o.objectIdentity ∈ baseline.keys) ∧
      (o.change ≠ .removed ↔ o.objectIdentity ∈ candidate.keys) := by
  rcases List.mem_append.mp ho with ho | ho
  · rcases List.mem_append.mp ho with ho | ho
    · obtain ⟨hnot, x, hx, heq⟩ := mem_lackingChanges.mp ho
      have hchange : o.change = .added := by rw [heq]
      have hkey := Dict.mem_keys_iff.mpr ⟨x, hx⟩
      simp [hchange, hnot, hkey]
    · obtain ⟨hnot, x, hx, heq⟩ := mem_lackingChanges.mp ho
      have hchange : o.change = .removed := by rw [heq]
      have hkey := Dict.mem_keys_iff.mpr ⟨x, hx⟩
      simp [hchange, hnot, hkey]
  · obtain ⟨left, right, hleft, hright, heq⟩ := mem_matchedChanges.mp (List.mem_filter.mp ho).1
    have hchange : o.change = .changed := by rw [heq]
    have hkey := Dict.mem_keys_iff.mpr ⟨left, hleft⟩
    have hkey' := Dict.mem_keys_iff.mpr ⟨right, hright⟩
    simp [hchange, hkey, hkey']

include hl hr cl cr

/-- What is added or removed goes with everything in it. -/
theorem hierarchy_consistent {o o' : ObjectChange} (ho : o ∈ unsortedChanges baseline candidate)
    (ho' : o' ∈ unsortedChanges baseline candidate) (hancestor : o'.objectIdentity ∈ o.objectIdentity.ancestors)
    (hchange : o'.change ≠ .changed) : o.change = o'.change := by
  obtain ⟨hb, hc⟩ := sides_of_mem ho
  obtain ⟨hb', hc'⟩ := sides_of_mem ho'
  have hbaseline : o.objectIdentity ∈ baseline.keys → o'.objectIdentity ∈ baseline.keys :=
    fun h => ancestors_mem (keys_parents hl cl) h _ hancestor
  have hcandidate : o.objectIdentity ∈ candidate.keys → o'.objectIdentity ∈ candidate.keys :=
    fun h => ancestors_mem (keys_parents hr cr) h _ hancestor
  rw [← hb, ← hb'] at hbaseline
  rw [← hc, ← hc'] at hcandidate
  cases hk : o.change <;> cases hk' : o'.change <;> simp_all

/-- The roots are on both sides. -/
theorem roots_changed {o : ObjectChange} (ho : o ∈ unsortedChanges baseline candidate)
    (hroot : o.objectIdentity = .dataSource ∨ o.objectIdentity = .database) : o.change = .changed := by
  obtain ⟨hb, hc⟩ := sides_of_mem ho
  have hmem : ∀ {objects : ObjectMap} {fs : List (Element ComparisonObjectIdentity)} {s : GovernanceSnapshot},
      Represents objects fs → Coherent s fs → o.objectIdentity ∈ objects.keys := by
    intro objects fs s h hcoherent
    obtain ⟨_, _, _, hsource⟩ := hcoherent.dataSource
    obtain ⟨_, _, hdatabase⟩ := hcoherent.database
    rcases hroot with hroot | hroot
    · exact hroot ▸ h.mem_keys.mpr ⟨_, hsource, rfl⟩
    · exact hroot ▸ h.mem_keys.mpr ⟨_, hdatabase, rfl⟩
  have hleft := hb.mpr (hmem hl cl)
  have hright := hc.mpr (hmem hr cr)
  cases hk : o.change <;> simp_all

end Diff
end CollibraGovernance.Comparison
