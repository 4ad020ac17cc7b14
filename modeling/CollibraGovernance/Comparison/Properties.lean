import CollibraGovernance.Comparison.Resolved

/-! The comparable properties of an element, and that they tell elements apart. -/
namespace CollibraGovernance.Comparison
open Library Domain Identity

def technicalEntries (attributes : List (String × CanonicalValue)) :
    List (String × ComparablePropertyValue) :=
  attributes.map (fun a => (technicalPointer a.1, ComparablePropertyValue.present a.2))

/-- The properties of an element whose references are identities, short of technical attributes. -/
def baseEntries : Element ComparisonObjectIdentity → List (String × ComparablePropertyValue)
  | .dataSource _ name systemType description ownership _ =>
    [("/name", text name), ("/system_type", text systemType), ("/description", .present description),
      ("/ownership", .present ownership)]
  | .database _ _ name description ownership =>
    [("/name", text name), ("/description", .present description), ("/ownership", .present ownership)]
  | .schema _ _ name description ownership =>
    [("/name", text name), ("/description", .present description), ("/ownership", .present ownership)]
  | .table _ _ name description ownership _ =>
    [("/name", text name), ("/description", .present description), ("/ownership", .present ownership)]
  | .column _ _ name dataType ordinalPosition nullable description _ =>
    [("/name", text name), ("/data_type", text dataType), ("/ordinal_position", .of (.int ordinalPosition)),
      ("/nullable", .of (.bool nullable)), ("/description", .present description)]
  | .primaryKey _ _ name columns =>
    [("/name", text name), ("/column_ids", .of (.arr (columns.map identityRef)))]
  | .foreignKey _ _ name columns table referenced =>
    [("/name", text name), ("/column_ids", .of (.arr (columns.map identityRef))),
      ("/referenced_table_id", .of (identityRef table)),
      ("/referenced_column_ids", .of (.arr (referenced.map identityRef)))]
  | .relationship _ _ table name key description =>
    [("/name", text name), ("/to_table_id", .of (identityRef table)),
      ("/foreign_key_id", .of ((key.map identityRef).getD .null)), ("/description", .present description)]

section Parts
variable {ι : Type}

def elementKind : Element ι → GovernedObjectKind
  | .dataSource .. => .dataSource
  | .database .. => .database
  | .schema .. => .schema
  | .table .. => .table
  | .column .. => .column
  | .primaryKey .. => .primaryKey
  | .foreignKey .. => .foreignKey
  | .relationship .. => .relationship

def elementParent : Element ι → Option ι
  | .dataSource .. => none
  | .database _ parent .. => some parent
  | .schema _ parent .. => some parent
  | .table _ parent .. => some parent
  | .column _ parent .. => some parent
  | .primaryKey _ parent .. => some parent
  | .foreignKey _ parent .. => some parent
  | .relationship _ parent .. => some parent

def elementAttributes : Element ι → List (String × CanonicalValue)
  | .dataSource _ _ _ _ _ attributes => attributes
  | .table _ _ _ _ _ attributes => attributes
  | .column _ _ _ _ _ _ _ attributes => attributes
  | _ => []

end Parts

def comparableEntries (e : Element ComparisonObjectIdentity) : List (String × ComparablePropertyValue) :=
  baseEntries e ++ technicalEntries (elementAttributes e)

def comparableProperties (e : Element ComparisonObjectIdentity) : Dict String ComparablePropertyValue :=
  properties (comparableEntries e)

/-- The properties that every object of a kind has. -/
def basePointers : GovernedObjectKind → List String
  | .dataSource => ["/name", "/system_type", "/description", "/ownership"]
  | .database => ["/name", "/description", "/ownership"]
  | .schema => ["/name", "/description", "/ownership"]
  | .table => ["/name", "/description", "/ownership"]
  | .column => ["/name", "/data_type", "/ordinal_position", "/nullable", "/description"]
  | .primaryKey => ["/name", "/column_ids"]
  | .foreignKey => ["/name", "/column_ids", "/referenced_table_id", "/referenced_column_ids"]
  | .relationship => ["/name", "/to_table_id", "/foreign_key_id", "/description"]

theorem baseEntries_pointers (e : Element ComparisonObjectIdentity) :
    (baseEntries e).map Prod.fst = basePointers (elementKind e) := by
  cases e <;> rfl

lemma basePointers_nodup (kind : GovernedObjectKind) : (basePointers kind).Nodup := by
  cases kind <;> decide

lemma basePointers_segment (kind : GovernedObjectKind) :
    ∀ p ∈ basePointers kind, pointerText [(p.drop 1).toString] = p := by
  cases kind <;> decide

section Values

theorem of_inj {a b : Json} (ha : a.normalize = a) (hb : b.normalize = b)
    (h : ComparablePropertyValue.of a = .of b) : a = b := by
  have hval : a.normalize = b.normalize := congrArg CanonicalValue.val (ComparablePropertyValue.present.inj h)
  rwa [ha, hb] at hval

theorem text_inj {a b : String} (h : text a = text b) : a = b :=
  Json.str.inj (of_inj rfl rfl h)

lemma identityRef_inj : Function.Injective identityRef := fun _ _ => ComparisonObjectIdentity.toDict_inj

lemma normalize_identityRef (i : ComparisonObjectIdentity) : (identityRef i).normalize = identityRef i :=
  i.normalize_toDict

lemma normalize_identityRefs (is : List ComparisonObjectIdentity) :
    (Json.arr (is.map identityRef)).normalize = .arr (is.map identityRef) := by
  simp [normalize_identityRef]

theorem refs_inj {is js : List ComparisonObjectIdentity}
    (h : ComparablePropertyValue.of (.arr (is.map identityRef)) = .of (.arr (js.map identityRef))) :
    is = js := by
  have harr := of_inj (normalize_identityRefs is) (normalize_identityRefs js) h
  exact List.map_injective_iff.mpr identityRef_inj (Json.arr.inj harr)

theorem ref_inj {i j : ComparisonObjectIdentity}
    (h : ComparablePropertyValue.of (identityRef i) = .of (identityRef j)) : i = j :=
  identityRef_inj (of_inj (normalize_identityRef i) (normalize_identityRef j) h)

lemma normalize_optionRef (i : Option ComparisonObjectIdentity) :
    ((i.map identityRef).getD .null).normalize = (i.map identityRef).getD .null := by
  cases i with
  | none => rfl
  | some i => exact normalize_identityRef i

theorem optionRef_inj {i j : Option ComparisonObjectIdentity}
    (h : ComparablePropertyValue.of ((i.map identityRef).getD .null) =
      .of ((j.map identityRef).getD .null)) : i = j := by
  have hvalue := of_inj (normalize_optionRef i) (normalize_optionRef j) h
  cases i with
  | none =>
    cases j with
    | none => rfl
    | some j => cases hvalue
  | some i =>
    cases j with
    | none => cases hvalue
    | some j => exact congrArg some (identityRef_inj hvalue)

end Values

section Technical

theorem technicalPointer_inj : Function.Injective technicalPointer := by
  intro a b h
  have hsegments := pointerText_inj (by simp) (by simp) h
  simpa using hsegments

/-- A pointer of one segment is no technical attribute. -/
lemma technicalPointer_ne {p : String} (h : ∃ segment, pointerText [segment] = p) (key : String) :
    technicalPointer key ≠ p := by
  obtain ⟨segment, rfl⟩ := h
  intro heq
  have hsegments := pointerText_inj (by simp) (by simp) heq
  simp at hsegments

lemma properties_technical (key : String) (attributes : List (String × CanonicalValue)) :
    (properties (technicalEntries attributes)).get? (technicalPointer key) =
      ((Dict.index Prod.fst Prod.snd attributes).get? key).map .present := by
  rw [properties, technicalEntries, Dict.index_map]
  exact Dict.get?_index_of_injective technicalPointer_inj ComparablePropertyValue.present key attributes

lemma properties_technical_none {p : String} (hp : ∀ key, technicalPointer key ≠ p)
    (attributes : List (String × CanonicalValue)) :
    (properties (technicalEntries attributes)).get? p = none := by
  rw [Dict.get?_eq_none, properties, Dict.mem_keys_index]
  rintro ⟨x, hx, hxp⟩
  obtain ⟨a, -, rfl⟩ := List.mem_map.mp hx
  exact hp _ hxp

/-- The technical attributes of the source in the order they are listed, or as a mapping. -/
theorem techProps_same (base : List (String × ComparablePropertyValue))
    (attributes : List (String × Json)) : (techProps base attributes).Same
      (properties (base ++ technicalEntries (attributesOf attributes))) := by
  have hlisted : (properties (attributes.map (fun a =>
      (technicalPointer a.1, ComparablePropertyValue.of a.2)))).Same
        (properties (technicalEntries (attributesOf attributes))) := by
    rw [properties, properties, technicalEntries, Dict.index_map, Dict.index_map]
    have hreindex : (Dict.index (technicalPointer ∘ Prod.fst)
        (ComparablePropertyValue.present ∘ fun a => canonicalizeJsonValue a.2) attributes).Same _ :=
      Dict.index_reindex technicalPointer_inj ComparablePropertyValue.present attributes
    refine hreindex.trans ?_
    refine Dict.same_index_of_perm (sortBy_perm Prod.fst _).symm ?_
    intro a ha b hb hab
    have hkey : a.1 = b.1 := technicalPointer_inj hab
    exact List.inj_on_of_nodup_map (Dict.nodup _) ha hb hkey
  intro k
  rw [techProps, properties, properties, Dict.get?_index_append, Dict.get?_index_append]
  exact congrArg (Option.or · _) (hlisted k)

end Technical

section Lookup
variable {e e' : Element ComparisonObjectIdentity}

lemma technicalPointer_ne_base {kind : GovernedObjectKind} {p : String} (hp : p ∈ basePointers kind)
    (key : String) : technicalPointer key ≠ p :=
  technicalPointer_ne ⟨_, basePointers_segment kind p hp⟩ key

theorem comparableProperties_base {p : String} {v : ComparablePropertyValue}
    (h : (p, v) ∈ baseEntries e) : (comparableProperties e).get? p = some v := by
  have hpointer : p ∈ basePointers (elementKind e) := by
    rw [← baseEntries_pointers]
    exact List.mem_map_of_mem (f := Prod.fst) h
  have hnodup : ((baseEntries e).map Prod.fst).Nodup := by
    rw [baseEntries_pointers]
    exact basePointers_nodup _
  have hnone := properties_technical_none (technicalPointer_ne_base hpointer) (elementAttributes e)
  rw [properties] at hnone
  rw [comparableProperties, comparableEntries, properties, Dict.get?_index_append, hnone, Option.none_or]
  exact Dict.get?_index_of_nodup hnodup h

theorem comparableProperties_technical (e : Element ComparisonObjectIdentity) (key : String) :
    (comparableProperties e).get? (technicalPointer key) =
      ((Dict.index Prod.fst Prod.snd (elementAttributes e)).get? key).map .present := by
  have hnone : (properties (baseEntries e)).get? (technicalPointer key) = none := by
    rw [Dict.get?_eq_none, properties, Dict.mem_keys_index]
    rintro ⟨b, hb, hkey⟩
    have hpointer : technicalPointer key ∈ basePointers (elementKind e) := by
      rw [← baseEntries_pointers, ← hkey]
      exact List.mem_map_of_mem hb
    exact technicalPointer_ne_base hpointer key rfl
  rw [properties] at hnone
  rw [comparableProperties, comparableEntries, properties, Dict.get?_index_append, hnone, Option.or_none]
  exact properties_technical key _

/-- Every property is one of its kind or a technical attribute. -/
theorem mem_comparableProperties {p : String} (h : p ∈ (comparableProperties e).keys) :
    p ∈ basePointers (elementKind e) ∨ ∃ a ∈ elementAttributes e, technicalPointer a.1 = p := by
  rw [comparableProperties, properties, Dict.mem_keys_index] at h
  obtain ⟨x, hx, rfl⟩ := h
  rcases List.mem_append.mp hx with hx | hx
  · rw [← baseEntries_pointers]
    exact Or.inl (List.mem_map_of_mem hx)
  · obtain ⟨a, ha, rfl⟩ := List.mem_map.mp hx
    exact Or.inr ⟨a, ha, rfl⟩

/-- Every property of an element has a value. -/
theorem comparableProperties_present {p : String} {v : ComparablePropertyValue}
    (h : (comparableProperties e).get? p = some v) : ∃ w, v = .present w := by
  obtain ⟨x, hx, -, rfl⟩ := Dict.exists_of_mem_index (Dict.get?_eq_some.mp h)
  rcases List.mem_append.mp hx with hx | hx
  · have hall : ∀ x ∈ baseEntries e, ∃ w, x.2 = ComparablePropertyValue.present w := by
      cases e <;> simp [baseEntries, text, ComparablePropertyValue.of]
    exact hall x hx
  · obtain ⟨a, -, rfl⟩ := List.mem_map.mp hx
    exact ⟨a.2, rfl⟩

/-- Elements of one kind with the same properties list the same base properties. -/
theorem baseEntries_eq_of_same (hkind : elementKind e = elementKind e')
    (hsame : (comparableProperties e).Same (comparableProperties e')) : baseEntries e = baseEntries e' := by
  have hpointers : (baseEntries e).map Prod.fst = (baseEntries e').map Prod.fst := by
    rw [baseEntries_pointers, baseEntries_pointers, hkind]
  have hlength : (baseEntries e).length = (baseEntries e').length := by
    simpa using congrArg List.length hpointers
  refine List.ext_getElem hlength ?_
  intro n hn hn'
  have hfst : (baseEntries e)[n].1 = (baseEntries e')[n].1 := by
    have hget := List.getElem_of_eq hpointers (i := n) (by simpa using hn)
    simpa using hget
  refine Prod.ext hfst ?_
  have hleft : (comparableProperties e).get? (baseEntries e)[n].1 = some (baseEntries e)[n].2 :=
    comparableProperties_base (List.getElem_mem hn)
  have hright : (comparableProperties e').get? (baseEntries e')[n].1 = some (baseEntries e')[n].2 :=
    comparableProperties_base (List.getElem_mem hn')
  rw [hsame, hfst, hright] at hleft
  exact (Option.some.inj hleft).symm

end Lookup

/-- The kind and the container of an element are those of its identity. -/
structure Placed (e : Element ComparisonObjectIdentity) : Prop where
  kind : elementKind e = e.id.kind
  parent : elementParent e = e.id.expectedParent
  attributes_sorted : SortedBy Prod.fst (elementAttributes e)
  attributes_nodup : ((elementAttributes e).map Prod.fst).Nodup

section Distinct

lemma attributesOf_sorted (attributes : List (String × Json)) :
    SortedBy Prod.fst (attributesOf attributes) := sortBy_sorted _ _

lemma attributesOf_nodup (attributes : List (String × Json)) :
    ((attributesOf attributes).map Prod.fst).Nodup :=
  ((sortBy_perm _ _).map Prod.fst).nodup_iff.mpr (Dict.nodup _)

/-- Attributes in key order are determined by what they map to. -/
lemma attributes_eq_of_same {e e' : Element ComparisonObjectIdentity} (he : Placed e) (he' : Placed e')
    (hsame : (comparableProperties e).Same (comparableProperties e')) :
    elementAttributes e = elementAttributes e' := by
  have hindex : (Dict.index Prod.fst Prod.snd (elementAttributes e)).Same
      (Dict.index Prod.fst Prod.snd (elementAttributes e')) := by
    intro key
    have hkey := hsame (technicalPointer key)
    rw [comparableProperties_technical, comparableProperties_technical] at hkey
    exact Option.map_injective (fun _ _ => ComparablePropertyValue.present.inj) hkey
  have hperm : (elementAttributes e).Perm (elementAttributes e') := by
    have hentries := hindex.perm
    rw [Dict.entries_index_of_nodup he.attributes_nodup,
      Dict.entries_index_of_nodup he'.attributes_nodup] at hentries
    simpa using hentries
  refine eq_of_perm_of_sorted hperm he.attributes_sorted he'.attributes_sorted ?_
  intro x hx y hy hxy
  exact List.inj_on_of_nodup_map he.attributes_nodup hx hy hxy

/-- Placed elements with one identity and the same properties are equal. -/
theorem eq_of_same {e e' : Element ComparisonObjectIdentity} (he : Placed e) (he' : Placed e')
    (hid : e.id = e'.id) (hsame : (comparableProperties e).Same (comparableProperties e')) : e = e' := by
  have hkind : elementKind e = elementKind e' := by rw [he.kind, he'.kind, hid]
  have hparent : elementParent e = elementParent e' := by rw [he.parent, he'.parent, hid]
  have hbase := baseEntries_eq_of_same hkind hsame
  have hattributes := attributes_eq_of_same he he' hsame
  cases e with
  | dataSource i n s d o a =>
    cases e' with
    | dataSource i' n' s' d' o' a' =>
      simp only [baseEntries, List.cons.injEq, Prod.mk.injEq, true_and, and_true,
        ComparablePropertyValue.present.injEq] at hbase
      obtain ⟨hname, hsystem, rfl, rfl⟩ := hbase
      cases text_inj hname
      cases text_inj hsystem
      cases hid
      cases hattributes
      rfl
    | _ => cases hkind
  | database i p n d o =>
    cases e' with
    | database i' p' n' d' o' =>
      simp only [baseEntries, List.cons.injEq, Prod.mk.injEq, true_and, and_true,
        ComparablePropertyValue.present.injEq] at hbase
      obtain ⟨hname, rfl, rfl⟩ := hbase
      cases text_inj hname
      cases hid
      cases hparent
      rfl
    | _ => cases hkind
  | schema i p n d o =>
    cases e' with
    | schema i' p' n' d' o' =>
      simp only [baseEntries, List.cons.injEq, Prod.mk.injEq, true_and, and_true,
        ComparablePropertyValue.present.injEq] at hbase
      obtain ⟨hname, rfl, rfl⟩ := hbase
      cases text_inj hname
      cases hid
      cases hparent
      rfl
    | _ => cases hkind
  | table i p n d o a =>
    cases e' with
    | table i' p' n' d' o' a' =>
      simp only [baseEntries, List.cons.injEq, Prod.mk.injEq, true_and, and_true,
        ComparablePropertyValue.present.injEq] at hbase
      obtain ⟨hname, rfl, rfl⟩ := hbase
      cases text_inj hname
      cases hid
      cases hparent
      cases hattributes
      rfl
    | _ => cases hkind
  | column i p n t k z d a =>
    cases e' with
    | column i' p' n' t' k' z' d' a' =>
      simp only [baseEntries, List.cons.injEq, Prod.mk.injEq, true_and, and_true,
        ComparablePropertyValue.present.injEq] at hbase
      obtain ⟨hname, htype, hordinal, hnullable, rfl⟩ := hbase
      cases text_inj hname
      cases text_inj htype
      cases of_inj rfl rfl hordinal
      cases of_inj rfl rfl hnullable
      cases hid
      cases hparent
      cases hattributes
      rfl
    | _ => cases hkind
  | primaryKey i p n cs =>
    cases e' with
    | primaryKey i' p' n' cs' =>
      simp only [baseEntries, List.cons.injEq, Prod.mk.injEq, true_and, and_true] at hbase
      cases text_inj hbase.1
      cases refs_inj hbase.2
      cases hid
      cases hparent
      rfl
    | _ => cases hkind
  | foreignKey i p n cs r rs =>
    cases e' with
    | foreignKey i' p' n' cs' r' rs' =>
      simp only [baseEntries, List.cons.injEq, Prod.mk.injEq, true_and, and_true] at hbase
      obtain ⟨hname, hcolumns, htable, hreferenced⟩ := hbase
      cases text_inj hname
      cases refs_inj hcolumns
      cases ref_inj htable
      cases refs_inj hreferenced
      cases hid
      cases hparent
      rfl
    | _ => cases hkind
  | relationship i s t n k d =>
    cases e' with
    | relationship i' s' t' n' k' d' =>
      simp only [baseEntries, List.cons.injEq, Prod.mk.injEq, true_and, and_true,
        ComparablePropertyValue.present.injEq] at hbase
      obtain ⟨hname, htable, hkey, rfl⟩ := hbase
      cases text_inj hname
      cases ref_inj htable
      cases optionRef_inj hkey
      cases hid
      cases hparent
      rfl
    | _ => cases hkind

end Distinct
end CollibraGovernance.Comparison
