import CollibraGovernance.Comparison.MemberOrder
import CollibraGovernance.Snapshots.WriteLoad

/-! What is read of a snapshot document, and in which order its lists have to stand to be written as they were. -/
namespace CollibraGovernance.Snapshots
open Library Domain Identity Comparison

/-! Members of a raw record. -/

def rawMember (raw : Json) (key : String) : Json := Json.get (membersOf raw) key

def rawText (key : String) (raw : Json) : String :=
  match rawMember raw key with
  | .str text => text
  | _ => ""

def rawInt (key : String) (raw : Json) : Int :=
  match rawMember raw key with
  | .int i => i
  | _ => 0

def rawList (key : String) (raw : Json) : List Json :=
  match rawMember raw key with
  | .arr items => items
  | _ => []

/-- Columns are listed by position, then by id. -/
def rawColumnKey (raw : Json) : Int ×ₗ String := toLex (rawInt "ordinal_position" raw, rawText "id" raw)

section Raw
variable {raw : Json} {mapping : List (String × Json)} {key : String}

lemma rawMember_normalize : rawMember raw.normalize key = (rawMember raw key).normalize := get_normalize raw key

lemma rawText_normalize : rawText key raw.normalize = rawText key raw := by
  rw [rawText, rawText, rawMember_normalize]
  cases rawMember raw key with
  | arr items => rw [Json.normalize_arr]
  | obj members => rw [Json.normalize_obj]
  | _ => rfl

lemma rawInt_normalize : rawInt key raw.normalize = rawInt key raw := by
  rw [rawInt, rawInt, rawMember_normalize]
  cases rawMember raw key with
  | arr items => rw [Json.normalize_arr]
  | obj members => rw [Json.normalize_obj]
  | _ => rfl

lemma rawColumnKey_normalize : rawColumnKey raw.normalize = rawColumnKey raw := by
  rw [rawColumnKey, rawColumnKey, rawInt_normalize, rawText_normalize]

lemma rawText_of {text : String} (h : Json.get mapping key = .str text) : rawText key (.obj mapping) = text := by
  rw [rawText, show rawMember (.obj mapping) key = .str text from h]

lemma rawList_of {items : List Json} (h : Json.get mapping key = .arr items) : rawList key (.obj mapping) = items := by
  rw [rawList, show rawMember (.obj mapping) key = .arr items from h]

end Raw

section Order
variable {α κ : Type} [LinearOrder κ] {rawKey : Json → κ} {key : α → κ} {toDict : α → Json} {raws : List Json}
  {xs : List α}

/-- Reading a list sorts it: it is written as it was exactly when it was sorted and each entry is written as it was. -/
theorem listed_iff (hraw : ∀ j : Json, rawKey j.normalize = rawKey j) (hdict : ∀ x, rawKey (toDict x) = key x)
    (h : List.Forall₂ (fun raw x => rawKey raw = key x) raws xs) :
    (Json.arr raws).normalize = (Json.arr ((sortBy key xs).map toDict)).normalize ↔
      SortedBy rawKey raws ∧ List.Forall₂ (fun raw x => raw.normalize = (toDict x).normalize) raws xs := by
  have hkeys : raws.map rawKey = xs.map key := by
    rw [← List.forall₂_eq_eq_eq, List.forall₂_map_left_iff, List.forall₂_map_right_iff]
    exact h
  have hsorted : SortedBy rawKey raws ↔ SortedBy key xs := by
    have hid : ∀ {β : Type} {k : β → κ} {bs : List β}, SortedBy id (bs.map k) ↔ SortedBy k bs := by
      intro β k bs
      rw [SortedBy, SortedBy, List.pairwise_map]
      rfl
    rw [← hid, hkeys, hid]
  have hpairs : (Json.arr raws).normalize = (Json.arr (xs.map toDict)).normalize ↔
      List.Forall₂ (fun raw x => raw.normalize = (toDict x).normalize) raws xs := by
    rw [Json.normalize_arr, Json.normalize_arr, Json.arr.injEq, List.map_map, ← List.forall₂_eq_eq_eq,
      List.forall₂_map_left_iff, List.forall₂_map_right_iff]
    rfl
  rw [← hpairs, hsorted]
  constructor
  · intro heq
    have harranged : xs.map key = (sortBy key xs).map key := by
      have hmap := congrArg (List.map rawKey) (Json.arr.inj (by simpa only [Json.normalize_arr] using heq))
      simp only [List.map_map] at hmap
      have hleft : raws.map (rawKey ∘ Json.normalize) = raws.map rawKey := List.map_congr_left fun j _ => hraw j
      have hright : (sortBy key xs).map (rawKey ∘ Json.normalize ∘ toDict) = (sortBy key xs).map key :=
        List.map_congr_left fun x _ => (hraw _).trans (hdict x)
      rw [← hkeys, ← hleft, hmap]
      exact hright
    have hsortedKeys : SortedBy key xs := by
      have hsorted := sortBy_sorted key xs
      rw [SortedBy, ← List.pairwise_map] at hsorted ⊢
      rw [harranged]
      exact hsorted
    rw [sortBy_eq_self hsortedKeys] at heq
    exact ⟨hsortedKeys, heq⟩
  · rintro ⟨hsortedKeys, heq⟩
    rw [sortBy_eq_self hsortedKeys]
    exact heq

end Order

section Leaves
/-! Records without lists of records are written as they were. -/
variable {raw : Json} {path : String} {seen seen' : List String}

lemma text_inv {mapping : List (String × Json)} {key text path : String} (h : textField mapping key path = .ok text) :
    Json.get mapping key = .str text := (textField_ok.mp h).1

lemma registered_inv {id path : String} (hseen : seen.Nodup) (h : registerId seen id path = .ok seen') :
    seen' = seen ++ [id] ∧ seen'.Nodup := by
  obtain ⟨hnew, rfl⟩ := registerId_ok.mp h
  refine ⟨rfl, List.nodup_append.mpr ⟨hseen, List.nodup_singleton id, ?_⟩⟩
  intro a ha b hb
  rw [List.mem_singleton.mp hb]
  exact fun heq => hnew (heq ▸ ha)

lemma ownership_inv {ownership : Option Ownership} (hunique : raw.uniqueKeys = true)
    (haccepts : nullableOwnershipSchema raw = true) (h : ownershipFromDict raw path = .ok ownership) :
    raw.normalize = (ownershipToDict ownership).normalize := by
  cases raw with
  | null =>
    cases h
    rfl
  | obj mapping =>
    have howner : ownershipSchema (.obj mapping) = true := by
      rw [nullableOwnershipSchema, JsonSchema.oneOf_pair] at haccepts
      obtain ⟨hnull, -⟩ | ⟨-, haccepts⟩ := haccepts
      · simp [JsonSchema.isNull, JsonSchema.constant] at hnull
      · exact haccepts
    rw [ownershipFromDict] at h
    · obtain ⟨_, hmapping, h⟩ := bind_eq_ok.mp h
      cases requireMapping_ok.mp hmapping
      obtain ⟨name, hname, h⟩ := bind_eq_ok.mp h
      obtain ⟨type, htype, h⟩ := bind_eq_ok.mp h
      obtain ⟨o, ho, h⟩ := bind_eq_ok.mp h
      cases pure_eq_ok.mp h
      obtain ⟨rfl, rfl⟩ := Ownership.create_ok (raised_ok.mp ho)
      obtain ⟨v, hv, -⟩ := JsonSchema.lookup_of_object howner (by decide)
        (p := ⟨"owner_type", true, nonEmptyText⟩) (by simp) rfl
      have htext : Json.get mapping "owner_type" = .str o.ownerType := by
        rw [Json.get_of_lookup hv]
        rw [getOr, hv] at htype
        exact (requireText_ok.mp htype).1
      rw [ownershipToDict, Ownership.toDict,
        JsonSchema.normalize_eq_iff howner ((Json.uniqueKeys_obj mapping).mp hunique).1 (by simp) (.refl _) (by simp)]
      simp [text_inv hname, htext]
    · intro heq
      cases heq
  | _ => cases h

/-- Technical attributes are required, so that no default is taken. -/
lemma attributes_inv {properties : List JsonSchema.Property} {mapping attributes : List (String × Json)}
    (haccepts : JsonSchema.object properties (.obj mapping) = true) (hnames : (properties.map JsonSchema.Property.name).Nodup)
    (hmem : ⟨"technical_attributes", true, technicalAttributesSchema⟩ ∈ properties)
    (h : technicalAttributesFromDict mapping path = .ok attributes) :
    (Json.get mapping "technical_attributes").normalize = (Json.obj (sortBy Prod.fst attributes)).normalize := by
  obtain ⟨v, hv, -⟩ := JsonSchema.lookup_of_object haccepts hnames hmem rfl
  rw [technicalAttributes_ok, getOr, hv, Option.getD_some] at h
  rw [Json.get_of_lookup hv, h, normalize_attributes, Json.normalize_obj_eq]

theorem column_inv {c : Column} (hunique : raw.uniqueKeys = true) (haccepts : columnSchema raw = true)
    (hseen : seen.Nodup) (h : columnFromDict path seen raw = .ok (c, seen')) :
    seen' = seen ++ [c.id] ∧ seen'.Nodup ∧ raw.normalize = c.toDict.normalize := by
  unfold columnFromDict at h
  obtain ⟨mapping, hmapping, hread⟩ := bind_eq_ok.mp h
  cases requireMapping_ok.mp hmapping
  obtain ⟨id, hid, hread⟩ := bind_eq_ok.mp hread
  obtain ⟨seen₁, hregister, hread⟩ := bind_eq_ok.mp hread
  obtain ⟨name, hname, hread⟩ := bind_eq_ok.mp hread
  obtain ⟨dataType, htype, hread⟩ := bind_eq_ok.mp hread
  obtain ⟨ordinal, hordinal, hread⟩ := bind_eq_ok.mp hread
  obtain ⟨nullable, hnullable, hread⟩ := bind_eq_ok.mp hread
  obtain ⟨attributes, hattributes, hread⟩ := bind_eq_ok.mp hread
  obtain ⟨column, hcolumn, hread⟩ := bind_eq_ok.mp hread
  cases pure_eq_ok.mp hread
  obtain ⟨rfl, rfl, rfl, rfl, rfl, hdescription, rfl⟩ := Column.create_ok (raised_ok.mp hcolumn)
  obtain ⟨hseen', hnodup⟩ := registered_inv hseen hregister
  refine ⟨hseen', hnodup, ?_⟩
  rw [columnSchema] at haccepts
  have hdescribed : c.description.normalize = (Json.get mapping "description").normalize := by
    rw [hdescription, descriptionFromValue, Json.normalize_idem]
  rw [Column.toDict, JsonSchema.normalize_eq_iff haccepts ((Json.uniqueKeys_obj mapping).mp hunique).1 (by simp) (.refl _)
    (by simp)]
  simp [text_inv hid, text_inv hname, text_inv htype, requireInt_ok.mp hordinal, requireBool_ok.mp hnullable,
    hdescribed, attributes_inv haccepts (by decide) (by simp) hattributes, -Json.normalize_obj]

lemma primaryKey_inv {k : PrimaryKey} {tableId : String} {columnIds : List String} (hunique : raw.uniqueKeys = true)
    (haccepts : primaryKeySchema raw = true) (hseen : seen.Nodup)
    (h : primaryKeyFromDict path tableId columnIds seen raw = .ok (k, seen')) :
    seen' = seen ++ [k.id] ∧ seen'.Nodup ∧ raw.normalize = k.toDict.normalize := by
  unfold primaryKeyFromDict at h
  obtain ⟨mapping, hmapping, hread⟩ := bind_eq_ok.mp h
  cases requireMapping_ok.mp hmapping
  obtain ⟨id, hid, hread⟩ := bind_eq_ok.mp hread
  obtain ⟨seen₁, hregister, hread⟩ := bind_eq_ok.mp hread
  obtain ⟨table, htable, hread⟩ := bind_eq_ok.mp hread
  obtain ⟨listed, hlisted, hread⟩ := bind_eq_ok.mp hread
  obtain ⟨ids, hids, hread⟩ := bind_eq_ok.mp hread
  obtain ⟨name, hname, hread⟩ := bind_eq_ok.mp hread
  obtain ⟨key, hkey, hread⟩ := bind_eq_ok.mp hread
  cases pure_eq_ok.mp hread
  obtain ⟨rfl, rfl, rfl, rfl⟩ := PrimaryKey.create_ok (raised_ok.mp hkey)
  obtain ⟨⟨htable, -⟩, heq⟩ := parentId_ok.mp htable
  obtain ⟨rfl, -⟩ := columnIds_ok.mp hids
  obtain ⟨hseen', hnodup⟩ := registered_inv hseen hregister
  refine ⟨hseen', hnodup, ?_⟩
  rw [primaryKeySchema] at haccepts
  rw [PrimaryKey.toDict, JsonSchema.normalize_eq_iff haccepts ((Json.uniqueKeys_obj mapping).mp hunique).1 (by simp)
    (.refl _) (by simp)]
  simp [text_inv hid, text_inv hname, htable, ← heq, requireList_ok.mp hlisted]

lemma primaryKeyOf_inv {key : Option PrimaryKey} {tableId : String} {columnIds : List String}
    (hunique : raw.uniqueKeys = true) (haccepts : JsonSchema.oneOf [JsonSchema.isNull, primaryKeySchema] raw = true)
    (hseen : seen.Nodup) (h : primaryKeyOf path tableId columnIds seen raw = .ok (key, seen')) :
    seen' = seen ++ key.toList.map PrimaryKey.id ∧ seen'.Nodup ∧
      raw.normalize = (primaryKeyToDict key).normalize := by
  rw [JsonSchema.oneOf_pair] at haccepts
  by_cases hnull : raw = .null
  · subst hnull
    cases h
    exact ⟨(List.append_nil seen).symm, hseen, rfl⟩
  · obtain ⟨haccepts, -⟩ | ⟨-, haccepts⟩ := haccepts
    · exact absurd (by simpa [JsonSchema.isNull, JsonSchema.constant] using haccepts) hnull
    · rw [primaryKeyOf] at h
      · obtain ⟨⟨k, seen₁⟩, hread, hk⟩ := bind_eq_ok.mp h
        cases pure_eq_ok.mp hk
        exact primaryKey_inv hunique haccepts hseen hread
      · exact hnull

theorem foreignKey_inv {tables : List ParsedTable} {k : ForeignKey} {tableId : String}
    (hunique : raw.uniqueKeys = true) (haccepts : foreignKeySchema raw = true) (hseen : seen.Nodup)
    (h : foreignKeyFromDict tables path tableId seen raw = .ok (k, seen')) :
    seen' = seen ++ [k.id] ∧ seen'.Nodup ∧ k.tableId = tableId ∧ raw.normalize = k.toDict.normalize := by
  unfold foreignKeyFromDict at h
  obtain ⟨mapping, hmapping, hread⟩ := bind_eq_ok.mp h
  cases requireMapping_ok.mp hmapping
  obtain ⟨id, hid, hread⟩ := bind_eq_ok.mp hread
  obtain ⟨seen₁, hregister, hread⟩ := bind_eq_ok.mp hread
  obtain ⟨table, htable, hread⟩ := bind_eq_ok.mp hread
  obtain ⟨listed, hlisted, hread⟩ := bind_eq_ok.mp hread
  obtain ⟨ids, hids, hread⟩ := bind_eq_ok.mp hread
  obtain ⟨referenced, hreferenced, hread⟩ := bind_eq_ok.mp hread
  split at hread
  · cases hread
  obtain ⟨others, hothers, hread⟩ := bind_eq_ok.mp hread
  obtain ⟨otherIds, hotherIds, hread⟩ := bind_eq_ok.mp hread
  split at hread
  · cases hread
  obtain ⟨name, hname, hread⟩ := bind_eq_ok.mp hread
  obtain ⟨key, hkey, hread⟩ := bind_eq_ok.mp hread
  cases pure_eq_ok.mp hread
  obtain ⟨rfl, rfl, rfl, rfl, rfl, rfl⟩ := ForeignKey.create_ok (raised_ok.mp hkey)
  obtain ⟨⟨htable, -⟩, heq⟩ := parentId_ok.mp htable
  obtain ⟨rfl, -⟩ := columnIds_ok.mp hids
  obtain ⟨rfl, -⟩ := columnIds_ok.mp hotherIds
  obtain ⟨hseen', hnodup⟩ := registered_inv hseen hregister
  refine ⟨hseen', hnodup, heq, ?_⟩
  rw [foreignKeySchema] at haccepts
  rw [ForeignKey.toDict, JsonSchema.normalize_eq_iff haccepts ((Json.uniqueKeys_obj mapping).mp hunique).1 (by simp)
    (.refl _) (by simp)]
  simp [text_inv hid, text_inv hname, text_inv hreferenced, htable, ← heq, requireList_ok.mp hlisted,
    requireList_ok.mp hothers]

lemma relationshipForeignKey_inv {keys : List ForeignKey} {fromTableId toTableId : String} {key : Option String}
    (h : relationshipForeignKey keys path fromTableId toTableId raw = .ok key) :
    raw = (key.map Json.str).getD .null := by
  by_cases hnull : raw = .null
  · subst hnull
    cases h
    rfl
  · rw [relationshipForeignKey] at h
    · obtain ⟨id, hid, hfound⟩ := bind_eq_ok.mp h
      obtain ⟨rfl, -⟩ := requireText_ok.mp hid
      cases hkey : keys.find? (fun k => k.id = id) with
      | none =>
        rw [hkey] at hfound
        cases hfound
      | some k =>
        rw [hkey] at hfound
        dsimp only at hfound
        split_ifs at hfound <;> cases hfound
        rfl
    · exact hnull

theorem relationship_inv {tableIds : List String} {keys : List ForeignKey} {r : Relationship}
    (hunique : raw.uniqueKeys = true) (haccepts : relationshipSchema raw = true) (hseen : seen.Nodup)
    (h : relationshipFromDict tableIds keys path seen raw = .ok (r, seen')) :
    seen' = seen ++ [r.id] ∧ seen'.Nodup ∧ raw.normalize = r.toDict.normalize := by
  unfold relationshipFromDict at h
  obtain ⟨mapping, hmapping, hread⟩ := bind_eq_ok.mp h
  cases requireMapping_ok.mp hmapping
  obtain ⟨id, hid, hread⟩ := bind_eq_ok.mp hread
  obtain ⟨seen₁, hregister, hread⟩ := bind_eq_ok.mp hread
  obtain ⟨source, hsource, hread⟩ := bind_eq_ok.mp hread
  obtain ⟨target, htarget, hread⟩ := bind_eq_ok.mp hread
  obtain ⟨_, -, hread⟩ := bind_eq_ok.mp hread
  obtain ⟨_, -, hread⟩ := bind_eq_ok.mp hread
  obtain ⟨key, hkey, hread⟩ := bind_eq_ok.mp hread
  obtain ⟨name, hname, hread⟩ := bind_eq_ok.mp hread
  obtain ⟨relationship, hrelationship, hread⟩ := bind_eq_ok.mp hread
  cases pure_eq_ok.mp hread
  obtain ⟨rfl, rfl, rfl, rfl, rfl, hdescription⟩ := Relationship.create_ok (mapError_eq_ok.mp hrelationship)
  obtain ⟨hseen', hnodup⟩ := registered_inv hseen hregister
  refine ⟨hseen', hnodup, ?_⟩
  rw [relationshipSchema] at haccepts
  have hdescribed : r.description.normalize = (Json.get mapping "description").normalize := by
    rw [hdescription, descriptionFromValue, Json.normalize_idem]
  rw [Relationship.toDict, JsonSchema.normalize_eq_iff haccepts ((Json.uniqueKeys_obj mapping).mp hunique).1 (by simp)
    (.refl _) (by simp)]
  simp [text_inv hid, text_inv hname, text_inv hsource, text_inv htarget, relationshipForeignKey_inv hkey, hdescribed,
    -Json.normalize_obj]

end Leaves
end CollibraGovernance.Snapshots
