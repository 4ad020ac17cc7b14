import CollibraGovernance.Odcs.Columns
import Mathlib.Logic.Relation

/-! Contracts that differ in the order of their lists, and what of the mapping sees that order. -/
namespace CollibraGovernance.Odcs
open Library Identity Domain

/-- The kinds of place in a contract; `unread` is any place the mapper never looks at. -/
inductive Place where
  | document | schemaObject | property | items | description | team | teamMember | role | unread
  deriving DecidableEq

/-- The members of an object that are lists in no particular order. -/
def Place.lists : Place → List String
  | .document => ["schema", "tags", "roles", "team", "authoritativeDefinitions", "customProperties"]
  | .schemaObject | .property | .items =>
    ["properties", "tags", "authoritativeDefinitions", "customProperties"]
  | .description => ["authoritativeDefinitions", "customProperties"]
  | .team => ["members", "tags", "authoritativeDefinitions", "customProperties"]
  | .teamMember => ["tags", "authoritativeDefinitions", "customProperties"]
  | .role => ["customProperties"]
  | .unread => ["tags", "roles", "authoritativeDefinitions", "customProperties"]

/-- Where a member of an object leads; the value of a custom property is no place. -/
def Place.member : Place → String → Option Place
  | .document, key =>
    if key = "description" then some .description
    else if key = "team" then some .team
    else if key ∈ ["servers", "support", "price", "slaProperties"] then some .unread
    else none
  | .schemaObject, key => if key ∈ ["quality", "relationships"] then some .unread else none
  | .property, key | .items, key =>
    if key = "items" then some .items
    else if key ∈ ["quality", "relationships"] then some .unread
    else none
  | .unread, key => if key = "customProperties" then none else some .unread
  | _, _ => none

/-- Where the items of a list member lead. -/
def Place.element : Place → String → Option Place
  | .document, key =>
    if key = "schema" then some .schemaObject
    else if key = "roles" then some .role
    else if key = "team" then some .teamMember
    else if key ∈ ["servers", "support", "price", "slaProperties"] then some .unread
    else none
  | .schemaObject, key | .property, key | .items, key =>
    if key = "properties" then some .property
    else if key ∈ ["quality", "relationships"] then some .unread
    else none
  | .team, key => if key = "members" then some .teamMember else none
  | .unread, key => if key = "customProperties" then none else some .unread
  | _, _ => none

/-- One list of the contract structure, at any depth, is permuted. -/
inductive Permuted : Place → Json → Json → Prop
  | listed {place : Place} {key : String} {pre post : List (String × Json)} {xs ys : List Json}
      (hkey : key ∈ place.lists) (h : xs.Perm ys) :
      Permuted place (.obj (pre ++ (key, .arr xs) :: post)) (.obj (pre ++ (key, .arr ys) :: post))
  | member {place inner : Place} {key : String} {pre post : List (String × Json)} {v v' : Json}
      (hkey : place.member key = some inner) (h : Permuted inner v v') :
      Permuted place (.obj (pre ++ (key, v) :: post)) (.obj (pre ++ (key, v') :: post))
  | element {place inner : Place} {key : String} {pre post : List (String × Json)}
      {xs ys : List Json} {v v' : Json}
      (hkey : place.element key = some inner) (h : Permuted inner v v') :
      Permuted place (.obj (pre ++ (key, .arr (xs ++ v :: ys)) :: post))
        (.obj (pre ++ (key, .arr (xs ++ v' :: ys)) :: post))

/-- Any number of lists are permuted, each any number of times. -/
def Reordered : Json → Json → Prop := Relation.ReflTransGen (Permuted .document)

theorem Permuted.symm {place : Place} {v v' : Json} (h : Permuted place v v') : Permuted place v' v := by
  induction h with
  | listed hkey hperm => exact .listed hkey hperm.symm
  | member hkey _ ih => exact .member hkey ih
  | element hkey _ ih => exact .element hkey ih

/-! ### Reading a changed member -/

section Read
variable {pre post : List (String × Json)} {key : String} {v v' : Json}

/-- A reader of one member sees a change of another one only if it tells the two values apart. -/
theorem read_eq {β : Type*} {f : Option Json → β} {k : String}
    (h : key = k → f (some v) = f (some v')) :
    f (Json.lookup (pre ++ (key, v) :: post) k) = f (Json.lookup (pre ++ (key, v') :: post) k) := by
  induction pre with
  | nil =>
    by_cases hk : key = k
    · simp [Json.lookup, hk, h hk]
    · simp [Json.lookup, hk]
  | cons m pre ih =>
    by_cases hm : m.1 = k
    · simp [Json.lookup, hm]
    · simpa [Json.lookup, hm] using ih

theorem lookup_eq {k : String} (h : key ≠ k) :
    Json.lookup (pre ++ (key, v) :: post) k = Json.lookup (pre ++ (key, v') :: post) k :=
  read_eq (f := id) fun hk => absurd hk h

end Read

/-! ### Normalized lists -/

lemma canonicalJson_normalize (j : Json) : j.normalize.canonicalJson = j.canonicalJson := by
  rw [Json.canonicalJson, Json.canonicalJson, Json.normalize_idem]

/-- A canonically sorted list depends on its items up to order and up to the order of members. -/
theorem sortByCanonical_congr {xs ys : List Json} (h : (xs.map Json.normalize).Perm (ys.map Json.normalize)) :
    (Json.arr (sortByCanonical xs)).normalize = (Json.arr (sortByCanonical ys)).normalize := by
  have hmap := map_sortBy Json.normalize Json.canonicalJson Json.canonicalJson canonicalJson_normalize
  rw [Json.normalize_arr, Json.normalize_arr, sortByCanonical, sortByCanonical, hmap, hmap]
  congr 1
  apply sortBy_congr_perm h
  intro a ha b hb hab
  obtain ⟨a, _, rfl⟩ := List.mem_map.mp ha
  obtain ⟨b, _, rfl⟩ := List.mem_map.mp hb
  rw [canonicalJson_normalize, canonicalJson_normalize] at hab
  exact Json.canonicalJson_inj.mp hab

theorem normalizeTags_perm {xs ys : List Json} (h : xs.Perm ys) :
    normalizeTags (.arr xs) = normalizeTags (.arr ys) := by
  rw [normalizeTags, normalizeTags,
    sortedDistinct_congr Function.injective_id fun s => (h.filterMap textOf).mem_iff]

theorem normalizeObjectList_perm {xs ys : List Json} (h : xs.Perm ys) :
    (normalizeObjectList (.arr xs)).map Json.normalize = (normalizeObjectList (.arr ys)).map Json.normalize :=
  congrArg some (sortByCanonical_congr (h.map _))

/-- The members with normalized values; these are what a node keeps of its attributes. -/
def normalMembers (members : List (String × Json)) : List (String × Json) :=
  members.map fun m => (m.1, m.2.normalize)

lemma normalMembers_append (xs ys : List (String × Json)) :
    normalMembers (xs ++ ys) = normalMembers xs ++ normalMembers ys := List.map_append

lemma normalize_obj_congr {xs ys : List (String × Json)} (h : normalMembers xs = normalMembers ys) :
    (Json.obj xs).normalize = (Json.obj ys).normalize := by
  unfold normalMembers at h
  rw [Json.normalize_obj, Json.normalize_obj, h]

lemma mappedNode_congr {identity : GraphNodeIdentity} {name : Stripped} {description : Option String}
    {xs ys : List (String × Json)} {records : List ProvenanceRecord}
    (h : normalMembers xs = normalMembers ys) :
    mappedNode identity name description xs records = mappedNode identity name description ys records := by
  have hattributes : canonicalizeAttributesObject (some xs) = canonicalizeAttributesObject (some ys) := by
    apply CanonicalObject.ext
    exact congrArg (sortBy Prod.fst) h
  rw [mappedNode, mappedNode, hattributes]

/-- What a normalizer makes of a value, up to the order of members. -/
def NormalAlike (normalizer : Json → Option Json) (v v' : Json) : Prop :=
  (normalizer v).map Json.normalize = (normalizer v').map Json.normalize

section Attributes
variable {pre post : List (String × Json)} {key : String} {v v' : Json}

theorem copied_congr {names : List (String × String)} (h : key ∉ names.map Prod.fst) :
    copied (pre ++ (key, v) :: post) names = copied (pre ++ (key, v') :: post) names := by
  apply List.filterMap_congr
  intro n hn
  have hne : key ≠ n.1 := fun hk => h (by rw [hk]; exact List.mem_map_of_mem hn)
  rw [lookup_eq hne]

theorem normalized_congr {source target : String} {normalizer : Json → Option Json}
    (h : key = source → NormalAlike normalizer v v') :
    normalMembers (normalized (pre ++ (key, v) :: post) source target normalizer) =
      normalMembers (normalized (pre ++ (key, v') :: post) source target normalizer) := by
  unfold normalized
  apply read_eq (f := fun value =>
    normalMembers ((value.bind normalizer).toList.map fun v => (target, v)))
  intro hk
  have hv := h hk
  unfold NormalAlike at hv
  simp only [Option.bind_some]
  cases hx : normalizer v <;> cases hy : normalizer v' <;> rw [hx, hy] at hv
  · cases hv
  · cases hv
  · simp only [Option.map_some, Option.some.injEq] at hv
    simp only [normalMembers, Option.toList_some, List.map_cons, List.map_nil, hv]

/-- The change of a member that the shared attributes do not see. -/
structure SharedAlike (key : String) (v v' : Json) : Prop where
  tags : key = "tags" → NormalAlike normalizeTags v v'
  definitions : key = "authoritativeDefinitions" → NormalAlike normalizeAuthoritativeDefinitions v v'
  properties : key = "customProperties" → NormalAlike normalizeCustomProperties v v'

theorem SharedAlike.of_perm (key : String) {xs ys : List Json} (h : xs.Perm ys) :
    SharedAlike key (.arr xs) (.arr ys) where
  tags _ := congrArg (Option.map Json.normalize) (normalizeTags_perm h)
  definitions _ := normalizeObjectList_perm h
  properties _ := normalizeObjectList_perm h

theorem SharedAlike.of_ne (h : key ∉ ["tags", "authoritativeDefinitions", "customProperties"])
    (v v' : Json) : SharedAlike key v v' where
  tags hk := absurd (by rw [hk]; decide) h
  definitions hk := absurd (by rw [hk]; decide) h
  properties hk := absurd (by rw [hk]; decide) h

theorem sharedAttributes_congr (h : SharedAlike key v v') :
    normalMembers (sharedAttributes (pre ++ (key, v) :: post)) =
      normalMembers (sharedAttributes (pre ++ (key, v') :: post)) := by
  unfold sharedAttributes
  simp only [normalMembers_append, normalized_congr h.tags, normalized_congr h.definitions,
    normalized_congr h.properties]

end Attributes

end CollibraGovernance.Odcs
