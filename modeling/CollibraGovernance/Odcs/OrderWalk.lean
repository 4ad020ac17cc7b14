import CollibraGovernance.Odcs.Reordered

/-! The walk over properties makes the same parts of properties that differ in list order. -/
namespace CollibraGovernance.Odcs
open Library Identity Domain

/-- Two lists of properties that the walk treats alike, wherever they stand. -/
structure SameList (v v' : Json) : Prop where
  siblings : ∀ path path', assertPropertySiblings path v = .ok () → assertPropertySiblings path' v' = .ok ()
  parts : ∀ c parent path path' p, mapProperties c parent path v = .ok p →
    ∃ p', mapProperties c parent path' v' = .ok p' ∧ p.Same p'

/-- Two properties that the walk treats alike. -/
structure SameProperty (v v' : Json) : Prop where
  identity : datasetId v = datasetId v'
  siblings : ∀ path path', assertProperty path v = .ok () → assertProperty path' v' = .ok ()
  parts : ∀ c parent path path' p, mapProperty c parent path v = .ok p →
    ∃ p', mapProperty c parent path' v' = .ok p' ∧ p.Same p'

/-- Two levels of `items` that the walk treats alike. -/
structure SameLevel (v v' : Json) : Prop where
  siblings : ∀ path path', assertItemsPropertySiblings path v = .ok () →
    assertItemsPropertySiblings path' v' = .ok ()
  parts : ∀ c parent path path' p, mapItemsProperties c parent path v = .ok p →
    ∃ p', mapItemsProperties c parent path' v' = .ok p' ∧ p.Same p'

/-! ### One member of an object -/

lemma assertPropertiesMember_eq (path : String) (members : List (String × Json)) :
    assertPropertiesMember path members = match Json.lookup members "properties" with
      | some v => assertPropertySiblings (path ++ "/properties") v
      | none => .ok () := by
  induction members with
  | nil => rfl
  | cons m members ih =>
    obtain ⟨k, v⟩ := m
    by_cases hk : k = "properties"
    · simp [assertPropertiesMember, Json.lookup, hk]
    · simpa [assertPropertiesMember, Json.lookup, hk] using ih

lemma assertItemsMember_eq (path : String) (members : List (String × Json)) :
    assertItemsMember path members = match Json.lookup members "items" with
      | some v => assertItemsPropertySiblings (path ++ "/items") v
      | none => .ok () := by
  induction members with
  | nil => rfl
  | cons m members ih =>
    obtain ⟨k, v⟩ := m
    by_cases hk : k = "items"
    · simp [assertItemsMember, Json.lookup, hk]
    · simpa [assertItemsMember, Json.lookup, hk] using ih

lemma mapPropertiesMember_eq (c : Contract) (parent : GraphNodeIdentity) (path : String)
    (members : List (String × Json)) :
    mapPropertiesMember c parent path members = match Json.lookup members "properties" with
      | some v => mapProperties c parent (path ++ "/properties") v
      | none => .ok .empty := by
  induction members with
  | nil => rfl
  | cons m members ih =>
    obtain ⟨k, v⟩ := m
    by_cases hk : k = "properties"
    · simp [mapPropertiesMember, Json.lookup, hk]
    · simpa [mapPropertiesMember, Json.lookup, hk] using ih

lemma mapItemsMember_eq (c : Contract) (parent : GraphNodeIdentity) (path : String)
    (members : List (String × Json)) :
    mapItemsMember c parent path members = match Json.lookup members "items" with
      | some v => mapItemsProperties c parent (path ++ "/items") v
      | none => .ok .empty := by
  induction members with
  | nil => rfl
  | cons m members ih =>
    obtain ⟨k, v⟩ := m
    by_cases hk : k = "items"
    · simp [mapItemsMember, Json.lookup, hk]
    · simpa [mapItemsMember, Json.lookup, hk] using ih

/-- A changed member is read alike under every key. -/
theorem lookup_rel {R : Json → Json → Prop} (hrefl : ∀ j, R j j) {pre post : List (String × Json)}
    {key k : String} {v v' : Json} (h : key = k → R v v') :
    Option.Rel R (Json.lookup (pre ++ (key, v) :: post) k)
      (Json.lookup (pre ++ (key, v') :: post) k) := by
  have hself : ∀ o : Option Json, Option.Rel R o o := fun o => by
    cases o with
    | none => exact .none
    | some j => exact .some (hrefl j)
  induction pre with
  | nil =>
    by_cases hk : key = k
    · simpa [Json.lookup, hk] using Option.Rel.some (h hk)
    · simpa [Json.lookup, hk] using hself _
  | cons m pre ih =>
    by_cases hm : m.1 = k
    · simpa [Json.lookup, hm] using Option.Rel.some (hrefl m.2)
    · simpa [Json.lookup, hm] using ih

section Members
variable {m m' : List (String × Json)}

theorem nested_siblings (h : Option.Rel SameList (Json.lookup m "properties") (Json.lookup m' "properties"))
    (path path' : String) (hok : assertPropertiesMember path m = .ok ()) :
    assertPropertiesMember path' m' = .ok () := by
  rw [assertPropertiesMember_eq] at hok ⊢
  generalize Json.lookup m "properties" = o, Json.lookup m' "properties" = o' at h hok ⊢
  cases h with
  | none => rfl
  | some hsame => exact hsame.siblings _ _ hok

theorem nested_parts (h : Option.Rel SameList (Json.lookup m "properties") (Json.lookup m' "properties"))
    {c : Contract} {parent : GraphNodeIdentity} (path path' : String) {p : MappedParts}
    (hok : mapPropertiesMember c parent path m = .ok p) :
    ∃ p', mapPropertiesMember c parent path' m' = .ok p' ∧ p.Same p' := by
  rw [mapPropertiesMember_eq] at hok ⊢
  generalize Json.lookup m "properties" = o, Json.lookup m' "properties" = o' at h hok ⊢
  cases h with
  | none =>
    cases hok
    exact ⟨.empty, rfl, .refl _⟩
  | some hsame => exact hsame.parts _ _ _ _ _ hok

theorem items_siblings (h : Option.Rel SameLevel (Json.lookup m "items") (Json.lookup m' "items"))
    (path path' : String) (hok : assertItemsMember path m = .ok ()) :
    assertItemsMember path' m' = .ok () := by
  rw [assertItemsMember_eq] at hok ⊢
  generalize Json.lookup m "items" = o, Json.lookup m' "items" = o' at h hok ⊢
  cases h with
  | none => rfl
  | some hsame => exact hsame.siblings _ _ hok

theorem items_parts (h : Option.Rel SameLevel (Json.lookup m "items") (Json.lookup m' "items"))
    {c : Contract} {parent : GraphNodeIdentity} (path path' : String) {p : MappedParts}
    (hok : mapItemsMember c parent path m = .ok p) :
    ∃ p', mapItemsMember c parent path' m' = .ok p' ∧ p.Same p' := by
  rw [mapItemsMember_eq] at hok ⊢
  generalize Json.lookup m "items" = o, Json.lookup m' "items" = o' at h hok ⊢
  cases h with
  | none =>
    cases hok
    exact ⟨.empty, rfl, .refl _⟩
  | some hsame => exact hsame.parts _ _ _ _ _ hok

theorem SameLevel.of_members
    (hlist : Option.Rel SameList (Json.lookup m "properties") (Json.lookup m' "properties"))
    (hlevel : Option.Rel SameLevel (Json.lookup m "items") (Json.lookup m' "items")) :
    SameLevel (.obj m) (.obj m') where
  siblings path path' h := by
    obtain ⟨_, hnested, hitems⟩ := bind_eq_ok.mp h
    exact bind_eq_ok.mpr ⟨(), nested_siblings hlist path path' hnested,
      items_siblings hlevel path path' hitems⟩
  parts c parent path path' p h := by
    obtain ⟨here, hhere, h⟩ := bind_eq_ok.mp h
    obtain ⟨deeper, hdeeper, h⟩ := bind_eq_ok.mp h
    obtain rfl := pure_eq_ok.mp h
    obtain ⟨here', hhere', hsame⟩ := nested_parts hlist path path' hhere
    obtain ⟨deeper', hdeeper', hsame'⟩ := items_parts hlevel path path' hdeeper
    exact ⟨here' ++ deeper', bind_eq_ok.mpr ⟨here', hhere', bind_eq_ok.mpr ⟨deeper', hdeeper', rfl⟩⟩,
      hsame.append hsame'⟩

/-- The same identity, the same column, and alike members below. -/
theorem SameProperty.of_members (hidentity : logicalIdentity m = logicalIdentity m')
    (hcolumn : ∀ c parent path path' node, mapColumn c parent path m = .ok node →
      mapColumn c parent path' m' = .ok node)
    (hlist : Option.Rel SameList (Json.lookup m "properties") (Json.lookup m' "properties"))
    (hlevel : Option.Rel SameLevel (Json.lookup m "items") (Json.lookup m' "items")) :
    SameProperty (.obj m) (.obj m') where
  identity := hidentity
  siblings path path' h := by
    obtain ⟨_, hnested, hitems⟩ := bind_eq_ok.mp h
    exact bind_eq_ok.mpr ⟨(), nested_siblings hlist path path' hnested,
      items_siblings hlevel path path' hitems⟩
  parts c parent path path' p h := by
    obtain ⟨node, hnode, h⟩ := bind_eq_ok.mp h
    obtain ⟨nested, hnested, h⟩ := bind_eq_ok.mp h
    obtain ⟨items, hitems, h⟩ := bind_eq_ok.mp h
    obtain rfl := pure_eq_ok.mp h
    obtain ⟨nested', hnested', hsame⟩ := nested_parts hlist path path' hnested
    obtain ⟨items', hitems', hsame'⟩ := items_parts hlevel path path' hitems
    exact ⟨columnParts c parent node ++ nested' ++ items',
      bind_eq_ok.mpr ⟨node, hcolumn c parent path path' node hnode,
        bind_eq_ok.mpr ⟨nested', hnested', bind_eq_ok.mpr ⟨items', hitems', rfl⟩⟩⟩,
      ((MappedParts.Same.refl _).append hsame).append hsame'⟩

end Members

/-! ### A list of properties -/

lemma assertUniqueSiblings_eq_ok {seen : List Stripped} {path : String} {index : Nat}
    {entries : List (List (String × Json))} :
    assertUniqueSiblings seen path index entries = .ok () ↔
      (entries.filterMap logicalIdentity).Nodup ∧ ∀ l ∈ entries.filterMap logicalIdentity, l ∉ seen := by
  refine ⟨assertUniqueSiblings_ok, ?_⟩
  induction entries generalizing seen index with
  | nil => exact fun _ => rfl
  | cons entry entries ih =>
    rintro ⟨hnodup, hseen⟩
    rw [assertUniqueSiblings]
    split
    · rename_i hnone
      rw [List.filterMap_cons_none hnone] at hnodup hseen
      exact ih ⟨hnodup, hseen⟩
    · rename_i l hsome
      rw [List.filterMap_cons_some hsome] at hnodup hseen
      obtain ⟨hl, hrest⟩ := List.nodup_cons.mp hnodup
      rw [if_neg (hseen l (List.mem_cons_self ..))]
      refine ih ⟨hrest, fun k hk hmem => ?_⟩
      rcases List.mem_cons.mp hmem with rfl | hmem
      · exact hl hk
      · exact hseen k (List.mem_cons_of_mem _ hk) hmem

/-- Siblings are accepted when no two share a logical identity. -/
theorem assertUniqueSiblings_mappings {path : String} {items : List Json} :
    assertUniqueSiblings [] path 0 (mappings items) = .ok () ↔ (items.filterMap datasetId).Nodup := by
  rw [assertUniqueSiblings_eq_ok, filterMap_mappings]
  exact ⟨And.left, fun h => ⟨h, fun _ _ => List.not_mem_nil⟩⟩

section Each
variable {items items' : List Json}

lemma each_siblings (h : List.Forall₂ SameProperty items items') (path path' : String) (n n' : Nat)
    (hok : assertEachProperty path n items = .ok ()) : assertEachProperty path' n' items' = .ok () := by
  induction h generalizing n n' with
  | nil => rfl
  | cons hj _ ih =>
    obtain ⟨_, hfirst, hrest⟩ := bind_eq_ok.mp hok
    exact bind_eq_ok.mpr ⟨(), hj.siblings _ _ hfirst, ih _ _ hrest⟩

lemma each_parts (h : List.Forall₂ SameProperty items items') {c : Contract}
    {parent : GraphNodeIdentity} (path path' : String) (n n' : Nat) {p : MappedParts}
    (hok : mapEachProperty c parent path n items = .ok p) :
    ∃ p', mapEachProperty c parent path' n' items' = .ok p' ∧ p.Same p' := by
  induction h generalizing n n' p with
  | nil =>
    cases hok
    exact ⟨.empty, rfl, .refl _⟩
  | cons hj _ ih =>
    obtain ⟨first, hfirst, hok⟩ := bind_eq_ok.mp hok
    obtain ⟨rest, hrest, hok⟩ := bind_eq_ok.mp hok
    obtain rfl := pure_eq_ok.mp hok
    obtain ⟨first', hfirst', hsame⟩ := hj.parts _ _ _ (path' ++ "/" ++ toString n') _ hfirst
    obtain ⟨rest', hrest', hsame'⟩ := ih (n + 1) (n' + 1) hrest
    exact ⟨first' ++ rest', bind_eq_ok.mpr ⟨first', hfirst', bind_eq_ok.mpr ⟨rest', hrest', rfl⟩⟩,
      hsame.append hsame'⟩

/-- Properties that are treated alike one by one are treated alike as a list. -/
theorem SameList.of_forall₂ (h : List.Forall₂ SameProperty items items') :
    SameList (.arr items) (.arr items') where
  siblings path path' hok := by
    obtain ⟨_, hunique, heach⟩ := bind_eq_ok.mp hok
    have hids : items.filterMap datasetId = items'.filterMap datasetId := by
      clear hok hunique heach
      induction h with
      | nil => rfl
      | cons hj _ ih => rw [List.filterMap_cons, List.filterMap_cons, hj.identity, ih]
    refine bind_eq_ok.mpr ⟨(), ?_, each_siblings h path path' 0 0 heach⟩
    rw [assertUniqueSiblings_mappings, ← hids]
    exact assertUniqueSiblings_mappings.mp hunique
  parts _ _ path path' _ hok := each_parts h path path' 0 0 hok

end Each

lemma mapColumn_of {c : Contract} {parent : GraphNodeIdentity} {path path' : String}
    {prop prop' : List (String × Json)} {node : GraphNode}
    (hname : Json.lookup prop "name" = Json.lookup prop' "name")
    (hidentity : logicalIdentity prop = logicalIdentity prop')
    (hnode : ∀ identity name, entryNode c identity name prop (columnAttributes prop) =
      entryNode c identity name prop' (columnAttributes prop'))
    (h : mapColumn c parent path prop = .ok node) : mapColumn c parent path' prop' = .ok node := by
  obtain ⟨logicalId, name, hlogical, htext, rfl⟩ := mapColumn_ok h
  refine bind_eq_ok.mpr ⟨name, ?_, ?_⟩
  · unfold requireMappedStr
    rw [← hname, htext]
  · rw [← hidentity, hlogical, hnode]
    rfl

/-- A document is treated as itself, in each of its roles. -/
structure SameSelf (j : Json) : Prop where
  list : SameList j j
  property : SameProperty j j
  level : SameLevel j j

lemma sameSelf_leaf {j : Json} (hs : ∀ path, assertPropertySiblings path j = .ok ())
    (hp : ∀ c parent path, mapProperties c parent path j = .ok .empty)
    (hs' : ∀ path, assertProperty path j = .ok ())
    (hp' : ∀ c parent path, mapProperty c parent path j = .ok .empty)
    (hi : ∀ path, assertItemsPropertySiblings path j = .ok ())
    (hl : ∀ c parent path, mapItemsProperties c parent path j = .ok .empty) : SameSelf j where
  list := ⟨fun _ path' _ => hs path', fun c parent path path' p h => by
    cases (hp c parent path).symm.trans h
    exact ⟨.empty, hp c parent path', .refl _⟩⟩
  property := ⟨rfl, fun _ path' _ => hs' path', fun c parent path path' p h => by
    cases (hp' c parent path).symm.trans h
    exact ⟨.empty, hp' c parent path', .refl _⟩⟩
  level := ⟨fun _ path' _ => hi path', fun c parent path path' p h => by
    cases (hl c parent path).symm.trans h
    exact ⟨.empty, hl c parent path', .refl _⟩⟩

lemma rel_self {R : Json → Json → Prop} {members : List (String × Json)}
    (h : ∀ m ∈ members, R m.2 m.2) (k : String) :
    Option.Rel R (Json.lookup members k) (Json.lookup members k) := by
  cases hv : Json.lookup members k with
  | none => exact .none
  | some v => exact .some (h _ (Json.mem_of_lookup hv))

/-- The place of a property in its list does not matter to what is made of it. -/
theorem sameSelf (j : Json) : SameSelf j := by
  induction j using Json.induct with
  | null =>
    exact sameSelf_leaf (fun _ => rfl) (fun _ _ _ => rfl) (fun _ => rfl) (fun _ _ _ => rfl)
      (fun _ => rfl) (fun _ _ _ => rfl)
  | bool b =>
    exact sameSelf_leaf (fun _ => rfl) (fun _ _ _ => rfl) (fun _ => rfl) (fun _ _ _ => rfl)
      (fun _ => rfl) (fun _ _ _ => rfl)
  | int i =>
    exact sameSelf_leaf (fun _ => rfl) (fun _ _ _ => rfl) (fun _ => rfl) (fun _ _ _ => rfl)
      (fun _ => rfl) (fun _ _ _ => rfl)
  | float f =>
    exact sameSelf_leaf (fun _ => rfl) (fun _ _ _ => rfl) (fun _ => rfl) (fun _ _ _ => rfl)
      (fun _ => rfl) (fun _ _ _ => rfl)
  | str s =>
    exact sameSelf_leaf (fun _ => rfl) (fun _ _ _ => rfl) (fun _ => rfl) (fun _ _ _ => rfl)
      (fun _ => rfl) (fun _ _ _ => rfl)
  | arr items ih =>
    refine ⟨.of_forall₂ (List.forall₂_same.mpr fun j hj => (ih j hj).property),
      ⟨rfl, fun _ _ _ => rfl, fun c parent path path' p h => ?_⟩,
      ⟨fun _ _ _ => rfl, fun c parent path path' p h => ?_⟩⟩
    · cases h
      exact ⟨.empty, rfl, .refl _⟩
    · cases h
      exact ⟨.empty, rfl, .refl _⟩
  | obj members ih =>
    have hlist := rel_self (fun m hm => (ih m hm).list) "properties"
    have hlevel := rel_self (fun m hm => (ih m hm).level) "items"
    refine ⟨⟨fun _ _ _ => rfl, fun c parent path path' p h => ?_⟩,
      .of_members rfl (fun _ _ _ _ _ h => mapColumn_of rfl rfl (fun _ _ => rfl) h) hlist hlevel,
      .of_members hlist hlevel⟩
    cases h
    exact ⟨.empty, rfl, .refl _⟩

/-! ### The order of a list of properties -/

lemma each_split {c : Contract} {parent : GraphNodeIdentity} {path : String} {n : Nat}
    {items : List Json} {p : MappedParts} (h : mapEachProperty c parent path n items = .ok p) :
    ∃ ps, List.Forall₂ (fun j q => ∃ path, mapProperty c parent path j = .ok q) items ps ∧
      p = .join ps := by
  induction items generalizing n p with
  | nil =>
    cases h
    exact ⟨[], .nil, rfl⟩
  | cons j js ih =>
    obtain ⟨first, hfirst, h⟩ := bind_eq_ok.mp h
    obtain ⟨rest, hrest, h⟩ := bind_eq_ok.mp h
    obtain rfl := pure_eq_ok.mp h
    obtain ⟨ps, hps, rfl⟩ := ih hrest
    exact ⟨first :: ps, .cons ⟨_, hfirst⟩ hps, rfl⟩

lemma each_build {c : Contract} {parent : GraphNodeIdentity} {items : List Json}
    {ps : List MappedParts}
    (h : List.Forall₂ (fun j q => ∃ path, mapProperty c parent path j = .ok q) items ps)
    (path : String) (n : Nat) :
    ∃ p, mapEachProperty c parent path n items = .ok p ∧ (MappedParts.join ps).Same p := by
  induction h generalizing n with
  | nil => exact ⟨.empty, rfl, .refl _⟩
  | cons hj _ ih =>
    obtain ⟨own, hown⟩ := hj
    obtain ⟨first, hfirst, hsame⟩ :=
      (sameSelf _).property.parts _ _ _ (path ++ "/" ++ toString n) _ hown
    obtain ⟨rest, hrest, hsame'⟩ := ih (n + 1)
    exact ⟨first ++ rest, bind_eq_ok.mpr ⟨first, hfirst, bind_eq_ok.mpr ⟨rest, hrest, rfl⟩⟩,
      hsame.append hsame'⟩

lemma assertEachProperty_eq_ok {path : String} {n : Nat} {items : List Json} :
    assertEachProperty path n items = .ok () ↔ ∀ j ∈ items, assertProperty "" j = .ok () := by
  induction items generalizing n with
  | nil => exact ⟨fun _ j hj => absurd hj List.not_mem_nil, fun _ => rfl⟩
  | cons j js ih =>
    rw [List.forall_mem_cons, assertEachProperty, bind_eq_ok]
    constructor
    · rintro ⟨_, hj, hjs⟩
      exact ⟨(sameSelf j).property.siblings _ _ hj, ih.mp hjs⟩
    · rintro ⟨hj, hjs⟩
      exact ⟨(), (sameSelf j).property.siblings _ _ hj, ih.mpr hjs⟩

theorem SameList.of_perm {xs ys : List Json} (h : xs.Perm ys) : SameList (.arr xs) (.arr ys) where
  siblings path path' hok := by
    obtain ⟨_, hunique, heach⟩ := bind_eq_ok.mp hok
    refine bind_eq_ok.mpr ⟨(), ?_, ?_⟩
    · rw [assertUniqueSiblings_mappings, ← (h.filterMap datasetId).nodup_iff]
      exact assertUniqueSiblings_mappings.mp hunique
    · rw [assertEachProperty_eq_ok] at heach ⊢
      exact fun j hj => heach j (h.mem_iff.mpr hj)
  parts c parent path path' p hok := by
    obtain ⟨ps, hps, rfl⟩ := each_split hok
    obtain ⟨qs, hqs, hperm⟩ := List.perm_comp_forall₂ h.symm hps
    obtain ⟨p', hp', hsame⟩ := each_build hqs path' 0
    exact ⟨p', hp', (MappedParts.Same.join_perm hperm.symm).trans hsame⟩

/-- One property of a list in another order inside. -/
theorem SameList.of_element {xs ys : List Json} {v v' : Json} (h : SameProperty v v') :
    SameList (.arr (xs ++ v :: ys)) (.arr (xs ++ v' :: ys)) :=
  .of_forall₂ (List.rel_append (List.forall₂_same.mpr fun j _ => (sameSelf j).property)
    (.cons h (List.forall₂_same.mpr fun j _ => (sameSelf j).property)))

/-! ### Permuted properties -/

/-- The members that a property's own column reads by themselves. -/
def columnKeys : List String :=
  ["id", "name", "description", "businessName", "logicalType", "physicalName", "physicalType",
    "required", "unique", "primaryKey", "primaryKeyPosition", "partitioned", "partitionKeyPosition",
    "classification", "encryptedName", "criticalDataElement", "logicalTypeOptions"]

section Column
variable {pre post : List (String × Json)} {key : String} {v v' : Json}

lemma logicalIdentity_congr (hid : key ≠ "id") (hname : key ≠ "name") :
    logicalIdentity (pre ++ (key, v) :: post) = logicalIdentity (pre ++ (key, v') :: post) := by
  rw [logicalIdentity, logicalIdentity, lookup_eq hid, lookup_eq hname]

lemma entryNode_congr {c : Contract} {identity : GraphNodeIdentity} {name : Stripped}
    {attributes attributes' : List (String × Json)} (hkey : key ≠ "description")
    (h : normalMembers attributes = normalMembers attributes') :
    entryNode c identity name (pre ++ (key, v) :: post) attributes =
      entryNode c identity name (pre ++ (key, v') :: post) attributes' := by
  rw [entryNode, entryNode, lookup_eq hkey, mappedNode_congr h]

theorem columnAttributes_congr (hkey : key ∉ columnKeys) (h : SharedAlike key v v') :
    normalMembers (columnAttributes (pre ++ (key, v) :: post)) =
      normalMembers (columnAttributes (pre ++ (key, v') :: post)) := by
  unfold columnAttributes
  simp only [normalMembers_append]
  refine congrArg₂ (· ++ ·) (congrArg₂ (· ++ ·) ?_ ?_) (sharedAttributes_congr h)
  · refine congrArg normalMembers (copied_congr fun hk => hkey ?_)
    simp only [List.map_cons, List.map_nil, List.mem_cons, List.not_mem_nil, or_false] at hk
    simp only [columnKeys, List.mem_cons, List.not_mem_nil, or_false]
    tauto
  · exact normalized_congr fun hk => absurd (by rw [hk]; decide) hkey

/-- A change that neither the column, nor the shared attributes, nor the walk below see. -/
theorem SameProperty.of_change (hkey : key ∉ columnKeys) (hshared : SharedAlike key v v')
    (hlist : key = "properties" → SameList v v') (hlevel : key = "items" → SameLevel v v') :
    SameProperty (.obj (pre ++ (key, v) :: post)) (.obj (pre ++ (key, v') :: post)) := by
  have hne : ∀ k ∈ columnKeys, key ≠ k := fun k hk heq => hkey (heq ▸ hk)
  have hidentity : logicalIdentity (pre ++ (key, v) :: post) =
      logicalIdentity (pre ++ (key, v') :: post) :=
    logicalIdentity_congr (hne "id" (by decide)) (hne "name" (by decide))
  refine .of_members hidentity (fun c parent path path' node h => ?_)
    (lookup_rel (fun j => (sameSelf j).list) hlist) (lookup_rel (fun j => (sameSelf j).level) hlevel)
  exact mapColumn_of (lookup_eq (hne "name" (by decide))) hidentity
    (fun identity name => entryNode_congr (hne "description" (by decide))
      (columnAttributes_congr hkey hshared)) h

theorem SameLevel.of_change (hlist : key = "properties" → SameList v v')
    (hlevel : key = "items" → SameLevel v v') :
    SameLevel (.obj (pre ++ (key, v) :: post)) (.obj (pre ++ (key, v') :: post)) :=
  .of_members (lookup_rel (fun j => (sameSelf j).list) hlist)
    (lookup_rel (fun j => (sameSelf j).level) hlevel)

end Column

end CollibraGovernance.Odcs
