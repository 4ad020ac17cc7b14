import CollibraGovernance.Odcs.OrderSchema

/-! Reordering the lists of a contract, at any depth, changes neither its acceptance nor what it maps to. -/
namespace CollibraGovernance.Odcs
open Library Identity Domain

/-! ### The contract -/

/-- Two contracts that are treated alike. -/
structure SameContract (m m' : List (String × Json)) : Prop where
  version : Json.lookup m "apiVersion" = Json.lookup m' "apiVersion"
  siblings : assertSiblingIdentityUniqueness m = .ok () → assertSiblingIdentityUniqueness m' = .ok ()
  parts : ∀ casefold ns p, mapContract casefold m ns = .ok p →
    ∃ p', mapContract casefold m' ns = .ok p' ∧ p.Same p'

lemma assertSiblingIdentityUniqueness_eq (document : List (String × Json)) :
    assertSiblingIdentityUniqueness document = assertSchema ((Json.lookup document "schema").getD .null) := by
  unfold assertSiblingIdentityUniqueness
  cases hschema : Json.lookup document "schema" with
  | none => rfl
  | some v =>
    cases v with
    | arr entries =>
      unfold assertSchema
      dsimp only [Option.getD_some]
      refine bind_congr fun _ => ?_
      congr 1
    | _ => rfl

lemma schemaEntries_eq (document : List (String × Json)) :
    schemaEntries document = schemaList ((Json.lookup document "schema").getD .null) := by
  unfold schemaEntries
  cases Json.lookup document "schema" with
  | none => rfl
  | some v => cases v <;> rfl

/-- The members that a contract reads by themselves. -/
def contractKeys : List String :=
  ["apiVersion", "id", "version", "status", "name", "domain", "dataProduct", "tenant"]

/-- The change of a member of a contract that is not seen where the member is read. -/
structure ContractAlike (key : String) (v v' : Json) : Prop where
  unread : key ∉ contractKeys
  shared : SharedAlike key v v'
  schema : key = "schema" → SameSchema v v'
  description : key = "description" → SameDescription v v'
  team : key = "team" → NormalAlike normalizeTeam v v'
  roles : key = "roles" → NormalAlike normalizeRoles v v'

section Change
variable {pre post : List (String × Json)} {key : String} {v v' : Json}

lemma contractPurpose_eq (document : List (String × Json)) :
    contractPurpose document = purposeOf (Json.lookup document "description") := by
  unfold contractPurpose purposeOf
  rfl

lemma ContractAlike.ne (h : ContractAlike key v v') {k : String} (hk : k ∈ contractKeys) : key ≠ k := by
  rintro rfl
  exact h.unread hk

lemma ContractAlike.lookup (h : ContractAlike key v v') {k : String} (hk : k ∈ contractKeys) :
    Json.lookup (pre ++ (key, v) :: post) k = Json.lookup (pre ++ (key, v') :: post) k := lookup_eq (h.ne hk)

lemma ContractAlike.schema_rel (h : ContractAlike key v v') (pre post : List (String × Json)) :
    Option.Rel SameSchema (Json.lookup (pre ++ (key, v) :: post) "schema")
      (Json.lookup (pre ++ (key, v') :: post) "schema") := lookup_rel sameSchema_self h.schema

theorem contractAttributes_congr (h : ContractAlike key v v') {casefold : String → String}
    {attributes : List (String × Json)} (hok : contractAttributes casefold (pre ++ (key, v) :: post) = .ok attributes) :
    ∃ attributes', contractAttributes casefold (pre ++ (key, v') :: post) = .ok attributes' ∧
      normalMembers attributes = normalMembers attributes' := by
  unfold contractAttributes requireKey at hok ⊢
  rw [h.lookup (show "apiVersion" ∈ contractKeys by decide), h.lookup (show "version" ∈ contractKeys by decide),
    h.lookup (show "status" ∈ contractKeys by decide)] at hok
  obtain ⟨apiVersion, hapi, hok⟩ := bind_eq_ok.mp hok
  obtain ⟨version, hversion, hok⟩ := bind_eq_ok.mp hok
  obtain ⟨status, hstatus, hok⟩ := bind_eq_ok.mp hok
  obtain rfl := pure_eq_ok.mp hok
  refine ⟨_, bind_eq_ok.mpr ⟨apiVersion, hapi, bind_eq_ok.mpr ⟨version, hversion,
    bind_eq_ok.mpr ⟨status, hstatus, rfl⟩⟩⟩, ?_⟩
  have hcopied : key ∉ [("domain", "domain"), ("dataProduct", "data_product")].map Prod.fst := fun hk => by
    simp only [List.map_cons, List.map_nil, List.mem_cons, List.not_mem_nil, or_false] at hk
    rcases hk with rfl | rfl
    · exact h.unread (by decide)
    · exact h.unread (by decide)
  simp only [normalMembers_append]
  refine congrArg₂ (· ++ ·) (congrArg₂ (· ++ ·) (congrArg₂ (· ++ ·) (congrArg₂ (· ++ ·) (congrArg₂ (· ++ ·)
    (congrArg₂ (· ++ ·) rfl ?_) ?_) ?_) ?_) ?_) (sharedAttributes_congr h.shared)
  · exact congrArg normalMembers (copied_congr hcopied)
  · exact normalized_congr fun hk => absurd hk (h.ne (by decide))
  · exact normalized_congr fun hk => (h.description hk).normal
  · exact normalized_congr h.team
  · exact normalized_congr h.roles

theorem SameContract.of_change (h : ContractAlike key v v') :
    SameContract (pre ++ (key, v) :: post) (pre ++ (key, v') :: post) where
  version := lookup_eq (h.ne (by decide))
  siblings hok := by
    rw [assertSiblingIdentityUniqueness_eq] at hok ⊢
    have hrel := h.schema_rel pre post
    generalize Json.lookup (pre ++ (key, v) :: post) "schema" = o,
      Json.lookup (pre ++ (key, v') :: post) "schema" = o' at hrel hok ⊢
    cases hrel with
    | none => exact hok
    | some hsame => exact hsame.siblings hok
  parts casefold ns p hok := by
    unfold mapContract at hok ⊢
    rw [schemaEntries_eq] at hok ⊢
    rw [h.lookup (show "id" ∈ contractKeys by decide), h.lookup (show "version" ∈ contractKeys by decide),
      h.lookup (show "name" ∈ contractKeys by decide), contractPurpose_eq] at hok
    obtain ⟨contractId, hid, hok⟩ := bind_eq_ok.mp hok
    obtain ⟨contractVersion, hversion, hok⟩ := bind_eq_ok.mp hok
    obtain ⟨attributes, hattributes, hok⟩ := bind_eq_ok.mp hok
    obtain ⟨datasets, hdatasets, hok⟩ := bind_eq_ok.mp hok
    obtain rfl := pure_eq_ok.mp hok
    obtain ⟨attributes', hattributes', hnormal⟩ := contractAttributes_congr h hattributes
    have hpurpose : purposeOf (Json.lookup (pre ++ (key, v) :: post) "description") =
        purposeOf (Json.lookup (pre ++ (key, v') :: post) "description") :=
      read_eq fun hk => (h.description hk).purpose
    have hrel := h.schema_rel pre post
    obtain ⟨datasets', hdatasets', hsame⟩ : ∃ datasets', mapSchema ⟨ns, odcsProvenance contractId contractVersion⟩
        (.root ns kindContract contractId contract_ne_column)
        ((Json.lookup (pre ++ (key, v') :: post) "schema").getD .null) = .ok datasets' ∧
        (MappedParts.join datasets).Same (.join datasets') := by
      generalize Json.lookup (pre ++ (key, v) :: post) "schema" = o,
        Json.lookup (pre ++ (key, v') :: post) "schema" = o' at hrel hdatasets ⊢
      cases hrel with
      | none => exact ⟨datasets, hdatasets, .refl _⟩
      | some hschema => exact hschema.parts _ _ _ hdatasets
    refine ⟨_, bind_eq_ok.mpr ⟨contractId, hid, bind_eq_ok.mpr ⟨contractVersion, hversion,
      bind_eq_ok.mpr ⟨attributes', hattributes', bind_eq_ok.mpr ⟨datasets', hdatasets', rfl⟩⟩⟩⟩, ?_⟩
    rw [contractPurpose_eq, hpurpose, mappedNode_congr hnormal]
    exact (MappedParts.Same.refl _).append hsame

end Change

/-! ### Every place -/

/-- What a change at a place leaves alike. -/
def Effect : Place → Json → Json → Prop
  | .document, v, v' => ∃ m m', v = .obj m ∧ v' = .obj m' ∧ SameContract m m'
  | .schemaObject, v, v' => SameSchemaObject v v'
  | .property, v, v' => SameProperty v v'
  | .items, v, v' => SameLevel v v'
  | .description, v, v' => SameDescription v v'
  | .team, v, v' => NormalAlike normalizeTeam v v'
  | .teamMember, v, v' => SameObject normalizeTeamMember v v'
  | .role, v, v' => SameObject normalizeRole v v'
  | .unread, _, _ => True

section Places
variable {pre post : List (String × Json)} {key : String} {v v' : Json} {xs ys : List Json}

/-- A list member of a contract in another order. -/
lemma effect_document_listed (hkey : key ∈ Place.document.lists) (h : xs.Perm ys) :
    ContractAlike key (.arr xs) (.arr ys) where
  unread := by
    simp only [Place.lists, List.mem_cons, List.not_mem_nil, or_false] at hkey
    rcases hkey with rfl | rfl | rfl | rfl | rfl | rfl <;> decide
  shared := .of_perm key h
  schema _ := .of_perm h
  description hk := by
    subst hk
    exact absurd hkey (by decide)
  team _ := normalizeTeam_arr (normalizeMemberList_of_perm h)
  roles _ := normalizeRoles_of_perm h

lemma effect_listed {place : Place} (hkey : key ∈ place.lists) (h : xs.Perm ys) :
    Effect place (.obj (pre ++ (key, .arr xs) :: post)) (.obj (pre ++ (key, .arr ys) :: post)) := by
  cases place with
  | document => exact ⟨_, _, rfl, rfl, .of_change (effect_document_listed hkey h)⟩
  | schemaObject =>
    refine SameSchemaObject.of_change ?_ (.of_perm key h) fun _ => .of_perm h
    simp only [Place.lists, List.mem_cons, List.not_mem_nil, or_false] at hkey
    rcases hkey with rfl | rfl | rfl | rfl <;> decide
  | property =>
    refine SameProperty.of_change ?_ (.of_perm key h) (fun _ => .of_perm h) fun hk => ?_
    · simp only [Place.lists, List.mem_cons, List.not_mem_nil, or_false] at hkey
      rcases hkey with rfl | rfl | rfl | rfl <;> decide
    · subst hk
      exact absurd hkey (by decide)
  | items =>
    refine SameLevel.of_change (fun _ => .of_perm h) fun hk => ?_
    subst hk
    exact absurd hkey (by decide)
  | description => exact sameDescription_of_perm hkey h
  | team =>
    refine normalizeTeam_obj ?_ (fun _ => normalizeMemberList_of_perm h) (.of_perm key h)
    simp only [Place.lists, List.mem_cons, List.not_mem_nil, or_false] at hkey
    rcases hkey with rfl | rfl | rfl | rfl <;> decide
  | teamMember => exact sameTeamMember_of_perm hkey h
  | role =>
    refine (sameRole_of_perm h).resolve_right fun hne => hne ?_
    simpa [Place.lists] using hkey
  | unread => trivial

/-- Members that lead to unread places are read nowhere. -/
lemma contractAlike_unread (hkey : key ∈ ["servers", "support", "price", "slaProperties"]) :
    ContractAlike key v v' := by
  simp only [List.mem_cons, List.not_mem_nil, or_false] at hkey
  have hunread : key ∉ contractKeys ∧ key ∉ ["tags", "authoritativeDefinitions", "customProperties"] ∧
      key ∉ ["schema", "description", "team", "roles"] := by
    rcases hkey with rfl | rfl | rfl | rfl <;> decide
  obtain ⟨hcontract, hshared, hread⟩ := hunread
  exact ⟨hcontract, .of_ne hshared v v', fun hk => absurd (by rw [hk]; decide) hread,
    fun hk => absurd (by rw [hk]; decide) hread, fun hk => absurd (by rw [hk]; decide) hread,
    fun hk => absurd (by rw [hk]; decide) hread⟩

lemma unread_keys (hkey : key ∈ ["quality", "relationships"]) :
    key ∉ datasetKeys ∧ key ∉ columnKeys ∧ key ∉ ["tags", "authoritativeDefinitions", "customProperties"] ∧
      key ≠ "properties" ∧ key ≠ "items" := by
  simp only [List.mem_cons, List.not_mem_nil, or_false] at hkey
  rcases hkey with rfl | rfl <;> decide

lemma effect_schemaObject_unread (hkey : key ∈ ["quality", "relationships"]) :
    SameSchemaObject (.obj (pre ++ (key, v) :: post)) (.obj (pre ++ (key, v') :: post)) := by
  obtain ⟨hdataset, -, hshared, hlist, -⟩ := unread_keys hkey
  exact .of_change hdataset (.of_ne hshared v v') fun hk => absurd hk hlist

lemma effect_property_unread (hkey : key ∈ ["quality", "relationships"]) :
    SameProperty (.obj (pre ++ (key, v) :: post)) (.obj (pre ++ (key, v') :: post)) := by
  obtain ⟨-, hcolumn, hshared, hlist, hitems⟩ := unread_keys hkey
  exact .of_change hcolumn (.of_ne hshared v v') (fun hk => absurd hk hlist) fun hk => absurd hk hitems

lemma effect_items_unread (hkey : key ∈ ["quality", "relationships"]) :
    SameLevel (.obj (pre ++ (key, v) :: post)) (.obj (pre ++ (key, v') :: post)) := by
  obtain ⟨-, -, -, hlist, hitems⟩ := unread_keys hkey
  exact .of_change (fun hk => absurd hk hlist) fun hk => absurd hk hitems

/-- A member of a contract that is alike inside. -/
lemma effect_document_member {inner : Place} (hkey : Place.document.member key = some inner)
    (h : Effect inner v v') : ContractAlike key v v' := by
  unfold Place.member at hkey
  dsimp only at hkey
  split_ifs at hkey with hdescription hteam hunread
  · cases hkey
    subst hdescription
    exact ⟨by decide, .of_ne (by decide) v v', fun hk => absurd hk (by decide), fun _ => h,
      fun hk => absurd hk (by decide), fun hk => absurd hk (by decide)⟩
  · cases hkey
    subst hteam
    exact ⟨by decide, .of_ne (by decide) v v', fun hk => absurd hk (by decide), fun hk => absurd hk (by decide),
      fun _ => h, fun hk => absurd hk (by decide)⟩
  · exact contractAlike_unread hunread

lemma effect_member {place inner : Place} (hkey : place.member key = some inner) (h : Effect inner v v') :
    Effect place (.obj (pre ++ (key, v) :: post)) (.obj (pre ++ (key, v') :: post)) := by
  cases place with
  | document => exact ⟨_, _, rfl, rfl, .of_change (effect_document_member hkey h)⟩
  | schemaObject =>
    unfold Place.member at hkey
    dsimp only at hkey
    split_ifs at hkey with hunread
    exact effect_schemaObject_unread hunread
  | property =>
    unfold Place.member at hkey
    dsimp only at hkey
    split_ifs at hkey with hitems hunread
    · cases hkey
      subst hitems
      exact SameProperty.of_change (by decide) (.of_ne (by decide) v v') (fun hk => absurd hk (by decide)) fun _ => h
    · exact effect_property_unread hunread
  | items =>
    unfold Place.member at hkey
    dsimp only at hkey
    split_ifs at hkey with hitems hunread
    · cases hkey
      subst hitems
      exact SameLevel.of_change (fun hk => absurd hk (by decide)) fun _ => h
    · exact effect_items_unread hunread
  | unread => trivial
  | _ => cases hkey

/-- A list member of a contract with one item that is alike inside. -/
lemma effect_document_element {inner : Place} (hkey : Place.document.element key = some inner)
    (h : Effect inner v v') : ContractAlike key (.arr (xs ++ v :: ys)) (.arr (xs ++ v' :: ys)) := by
  unfold Place.element at hkey
  dsimp only at hkey
  split_ifs at hkey with hschema hroles hteam hunread
  · cases hkey
    subst hschema
    exact ⟨by decide, .of_ne (by decide) _ _, fun _ => .of_element h, fun hk => absurd hk (by decide),
      fun hk => absurd hk (by decide), fun hk => absurd hk (by decide)⟩
  · cases hkey
    subst hroles
    exact ⟨by decide, .of_ne (by decide) _ _, fun hk => absurd hk (by decide), fun hk => absurd hk (by decide),
      fun hk => absurd hk (by decide), fun _ => normalizeRoles_of_element h⟩
  · cases hkey
    subst hteam
    exact ⟨by decide, .of_ne (by decide) _ _, fun hk => absurd hk (by decide), fun hk => absurd hk (by decide),
      fun _ => normalizeTeam_arr (normalizeMemberList_of_element h), fun hk => absurd hk (by decide)⟩
  · exact contractAlike_unread hunread

lemma effect_element {place inner : Place} (hkey : place.element key = some inner) (h : Effect inner v v') :
    Effect place (.obj (pre ++ (key, .arr (xs ++ v :: ys)) :: post))
      (.obj (pre ++ (key, .arr (xs ++ v' :: ys)) :: post)) := by
  cases place with
  | document => exact ⟨_, _, rfl, rfl, .of_change (effect_document_element hkey h)⟩
  | schemaObject =>
    unfold Place.element at hkey
    dsimp only at hkey
    split_ifs at hkey with hlist hunread
    · cases hkey
      subst hlist
      exact SameSchemaObject.of_change (by decide) (.of_ne (by decide) _ _) fun _ => .of_element h
    · exact effect_schemaObject_unread hunread
  | property =>
    unfold Place.element at hkey
    dsimp only at hkey
    split_ifs at hkey with hlist hunread
    · cases hkey
      subst hlist
      exact SameProperty.of_change (by decide) (.of_ne (by decide) _ _) (fun _ => .of_element h)
        fun hk => absurd hk (by decide)
    · exact effect_property_unread hunread
  | items =>
    unfold Place.element at hkey
    dsimp only at hkey
    split_ifs at hkey with hlist hunread
    · cases hkey
      subst hlist
      exact SameLevel.of_change (fun _ => .of_element h) fun hk => absurd hk (by decide)
    · exact effect_items_unread hunread
  | team =>
    unfold Place.element at hkey
    dsimp only at hkey
    split_ifs at hkey with hmembers
    cases hkey
    subst hmembers
    exact normalizeTeam_obj (by decide) (fun _ => normalizeMemberList_of_element h) (.of_ne (by decide) _ _)
  | unread => trivial
  | _ => cases hkey

/-- Every permuted list has the effect of its place. -/
theorem Permuted.effect {place : Place} (h : Permuted place v v') : Effect place v v' := by
  induction h with
  | listed hkey hperm => exact effect_listed hkey hperm
  | member hkey _ ih => exact effect_member hkey ih
  | element hkey _ ih => exact effect_element hkey ih

end Places

/-! ### The depth of the document -/

lemma fitsItems_iff {depth : Nat} {items : List Json} :
    fitsItems depth items = true ↔ items = [] ∨ 0 < depth ∧ ∀ j ∈ items, fitsDepth (depth - 1) j = true := by
  induction items with
  | nil => cases depth <;> simp [fitsItems]
  | cons j js ih =>
    cases depth with
    | zero => simp [fitsItems]
    | succ depth =>
      rw [fitsItems, Bool.and_eq_true, ih]
      constructor
      · rintro ⟨hj, rfl | ⟨-, hjs⟩⟩
        · exact Or.inr ⟨Nat.succ_pos _, fun k hk => by rwa [List.mem_singleton.mp hk]⟩
        · exact Or.inr ⟨Nat.succ_pos _, List.forall_mem_cons.mpr ⟨hj, hjs⟩⟩
      · rintro (h | ⟨hpos, h⟩)
        · cases h
        · rw [List.forall_mem_cons] at h
          exact ⟨h.1, Or.inr ⟨hpos, h.2⟩⟩

lemma fitsMembers_iff {depth : Nat} {members : List (String × Json)} :
    fitsMembers depth members = true ↔
      members = [] ∨ 0 < depth ∧ ∀ m ∈ members, fitsDepth (depth - 1) m.2 = true := by
  induction members with
  | nil => cases depth <;> simp [fitsMembers]
  | cons m ms ih =>
    cases depth with
    | zero => simp [fitsMembers]
    | succ depth =>
      rw [fitsMembers, Bool.and_eq_true, ih]
      constructor
      · rintro ⟨hm, rfl | ⟨-, hms⟩⟩
        · exact Or.inr ⟨Nat.succ_pos _, fun k hk => by rwa [List.mem_singleton.mp hk]⟩
        · exact Or.inr ⟨Nat.succ_pos _, List.forall_mem_cons.mpr ⟨hm, hms⟩⟩
      · rintro (h | ⟨hpos, h⟩)
        · cases h
        · rw [List.forall_mem_cons] at h
          exact ⟨h.1, Or.inr ⟨hpos, h.2⟩⟩

/-- A changed member or item that fits leaves the whole fitting. -/
lemma fitsMembers_change {pre post : List (String × Json)} {key : String} {v v' : Json}
    (h : ∀ depth, fitsDepth depth v = true → fitsDepth depth v' = true) {depth : Nat}
    (hok : fitsDepth depth (.obj (pre ++ (key, v) :: post)) = true) :
    fitsDepth depth (.obj (pre ++ (key, v') :: post)) = true := by
  rw [fitsDepth, fitsMembers_iff] at hok ⊢
  obtain ⟨hpos, hall⟩ := hok.resolve_left (by simp)
  simp only [List.forall_mem_append, List.forall_mem_cons] at hall ⊢
  exact Or.inr ⟨hpos, hall.1, h _ hall.2.1, hall.2.2⟩

lemma fitsItems_change {xs ys : List Json} {v v' : Json}
    (h : ∀ depth, fitsDepth depth v = true → fitsDepth depth v' = true) {depth : Nat}
    (hok : fitsDepth depth (.arr (xs ++ v :: ys)) = true) : fitsDepth depth (.arr (xs ++ v' :: ys)) = true := by
  rw [fitsDepth, fitsItems_iff] at hok ⊢
  obtain ⟨hpos, hall⟩ := hok.resolve_left (by simp)
  simp only [List.forall_mem_append, List.forall_mem_cons] at hall ⊢
  exact Or.inr ⟨hpos, hall.1, h _ hall.2.1, hall.2.2⟩

lemma fitsItems_perm {xs ys : List Json} (h : xs.Perm ys) {depth : Nat}
    (hok : fitsDepth depth (.arr xs) = true) : fitsDepth depth (.arr ys) = true := by
  rw [fitsDepth, fitsItems_iff] at hok ⊢
  rcases hok with rfl | ⟨hpos, hall⟩
  · exact Or.inl (List.nil_perm.mp h)
  · exact Or.inr ⟨hpos, fun j hj => hall j (h.mem_iff.mpr hj)⟩

/-- Reordering does not nest deeper. -/
theorem Permuted.fitsDepth {place : Place} {v v' : Json} (h : Permuted place v v') :
    ∀ depth, fitsDepth depth v = true → Odcs.fitsDepth depth v' = true := by
  induction h with
  | listed _ hperm => exact fun depth => fitsMembers_change fun depth => fitsItems_perm hperm
  | member _ _ ih => exact fun depth => fitsMembers_change ih
  | element _ _ ih => exact fun depth => fitsMembers_change fun depth => fitsItems_change ih

/-! ### The result -/

variable {schemaErrors : Json → List OdcsDiagnostic} {casefold : String → String}

lemma validateOdcsDocument_eq_ok {document : Json} {members : List (String × Json)} :
    validateOdcsDocument schemaErrors document = .ok members ↔
      document = .obj members ∧ fitsDepth maxJsonTreeDepth document = true ∧
        Json.lookup members "apiVersion" = some (.str supportedApiVersion) ∧ schemaErrors document = [] := by
  unfold validateOdcsDocument
  cases hdepth : fitsDepth maxJsonTreeDepth document with
  | false => simp
  | true =>
    rw [if_neg (by decide)]
    cases document with
    | obj m =>
      dsimp only
      cases hversion : Json.lookup m "apiVersion" with
      | none =>
        refine iff_of_false (by simp) ?_
        rintro ⟨h, -, hlookup, -⟩
        cases h
        rw [hversion] at hlookup
        cases hlookup
      | some version =>
        dsimp only
        split_ifs with hunsupported herrors
        · refine iff_of_false (by simp) ?_
          rintro ⟨h, -, hlookup, -⟩
          cases h
          rw [hversion, Option.some.injEq] at hlookup
          exact hunsupported hlookup
        · refine iff_of_false (by simp) ?_
          rintro ⟨-, -, -, h⟩
          exact herrors h
        · rw [ne_eq, not_not] at hunsupported herrors
          constructor
          · intro h
            cases h
            exact ⟨rfl, rfl, by rw [hversion, hunsupported], herrors⟩
          · rintro ⟨h, -⟩
            cases h
            rfl
    | _ => simp

/-- One permuted list leaves an accepted contract accepted, with the same graph and observations. -/
theorem result_of_permuted (hvalidator : ∀ d d', Permuted .document d d' → schemaErrors d = [] → schemaErrors d' = [])
    {document document' : Json} (h : Permuted .document document document') {nameSpace : String}
    {result : GovernanceMappingResult}
    (hok : mapOdcsDocumentWithObservations schemaErrors casefold document nameSpace = .ok result) :
    mapOdcsDocumentWithObservations schemaErrors casefold document' nameSpace = .ok result := by
  obtain ⟨ns, hns, hok⟩ := bind_eq_ok.mp hok
  obtain ⟨validated, hvalidated, hok⟩ := bind_eq_ok.mp hok
  obtain ⟨⟨⟩, hsiblings, hok⟩ := bind_eq_ok.mp hok
  obtain ⟨parts, hparts, hresult⟩ := bind_eq_ok.mp hok
  obtain ⟨hdocument, hdepth, hversion, herrors⟩ := validateOdcsDocument_eq_ok.mp hvalidated
  obtain ⟨m, m', hm, rfl, hsame⟩ := h.effect
  rw [hdocument] at hm
  cases hm
  have hvalidated' : validateOdcsDocument schemaErrors (.obj m') = .ok m' :=
    validateOdcsDocument_eq_ok.mpr ⟨rfl, h.fitsDepth _ hdepth, by rw [← hsame.version, hversion],
      hvalidator _ _ h herrors⟩
  obtain ⟨parts', hparts', hsameParts⟩ := hsame.parts _ _ _ hparts
  refine bind_eq_ok.mpr ⟨ns, hns, bind_eq_ok.mpr ⟨m', hvalidated', bind_eq_ok.mpr ⟨(), hsame.siblings hsiblings,
    bind_eq_ok.mpr ⟨parts', hparts', ?_⟩⟩⟩⟩
  exact mapError_eq_ok.mpr (hsameParts.result (mapError_eq_ok.mp hresult))

/-- Contracts that differ in the order of their lists are accepted alike, with the same graph and observations. -/
theorem reordering_harmless
    (hvalidator : ∀ d d', Permuted .document d d' → schemaErrors d = [] → schemaErrors d' = [])
    {document document' : Json} (h : Reordered document document') (nameSpace : String) :
    (mapOdcsDocumentWithObservations schemaErrors casefold document nameSpace).toOption =
      (mapOdcsDocumentWithObservations schemaErrors casefold document' nameSpace).toOption := by
  induction h with
  | refl => rfl
  | tail _ hstep ih =>
    rw [ih]
    apply Option.ext
    intro result
    rw [toOption_eq_some, toOption_eq_some]
    exact ⟨result_of_permuted hvalidator hstep, result_of_permuted hvalidator hstep.symm⟩

section Sample

lemma requiredErrors_permuted {d d' : Json} (h : Permuted .document d d') (herrors : requiredErrors d = []) :
    requiredErrors d' = [] := by
  cases h <;> simpa only [requiredErrors, List.map_append, List.map_cons] using herrors

def quantityProperty : Json := .obj [("name", .str "quantity"), ("tags", .arr [.str "count", .str "stock"])]
def priceProperty : Json := .obj [("name", .str "price"), ("logicalType", .str "number")]

/-- The orders with tags of their own, and properties at the outer level of their batches. -/
def taggedContract (outer tags : List Json) : Json := .obj (ordersContract outer ++ ("tags", .arr tags) :: [])

lemma tags_permuted {outer tags tags' : List Json} (h : tags.Perm tags') :
    Permuted .document (taggedContract outer tags) (taggedContract outer tags') :=
  .listed (by decide) h

/-- The list lies below the schema, a property and its `items`. -/
lemma outer_permuted {outer outer' tags : List Json} (h : outer.Perm outer') :
    Permuted .document (taggedContract outer tags) (taggedContract outer' tags) := by
  have hitems : Permuted .items (.obj ([] ++ ("properties", .arr outer) :: [("items", innerItems)]))
      (.obj ([] ++ ("properties", .arr outer') :: [("items", innerItems)])) := .listed (by decide) h
  have hproperty : Permuted .property (.obj (batchesProperty outer)) (.obj (batchesProperty outer')) :=
    @Permuted.member .property .items "items" [("name", .str "batches")] [] _ _ rfl hitems
  have hobject : Permuted .schemaObject (.obj (ordersObject outer)) (.obj (ordersObject outer')) :=
    @Permuted.element .schemaObject .property "properties" [("name", .str "orders")] [] [] [] _ _ rfl hproperty
  exact @Permuted.element .document .schemaObject "schema" contractHead [("tags", .arr tags)] [] [] _ _ rfl hobject

/-- Tags of the contract and properties within nested `items` are swapped. -/
theorem swapped_tags_alike :
    (mapOdcsDocumentWithObservations requiredErrors id
        (taggedContract [quantityProperty, priceProperty] [.str "sales", .str "gold"]) "n").toOption =
      (mapOdcsDocumentWithObservations requiredErrors id
        (taggedContract [priceProperty, quantityProperty] [.str "gold", .str "sales"]) "n").toOption ∧
    (mapOdcsDocumentWithObservations requiredErrors id
      (taggedContract [quantityProperty, priceProperty] [.str "sales", .str "gold"]) "n").toOption.isSome = true := by
  refine ⟨reordering_harmless (fun _ _ => requiredErrors_permuted) ?_ "n", by decide⟩
  have houter := @outer_permuted _ _ [.str "sales", .str "gold"] (List.Perm.swap priceProperty quantityProperty [])
  exact (Relation.ReflTransGen.single houter).tail (tags_permuted (List.Perm.swap _ _ _))

end Sample

end CollibraGovernance.Odcs
