import CollibraGovernance.Domain.Observations

/-! Authority rules: which provenance a property of a kind of object is to be believed from. -/
namespace CollibraGovernance.Domain
open Library Identity

/-- `AUTHORITY_NODE_KINDS` -/
inductive AuthorityNodeKind where
  | dataSource | dataset | table | column | contract | transformation
  deriving DecidableEq

namespace AuthorityNodeKind

def value : AuthorityNodeKind → String
  | .dataSource => nodeKindDataSource
  | .dataset => nodeKindDataset
  | .table => nodeKindTable
  | .column => nodeKindColumn
  | .contract => nodeKindContract
  | .transformation => nodeKindTransformation

def all : List AuthorityNodeKind :=
  [.dataSource, .dataset, .table, .column, .contract, .transformation]

def parse (s : String) : Option AuthorityNodeKind := all.find? (fun k => k.value = s)

lemma value_inj {a b : AuthorityNodeKind} (h : a.value = b.value) : a = b := by
  cases a <;> cases b <;> first | rfl | exact absurd h (by decide)

lemma parse_value (k : AuthorityNodeKind) : parse k.value = some k := by
  cases k <;> decide

end AuthorityNodeKind

/-- An optional text: when present it is not blank. -/
def optionalNonEmptyStr (value : Option String) (fieldName : String) :
    Except String (Option Stripped) :=
  match value with
  | none => .ok none
  | some v => return some (← requireNonEmptyStr v fieldName)

def optionalMember (name : String) (value : Option Stripped) : List (String × Json) :=
  match value with
  | none => []
  | some v => [(name, .str v.val)]

lemma optionalMember_inj {name : String} {a b : Option Stripped}
    (h : optionalMember name a = optionalMember name b) : a = b := by
  cases a with
  | none => cases b <;> simp [optionalMember] at h ⊢
  | some v =>
    cases b with
    | none => simp [optionalMember] at h
    | some w =>
      simp only [optionalMember, List.cons.injEq, Prod.mk.injEq, Json.str.injEq] at h
      rw [Stripped.ext h.1.2]

/-- Exact property selector, of every namespace or of one. -/
@[ext] structure AuthoritySelector where
  kind : AuthorityNodeKind
  propertyPath : PropertyPath
  nameSpace : Option Stripped
  deriving DecidableEq

namespace AuthoritySelector

def create (kind : String) (propertyPath : PropertyPath) (nameSpace : Option String) :
    Except String AuthoritySelector := do
  let kind ← requireNonEmptyStr kind "kind"
  match AuthorityNodeKind.parse kind.val with
  | none => .error ("unsupported authority kind: " ++ kind.val)
  | some k => return ⟨k, propertyPath, ← optionalNonEmptyStr nameSpace "namespace"⟩

def specificityRank (s : AuthoritySelector) : Nat := if s.nameSpace.isSome then 2 else 1

/-- `AuthoritySelector.matches` -/
def matchesProperty (s : AuthoritySelector) (identity : GraphNodeIdentity)
    (propertyPath : PropertyPath) : Bool :=
  if identity.kind.val ≠ s.kind.value then false
  else if propertyPath ≠ s.propertyPath then false
  else s.nameSpace = none ∨ some identity.nameSpace = s.nameSpace

def toDict (s : AuthoritySelector) : Json :=
  .obj ([("kind", .str s.kind.value), ("property", .str s.propertyPath.toPointer)] ++
    optionalMember "namespace" s.nameSpace)

lemma normalize_toDict (s : AuthoritySelector) : s.toDict.normalize =
    .obj ([("kind", .str s.kind.value)] ++ optionalMember "namespace" s.nameSpace ++
      [("property", .str s.propertyPath.toPointer)]) := by
  have hkeys : SortedBy id ["kind", "namespace", "property"] := by decide
  have hkeys' : SortedBy id ["kind", "property"] := by decide
  obtain ⟨k, p, n⟩ := s
  cases n with
  | none => exact Json.normalize_obj_of_sorted hkeys'
  | some v =>
    have hswap : ([("kind", .str k.value), ("property", .str p.toPointer), ("namespace", .str v.val)] :
        List (String × Json)).Perm
        [("kind", .str k.value), ("namespace", .str v.val), ("property", .str p.toPointer)] :=
      (List.Perm.swap _ _ _).cons _
    calc (Json.obj [("kind", .str k.value), ("property", .str p.toPointer),
          ("namespace", .str v.val)]).normalize
        = (Json.obj [("kind", .str k.value), ("namespace", .str v.val),
            ("property", .str p.toPointer)]).normalize := by
          rw [Json.normalize_obj, Json.normalize_obj, sortBy_congr_perm (hswap.map _)]
          simp
      _ = .obj [("kind", .str k.value), ("namespace", .str v.val), ("property", .str p.toPointer)] :=
          Json.normalize_obj_of_sorted hkeys

lemma eq_of_normalize {a b : AuthoritySelector} (h : a.toDict.normalize = b.toDict.normalize) :
    a = b := by
  rw [normalize_toDict, normalize_toDict, Json.obj.injEq] at h
  obtain ⟨hfront, hp⟩ := List.append_inj' h rfl
  simp only [List.cons_append, List.nil_append, List.cons.injEq, Prod.mk.injEq, Json.str.injEq,
    true_and] at hfront hp
  exact AuthoritySelector.ext (AuthorityNodeKind.value_inj hfront.1)
    (PropertyPath.toPointer_inj hp.1) (optionalMember_inj hfront.2)

/-- Two selectors of one specificity that both match a property are the same selector. -/
theorem eq_of_matches {a b : AuthoritySelector} {i : GraphNodeIdentity} {p : PropertyPath}
    (ha : a.matchesProperty i p = true) (hb : b.matchesProperty i p = true)
    (hrank : a.specificityRank = b.specificityRank) : a = b := by
  have hread : ∀ {s : AuthoritySelector}, s.matchesProperty i p = true →
      i.kind.val = s.kind.value ∧ p = s.propertyPath ∧
        (s.nameSpace = none ∨ some i.nameSpace = s.nameSpace) := by
    intro s hs
    unfold matchesProperty at hs
    split_ifs at hs with hk hp
    exact ⟨not_not.mp hk, not_not.mp hp, of_decide_eq_true hs⟩
  obtain ⟨hak, hap, han⟩ := hread ha
  obtain ⟨hbk, hbp, hbn⟩ := hread hb
  have hkind : a.kind = b.kind := AuthorityNodeKind.value_inj (by rw [← hak, ← hbk])
  have hpath : a.propertyPath = b.propertyPath := by rw [← hap, ← hbp]
  have hname : a.nameSpace = b.nameSpace := by
    unfold specificityRank at hrank
    cases han with
    | inl han =>
      cases hbn with
      | inl hbn => rw [han, hbn]
      | inr hbn => simp [han, ← hbn] at hrank
    | inr han =>
      cases hbn with
      | inl hbn => simp [← han, hbn] at hrank
      | inr hbn => rw [← han, ← hbn]
  exact AuthoritySelector.ext hkind hpath hname

end AuthoritySelector

/-- Authoritative provenance: a provider, with every source of it or with one. -/
@[ext] structure AuthorityTarget where
  providerType : Stripped
  sourceRef : Option Stripped
  deriving DecidableEq

namespace AuthorityTarget

def create (providerType : String) (sourceRef : Option String) : Except String AuthorityTarget :=
  return ⟨← requireNonEmptyStr providerType "provider_type",
    ← optionalNonEmptyStr sourceRef "source_ref"⟩

/-- `AuthorityTarget.matches` -/
def matchesRecord (t : AuthorityTarget) (record : ProvenanceRecord) : Bool :=
  if record.providerType ≠ t.providerType then false
  else t.sourceRef = none ∨ some record.sourceRef = t.sourceRef

def toDict (t : AuthorityTarget) : Json :=
  .obj ([("provider_type", .str t.providerType.val)] ++ optionalMember "source_ref" t.sourceRef)

lemma normalize_toDict (t : AuthorityTarget) : t.toDict.normalize = t.toDict := by
  have hkeys : SortedBy id ["provider_type", "source_ref"] := by decide
  obtain ⟨p, r⟩ := t
  cases r with
  | none => rfl
  | some v => exact Json.normalize_obj_of_sorted hkeys

lemma toDict_inj {a b : AuthorityTarget} (h : a.toDict = b.toDict) : a = b := by
  simp only [toDict, Json.obj.injEq, List.cons_append, List.nil_append, List.cons.injEq,
    Prod.mk.injEq, Json.str.injEq, true_and] at h
  exact AuthorityTarget.ext (Stripped.ext h.1) (optionalMember_inj h.2)

end AuthorityTarget

/-- Semantic rule identity: no configuration id, no description. -/
@[ext] structure AuthorityRuleKey where
  selector : AuthoritySelector
  authority : AuthorityTarget
  deriving DecidableEq

namespace AuthorityRuleKey

def toDict (k : AuthorityRuleKey) : Json :=
  .obj [("authority", k.authority.toDict), ("select", k.selector.toDict)]

def canonicalBytes (k : AuthorityRuleKey) : String := k.toDict.canonicalJson

theorem canonicalBytes_inj : Function.Injective canonicalBytes := by
  intro a b h
  have hkeys : SortedBy id ["authority", "select"] := by decide
  have hnormal := Json.canonicalJson_inj.mp h
  rw [toDict, toDict, Json.normalize_obj_of_sorted, Json.normalize_obj_of_sorted] at hnormal
  · simp only [List.map_cons, Json.obj.injEq, List.cons.injEq, Prod.mk.injEq, true_and,
      AuthorityTarget.normalize_toDict] at hnormal
    obtain ⟨ht, hs, -⟩ := hnormal
    exact AuthorityRuleKey.ext (AuthoritySelector.eq_of_normalize hs) (AuthorityTarget.toDict_inj ht)
  · exact hkeys
  · exact hkeys

end AuthorityRuleKey

/-- Where a rule was declared; for audit only. -/
@[ext] structure AuthorityDeclaration where
  configId : Stripped
  description : Option Stripped
  deriving DecidableEq

namespace AuthorityDeclaration

def create (configId : String) (description : Option String) : Except String AuthorityDeclaration :=
  return ⟨← requireNonEmptyStr configId "config_id",
    ← optionalNonEmptyStr description "description"⟩

def sortKey (d : AuthorityDeclaration) : String ×ₗ String :=
  toLex (d.configId.val, (d.description.map Stripped.val).getD "")

theorem sortKey_inj : Function.Injective sortKey := by
  intro a b h
  have hdescription : ∀ d d' : Option Stripped,
      (d.map Stripped.val).getD "" = (d'.map Stripped.val).getD "" → d = d' := by
    intro d d' h
    cases d with
    | none =>
      cases d' with
      | none => rfl
      | some w => exact absurd h.symm (ne_empty_of_not_blank w.nonblank)
    | some v =>
      cases d' with
      | none => exact absurd h (ne_empty_of_not_blank v.nonblank)
      | some w => rw [Stripped.ext h]
  obtain ⟨hc, hd⟩ := Prod.mk.inj (toLex.injective h)
  exact AuthorityDeclaration.ext (Stripped.ext hc) (hdescription _ _ hd)

end AuthorityDeclaration

/-- One semantic rule with the declarations it was collected from. -/
structure NormalizedAuthorityRule where
  key : AuthorityRuleKey
  declarations : List AuthorityDeclaration
  declared : declarations ≠ []
  arranged : sortedDistinct AuthorityDeclaration.sortKey declarations = declarations

namespace NormalizedAuthorityRule

theorem ext {a b : NormalizedAuthorityRule} (hk : a.key = b.key)
    (hd : a.declarations = b.declarations) : a = b := by
  obtain ⟨k, d, hn, ha⟩ := a
  cases hk
  cases hd
  rfl

lemma arrange_ne_nil {ds : List AuthorityDeclaration} (h : ds ≠ []) :
    sortedDistinct AuthorityDeclaration.sortKey ds ≠ [] := by
  obtain ⟨d, hd⟩ := List.exists_mem_of_ne_nil ds h
  exact List.ne_nil_of_mem (mem_sortedDistinct.mpr hd)

/-- The rule with one or more declarations, arranged. -/
def of (key : AuthorityRuleKey) (declarations : List AuthorityDeclaration) (h : declarations ≠ []) :
    NormalizedAuthorityRule :=
  ⟨key, sortedDistinct AuthorityDeclaration.sortKey declarations, arrange_ne_nil h,
    sortedDistinct_idem AuthorityDeclaration.sortKey_inj declarations⟩

def create (key : AuthorityRuleKey) (declarations : List AuthorityDeclaration) :
    Except String NormalizedAuthorityRule :=
  if h : declarations ≠ [] then .ok (of key declarations h)
  else .error "NormalizedAuthorityRule.declarations must be non-empty"

/-- The rule with the given declarations; none at all leave it as it is. -/
def withDeclarations (r : NormalizedAuthorityRule) (declarations : List AuthorityDeclaration) :
    NormalizedAuthorityRule :=
  if h : declarations ≠ [] then of r.key declarations h else r

lemma withDeclarations_of {r : NormalizedAuthorityRule} {ds : List AuthorityDeclaration}
    (h : ds ≠ []) : r.withDeclarations ds = of r.key ds h := dif_pos h

lemma ne_nil_of_subset {r : NormalizedAuthorityRule} {ds : List AuthorityDeclaration}
    (h : r.declarations ⊆ ds) : ds ≠ [] := by
  obtain ⟨d, hd⟩ := List.exists_mem_of_ne_nil _ r.declared
  exact List.ne_nil_of_mem (h hd)

lemma of_congr {k : AuthorityRuleKey} {ds es : List AuthorityDeclaration} {hd : ds ≠ []} {he : es ≠ []}
    (h : ∀ d, d ∈ ds ↔ d ∈ es) : of k ds hd = of k es he :=
  ext rfl (sortedDistinct_congr AuthorityDeclaration.sortKey_inj h)

end NormalizedAuthorityRule

/-- How rules of one key are collapsed. -/
def ruleMerging : Merging NormalizedAuthorityRule AuthorityRuleKey Unit AuthorityDeclaration where
  key := NormalizedAuthorityRule.key
  payload _ := ()
  tags := NormalizedAuthorityRule.declarations
  retag := NormalizedAuthorityRule.withDeclarations
  key_retag r ds := by
    unfold NormalizedAuthorityRule.withDeclarations
    split_ifs <;> rfl
  payload_retag _ _ := rfl
  mem_tags_retag r ds d h := by
    rw [NormalizedAuthorityRule.withDeclarations_of (NormalizedAuthorityRule.ne_nil_of_subset h)]
    exact mem_sortedDistinct
  retag_congr a b ds es hk _ ha hb h := by
    rw [NormalizedAuthorityRule.withDeclarations_of (NormalizedAuthorityRule.ne_nil_of_subset ha),
      NormalizedAuthorityRule.withDeclarations_of (NormalizedAuthorityRule.ne_nil_of_subset hb)]
    simp only [hk]
    exact NormalizedAuthorityRule.of_congr h
  retag_self r := by
    rw [NormalizedAuthorityRule.withDeclarations_of r.declared]
    exact NormalizedAuthorityRule.ext rfl r.arranged

/-- `_normalize_authority_rules`: one rule for each key, declarations united. -/
def normalizeAuthorityRules (rules : List NormalizedAuthorityRule) : List NormalizedAuthorityRule :=
  sortBy (fun r => r.key.canonicalBytes) (ruleMerging.collapse rules)

/-- A rule key is declared by one of the rules. -/
def Declares (rules : List NormalizedAuthorityRule) (k : AuthorityRuleKey)
    (d : AuthorityDeclaration) : Prop :=
  ∃ r ∈ rules, r.key = k ∧ d ∈ r.declarations

section Normalize
variable {xs ys : List NormalizedAuthorityRule}

lemma ruleMerging_sameContent_iff : ruleMerging.SameContent xs ys ↔
    ∀ k d, Declares xs k d ↔ Declares ys k d := by
  constructor
  · intro h
    exact h.tags
  · intro h
    have hkey : ∀ {zs ws : List NormalizedAuthorityRule}, (∀ k d, Declares zs k d ↔ Declares ws k d) →
        ∀ r ∈ zs, ∃ r' ∈ ws, r'.key = r.key ∧ () = () := by
      intro zs ws h r hr
      obtain ⟨d, hd⟩ := List.exists_mem_of_ne_nil _ r.declared
      obtain ⟨r', hr', hk, -⟩ := (h _ _).mp ⟨r, hr, rfl, hd⟩
      exact ⟨r', hr', hk, rfl⟩
    exact ⟨hkey h, hkey (fun k d => (h k d).symm), h⟩

lemma sameContent_normalizeAuthorityRules (rules : List NormalizedAuthorityRule) :
    ruleMerging.SameContent (normalizeAuthorityRules rules) rules := by
  have hmem : ∀ r, r ∈ normalizeAuthorityRules rules ↔ r ∈ ruleMerging.collapse rules :=
    fun r => mem_sortBy
  exact (Merging.sameContent_of_mem hmem).trans (Merging.sameContent_collapse rules)

theorem declares_normalizeAuthorityRules {rules : List NormalizedAuthorityRule} {k : AuthorityRuleKey}
    {d : AuthorityDeclaration} : Declares (normalizeAuthorityRules rules) k d ↔ Declares rules k d :=
  (sameContent_normalizeAuthorityRules rules).tags k d

theorem normalizeAuthorityRules_keys_nodup (rules : List NormalizedAuthorityRule) :
    ((normalizeAuthorityRules rules).map NormalizedAuthorityRule.key).Nodup :=
  ((sortBy_perm _ _).map _).nodup_iff.mpr (Merging.collapse_keys_nodup (M := ruleMerging) rules)

/-- The normalized rules depend only on what is declared of each key. -/
theorem normalizeAuthorityRules_congr (h : ∀ k d, Declares xs k d ↔ Declares ys k d) :
    normalizeAuthorityRules xs = normalizeAuthorityRules ys := by
  apply sortBy_congr_perm (Merging.collapse_perm (ruleMerging_sameContent_iff.mpr h))
  intro a ha b hb hab
  exact List.inj_on_of_nodup_map (Merging.collapse_keys_nodup (M := ruleMerging) xs) ha hb
    (AuthorityRuleKey.canonicalBytes_inj hab)

theorem normalizeAuthorityRules_idem (rules : List NormalizedAuthorityRule) :
    normalizeAuthorityRules (normalizeAuthorityRules rules) = normalizeAuthorityRules rules :=
  normalizeAuthorityRules_congr (fun _ _ => declares_normalizeAuthorityRules)

end Normalize

/-- Deterministic normalized authority rule set. -/
structure NormalizedAuthorityPolicySet where
  rules : List NormalizedAuthorityRule
  normalized : normalizeAuthorityRules rules = rules

namespace NormalizedAuthorityPolicySet

theorem ext {a b : NormalizedAuthorityPolicySet} (h : a.rules = b.rules) : a = b := by
  obtain ⟨rules, ha⟩ := a
  cases h
  rfl

def of (rules : List NormalizedAuthorityRule) : NormalizedAuthorityPolicySet :=
  ⟨normalizeAuthorityRules rules, normalizeAuthorityRules_idem rules⟩

def toIdentityDict (s : NormalizedAuthorityPolicySet) : Json :=
  .obj [("authority_schema", .str "governance-authority"), ("authority_version", .str "1"),
    ("rules", .arr (s.rules.map (fun r => r.key.toDict)))]

def contentIdentity (sha256 : String → String) (s : NormalizedAuthorityPolicySet) :
    ContentIdentity := authorityIdentity sha256 s.toIdentityDict

def matchingRules (s : NormalizedAuthorityPolicySet) (identity : GraphNodeIdentity)
    (propertyPath : PropertyPath) : List NormalizedAuthorityRule :=
  s.rules.filter (fun r => r.key.selector.matchesProperty identity propertyPath)

theorem of_congr {xs ys : List NormalizedAuthorityRule}
    (h : ∀ k d, Declares xs k d ↔ Declares ys k d) : of xs = of ys :=
  ext (normalizeAuthorityRules_congr h)

theorem keys_nodup (s : NormalizedAuthorityPolicySet) :
    (s.rules.map NormalizedAuthorityRule.key).Nodup := by
  rw [← s.normalized]
  exact normalizeAuthorityRules_keys_nodup s.rules

lemma keys_sorted (s : NormalizedAuthorityPolicySet) :
    SortedBy AuthorityRuleKey.canonicalBytes (s.rules.map NormalizedAuthorityRule.key) := by
  rw [← s.normalized]
  exact (SortedBy.map (fun _ => rfl)).mpr (sortBy_sorted _ _)

lemma mem_keys {s : NormalizedAuthorityPolicySet} {k : AuthorityRuleKey} :
    k ∈ s.rules.map NormalizedAuthorityRule.key ↔ ∃ d, Declares s.rules k d := by
  constructor
  · intro hk
    obtain ⟨r, hr, rfl⟩ := List.mem_map.mp hk
    obtain ⟨d, hd⟩ := List.exists_mem_of_ne_nil _ r.declared
    exact ⟨d, r, hr, rfl, hd⟩
  · rintro ⟨d, r, hr, rfl, -⟩
    exact List.mem_map_of_mem hr

/-- Sets that declare something of the same keys list the same keys. -/
theorem keys_congr {s s' : NormalizedAuthorityPolicySet}
    (h : ∀ k, (∃ d, Declares s.rules k d) ↔ ∃ d, Declares s'.rules k d) :
    s.rules.map NormalizedAuthorityRule.key = s'.rules.map NormalizedAuthorityRule.key := by
  have hperm : (s.rules.map NormalizedAuthorityRule.key).Perm
      (s'.rules.map NormalizedAuthorityRule.key) := by
    rw [List.perm_ext_iff_of_nodup s.keys_nodup s'.keys_nodup]
    intro k
    rw [mem_keys, mem_keys, h]
  exact eq_of_perm_of_sorted hperm s.keys_sorted s'.keys_sorted
    (fun _ _ _ _ hab => AuthorityRuleKey.canonicalBytes_inj hab)

/-- The content identity is one of the keys. -/
theorem contentIdentity_congr (sha256 : String → String) {s s' : NormalizedAuthorityPolicySet}
    (h : s.rules.map NormalizedAuthorityRule.key = s'.rules.map NormalizedAuthorityRule.key) :
    s.contentIdentity sha256 = s'.contentIdentity sha256 := by
  have hdicts : ∀ s : NormalizedAuthorityPolicySet, s.rules.map (fun r => r.key.toDict) =
      (s.rules.map NormalizedAuthorityRule.key).map AuthorityRuleKey.toDict := by
    intro s
    rw [List.map_map]
    rfl
  rw [contentIdentity, contentIdentity, toIdentityDict, toIdentityDict, hdicts, hdicts, h]

end NormalizedAuthorityPolicySet
end CollibraGovernance.Domain
