import CollibraGovernance.Comparison.Projection

/-! Directional comparison of two projected snapshots. -/
namespace CollibraGovernance.Comparison
open Library Identity

/-- Values are compared by their canonical fingerprints. -/
def propertyValuesEqual : ComparablePropertyValue → ComparablePropertyValue → Bool
  | .missing, .missing => true
  | .present left, .present right => canonicalValueFingerprint left = canonicalValueFingerprint right
  | _, _ => false

theorem propertyValuesEqual_iff {left right : ComparablePropertyValue} :
    propertyValuesEqual left right = true ↔ left = right := by
  cases left with
  | missing => cases right <;> simp [propertyValuesEqual]
  | present v =>
    cases right with
    | missing => simp [propertyValuesEqual]
    | present w => simp [propertyValuesEqual, canonicalValueFingerprint_inj.eq_iff]

structure PropertyChange where
  property : String
  baseline : ComparablePropertyValue
  candidate : ComparablePropertyValue
  deriving DecidableEq

inductive ChangeKind where
  | added | removed | changed
  deriving DecidableEq

namespace ChangeKind

def text : ChangeKind → String
  | added => "added"
  | removed => "removed"
  | changed => "changed"

/-- `CHANGE_RANK` -/
def rank : ChangeKind → Nat
  | added => 0
  | removed => 1
  | changed => 2

theorem rank_inj : Function.Injective rank := by
  intro a b h
  cases a <;> cases b <;> first | rfl | cases h

end ChangeKind

structure ObjectChange where
  change : ChangeKind
  objectIdentity : ComparisonObjectIdentity
  parentIdentity : Option ComparisonObjectIdentity
  propertyChanges : List PropertyChange
  deriving DecidableEq

structure ComparisonSummary where
  added : Nat
  removed : Nat
  changed : Nat
  unchanged : Nat
  propertyChanges : Nat
  deriving DecidableEq

structure ComparisonDiff where
  objectChanges : List ObjectChange
  summary : ComparisonSummary
  deriving DecidableEq

/-- The value of a property; one that is not listed has none. -/
def valueOf (properties : Dict String ComparablePropertyValue) (p : String) : ComparablePropertyValue :=
  (properties.get? p).getD .missing

/-- The keys of both mappings, each once. -/
def unionKeys {κ ν : Type} [DecidableEq κ] (left right : Dict κ ν) : List κ :=
  left.keys ++ right.keys.filter (fun k => k ∉ left.keys)

/-- `_diff_properties` -/
def diffProperties (baseline candidate : Dict String ComparablePropertyValue) : List PropertyChange :=
  (sortBy id (unionKeys baseline candidate)).filterMap (fun p =>
    if propertyValuesEqual (valueOf baseline p) (valueOf candidate p) then none
    else some ⟨p, valueOf baseline p, valueOf candidate p⟩)

abbrev ObjectMap := Dict ComparisonObjectIdentity ComparableObject

/-- The identities with an object here and, or but, none there, in canonical order. -/
def identitiesOnlyIn (here there : ObjectMap) : List ComparisonObjectIdentity :=
  sortBy ComparisonObjectIdentity.canonicalBytes (here.keys.filter (fun i => i ∉ there.keys))

def identitiesInBoth (here there : ObjectMap) : List ComparisonObjectIdentity :=
  sortBy ComparisonObjectIdentity.canonicalBytes (here.keys.filter (fun i => i ∈ there.keys))

/-- An object that one side lacks. -/
def lackingChange (change : ChangeKind) (objects : ObjectMap) (i : ComparisonObjectIdentity) :
    Option ObjectChange :=
  (objects.get? i).map (fun o => ⟨change, i, o.parentIdentity, []⟩)

/-- An object of both sides, with the properties that differ. -/
def matchedChange (baseline candidate : ObjectMap) (i : ComparisonObjectIdentity) : Option ObjectChange :=
  (baseline.get? i).bind (fun left => (candidate.get? i).map (fun right =>
    ⟨.changed, i, left.parentIdentity, diffProperties left.properties right.properties⟩))

def changeKey (c : ObjectChange) : Nat ×ₗ String :=
  toLex (c.change.rank, c.objectIdentity.canonicalBytes)

/-- `compare_projected`, on the objects of the two sides. -/
def compareProjected (baseline candidate : ObjectMap) : ComparisonDiff :=
  let added := identitiesOnlyIn candidate baseline
  let removed := identitiesOnlyIn baseline candidate
  let matched := (identitiesInBoth baseline candidate).filterMap (matchedChange baseline candidate)
  let changed := matched.filter (fun c => c.propertyChanges ≠ [])
  { objectChanges := sortBy changeKey (added.filterMap (lackingChange .added candidate) ++
      removed.filterMap (lackingChange .removed baseline) ++ changed)
    summary :=
      { added := added.length
        removed := removed.length
        changed := changed.length
        unchanged := (matched.filter (fun c => c.propertyChanges = [])).length
        propertyChanges := (changed.flatMap ObjectChange.propertyChanges).length } }

def statusOf (summary : ComparisonSummary) : String :=
  if summary.added = 0 ∧ summary.removed = 0 ∧ summary.changed = 0 then "identical" else "different"

theorem statusOf_eq_identical {summary : ComparisonSummary} : statusOf summary = "identical" ↔
    summary.added = 0 ∧ summary.removed = 0 ∧ summary.changed = 0 := by
  unfold statusOf
  split_ifs with h
  · exact ⟨fun _ => h, fun _ => rfl⟩
  · exact ⟨fun heq => absurd heq (by decide), fun hzero => absurd hzero h⟩

section Properties
variable {left right : Dict String ComparablePropertyValue}

theorem mem_unionKeys {κ ν : Type} [DecidableEq κ] {d e : Dict κ ν} {k : κ} :
    k ∈ unionKeys d e ↔ k ∈ d.keys ∨ k ∈ e.keys := by
  simp only [unionKeys, List.mem_append, List.mem_filter, decide_eq_true_eq]
  by_cases h : k ∈ d.keys <;> simp [h]

theorem unionKeys_nodup {κ ν : Type} [DecidableEq κ] (d e : Dict κ ν) : (unionKeys d e).Nodup := by
  refine List.Nodup.append d.keys_nodup (e.keys_nodup.filter _) ?_
  intro k hk hk'
  exact absurd hk (by simpa using (List.mem_filter.mp hk').2)

lemma valueOf_of_notMem {p : String} (h : p ∉ left.keys) : valueOf left p = .missing := by
  rw [valueOf, Dict.get?_eq_none.mpr h]
  rfl

theorem mem_diffProperties {c : PropertyChange} : c ∈ diffProperties left right ↔
    c.baseline = valueOf left c.property ∧ c.candidate = valueOf right c.property ∧
      c.baseline ≠ c.candidate := by
  rw [diffProperties, List.mem_filterMap]
  constructor
  · rintro ⟨p, -, hp⟩
    split_ifs at hp with heq
    cases hp
    exact ⟨rfl, rfl, mt propertyValuesEqual_iff.mpr heq⟩
  · rintro ⟨hleft, hright, hne⟩
    have hkey : c.property ∈ unionKeys left right := by
      by_contra hnot
      rw [mem_unionKeys, not_or] at hnot
      rw [hleft, hright, valueOf_of_notMem hnot.1, valueOf_of_notMem hnot.2] at hne
      exact hne rfl
    refine ⟨c.property, mem_sortBy.mpr hkey, ?_⟩
    rw [← hleft, ← hright, if_neg (mt propertyValuesEqual_iff.mp hne)]

/-- The differing properties are listed once each, in order. -/
theorem properties_diffProperties : (diffProperties left right).map PropertyChange.property =
    (sortBy id (unionKeys left right)).filter (fun p => !propertyValuesEqual (valueOf left p) (valueOf right p)) := by
  rw [diffProperties, List.map_filterMap, ← List.filterMap_eq_filter]
  refine List.filterMap_congr ?_
  intro p _
  cases h : propertyValuesEqual (valueOf left p) (valueOf right p) <;> simp [Option.guard, h]

lemma diffProperties_nodup : ((diffProperties left right).map PropertyChange.property).Nodup := by
  rw [properties_diffProperties]
  exact ((sortBy_perm _ _).nodup_iff.mpr (unionKeys_nodup _ _)).filter _

lemma diffProperties_sorted : SortedBy id ((diffProperties left right).map PropertyChange.property) := by
  rw [properties_diffProperties]
  exact (sortBy_sorted id _).filter _

/-- Nothing differs when every property has the same value on both sides. -/
theorem diffProperties_eq_nil : diffProperties left right = [] ↔ ∀ p, valueOf left p = valueOf right p := by
  rw [List.eq_nil_iff_forall_not_mem]
  constructor
  · intro h p
    by_contra hne
    exact h ⟨p, valueOf left p, valueOf right p⟩ (mem_diffProperties.mpr ⟨rfl, rfl, hne⟩)
  · intro h c hc
    obtain ⟨hleft, hright, hne⟩ := mem_diffProperties.mp hc
    exact hne (by rw [hleft, hright, h])

/-- The differences are those of the mappings, however they are listed. -/
theorem diffProperties_congr {left' right' : Dict String ComparablePropertyValue} (hl : left.Same left')
    (hr : right.Same right') : diffProperties left right = diffProperties left' right' := by
  have hvalues : ∀ p, valueOf left p = valueOf left' p ∧ valueOf right p = valueOf right' p :=
    fun p => ⟨congrArg (Option.getD · _) (hl p), congrArg (Option.getD · _) (hr p)⟩
  have hkeys : (unionKeys left right).Perm (unionKeys left' right') := by
    rw [List.perm_ext_iff_of_nodup (unionKeys_nodup _ _) (unionKeys_nodup _ _)]
    intro p
    simp only [mem_unionKeys, Dict.mem_keys_iff, hl p, hr p]
  have hsorted : sortBy id (unionKeys left right) = sortBy id (unionKeys left' right') :=
    sortBy_congr_perm hkeys (fun _ _ _ _ h => h)
  rw [diffProperties, diffProperties, hsorted]
  simp only [hvalues]

end Properties

section Objects
variable {baseline candidate baseline' candidate' : ObjectMap}

/-- Objects that differ in nothing but the order in which their properties are listed. -/
structure SameObject (o o' : ComparableObject) : Prop where
  identity : o.objectIdentity = o'.objectIdentity
  parent : o.parentIdentity = o'.parentIdentity
  properties : o.properties.Same o'.properties

def SameObjects (left right : ObjectMap) : Prop :=
  ∀ i, Option.Rel SameObject (left.get? i) (right.get? i)

lemma SameObjects.mem_keys (h : SameObjects baseline baseline') (i : ComparisonObjectIdentity) :
    i ∈ baseline.keys ↔ i ∈ baseline'.keys := by
  rw [Dict.mem_keys_iff, Dict.mem_keys_iff]
  have hi := h i
  generalize baseline.get? i = left, baseline'.get? i = right at hi ⊢
  cases hi with
  | none => rfl
  | some => simp

lemma SameObjects.keys_perm (h : SameObjects baseline baseline') : baseline.keys.Perm baseline'.keys := by
  rw [List.perm_ext_iff_of_nodup baseline.keys_nodup baseline'.keys_nodup]
  exact h.mem_keys

section Congr
variable (hb : SameObjects baseline baseline') (hc : SameObjects candidate candidate')
include hb hc

lemma identitiesOnlyIn_congr : identitiesOnlyIn baseline candidate = identitiesOnlyIn baseline' candidate' := by
  have hfilter : baseline.keys.filter (fun i => i ∉ candidate.keys) =
      baseline.keys.filter (fun i => i ∉ candidate'.keys) :=
    List.filter_congr (fun i _ => by simp only [hc.mem_keys i])
  rw [identitiesOnlyIn, hfilter]
  exact sortBy_congr_perm (hb.keys_perm.filter _)
    (fun _ _ _ _ h => ComparisonObjectIdentity.canonicalBytes_inj h)

lemma identitiesInBoth_congr : identitiesInBoth baseline candidate = identitiesInBoth baseline' candidate' := by
  have hfilter : baseline.keys.filter (fun i => i ∈ candidate.keys) =
      baseline.keys.filter (fun i => i ∈ candidate'.keys) :=
    List.filter_congr (fun i _ => by simp only [hc.mem_keys i])
  rw [identitiesInBoth, hfilter]
  exact sortBy_congr_perm (hb.keys_perm.filter _)
    (fun _ _ _ _ h => ComparisonObjectIdentity.canonicalBytes_inj h)

lemma matchedChange_congr : matchedChange baseline candidate = matchedChange baseline' candidate' := by
  funext i
  have hbi := hb i
  have hci := hc i
  rw [matchedChange, matchedChange]
  generalize baseline.get? i = left, baseline'.get? i = left' at hbi ⊢
  generalize candidate.get? i = right, candidate'.get? i = right' at hci ⊢
  cases hbi with
  | none => rfl
  | some hl =>
    cases hci with
    | none => rfl
    | some hr =>
      simp only [Option.bind_some, Option.map_some, hl.parent, diffProperties_congr hl.properties hr.properties]

end Congr

lemma lackingChange_congr (hb : SameObjects baseline baseline') (change : ChangeKind) :
    lackingChange change baseline = lackingChange change baseline' := by
  funext i
  have hbi := hb i
  rw [lackingChange, lackingChange]
  generalize baseline.get? i = left, baseline'.get? i = left' at hbi ⊢
  cases hbi with
  | none => rfl
  | some hl => simp only [Option.map_some, hl.parent]

/-- The comparison depends on the objects only. -/
theorem compareProjected_congr (hb : SameObjects baseline baseline') (hc : SameObjects candidate candidate') :
    compareProjected baseline candidate = compareProjected baseline' candidate' := by
  simp only [compareProjected, identitiesOnlyIn_congr hb hc, identitiesOnlyIn_congr hc hb,
    identitiesInBoth_congr hb hc, matchedChange_congr hb hc, lackingChange_congr hb, lackingChange_congr hc]

/-- The status is that of two sides with the same objects in which nothing differs. -/
theorem statusOf_compareProjected : statusOf (compareProjected baseline candidate).summary = "identical" ↔
    (∀ i, i ∈ baseline.keys ↔ i ∈ candidate.keys) ∧
      ∀ i left right, baseline.get? i = some left → candidate.get? i = some right →
        diffProperties left.properties right.properties = [] := by
  have honly : ∀ here there : ObjectMap, (identitiesOnlyIn here there).length = 0 ↔
      ∀ i ∈ here.keys, i ∈ there.keys := by
    intro here there
    rw [List.length_eq_zero_iff, List.eq_nil_iff_forall_not_mem]
    simp only [identitiesOnlyIn, mem_sortBy, List.mem_filter, decide_eq_true_eq, not_and, not_not]
  have hchanged : (((identitiesInBoth baseline candidate).filterMap (matchedChange baseline candidate)).filter
      (fun c => c.propertyChanges ≠ [])).length = 0 ↔ ∀ i left right, baseline.get? i = some left →
        candidate.get? i = some right → diffProperties left.properties right.properties = [] := by
    rw [List.length_eq_zero_iff, List.filter_eq_nil_iff]
    simp only [List.mem_filterMap, identitiesInBoth, mem_sortBy, List.mem_filter, decide_eq_true_eq, not_not]
    constructor
    · intro h i left right hleft hright
      exact h ⟨.changed, i, left.parentIdentity, diffProperties left.properties right.properties⟩
        ⟨i, ⟨Dict.mem_keys_iff.mpr ⟨left, hleft⟩, Dict.mem_keys_iff.mpr ⟨right, hright⟩⟩, by
          simp [matchedChange, hleft, hright]⟩
    · rintro h c ⟨i, -, hc⟩
      obtain ⟨left, hleft, hc⟩ := Option.bind_eq_some_iff.mp hc
      obtain ⟨right, hright, rfl⟩ := Option.map_eq_some_iff.mp hc
      exact h i left right hleft hright
  rw [statusOf_eq_identical]
  simp only [compareProjected]
  rw [honly, honly, hchanged]
  constructor
  · rintro ⟨hcandidate, hbaseline, hdiff⟩
    exact ⟨fun i => ⟨hbaseline i, hcandidate i⟩, hdiff⟩
  · rintro ⟨hkeys, hdiff⟩
    exact ⟨fun i => (hkeys i).mpr, fun i => (hkeys i).mp, hdiff⟩

end Objects
end CollibraGovernance.Comparison
