import CollibraGovernance.Domain.Graph
import CollibraGovernance.Library.JsonPointer

/-! Property observations, captured when metadata is mapped and merged by object, path and value. -/
namespace CollibraGovernance.Domain
open Library Identity

/-- RFC 6901 path as its segments. -/
structure PropertyPath where
  segments : List String
  nonempty : segments ≠ []

namespace PropertyPath

theorem ext {a b : PropertyPath} (h : a.segments = b.segments) : a = b := by
  obtain ⟨segments, ha⟩ := a
  cases h
  rfl

instance : DecidableEq PropertyPath := fun a b => decidable_of_iff (a.segments = b.segments)
  ⟨ext, congrArg segments⟩

def create (segments : List String) : Except String PropertyPath :=
  if h : segments ≠ [] then .ok ⟨segments, h⟩
  else .error "PropertyPath requires at least one segment"

def parse (pointer : String) : Except String PropertyPath := do
  create (← parsePointer pointer)

def toPointer (p : PropertyPath) : String := pointerText p.segments

/-- A written path is read back. -/
theorem parse_toPointer (p : PropertyPath) : parse p.toPointer = .ok p := by
  rw [parse, toPointer, parsePointer_pointerText p.nonempty, ok_bind, create, dif_pos p.nonempty]

theorem toPointer_inj : Function.Injective toPointer := by
  intro a b h
  exact ext (pointerText_inj a.nonempty b.nonempty h)

/-- A path that was read is written as the text it was read from. -/
theorem toPointer_of_parse {pointer : String} {p : PropertyPath} (h : parse pointer = .ok p) :
    p.toPointer = pointer := by
  obtain ⟨segments, hsegments, hcreate⟩ := bind_eq_ok.mp h
  rw [create, dif_pos (parsePointer_ne_nil hsegments)] at hcreate
  cases hcreate
  exact pointerText_of_parsePointer hsegments

/-- Reading and writing paths are inverse to each other, so paths are equal exactly when their texts are. -/
theorem parse_toPointer_inverse :
    (∀ (segments : List String) (h : segments ≠ []),
      parse (toPointer ⟨segments, h⟩) = .ok ⟨segments, h⟩) ∧
    (∀ pointer p, parse pointer = .ok p → p.toPointer = pointer) ∧
    ∀ p q : PropertyPath, p = q ↔ p.toPointer = q.toPointer :=
  ⟨fun segments h => parse_toPointer ⟨segments, h⟩, fun _ _ => toPointer_of_parse,
    fun _ _ => toPointer_inj.eq_iff.symm⟩

end PropertyPath

/-- One semantic value for an object and a path, with supporting provenance. -/
structure PropertyObservation where
  objectIdentity : GraphNodeIdentity
  propertyPath : PropertyPath
  value : CanonicalValue
  provenance : List ProvenanceRecord
  observed : provenance ≠ []
  provenance_merged : mergeProvenance provenance = provenance

namespace PropertyObservation

theorem ext {a b : PropertyObservation} (hi : a.objectIdentity = b.objectIdentity)
    (hp : a.propertyPath = b.propertyPath) (hv : a.value = b.value)
    (hprov : a.provenance = b.provenance) : a = b := by
  obtain ⟨i, p, v, r, hr, hm⟩ := a
  cases hi
  cases hp
  cases hv
  cases hprov
  rfl

lemma mergeProvenance_ne_nil {records : List ProvenanceRecord} (h : records ≠ []) :
    mergeProvenance records ≠ [] := by
  obtain ⟨r, hr⟩ := List.exists_mem_of_ne_nil records h
  exact List.ne_nil_of_mem (mem_mergeProvenance.mpr hr)

def create (objectIdentity : GraphNodeIdentity) (propertyPath : PropertyPath) (value : Json)
    (provenance : List ProvenanceRecord) : Except String PropertyObservation :=
  if h : provenance ≠ [] then
    .ok ⟨objectIdentity, propertyPath, canonicalizeJsonValue value, mergeProvenance provenance,
      mergeProvenance_ne_nil h, mergeProvenance_idem provenance⟩
  else .error "PropertyObservation.provenance must be non-empty"

def valueFingerprint (o : PropertyObservation) : String := canonicalValueFingerprint o.value

def groupingKey (o : PropertyObservation) : String × String × String :=
  (o.objectIdentity.canonicalBytes, o.propertyPath.toPointer, o.valueFingerprint)

def toIdentityEntry (o : PropertyObservation) : Json :=
  .obj [("object", o.objectIdentity.toDict), ("property", .str o.propertyPath.toPointer),
    ("provenance", .arr (o.provenance.map ProvenanceRecord.toDict)), ("value", o.value.val)]

def toValueGroupDict (o : PropertyObservation) : Json :=
  .obj [("provenance", .arr (o.provenance.map ProvenanceRecord.toDict)), ("value", o.value.val)]

def sortKey (o : PropertyObservation) : String := o.toIdentityEntry.canonicalJson

lemma groupingKey_eq_iff {a b : PropertyObservation} : a.groupingKey = b.groupingKey ↔
    a.objectIdentity = b.objectIdentity ∧ a.propertyPath = b.propertyPath ∧ a.value = b.value := by
  simp only [groupingKey, Prod.mk.injEq]
  constructor
  · rintro ⟨hi, hp, hv⟩
    exact ⟨GraphNodeIdentity.canonicalBytes_inj hi, PropertyPath.toPointer_inj hp,
      canonicalValueFingerprint_inj hv⟩
  · rintro ⟨hi, hp, hv⟩
    rw [hi, hp, valueFingerprint, valueFingerprint, hv]
    exact ⟨rfl, rfl, rfl⟩

/-- The sort key tells keys apart. -/
lemma groupingKey_of_sortKey {a b : PropertyObservation} (h : a.sortKey = b.sortKey) :
    a.groupingKey = b.groupingKey := by
  have hkeys : SortedBy id ["object", "property", "provenance", "value"] := by decide
  have hnormal := Json.canonicalJson_inj.mp h
  rw [toIdentityEntry, toIdentityEntry, Json.normalize_obj_of_sorted, Json.normalize_obj_of_sorted]
    at hnormal
  · simp only [List.map_cons, Json.obj.injEq, List.cons.injEq, Prod.mk.injEq, true_and,
      GraphNodeIdentity.normalize_toDict, Json.normalize_str, Json.str.injEq, CanonicalValue.canonical]
      at hnormal
    obtain ⟨hi, hp, -, hv, -⟩ := hnormal
    exact groupingKey_eq_iff.mpr
      ⟨GraphNodeIdentity.toDict_inj hi, PropertyPath.toPointer_inj hp, CanonicalValue.ext hv⟩
  · exact hkeys
  · exact hkeys

/-- The observation with the given provenance; no provenance at all leaves it as it is. -/
def withProvenance (o : PropertyObservation) (records : List ProvenanceRecord) :
    PropertyObservation :=
  if h : records ≠ [] then
    { o with
      provenance := mergeProvenance records
      observed := mergeProvenance_ne_nil h
      provenance_merged := mergeProvenance_idem records }
  else o

lemma ne_nil_of_subset {o : PropertyObservation} {records : List ProvenanceRecord}
    (h : o.provenance ⊆ records) : records ≠ [] := by
  obtain ⟨r, hr⟩ := List.exists_mem_of_ne_nil _ o.observed
  exact List.ne_nil_of_mem (h hr)

lemma withProvenance_provenance {o : PropertyObservation} {records : List ProvenanceRecord}
    (h : records ≠ []) : (o.withProvenance records).provenance = mergeProvenance records := by
  rw [withProvenance, dif_pos h]

@[simp] lemma groupingKey_withProvenance (o : PropertyObservation) (records : List ProvenanceRecord) :
    (o.withProvenance records).groupingKey = o.groupingKey := by
  unfold withProvenance
  split_ifs <;> rfl

lemma eq_of_groupingKey {a b : PropertyObservation} (hk : a.groupingKey = b.groupingKey)
    (hprov : a.provenance = b.provenance) : a = b := by
  obtain ⟨hi, hp, hv⟩ := groupingKey_eq_iff.mp hk
  exact ext hi hp hv hprov

end PropertyObservation

/-- How observations of one object, path and value are merged. -/
def observationMerging : Merging PropertyObservation (String × String × String) Unit
    ProvenanceRecord where
  key := PropertyObservation.groupingKey
  payload _ := ()
  tags := PropertyObservation.provenance
  retag := PropertyObservation.withProvenance
  key_retag := PropertyObservation.groupingKey_withProvenance
  payload_retag _ _ := rfl
  mem_tags_retag o ts t h := by
    rw [PropertyObservation.withProvenance_provenance (PropertyObservation.ne_nil_of_subset h),
      mem_mergeProvenance]
  retag_congr a b ts us hk _ ha hb h := by
    apply PropertyObservation.eq_of_groupingKey
    · simpa using hk
    · rw [PropertyObservation.withProvenance_provenance (PropertyObservation.ne_nil_of_subset ha),
        PropertyObservation.withProvenance_provenance (PropertyObservation.ne_nil_of_subset hb),
        mergeProvenance_congr h]
  retag_self o := by
    apply PropertyObservation.eq_of_groupingKey (PropertyObservation.groupingKey_withProvenance ..)
    rw [PropertyObservation.withProvenance_provenance o.observed, o.provenance_merged]

/-- `_normalize_observations`: grouped by object, path and value, provenance united. -/
def normalizeObservations (observations : List PropertyObservation) : List PropertyObservation :=
  sortBy PropertyObservation.sortKey (observationMerging.collapse observations)

/-- What is said of one property: a value, and one record that supports it. -/
def Observed (observations : List PropertyObservation) (i : GraphNodeIdentity) (p : PropertyPath)
    (v : CanonicalValue) (r : ProvenanceRecord) : Prop :=
  ∃ o ∈ observations, o.objectIdentity = i ∧ o.propertyPath = p ∧ o.value = v ∧ r ∈ o.provenance

/-- Two families that say the same of every property. -/
def SameObservations (xs ys : List PropertyObservation) : Prop :=
  ∀ i p v r, Observed xs i p v r ↔ Observed ys i p v r

section Normalize
variable {xs ys : List PropertyObservation}

/-- Every observation is supported by some record. -/
lemma SameObservations.exists_key (h : SameObservations xs ys) {x : PropertyObservation} (hx : x ∈ xs) :
    ∃ y ∈ ys, y.groupingKey = x.groupingKey := by
  obtain ⟨r, hr⟩ := List.exists_mem_of_ne_nil _ x.observed
  obtain ⟨y, hy, hi, hp, hv, -⟩ := (h _ _ _ _).mp ⟨x, hx, rfl, rfl, rfl, hr⟩
  exact ⟨y, hy, PropertyObservation.groupingKey_eq_iff.mpr ⟨hi, hp, hv⟩⟩

lemma sameContent_iff : observationMerging.SameContent xs ys ↔ SameObservations xs ys := by
  have hobserved : ∀ (zs : List PropertyObservation) (o : PropertyObservation) (r : ProvenanceRecord),
      Observed zs o.objectIdentity o.propertyPath o.value r ↔
        ∃ a ∈ zs, a.groupingKey = o.groupingKey ∧ r ∈ a.provenance := by
    intro zs o r
    simp only [Observed, PropertyObservation.groupingKey_eq_iff, and_assoc]
  constructor
  · intro h i p v r
    have hside : ∀ {zs ws : List PropertyObservation}, observationMerging.SameContent zs ws →
        Observed zs i p v r → Observed ws i p v r := by
      rintro zs ws h ⟨o, ho, rfl, rfl, rfl, hr⟩
      exact (hobserved ws o r).mpr ((h.tags o.groupingKey r).mp ⟨o, ho, rfl, hr⟩)
    exact ⟨hside h, hside h.symm⟩
  · intro h
    have hback : SameObservations ys xs := fun i p v r => (h i p v r).symm
    have htags : ∀ {zs ws : List PropertyObservation}, SameObservations zs ws → ∀ k r,
        (∃ a ∈ zs, a.groupingKey = k ∧ r ∈ a.provenance) →
          ∃ b ∈ ws, b.groupingKey = k ∧ r ∈ b.provenance := by
      rintro zs ws h k r ⟨a, ha, rfl, hr⟩
      exact (hobserved ws a r).mp ((h _ _ _ _).mp ((hobserved zs a r).mpr ⟨a, ha, rfl, hr⟩))
    refine ⟨?_, ?_, fun k r => ⟨htags h k r, htags hback k r⟩⟩
    · intro a ha
      obtain ⟨b, hb, hk⟩ := h.exists_key ha
      exact ⟨b, hb, hk, rfl⟩
    · intro b hb
      obtain ⟨a, ha, hk⟩ := hback.exists_key hb
      exact ⟨a, ha, hk, rfl⟩

theorem sameObservations_normalize (xs : List PropertyObservation) :
    SameObservations (normalizeObservations xs) xs := by
  rw [← sameContent_iff]
  have hmem : ∀ o, o ∈ normalizeObservations xs ↔ o ∈ observationMerging.collapse xs :=
    fun o => mem_sortBy
  exact (Merging.sameContent_of_mem hmem).trans (Merging.sameContent_collapse xs)

theorem normalizeObservations_keys_nodup (xs : List PropertyObservation) :
    ((normalizeObservations xs).map PropertyObservation.groupingKey).Nodup :=
  ((sortBy_perm _ _).map _).nodup_iff.mpr (Merging.collapse_keys_nodup (M := observationMerging) xs)

/-- The normalized family depends only on what is said of each property. -/
theorem normalizeObservations_congr (h : SameObservations xs ys) :
    normalizeObservations xs = normalizeObservations ys := by
  apply sortBy_congr_perm (Merging.collapse_perm (sameContent_iff.mpr h))
  intro a ha b hb hab
  exact List.inj_on_of_nodup_map (Merging.collapse_keys_nodup xs) ha hb
    (PropertyObservation.groupingKey_of_sortKey hab)

theorem normalizeObservations_idem (xs : List PropertyObservation) :
    normalizeObservations (normalizeObservations xs) = normalizeObservations xs :=
  normalizeObservations_congr (sameObservations_normalize xs)

end Normalize

/-- Normalized, deterministic set of property observations. -/
structure PropertyObservationSet where
  observations : List PropertyObservation
  normalized : normalizeObservations observations = observations

namespace PropertyObservationSet

theorem ext {a b : PropertyObservationSet} (h : a.observations = b.observations) : a = b := by
  obtain ⟨observations, ha⟩ := a
  cases h
  rfl

def fromObservations (observations : List PropertyObservation) : PropertyObservationSet :=
  ⟨normalizeObservations observations, normalizeObservations_idem observations⟩

def merge (sets : List PropertyObservationSet) : PropertyObservationSet :=
  fromObservations (sets.flatMap observations)

def toIdentityDict (s : PropertyObservationSet) : Json :=
  .obj [("observation_schema", .str "governance-property-observations"),
    ("observation_version", .str "1"),
    ("observations", .arr (s.observations.map PropertyObservation.toIdentityEntry))]

def contentIdentity (sha256 : String → String) (s : PropertyObservationSet) : ContentIdentity :=
  propertyObservationSetIdentity sha256 s.toIdentityDict

theorem fromObservations_congr {xs ys : List PropertyObservation} (h : SameObservations xs ys) :
    fromObservations xs = fromObservations ys := ext (normalizeObservations_congr h)

/-- Merging the sets of the parts gives the set of the whole. -/
theorem merge_map_fromObservations (parts : List (List PropertyObservation)) :
    merge (parts.map fromObservations) = fromObservations parts.flatten := by
  apply fromObservations_congr
  intro i p v r
  have hpart := fun part => sameObservations_normalize part i p v r
  constructor
  · rintro ⟨o, ho, hsays⟩
    rw [List.flatMap_map, List.mem_flatMap] at ho
    obtain ⟨part, hmem, ho⟩ := ho
    obtain ⟨o', ho', hsays'⟩ := (hpart part).mp ⟨o, ho, hsays⟩
    exact ⟨o', List.mem_flatten.mpr ⟨part, hmem, ho'⟩, hsays'⟩
  · rintro ⟨o, ho, hsays⟩
    obtain ⟨part, hmem, ho⟩ := List.mem_flatten.mp ho
    obtain ⟨o', ho', hsays'⟩ := (hpart part).mpr ⟨o, ho, hsays⟩
    rw [List.flatMap_map]
    exact ⟨o', List.mem_flatMap.mpr ⟨part, hmem, ho'⟩, hsays'⟩

end PropertyObservationSet

/-- `PropertyObservationBuilder.build`: one observation for each pending report. -/
def buildObservations
    (pending : List (GraphNodeIdentity × PropertyPath × Json × ProvenanceRecord)) :
    Except String PropertyObservationSet := do
  let observations ← pending.mapM (fun q => PropertyObservation.create q.1 q.2.1 q.2.2.1 [q.2.2.2])
  return .fromObservations observations

end CollibraGovernance.Domain
