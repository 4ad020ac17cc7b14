import CollibraGovernance.Domain.Observations

/-! The normal form of a family of observations, and the algebra of merging observation sets. -/
namespace CollibraGovernance.Domain
open Library Identity

namespace PropertyObservation

/-- Observations of one object, path and value. -/
def SameSubject (a b : PropertyObservation) : Prop :=
  a.objectIdentity = b.objectIdentity ∧ a.propertyPath = b.propertyPath ∧ a.value = b.value

lemma sameSubject_iff {a b : PropertyObservation} : a.SameSubject b ↔ a.groupingKey = b.groupingKey :=
  groupingKey_eq_iff.symm

end PropertyObservation

section NormalForm
variable {family : List PropertyObservation} {o o' x : PropertyObservation}

theorem eq_of_sameSubject (ho : o ∈ normalizeObservations family)
    (ho' : o' ∈ normalizeObservations family) (h : o.SameSubject o') : o = o' :=
  List.inj_on_of_nodup_map (normalizeObservations_keys_nodup family) ho ho'
    (PropertyObservation.sameSubject_iff.mp h)

theorem exists_normalized (hx : x ∈ family) : ∃ o ∈ normalizeObservations family, o.SameSubject x := by
  have hsame : SameObservations family (normalizeObservations family) :=
    fun i p v r => (sameObservations_normalize family i p v r).symm
  obtain ⟨o, ho, hkey⟩ := hsame.exists_key hx
  exact ⟨o, ho, PropertyObservation.sameSubject_iff.mpr hkey⟩

theorem exists_observed (ho : o ∈ normalizeObservations family) : ∃ x ∈ family, x.SameSubject o := by
  obtain ⟨x, hx, hkey⟩ := (sameObservations_normalize family).exists_key ho
  exact ⟨x, hx, PropertyObservation.sameSubject_iff.mpr hkey⟩

/-- A normalized observation carries the records of the family that support it, and no other. -/
theorem mem_provenance_normalized (ho : o ∈ normalizeObservations family) (r : ProvenanceRecord) :
    r ∈ o.provenance ↔ ∃ x ∈ family, x.SameSubject o ∧ r ∈ x.provenance := by
  have hsame := sameObservations_normalize family o.objectIdentity o.propertyPath o.value r
  constructor
  · intro hr
    obtain ⟨x, hx, hi, hp, hv, hr⟩ := hsame.mp ⟨o, ho, rfl, rfl, rfl, hr⟩
    exact ⟨x, hx, ⟨hi, hp, hv⟩, hr⟩
  · rintro ⟨x, hx, ⟨hi, hp, hv⟩, hr⟩
    obtain ⟨o', ho', hi', hp', hv', hr'⟩ := hsame.mpr ⟨x, hx, hi, hp, hv, hr⟩
    exact eq_of_sameSubject ho' ho ⟨hi', hp', hv'⟩ ▸ hr'

/-- One observation for each object, path and value that the family mentions. -/
theorem existsUnique_normalized (hx : x ∈ family) :
    ∃! o, o ∈ normalizeObservations family ∧ o.SameSubject x := by
  obtain ⟨o, ho, hsubject⟩ := exists_normalized hx
  refine ⟨o, ⟨ho, hsubject⟩, ?_⟩
  rintro o' ⟨ho', hsubject'⟩
  apply eq_of_sameSubject ho' ho
  rw [PropertyObservation.sameSubject_iff] at hsubject hsubject' ⊢
  exact hsubject'.trans hsubject.symm

end NormalForm

namespace PropertyObservationSet

theorem observed_merge (sets : List PropertyObservationSet) (i : GraphNodeIdentity) (p : PropertyPath)
    (v : CanonicalValue) (r : ProvenanceRecord) : Observed (merge sets).observations i p v r ↔
      ∃ s ∈ sets, Observed s.observations i p v r := by
  refine (sameObservations_normalize _ i p v r).trans ?_
  constructor
  · rintro ⟨o, ho, hsays⟩
    obtain ⟨s, hs, ho⟩ := List.mem_flatMap.mp ho
    exact ⟨s, hs, o, ho, hsays⟩
  · rintro ⟨s, hs, o, ho, hsays⟩
    exact ⟨o, List.mem_flatMap.mpr ⟨s, hs, ho⟩, hsays⟩

/-- A set is what it says of each property. -/
theorem eq_of_sameObservations {a b : PropertyObservationSet}
    (h : SameObservations a.observations b.observations) : a = b := by
  apply ext
  rw [← a.normalized, ← b.normalized]
  exact normalizeObservations_congr h

/-- Merging merged parts merges all of them. -/
theorem merge_merge (parts : List (List PropertyObservationSet)) :
    merge (parts.map merge) = merge parts.flatten := by
  apply eq_of_sameObservations
  intro i p v r
  rw [observed_merge, observed_merge]
  constructor
  · rintro ⟨merged, hmerged, hsays⟩
    obtain ⟨part, hpart, rfl⟩ := List.mem_map.mp hmerged
    obtain ⟨s, hs, hsays⟩ := (observed_merge part i p v r).mp hsays
    exact ⟨s, List.mem_flatten.mpr ⟨part, hpart, hs⟩, hsays⟩
  · rintro ⟨s, hs, hsays⟩
    obtain ⟨part, hpart, hs⟩ := List.mem_flatten.mp hs
    exact ⟨_, List.mem_map_of_mem hpart, (observed_merge part i p v r).mpr ⟨s, hs, hsays⟩⟩

/-- Merging depends only on which sets take part. -/
theorem merge_congr {sets sets' : List PropertyObservationSet} (h : ∀ s, s ∈ sets ↔ s ∈ sets') :
    merge sets = merge sets' := by
  apply eq_of_sameObservations
  intro i p v r
  simp only [observed_merge, h]

@[simp] theorem merge_singleton (s : PropertyObservationSet) : merge [s] = s := by
  apply eq_of_sameObservations
  intro i p v r
  simp only [observed_merge, List.mem_singleton, exists_eq_left]

end PropertyObservationSet

/-- Normalizing merges by object, path and value and neither loses nor adds a fact; merging sets is
associative, commutative and idempotent. -/
theorem observations_normal_form (family : List PropertyObservation) (a b c : PropertyObservationSet) :
    (∀ x ∈ family, ∃! o, o ∈ normalizeObservations family ∧ o.SameSubject x) ∧
    (normalizeObservations family).Nodup ∧
    (∀ o ∈ normalizeObservations family, (∃ x ∈ family, x.SameSubject o) ∧
      ∀ r, r ∈ o.provenance ↔ ∃ x ∈ family, x.SameSubject o ∧ r ∈ x.provenance) ∧
    (∀ i p v r, Observed (normalizeObservations family) i p v r ↔ Observed family i p v r) ∧
    PropertyObservationSet.merge [.merge [a, b], c] = .merge [a, .merge [b, c]] ∧
    PropertyObservationSet.merge [a, b] = .merge [b, a] ∧
    PropertyObservationSet.merge [a, a] = a := by
  refine ⟨fun x hx => existsUnique_normalized hx, ?_, ?_, sameObservations_normalize family, ?_, ?_, ?_⟩
  · exact (normalizeObservations_keys_nodup family).of_map _
  · exact fun o ho => ⟨exists_observed ho, mem_provenance_normalized ho⟩
  · have hleft := PropertyObservationSet.merge_merge [[a, b], [c]]
    have hright := PropertyObservationSet.merge_merge [[a], [b, c]]
    simp only [List.map_cons, List.map_nil, PropertyObservationSet.merge_singleton] at hleft hright
    exact hleft.trans hright.symm
  · exact PropertyObservationSet.merge_congr fun s => by simp [or_comm]
  · have hsets : ∀ s, s ∈ [a, a] ↔ s ∈ [a] := fun s => by simp
    exact (PropertyObservationSet.merge_congr hsets).trans (PropertyObservationSet.merge_singleton a)

end CollibraGovernance.Domain
