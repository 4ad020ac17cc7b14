import CollibraGovernance.Library.CanonicalJson

/-! JSON values in canonical member order, as graph attributes and observed values carry them. -/
namespace CollibraGovernance.Identity
open Library

/-- A value whose objects list their members in key order. -/
structure CanonicalValue where
  val : Json
  canonical : val.normalize = val

theorem CanonicalValue.ext {a b : CanonicalValue} (h : a.val = b.val) : a = b := by
  obtain ⟨val, ha⟩ := a
  cases h
  rfl

instance : DecidableEq CanonicalValue := fun a b => decidable_of_iff (a.val = b.val)
  ⟨CanonicalValue.ext, congrArg CanonicalValue.val⟩

/-- `canonicalize_json_value` -/
def canonicalizeJsonValue (value : Json) : CanonicalValue := ⟨value.normalize, value.normalize_idem⟩

@[simp] theorem canonicalizeJsonValue_val (v : CanonicalValue) : canonicalizeJsonValue v.val = v :=
  CanonicalValue.ext v.canonical

/-- `CanonicalObject`: the members of an object in key order. -/
structure CanonicalObject where
  items : List (String × Json)
  canonical : (Json.obj items).normalize = .obj items

theorem CanonicalObject.ext {a b : CanonicalObject} (h : a.items = b.items) : a = b := by
  obtain ⟨items, ha⟩ := a
  cases h
  rfl

instance : DecidableEq CanonicalObject := fun a b => decidable_of_iff (a.items = b.items)
  ⟨CanonicalObject.ext, congrArg CanonicalObject.items⟩

/-- `canonicalize_attributes_object`: no attributes are the empty object. -/
def canonicalizeAttributesObject (attributes : Option (List (String × Json))) : CanonicalObject where
  items := sortBy Prod.fst ((attributes.getD []).map (fun m => (m.1, m.2.normalize)))
  canonical := by
    rw [← Json.normalize_obj]
    exact Json.normalize_idem _

/-- `canonical_value_fingerprint` -/
def canonicalValueFingerprint (value : CanonicalValue) : String := value.val.canonicalJson

theorem canonicalValueFingerprint_inj : Function.Injective canonicalValueFingerprint := by
  intro a b h
  have hnormal := Json.canonicalJson_inj.mp h
  rw [a.canonical, b.canonical] at hnormal
  exact CanonicalValue.ext hnormal

end CollibraGovernance.Identity
