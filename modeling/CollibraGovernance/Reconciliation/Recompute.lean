import CollibraGovernance.Library.RecursiveSchema
import CollibraGovernance.Reconciliation.Assumptions

/-! Recomputing saved assumptions: the boundary stays the saved one, the decisions are the current ones. -/
namespace CollibraGovernance.Reconciliation
open Library Identity Domain Collibra

section Recompute
variable (isPrintable : Char → Bool)

/-- `value or []`, as a list -/
def itemsOf (j : Json) : Except String (List Json) :=
  if j.truthy then j.asArray "TypeError: not a list" else .ok []

@[simp] lemma itemsOf_arr (items : List Json) : itemsOf (.arr items) = .ok items := by
  cases items <;> rfl

/-- `identity_from_saved_object` and `_parent_from_dict` -/
def identityFromSavedObject (payload : Json) : Except String GraphNodeIdentity :=
  match payload with
  | .obj members => do
    let nameSpace ← Json.item members "namespace"
    let kind ← Json.item members "kind"
    let logicalId ← Json.item members "logical_id"
    let parent ← if Json.get members "parent" = .null then .ok none
      else (identityFromSavedObject (Json.get members "parent")).map some
    GraphNodeIdentity.create (nameSpace.pyStr isPrintable) (kind.pyStr isPrintable)
      (logicalId.pyStr isPrintable) parent
  | _ => .error "TypeError: parent must be a mapping or null"
termination_by payload.depth
decreasing_by exact Json.depth_get_lt members "parent"

variable (conflictReport : PropertyConflictReport)

/-- A property of the saved boundary with the current decision about it, under its sort key. -/
def recomputedProperty (prop : Json) : Except String ((String ×ₗ String) × Json) := do
  let members ← prop.asMapping "TypeError: property must be a mapping"
  let object ← Json.item members "object"
  let identity ← identityFromSavedObject isPrintable object
  let pointer := (← Json.item members "property").pyStr isPrintable
  let result := (resultLookup conflictReport).get? (identity.canonicalBytes, pointer)
  let roles ← (← Json.item members "roles").asArray "TypeError: roles must be a list"
  return (toLex (identity.canonicalBytes, pointer),
    .obj [("decision", (result.map decisionFromResult).getD .null), ("object", object),
      ("property", .str pointer), ("roles", .arr roles)])

def recomputedAction (action : Json) : Except String ((String ×ₗ String ×ₗ String) × Json) := do
  let members ← action.asMapping "AttributeError: action must be a mapping"
  let saved ← itemsOf (Json.get members "properties")
  let properties ← saved.mapM (recomputedProperty isPrintable conflictReport)
  let actionType ← Json.item members "action_type"
  let localId ← Json.item members "local_id"
  let objectKind ← Json.item members "object_kind"
  return (toLex (objectKind.pyStr isPrintable,
      toLex (localId.pyStr isPrintable, actionType.pyStr isPrintable)),
    .obj [("action_type", actionType), ("local_id", localId), ("object_kind", objectKind),
      ("properties", .arr ((sortBy Prod.fst properties).map Prod.snd))])

def recomputeAssumptionsOnSavedBoundary (savedAssumptions : Json) : Except String Json := do
  let members ← savedAssumptions.asMapping "AttributeError: assumptions must be a mapping"
  let saved ← itemsOf (Json.get members "actions")
  let actions ← saved.mapM (recomputedAction isPrintable conflictReport)
  return .obj [("actions", .arr ((sortBy Prod.fst actions).map Prod.snd)),
    ("assumptions_schema", .str reconciliationAssumptionsSchema),
    ("assumptions_version", .str reconciliationAssumptionsVersion)]

end Recompute

/-! Documents are read alike in any order of their members. -/

section Read
variable {j : Json}

lemma eq_str_of_normalize {s : String} (h : j.normalize = .str s) : j = .str s := by
  cases j with
  | str t => exact h
  | obj members => simp at h
  | arr items => simp at h
  | _ => cases h

lemma eq_null_of_normalize (h : j.normalize = .null) : j = .null := by
  cases j with
  | null => rfl
  | obj members => simp at h
  | arr items => simp at h
  | _ => cases h

lemma exists_arr_of_normalize {items : List Json} (h : j.normalize = .arr items) :
    ∃ own, j = .arr own ∧ own.map Json.normalize = items := by
  cases j with
  | arr own => exact ⟨own, rfl, by simpa using h⟩
  | obj members => simp at h
  | _ => cases h

/-- What is written like an object is an object that tells the same under every key. -/
lemma exists_obj_of_normalize {ms : List (String × Json)} (h : j.normalize = (Json.obj ms).normalize) :
    ∃ members, j = .obj members ∧
      ∀ key, (Json.lookup members key).map Json.normalize = (Json.lookup ms key).map Json.normalize := by
  rw [Json.normalize_obj_eq] at h
  cases j with
  | obj members =>
    rw [Json.normalize_obj_eq, Json.obj.injEq] at h
    refine ⟨members, rfl, ?_⟩
    intro key
    rw [← Json.lookup_sortedMembers, ← Json.lookup_sortedMembers, h]
  | arr items => simp at h
  | _ => cases h

section Members
variable {members ms : List (String × Json)} {v : Json}
  (h : ∀ key, (Json.lookup members key).map Json.normalize = (Json.lookup ms key).map Json.normalize)
include h

lemma item_of_same (key : String) (hv : Json.lookup ms key = some v) :
    ∃ w, Json.item members key = .ok w ∧ w.normalize = v.normalize := by
  have hkey := h key
  rw [hv] at hkey
  obtain ⟨w, hw, hwv⟩ := Option.map_eq_some_iff.mp hkey
  exact ⟨w, by rw [Json.item, hw], hwv⟩

lemma get_of_same (key : String) (hv : Json.lookup ms key = some v) : (Json.get members key).normalize = v.normalize := by
  have hkey := h key
  rw [hv] at hkey
  obtain ⟨w, hw, hwv⟩ := Option.map_eq_some_iff.mp hkey
  rw [Json.get_of_lookup hw, hwv]

lemma item_str_of_same (key : String) {s : String} (hv : Json.lookup ms key = some (.str s)) :
    Json.item members key = .ok (.str s) := by
  obtain ⟨w, hw, hnormal⟩ := item_of_same h key hv
  rw [hw, eq_str_of_normalize hnormal]

end Members
end Read
end CollibraGovernance.Reconciliation
