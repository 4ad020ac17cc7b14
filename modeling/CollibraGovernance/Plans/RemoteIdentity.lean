import CollibraGovernance.Collibra.Models
import CollibraGovernance.Identity.Hashing

/-! Managed remote-state identity projection (excludes unmanaged counts). -/
namespace CollibraGovernance.Plans
open Library Collibra Identity

/-- `None` or the string. -/
def optStr : Option String → Json
  | none => .null
  | some s => .str s

@[simp] theorem optStr_inj {a b : Option String} : optStr a = optStr b ↔ a = b := by
  cases a <;> cases b <;> simp [optStr]

@[simp] lemma normalize_optStr (s : Option String) : (optStr s).normalize = optStr s := by
  cases s <;> rfl

def attributeProjection (attr : CollibraRemoteAttribute) : Json :=
  .obj [("attribute_type_ref", .str attr.attributeTypeRef), ("value", .str attr.value)]

def assetProjection (asset : CollibraRemoteAsset) : Json :=
  .obj [("asset_type_ref", .str asset.assetTypeRef), ("display_name", optStr asset.displayName),
    ("domain_ref", .str asset.domainRef), ("local_id", .str asset.localId),
    ("managed_attributes", .arr (asset.managedAttributes.map attributeProjection)),
    ("name", .str asset.name), ("remote_id", .str asset.remoteId)]

def relationshipProjection (rel : CollibraRemoteRelationship) : Json :=
  .obj [("local_key", optStr rel.localKey), ("relation_type_ref", .str rel.relationTypeRef),
    ("remote_id", .str rel.remoteId), ("source_local_id", .str rel.sourceLocalId),
    ("source_remote_id", .str rel.sourceRemoteId), ("target_local_id", .str rel.targetLocalId),
    ("target_remote_id", .str rel.targetRemoteId)]

def remoteStateIdentityProjection (remote : CollibraRemoteState) : Json :=
  .obj [("assets", .arr ((sortBy CollibraRemoteAsset.localId remote.assets).map assetProjection)),
    ("relationships", .arr
      ((sortBy remoteRelationshipSortKey remote.relationships).map relationshipProjection))]

end CollibraGovernance.Plans
