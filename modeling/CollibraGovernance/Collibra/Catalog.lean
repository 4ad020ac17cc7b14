import CollibraGovernance.Collibra.FreshPlan
import Mathlib.Data.Multiset.Filter

/-! A catalog as both adapters stand for one: what a run of the executor makes of it depends on how
the adapter patches an asset and on the ids it hands out, and on nothing else. -/
namespace CollibraGovernance.Collibra
open Library

/-- What a catalog keeps of one asset. -/
structure CatalogAsset where
  name : String
  displayName : Option String
  assetTypeRef : String
  domainRef : String
  value : String → Option String

/-- Source, target and type of a stored relationship. -/
abbrev CatalogLink : Type := String × String × String

/-- Assets by remote id, and the relationships between remote ids. -/
structure Catalog where
  assets : String → Option CatalogAsset
  links : Multiset CatalogLink

namespace Catalog

/-- The catalog with one asset stored under an id. -/
def put (c : Catalog) (id : String) (a : CatalogAsset) : Catalog :=
  { c with assets := Function.update c.assets id (some a) }

/-- The catalog with one more relationship. -/
def link (c : Catalog) (l : CatalogLink) : Catalog := { c with links := l ::ₘ c.links }

@[simp] theorem put_links (c : Catalog) (id : String) (a : CatalogAsset) : (c.put id a).links = c.links := rfl

@[simp] theorem link_assets (c : Catalog) (l : CatalogLink) : (c.link l).assets = c.assets := rfl

@[simp] theorem put_assets_self (c : Catalog) (id : String) (a : CatalogAsset) :
    (c.put id a).assets id = some a := Function.update_self ..

theorem put_assets_of_ne (c : Catalog) {id id' : String} (a : CatalogAsset) (h : id' ≠ id) :
    (c.put id a).assets id' = c.assets id' := Function.update_of_ne h ..

/-- Every relationship runs between stored assets. -/
def Closed (c : Catalog) : Prop :=
  ∀ l ∈ c.links, (c.assets l.1).isSome = true ∧ (c.assets l.2.1).isSome = true

end Catalog

section Reading
variable (config : CollibraMappingConfig)

/-- The value a desired asset asks for, of a managed attribute type. -/
def specValue (a : CollibraAssetSpec) (t : String) : Option String :=
  if t ∈ config.attributeTypeRefs.values then (attributeMap a.attributes).get? t else none

/-- The asset that a create stores. -/
def CatalogAsset.ofSpec (a : CollibraAssetSpec) : CatalogAsset :=
  ⟨a.name, a.displayName, a.assetTypeRef, a.domainRef, specValue config a⟩

/-- The local id under which an asset is managed. -/
def CatalogAsset.managedAs (a : CatalogAsset) : Option String :=
  if a.domainRef = config.domainRef ∧ a.assetTypeRef ∈ config.assetTypeRefs.values then
    (a.value config.attributeTypeRefs.localId).filter (fun v => !isBlank v)
  else none

/-- The local id under which the asset of an id is managed. -/
def Catalog.localIdOf (c : Catalog) (id : String) : Option String :=
  (c.assets id).bind (CatalogAsset.managedAs config)

/-- Remote and local ids of the ends of a relationship, and its type. -/
abbrev LinkView : Type := String × String × String × String × String

/-- What a read shows of a relationship, when both of its ends and its type are managed. -/
def Catalog.shownLink (c : Catalog) (l : CatalogLink) : Option LinkView :=
  if l.2.2 ∈ config.relationTypeRefs.values then
    (c.localIdOf config l.1).bind fun source => (c.localIdOf config l.2.1).map fun target =>
      (l.1, l.2.1, source, target, l.2.2)
  else none

def relationshipView (r : CollibraRemoteRelationship) : LinkView :=
  (r.sourceRemoteId, r.targetRemoteId, r.sourceLocalId, r.targetLocalId, r.relationTypeRef)

lemma assetTypeRef_create {remoteId localId name assetTypeRef domainRef : String} {displayName : Option String}
    {attributes : List CollibraRemoteAttribute} {r : CollibraRemoteAsset}
    (h : CollibraRemoteAsset.create remoteId localId name assetTypeRef domainRef displayName attributes = .ok r) :
    r.assetTypeRef = assetTypeRef := by
  obtain ⟨_, -, h⟩ := bind_eq_ok.mp h
  obtain ⟨_, -, h⟩ := bind_eq_ok.mp h
  obtain ⟨_, -, h⟩ := bind_eq_ok.mp h
  obtain ⟨type, htype, h⟩ := bind_eq_ok.mp h
  obtain ⟨_, -, h⟩ := bind_eq_ok.mp h
  obtain rfl := pure_eq_ok.mp h
  exact requireNonEmpty_eq_ok htype

lemma relationshipView_create {remoteId sourceRemoteId targetRemoteId sourceLocalId targetLocalId relationTypeRef : String}
    {localKey : Option String} {r : CollibraRemoteRelationship}
    (h : CollibraRemoteRelationship.create remoteId sourceRemoteId targetRemoteId sourceLocalId targetLocalId
      relationTypeRef localKey = .ok r) :
    relationshipView r = (sourceRemoteId, targetRemoteId, sourceLocalId, targetLocalId, relationTypeRef) := by
  obtain ⟨_, -, h⟩ := bind_eq_ok.mp h
  obtain ⟨sr, hsr, h⟩ := bind_eq_ok.mp h
  obtain ⟨tr, htr, h⟩ := bind_eq_ok.mp h
  obtain ⟨sl, hsl, h⟩ := bind_eq_ok.mp h
  obtain ⟨tl, htl, h⟩ := bind_eq_ok.mp h
  obtain ⟨y, hy, h⟩ := bind_eq_ok.mp h
  obtain rfl := pure_eq_ok.mp h
  simp only [relationshipView, requireNonEmpty_eq_ok hsr, requireNonEmpty_eq_ok htr, requireNonEmpty_eq_ok hsl,
    requireNonEmpty_eq_ok htl, requireNonEmpty_eq_ok hy]

/-- A record shows the asset of its remote id. -/
structure RecordShows (c : Catalog) (r : CollibraRemoteAsset) (a : CatalogAsset) : Prop where
  stored : c.assets r.remoteId = some a
  managed : a.managedAs config = some r.localId
  name : r.name = a.name
  displayName : r.displayName = a.displayName
  assetTypeRef : r.assetTypeRef = a.assetTypeRef
  types : (r.managedAttributes.map CollibraRemoteAttribute.attributeTypeRef).Nodup
  attributes : ∀ t, (remoteAttributeMap r.managedAttributes).get? t =
    if t ∈ config.attributeTypeRefs.values then a.value t else none

/-- A read shows a catalog: each managed asset once, and the managed relationships. -/
structure Shows (c : Catalog) (remote : CollibraRemoteState) : Prop where
  ids : (remote.assets.map CollibraRemoteAsset.remoteId).Nodup
  assets : ∀ r ∈ remote.assets, ∃ a, RecordShows config c r a
  complete : ∀ id l, c.localIdOf config id = some l → ∃ r ∈ remote.assets, r.remoteId = id
  links : (Multiset.ofList (remote.relationships.map relationshipView)) =
    c.links.filterMap (c.shownLink config)

end Reading

/-- How an adapter patches the asset it is asked to update. -/
abbrev PatchRule : Type := CatalogAsset → CollibraAssetSpec → Bool → Bool → CatalogAsset

/-- The adapter acts on the catalog its state stands for: a create stores the desired asset under an
unused id, an update patches the asset it names, a relationship is added between stored assets. -/
structure ActsOn {σ : Type} (adapter : CollibraAdapter σ) (config : CollibraMappingConfig)
    (patch : PatchRule) (catalog : σ → Catalog) (Sound : σ → Prop) : Prop where
  create : ∀ {s s' : σ} {a : CollibraAssetSpec} {id : String}, Sound s →
    adapter.createAsset a s = (.ok id, s') → Sound s' ∧ (catalog s).assets id = none ∧
      catalog s' = (catalog s).put id (.ofSpec config a)
  update : ∀ {s s' : σ} {a : CollibraAssetSpec} {id : String} {pn pd : Bool} {c : CatalogAsset},
    Sound s → (catalog s).assets id = some c → adapter.updateAsset id a pn pd s = (.ok (), s') →
      Sound s' ∧ catalog s' = (catalog s).put id (patch c a pn pd)
  link : ∀ {s s' : σ} {rel : CollibraRelationshipSpec} {source target id : String}, Sound s →
    ((catalog s).assets source).isSome = true → ((catalog s).assets target).isSome = true →
      adapter.createRelationship rel source target s = (.ok id, s') →
        Sound s' ∧ catalog s' = (catalog s).link (source, target, rel.relationTypeRef)

end CollibraGovernance.Collibra
