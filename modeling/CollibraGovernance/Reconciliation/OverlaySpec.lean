import CollibraGovernance.Reconciliation.Overlay
import CollibraGovernance.Reconciliation.RecomputeSpec

/-! What the overlay changes: the mapped fields of indexed assets that are decided, and nothing else. -/
namespace CollibraGovernance.Reconciliation
open Library Identity Domain Collibra

/-- The value an asset has under an attribute type. -/
def attributeOf (asset : CollibraAssetSpec) (ref : String) : Option String :=
  (asset.attributes.find? (fun a => a.attributeTypeRef = ref)).map CollibraAttributeSpec.value

/-- The attribute types of an asset are distinct. -/
def DistinctTypes (attrs : List CollibraAttributeSpec) : Prop :=
  (attrs.map CollibraAttributeSpec.attributeTypeRef).Nodup

instance (attrs : List CollibraAttributeSpec) : Decidable (DistinctTypes attrs) :=
  inferInstanceAs (Decidable (List.Nodup _))

section Attributes
variable {attrs : List CollibraAttributeSpec}

lemma attrMap_get? (h : DistinctTypes attrs) (ref : String) : (attrMap attrs).get? ref =
    (attrs.find? (fun a => a.attributeTypeRef = ref)).map CollibraAttributeSpec.value := by
  rw [Dict.get?, attrMap, Dict.entries_index_of_nodup h, List.find?_map, Option.map_map]
  rfl

/-- A map of attributes under type references is written as one attribute for each entry. -/
lemma attrsTuple_ok {d : Dict String String} (h : ∀ e ∈ d.entries, isBlank e.1 = false) :
    ∃ specs, attrsTuple d = .ok specs ∧ DistinctTypes specs ∧
      SortedBy CollibraAttributeSpec.attributeTypeRef specs ∧
      ∀ ref, (specs.find? (fun a => a.attributeTypeRef = ref)).map CollibraAttributeSpec.value = d.get? ref := by
  have hcreate : ∀ e ∈ sortBy (fun e : String × String => toLex e) d.entries,
      ∃ spec, CollibraAttributeSpec.create e.1 e.2 = .ok spec := by
    intro e he
    rw [CollibraAttributeSpec.create, requireNonEmpty_ok _ (h e (mem_sortBy.mp he))]
    exact ⟨_, rfl⟩
  obtain ⟨specs, hspecs⟩ := exists_mapM_ok hcreate
  have hview : specs.map (fun a => (a.attributeTypeRef, a.value)) =
      (sortBy (fun e : String × String => toLex e) d.entries).map id :=
    mapM_map (fun e a ha => by
      obtain ⟨href, hvalue⟩ := CollibraAttributeSpec.create_ok ha
      exact Prod.ext href hvalue) hspecs
  rw [List.map_id] at hview
  have hrefs : specs.map CollibraAttributeSpec.attributeTypeRef =
      (sortBy (fun e : String × String => toLex e) d.entries).map Prod.fst := by
    rw [← hview, List.map_map]
    rfl
  have hnodup : ((sortBy (fun e : String × String => toLex e) d.entries).map Prod.fst).Nodup :=
    ((sortBy_perm _ _).map _).nodup_iff.mpr d.nodup
  have hdistinct : DistinctTypes specs := by
    rw [DistinctTypes, hrefs]
    exact hnodup
  refine ⟨specs, hspecs, hdistinct, ?_, ?_⟩
  · have hsorted := sortBy_sorted (fun e : String × String => toLex e) d.entries
    rw [← hview, SortedBy, List.pairwise_map] at hsorted
    refine hsorted.imp ?_
    intro a b hab
    rcases Prod.Lex.toLex_le_toLex.mp hab with hlt | heq
    · exact le_of_lt hlt
    · exact le_of_eq heq.1
  · intro ref
    refine Option.ext ?_
    intro v
    have hmap := attrMap_get? hdistinct ref
    rw [← hmap, Dict.get?_eq_some, attrMap, Dict.entries_index_of_nodup hdistinct, hview, mem_sortBy,
      Dict.get?_eq_some]

end Attributes

/-- The value of a mapped field of an asset. -/
abbrev fieldOf (config : CollibraMappingConfig) (asset : CollibraAssetSpec) (field : TargetField) : Option String :=
  getAssetAttr config asset field

/-- The value of a mapped field that a null target keeps: of repeated remote attributes the last. -/
def keptValue (config : CollibraMappingConfig) (remote : Option CollibraRemoteAsset) (field : TargetField) :
    Option String :=
  remote.bind (fun r =>
    match fieldRef config field with
    | none => r.displayName
    | some ref => (remoteAttrMap r).get? ref)

/-- The value of a field under a decided target, if there is one. -/
def overlaidValue (baseline kept : Option String) : Option RepresentableTargetValue → Option String
  | none => baseline
  | some ⟨_, some value⟩ => some value
  | some ⟨_, none⟩ => kept

/-- The mapped fields are held under distinct references. -/
def DistinctRefs (config : CollibraMappingConfig) : Prop := Function.Injective (fieldRef config)

section Target
variable {config : CollibraMappingConfig}

lemma fieldRef_mem {field : TargetField} {ref : String} (h : fieldRef config field = some ref) :
    ref ∈ config.attributeTypeRefs.values := by
  cases field <;> simp only [fieldRef, Option.some.injEq, reduceCtorEq] at h <;>
    simp [AttributeTypeRefs.values, ← h]

lemma distinctRefs_of_nodup (hrefs : config.attributeTypeRefs.values.Nodup) : DistinctRefs config := by
  simp only [AttributeTypeRefs.values, List.nodup_cons, List.mem_cons, List.not_mem_nil, or_false, not_or] at hrefs
  obtain ⟨-, ⟨hdo, hdd, -⟩, ⟨hod, -⟩, -⟩ := hrefs
  intro f g h
  cases f <;> cases g <;> simp only [fieldRef, Option.some.injEq, reduceCtorEq] at h
  all_goals first | rfl | exact absurd h hdo | exact absurd h hdd | exact absurd h hod |
    exact absurd h.symm hdo | exact absurd h.symm hdd | exact absurd h.symm hod

/-- One field of an asset is set, the rest is left alone. -/
structure FieldSet (config : CollibraMappingConfig) (a a' : CollibraAssetSpec) (field : TargetField)
    (value : Option String) : Prop where
  localId : a'.localId = a.localId
  name : a'.name = a.name
  assetTypeRef : a'.assetTypeRef = a.assetTypeRef
  domainRef : a'.domainRef = a.domainRef
  distinct : DistinctTypes a'.attributes
  value : fieldOf config a' field = value
  others : ∀ f, f ≠ field → fieldOf config a' f = fieldOf config a f
  attributes : ∀ ref, fieldRef config field ≠ some ref → attributeOf a' ref = attributeOf a ref

lemma FieldSet.refl {a : CollibraAssetSpec} (h : DistinctTypes a.attributes) (field : TargetField) :
    FieldSet config a a field (fieldOf config a field) :=
  ⟨rfl, rfl, rfl, rfl, h, rfl, fun _ _ => rfl, fun _ _ => rfl⟩

lemma create_eq_ok {localId name assetTypeRef domainRef : String} {displayName : Option String}
    (attributes : List CollibraAttributeSpec) (hid : isBlank localId = false) (hname : isBlank name = false)
    (htype : isBlank assetTypeRef = false) (hdomain : isBlank domainRef = false)
    (hdisplay : displayNamePresent displayName = true) :
    ∃ a, CollibraAssetSpec.create localId name assetTypeRef domainRef displayName attributes = .ok a := by
  rw [CollibraAssetSpec.create, requireNonEmpty_ok _ hid, ok_bind, requireNonEmpty_ok _ hname, ok_bind,
    requireNonEmpty_ok _ htype, ok_bind, requireNonEmpty_ok _ hdomain, ok_bind, dif_pos hdisplay]
  exact ⟨_, rfl⟩

lemma fieldOf_of_ref {a : CollibraAssetSpec} {field : TargetField} {ref : String}
    (h : fieldRef config field = some ref) : fieldOf config a field = attributeOf a ref := by
  rw [fieldOf, getAssetAttr, h]
  rfl

lemma fieldOf_of_none {a : CollibraAssetSpec} {field : TargetField} (h : fieldRef config field = none) :
    fieldOf config a field = a.displayName := by
  rw [fieldOf, getAssetAttr, h]

lemma get?_setOrRemoveAttr (d : Dict String String) (ref : String) (value : Option String) (k : String) :
    (setOrRemoveAttr d ref value).get? k = if k = ref then value else d.get? k := by
  cases value with
  | none => exact Dict.get?_erase d ref k
  | some v => exact Dict.get?_set d ref k v

lemma setOrRemoveAttr_nonblank (attrs : List CollibraAttributeSpec) {ref : String} (href : isBlank ref = false)
    (value : Option String) : ∀ e ∈ (setOrRemoveAttr (attrMap attrs) ref value).entries, isBlank e.1 = false := by
  have hmap : ∀ e ∈ (attrMap attrs).entries, isBlank e.1 = false := by
    intro e he
    obtain ⟨a, -, hkey, -⟩ := Dict.exists_of_mem_index he
    rw [← hkey]
    exact a.typeRef_nonblank
  intro e he
  cases value with
  | none => exact hmap e (Dict.mem_entries_erase.mp he).2
  | some v =>
    cases Dict.mem_entries_set.mp he with
    | inl he => rw [he]; exact href
    | inr he => exact hmap e he.2

/-- What a target makes of the field it is for. -/
abbrev targetValue (config : CollibraMappingConfig) (remote : Option CollibraRemoteAsset) (a : CollibraAssetSpec)
    (c : RepresentableTargetValue) : Option String :=
  overlaidValue (fieldOf config a c.field) (keptValue config remote c.field) (some c)

lemma applyTargetToAsset_displayName {remote : Option CollibraRemoteAsset} {a : CollibraAssetSpec}
    {c : RepresentableTargetValue} (h : fieldRef config c.field = none) :
    applyTargetToAsset config remote a c = CollibraAssetSpec.create a.localId a.name a.assetTypeRef a.domainRef
      (targetValue config remote a c) a.attributes := by
  obtain ⟨field, value⟩ := c
  dsimp only at h
  simp only [applyTargetToAsset, h]
  cases value with
  | some v => rfl
  | none =>
    cases remote with
    | none => rfl
    | some r => simp only [targetValue, overlaidValue, keptValue, Option.bind_some, h]

lemma applyTargetToAsset_attribute {remote : Option CollibraRemoteAsset} {a : CollibraAssetSpec}
    {c : RepresentableTargetValue} {ref : String} (h : fieldRef config c.field = some ref) :
    applyTargetToAsset config remote a c =
      (attrsTuple (setOrRemoveAttr (attrMap a.attributes) ref (targetValue config remote a c)) >>= fun attrs =>
        CollibraAssetSpec.create a.localId a.name a.assetTypeRef a.domainRef a.displayName attrs) := by
  obtain ⟨field, value⟩ := c
  dsimp only at h
  simp only [applyTargetToAsset, h]
  cases value with
  | some v => rfl
  | none =>
    cases remote with
    | none => rfl
    | some r => simp only [targetValue, overlaidValue, keptValue, Option.bind_some, h]

/-- A target applies to an asset unless it keeps a blank display name. -/
lemma exists_applyTargetToAsset {remote : Option CollibraRemoteAsset} {a : CollibraAssetSpec}
    (hremote : ∀ r, remote = some r → displayNamePresent r.displayName = true) (c : RepresentableTargetValue)
    (hdisplay : c.field = .displayName → displayNamePresent c.value = true) :
    ∃ a', applyTargetToAsset config remote a c = .ok a' := by
  cases hfield : fieldRef config c.field with
  | none =>
    have hname : c.field = .displayName := by
      cases hc : c.field with
      | displayName => rfl
      | _ =>
        rw [hc] at hfield
        cases hfield
    have hpresent : displayNamePresent (targetValue config remote a c) = true := by
      obtain ⟨field, value⟩ := c
      cases hname
      cases value with
      | some v => exact hdisplay rfl
      | none =>
        cases remote with
        | none => rfl
        | some r => exact hremote r rfl
    rw [applyTargetToAsset_displayName hfield]
    exact create_eq_ok _ a.localId_nonblank a.name_nonblank a.assetTypeRef_nonblank a.domainRef_nonblank hpresent
  | some ref =>
    have hblank : isBlank ref = false := config.attributeTypeRefs_nonblank ref (fieldRef_mem hfield)
    obtain ⟨specs, hspecs, -⟩ := attrsTuple_ok
      (setOrRemoveAttr_nonblank a.attributes hblank (targetValue config remote a c))
    rw [applyTargetToAsset_attribute hfield, hspecs, ok_bind]
    exact create_eq_ok _ a.localId_nonblank a.name_nonblank a.assetTypeRef_nonblank a.domainRef_nonblank
      a.displayName_nonblank

/-- Applying a target sets its field and nothing else. -/
theorem applyTargetToAsset_set (hrefs : DistinctRefs config) {remote : Option CollibraRemoteAsset}
    {a a' : CollibraAssetSpec} {c : RepresentableTargetValue} (hdistinct : DistinctTypes a.attributes)
    (hok : applyTargetToAsset config remote a c = .ok a') :
    FieldSet config a a' c.field (targetValue config remote a c) := by
  cases hfield : fieldRef config c.field with
  | none =>
    rw [applyTargetToAsset_displayName hfield] at hok
    obtain ⟨hid, hn, ht, hd, hdn, hattrs⟩ := CollibraAssetSpec.create_ok hok
    rw [sortBy_eq_self a.attributes_sorted] at hattrs
    have hsame : ∀ ref, attributeOf a' ref = attributeOf a ref := by
      intro ref
      rw [attributeOf, hattrs, attributeOf]
    refine ⟨hid, hn, ht, hd, by rwa [hattrs], (fieldOf_of_none hfield).trans hdn, ?_, fun ref _ => hsame ref⟩
    intro f hf
    cases hother : fieldRef config f with
    | none => exact absurd (hrefs (hother.trans hfield.symm)) hf
    | some ref => rw [fieldOf_of_ref hother, fieldOf_of_ref hother, hsame]
  | some ref =>
    have hblank : isBlank ref = false := config.attributeTypeRefs_nonblank ref (fieldRef_mem hfield)
    obtain ⟨specs, hspecs, hspecsDistinct, hsorted, hvalues⟩ := attrsTuple_ok
      (setOrRemoveAttr_nonblank a.attributes hblank (targetValue config remote a c))
    rw [applyTargetToAsset_attribute hfield, hspecs, ok_bind] at hok
    obtain ⟨hid, hn, ht, hd, hdn, hattrs⟩ := CollibraAssetSpec.create_ok hok
    rw [sortBy_eq_self hsorted] at hattrs
    have hvalue : ∀ k, attributeOf a' k = if k = ref then targetValue config remote a c else attributeOf a k := by
      intro k
      rw [attributeOf, hattrs, hvalues, get?_setOrRemoveAttr, attrMap_get? hdistinct, attributeOf]
    refine ⟨hid, hn, ht, hd, by rwa [hattrs], ?_, ?_, ?_⟩
    · rw [fieldOf_of_ref hfield, hvalue, if_pos rfl]
    · intro f hf
      cases hother : fieldRef config f with
      | none => rw [fieldOf_of_none hother, fieldOf_of_none hother, hdn]
      | some ref' =>
        have hne : ref' ≠ ref := by
          intro heq
          exact hf (hrefs (by rw [hother, hfield, heq]))
        rw [fieldOf_of_ref hother, fieldOf_of_ref hother, hvalue, if_neg hne]
    · intro k hk
      have hne : k ≠ ref := by
        intro heq
        exact hk (by rw [hfield, heq])
      rw [hvalue, if_neg hne]

end Target

section Safe

lemma convertText_some {field : TargetField} {blankAllowed : Bool} {j : Json} {c : RepresentableTargetValue}
    (h : convertText field blankAllowed j = some c) :
    c.field = field ∧ (blankAllowed = false → displayNamePresent c.value = true) := by
  cases j with
  | null =>
    cases h
    exact ⟨rfl, fun _ => rfl⟩
  | str s =>
    simp only [convertText] at h
    split_ifs at h with hs
    cases h
    refine ⟨rfl, ?_⟩
    intro hfalse
    have hblank : isBlank s ≠ true := by
      intro hb
      rw [hfalse, (strip_eq_empty_iff s).mpr hb] at hs
      revert hs
      decide
    simp [displayNamePresent, hblank]
  | _ => cases h

lemma convertOwner_some {j : Json} {c : RepresentableTargetValue} (h : convertOwner j = some c) :
    c.field = .owner := by
  unfold convertOwner at h
  split at h
  · cases h
    rfl
  · split at h
    · split_ifs at h
      cases h
      rfl
    · cases h
  · cases h

/-- A converted value is for the field of its path; a display name is never blank. -/
lemma convertEffectiveValue_some {path : PropertyPath} {i : GraphNodeIdentity} {value : Option CanonicalValue}
    {c : RepresentableTargetValue} (h : convertEffectiveValue path i value = some c) :
    targetFieldForPath path = some c.field ∧ (c.field = .displayName → displayNamePresent c.value = true) := by
  unfold convertEffectiveValue at h
  split_ifs at h with happlicable
  split at h
  · rename_i hfield
    obtain ⟨hc, hpresent⟩ := convertText_some h
    exact ⟨by rw [hfield, hc], fun _ => hpresent rfl⟩
  · rename_i hfield
    obtain ⟨hc, -⟩ := convertText_some h
    exact ⟨by rw [hfield, hc], fun hname => absurd (hc.symm.trans hname) (by decide)⟩
  · rename_i hfield
    obtain ⟨hc, -⟩ := convertText_some h
    exact ⟨by rw [hfield, hc], fun hname => absurd (hc.symm.trans hname) (by decide)⟩
  · rename_i hfield
    have hc := convertOwner_some h
    exact ⟨by rw [hfield, hc], fun hname => absurd (hc.symm.trans hname) (by decide)⟩
  · cases h

lemma convertEffectiveValue_none (path : PropertyPath) (i : GraphNodeIdentity) :
    convertEffectiveValue path i none = none := by
  unfold convertEffectiveValue
  split_ifs
  · cases targetFieldForPath path with
    | none => rfl
    | some field => cases field <;> rfl
  · rfl

lemma safe_state {result : PropertyConflictResult} (h : (assessReconciliation result none none).safe = true) :
    result.state ∈ safeStates := by
  unfold assessReconciliation at h
  simp only [Option.getD_none] at h
  split_ifs at h
  cases hstate : result.state <;> rw [hstate] at h
  case unresolvedConflict => cases h
  case invalidOrAmbiguousAuthority => cases h
  all_goals decide

/-- The target that a safe decision of the report gives a property. -/
def safeTarget (report : PropertyConflictReport) (i : GraphNodeIdentity) (path : PropertyPath) :
    Option RepresentableTargetValue :=
  (decisionOf report i path).bind (fun r =>
    if (assessReconciliation r none none).safe then convertEffectiveValue path i r.effectiveValue else none)

lemma safeTarget_of_not_applicable {report : PropertyConflictReport} {i : GraphNodeIdentity} {path : PropertyPath}
    (h : pathApplicableToIdentity path i = false) : safeTarget report i path = none := by
  rw [safeTarget]
  cases decisionOf report i path with
  | none => rfl
  | some r =>
    have hconvert : convertEffectiveValue path i r.effectiveValue = none := by
      unfold convertEffectiveValue
      rw [if_neg (by rw [h]; exact Bool.false_ne_true)]
    rw [Option.bind_some, hconvert, ite_self]

end Safe

/-- The path a mapped field is decided under. -/
def pathOf : TargetField → PropertyPath
  | .displayName => pathName
  | .description => pathDescription
  | .dataType => pathDataType
  | .owner => pathOwnership

lemma targetFieldForPath_pathOf (field : TargetField) : targetFieldForPath (pathOf field) = some field := by
  cases field <;> decide

section Loop
variable {config : CollibraMappingConfig} (report : PropertyConflictReport) {remote : Option CollibraRemoteAsset}

/-- What a field of an indexed asset becomes. -/
def decidedValue (config : CollibraMappingConfig) (report : PropertyConflictReport)
    (remote : Option CollibraRemoteAsset) (i : GraphNodeIdentity) (a : CollibraAssetSpec) (field : TargetField) :
    Option String :=
  overlaidValue (fieldOf config a field) (keptValue config remote field) (safeTarget report i (pathOf field))

/-- What a path does to the object's asset: nothing, unless a safe decision gives it a target. -/
lemma overlayPath_eq {state : OverlayState} {localId : String} {a : CollibraAssetSpec} (i : GraphNodeIdentity)
    (field : TargetField) (hget : state.assetsById.get? localId = some a) :
    (safeTarget report i (pathOf field) = none ∧ overlayPath config report localId i remote state (pathOf field) = .ok state) ∨
    ∃ c r, safeTarget report i (pathOf field) = some c ∧ c.field = field ∧
      (c.field = .displayName → displayNamePresent c.value = true) ∧
      overlayPath config report localId i remote state (pathOf field) =
        (applyTargetToAsset config remote a c >>= fun a' =>
          .ok ⟨state.assetsById.set localId a', state.applied ++ [r]⟩) := by
  rw [overlayPath]
  split_ifs with happlicable
  · exact .inl ⟨safeTarget_of_not_applicable happlicable, rfl⟩
  · rw [resultLookup_get?]
    cases hresult : decisionOf report i (pathOf field) with
    | none => exact .inl ⟨by rw [safeTarget, hresult]; rfl, rfl⟩
    | some r =>
      have htarget : safeTarget report i (pathOf field) = if (assessReconciliation r none none).safe then
          convertEffectiveValue (pathOf field) i r.effectiveValue else none := by
        rw [safeTarget, hresult, Option.bind_some]
      dsimp only
      split_ifs with hunsafe hstate
      · refine .inl ⟨?_, rfl⟩
        rw [htarget, if_neg]
        intro hsafe
        cases hunsafe with
        | inl h => rw [(assessReconciliation_safe hsafe).1] at h; cases h
        | inr h => rw [hsafe] at h; cases h
      · refine .inl ⟨?_, rfl⟩
        rw [htarget]
        split_ifs with hsafe
        · cases hstate with
          | inl h => exact absurd (safe_state hsafe) h
          | inr h => rw [h, convertEffectiveValue_none]
        · rfl
      · have hsafe : (assessReconciliation r none none).safe = true := by
          rw [not_or] at hunsafe
          exact Bool.eq_true_of_not_eq_false hunsafe.2
        rw [if_pos hsafe] at htarget
        cases hconvert : convertEffectiveValue (pathOf field) i r.effectiveValue with
        | none => exact .inl ⟨htarget.trans hconvert, rfl⟩
        | some c =>
          obtain ⟨hfield, hdisplay⟩ := convertEffectiveValue_some hconvert
          rw [targetFieldForPath_pathOf, Option.some.injEq] at hfield
          exact .inr ⟨c, r, htarget.trans hconvert, hfield.symm, hdisplay, by rw [hget]; rfl⟩

lemma exists_overlayPath (hremote : ∀ r, remote = some r → displayNamePresent r.displayName = true)
    {state : OverlayState} {localId : String} {a : CollibraAssetSpec} (i : GraphNodeIdentity) (field : TargetField)
    (hget : state.assetsById.get? localId = some a) :
    ∃ state', overlayPath config report localId i remote state (pathOf field) = .ok state' := by
  rcases overlayPath_eq report i field hget with ⟨-, hok⟩ | ⟨c, r, -, -, hdisplay, hok⟩
  · exact ⟨state, hok⟩
  · obtain ⟨a', ha'⟩ := @exists_applyTargetToAsset config remote a hremote c hdisplay
    exact ⟨_, by rw [hok, ha', ok_bind]⟩

/-- One path sets its field of the object's asset and leaves the other assets alone. -/
lemma overlayPath_set (hrefs : DistinctRefs config) {state state' : OverlayState} {localId : String}
    {a : CollibraAssetSpec} {i : GraphNodeIdentity} {field : TargetField}
    (hget : state.assetsById.get? localId = some a) (hdistinct : DistinctTypes a.attributes)
    (hok : overlayPath config report localId i remote state (pathOf field) = .ok state') :
    ∃ a', (∀ id, state'.assetsById.get? id = if id = localId then some a' else state.assetsById.get? id) ∧
      FieldSet config a a' field (decidedValue config report remote i a field) := by
  rcases overlayPath_eq report i field hget with ⟨hnone, hstep⟩ | ⟨c, r, hsome, hfield, -, hstep⟩
  · rw [hstep] at hok
    obtain rfl := Except.ok.inj hok
    refine ⟨a, ?_, ?_⟩
    · intro id
      split_ifs with hid
      · rw [hid, hget]
      · rfl
    · rw [decidedValue, hnone]
      exact .refl hdistinct field
  · rw [hstep] at hok
    obtain ⟨a', ha', hstate⟩ := bind_eq_ok.mp hok
    obtain rfl := Except.ok.inj hstate
    refine ⟨a', fun id => Dict.get?_set _ _ _ _, ?_⟩
    have hset := applyTargetToAsset_set hrefs hdistinct ha'
    rw [decidedValue, hsome, ← hfield]
    exact hset

/-- The asset of an indexed object after the loop over the mapped paths. -/
structure EntrySet (config : CollibraMappingConfig) (report : PropertyConflictReport)
    (remote : Option CollibraRemoteAsset) (i : GraphNodeIdentity) (a a' : CollibraAssetSpec) : Prop where
  localId : a'.localId = a.localId
  name : a'.name = a.name
  assetTypeRef : a'.assetTypeRef = a.assetTypeRef
  domainRef : a'.domainRef = a.domainRef
  distinct : DistinctTypes a'.attributes
  fields : ∀ field, fieldOf config a' field = decidedValue config report remote i a field
  attributes : ∀ ref, (∀ field, fieldRef config field ≠ some ref) → attributeOf a' ref = attributeOf a ref

/-- A field that was left alone so far is decided as it was at first. -/
lemma decidedValue_congr {i : GraphNodeIdentity} {a a' : CollibraAssetSpec} {field : TargetField}
    (h : fieldOf config a' field = fieldOf config a field) :
    decidedValue config report remote i a' field = decidedValue config report remote i a field := by
  rw [decidedValue, decidedValue, h]

/-- The loop over the mapped paths, written out. -/
lemma overlayPaths_eq (localId : String) (i : GraphNodeIdentity) (state : OverlayState) :
    overlayPaths.foldlM (overlayPath config report localId i remote) state =
      (overlayPath config report localId i remote state (pathOf .displayName) >>= fun s =>
        overlayPath config report localId i remote s (pathOf .description) >>= fun s =>
          overlayPath config report localId i remote s (pathOf .dataType) >>= fun s =>
            overlayPath config report localId i remote s (pathOf .owner) >>= pure) := rfl

lemma overlayPaths_set (hrefs : DistinctRefs config) {state state' : OverlayState} {localId : String}
    {a : CollibraAssetSpec} {i : GraphNodeIdentity} (hget : state.assetsById.get? localId = some a)
    (hdistinct : DistinctTypes a.attributes)
    (hok : overlayPaths.foldlM (overlayPath config report localId i remote) state = .ok state') :
    ∃ a', (∀ id, state'.assetsById.get? id = if id = localId then some a' else state.assetsById.get? id) ∧
      EntrySet config report remote i a a' := by
  have hself : ∀ {s s' : OverlayState} {b : CollibraAssetSpec}, (∀ id, s'.assetsById.get? id = if id = localId then
      some b else s.assetsById.get? id) → s'.assetsById.get? localId = some b := by
    intro s s' b h
    rw [h, if_pos rfl]
  rw [overlayPaths_eq] at hok
  obtain ⟨s₁, h₁, hok⟩ := bind_eq_ok.mp hok
  obtain ⟨s₂, h₂, hok⟩ := bind_eq_ok.mp hok
  obtain ⟨s₃, h₃, hok⟩ := bind_eq_ok.mp hok
  obtain ⟨s₄, h₄, hok⟩ := bind_eq_ok.mp hok
  obtain rfl := pure_eq_ok.mp hok
  obtain ⟨a₁, hframe₁, hset₁⟩ := overlayPath_set report hrefs hget hdistinct h₁
  obtain ⟨a₂, hframe₂, hset₂⟩ := overlayPath_set report hrefs (hself hframe₁) hset₁.distinct h₂
  obtain ⟨a₃, hframe₃, hset₃⟩ := overlayPath_set report hrefs (hself hframe₂) hset₂.distinct h₃
  obtain ⟨a₄, hframe₄, hset₄⟩ := overlayPath_set report hrefs (hself hframe₃) hset₃.distinct h₄
  refine ⟨a₄, ?_, ?_, ?_, ?_, ?_, hset₄.distinct, ?_, ?_⟩
  · intro id
    rw [hframe₄, hframe₃, hframe₂, hframe₁]
    split_ifs <;> rfl
  · rw [hset₄.localId, hset₃.localId, hset₂.localId, hset₁.localId]
  · rw [hset₄.name, hset₃.name, hset₂.name, hset₁.name]
  · rw [hset₄.assetTypeRef, hset₃.assetTypeRef, hset₂.assetTypeRef, hset₁.assetTypeRef]
  · rw [hset₄.domainRef, hset₃.domainRef, hset₂.domainRef, hset₁.domainRef]
  · intro field
    cases field with
    | displayName =>
      rw [hset₄.others _ (by decide), hset₃.others _ (by decide), hset₂.others _ (by decide), hset₁.value]
    | description =>
      rw [hset₄.others _ (by decide), hset₃.others _ (by decide), hset₂.value]
      exact decidedValue_congr report (hset₁.others _ (by decide))
    | dataType =>
      rw [hset₄.others _ (by decide), hset₃.value]
      exact decidedValue_congr report ((hset₂.others _ (by decide)).trans (hset₁.others _ (by decide)))
    | owner =>
      rw [hset₄.value]
      exact decidedValue_congr report ((hset₃.others _ (by decide)).trans ((hset₂.others _ (by decide)).trans
        (hset₁.others _ (by decide))))
  · intro ref href
    rw [hset₄.attributes ref (href _), hset₃.attributes ref (href _), hset₂.attributes ref (href _),
      hset₁.attributes ref (href _)]

/-- Over any path the object's asset stays there. -/
lemma overlayPath_keeps {state state' : OverlayState} {localId : String} {a : CollibraAssetSpec}
    {i : GraphNodeIdentity} {field : TargetField} (hget : state.assetsById.get? localId = some a)
    (hok : overlayPath config report localId i remote state (pathOf field) = .ok state') :
    ∃ a', state'.assetsById.get? localId = some a' := by
  rcases overlayPath_eq report i field hget with ⟨-, hstep⟩ | ⟨c, r, -, -, -, hstep⟩ <;> rw [hstep] at hok
  · obtain rfl := Except.ok.inj hok
    exact ⟨a, hget⟩
  · obtain ⟨a', -, hstate⟩ := bind_eq_ok.mp hok
    obtain rfl := Except.ok.inj hstate
    exact ⟨a', by rw [Dict.get?_set, if_pos rfl]⟩

lemma exists_overlayPaths (hremote : ∀ r, remote = some r → displayNamePresent r.displayName = true)
    {state : OverlayState} {localId : String} {a : CollibraAssetSpec} (i : GraphNodeIdentity)
    (hget : state.assetsById.get? localId = some a) :
    ∃ state', overlayPaths.foldlM (overlayPath config report localId i remote) state = .ok state' := by
  obtain ⟨s₁, h₁⟩ := @exists_overlayPath config report remote hremote _ _ _ i .displayName hget
  obtain ⟨a₁, hget₁⟩ := overlayPath_keeps report hget h₁
  obtain ⟨s₂, h₂⟩ := @exists_overlayPath config report remote hremote _ _ _ i .description hget₁
  obtain ⟨a₂, hget₂⟩ := overlayPath_keeps report hget₁ h₂
  obtain ⟨s₃, h₃⟩ := @exists_overlayPath config report remote hremote _ _ _ i .dataType hget₂
  obtain ⟨a₃, hget₃⟩ := overlayPath_keeps report hget₂ h₃
  obtain ⟨s₄, h₄⟩ := @exists_overlayPath config report remote hremote _ _ _ i .owner hget₃
  refine ⟨s₄, ?_⟩
  rw [overlayPaths_eq, h₁, ok_bind, h₂, ok_bind, h₃, ok_bind, h₄, ok_bind]
  rfl

end Loop

section Run
variable (config : CollibraMappingConfig) (report : PropertyConflictReport) {remoteState : CollibraRemoteState}

/-- The remote asset a local id stands for. -/
abbrev remoteOf (remoteState : CollibraRemoteState) (localId : String) : Option CollibraRemoteAsset :=
  (remoteByLocalId remoteState).get? localId

lemma displayName_remoteOf (hremote : ∀ r ∈ remoteState.assets, displayNamePresent r.displayName = true)
    {localId : String} : ∀ r, remoteOf remoteState localId = some r → displayNamePresent r.displayName = true := by
  intro r hr
  obtain ⟨x, hx, -, rfl⟩ := Dict.exists_of_mem_index (Dict.get?_eq_some.mp hr)
  exact hremote x hx

lemma exists_overlayEntry (hremote : ∀ r ∈ remoteState.assets, displayNamePresent r.displayName = true)
    (state : OverlayState) (e : String × GraphNodeIdentity) :
    ∃ state', overlayEntry config report remoteState state e = .ok state' := by
  rw [overlayEntry]
  cases hget : state.assetsById.get? e.1 with
  | none => exact ⟨state, rfl⟩
  | some a => exact exists_overlayPaths report (displayName_remoteOf hremote) e.2 hget

/-- One indexed object sets its own asset, if it is desired. -/
lemma overlayEntry_set (hrefs : DistinctRefs config) {state state' : OverlayState} {e : String × GraphNodeIdentity}
    (hdistinct : ∀ id a, state.assetsById.get? id = some a → DistinctTypes a.attributes)
    (hok : overlayEntry config report remoteState state e = .ok state') :
    (∀ id, id ≠ e.1 → state'.assetsById.get? id = state.assetsById.get? id) ∧
      ((state.assetsById.get? e.1 = none ∧ state'.assetsById.get? e.1 = none) ∨
        ∃ b a, state.assetsById.get? e.1 = some b ∧ state'.assetsById.get? e.1 = some a ∧
          EntrySet config report (remoteOf remoteState e.1) e.2 b a) := by
  rw [overlayEntry] at hok
  cases hget : state.assetsById.get? e.1 with
  | none =>
    rw [hget] at hok
    obtain rfl := Except.ok.inj hok
    exact ⟨fun _ _ => rfl, Or.inl ⟨rfl, hget⟩⟩
  | some b =>
    rw [hget] at hok
    obtain ⟨a, hall, hset⟩ := overlayPaths_set report hrefs hget (hdistinct _ _ hget) hok
    refine ⟨?_, Or.inr ⟨b, a, rfl, ?_, hset⟩⟩
    · intro id hid
      rw [hall, if_neg hid]
    · rw [hall, if_pos rfl]

/-- The loop over the indexed objects sets the assets of those that are desired. -/
lemma overlayEntries_set (hrefs : DistinctRefs config) {entries : List (String × GraphNodeIdentity)}
    (hnodup : (entries.map Prod.fst).Nodup) {state state' : OverlayState}
    (hdistinct : ∀ id a, state.assetsById.get? id = some a → DistinctTypes a.attributes)
    (hok : entries.foldlM (overlayEntry config report remoteState) state = .ok state') :
    (∀ id, id ∉ entries.map Prod.fst → state'.assetsById.get? id = state.assetsById.get? id) ∧
      ∀ id i, (id, i) ∈ entries → ∀ a, state.assetsById.get? id = some a →
        ∃ a', state'.assetsById.get? id = some a' ∧
          EntrySet config report (remoteOf remoteState id) i a a' := by
  induction entries generalizing state with
  | nil =>
    obtain rfl := pure_eq_ok.mp hok
    exact ⟨fun _ _ => rfl, fun _ _ hmem => absurd hmem List.not_mem_nil⟩
  | cons e rest ih =>
    obtain ⟨hnew, hrest⟩ := List.nodup_cons.mp hnodup
    obtain ⟨state₁, hstep, hok⟩ := bind_eq_ok.mp hok
    obtain ⟨hframe, hentry⟩ := overlayEntry_set config report hrefs hdistinct hstep
    have hdistinct₁ : ∀ id a, state₁.assetsById.get? id = some a → DistinctTypes a.attributes := by
      intro id a ha
      by_cases hid : id = e.1
      · rw [hid] at ha
        rcases hentry with ⟨-, hnone⟩ | ⟨b, a', -, ha', hset⟩
        · rw [hnone] at ha
          cases ha
        · rw [ha'] at ha
          cases ha
          exact hset.distinct
      · rw [hframe id hid] at ha
        exact hdistinct id a ha
    obtain ⟨hframe', hentry'⟩ := ih hrest hdistinct₁ hok
    refine ⟨?_, ?_⟩
    · intro id hid
      rw [List.map_cons, List.mem_cons, not_or] at hid
      rw [hframe' id hid.2, hframe id hid.1]
    · intro id i hmem a ha
      cases hmem with
      | head =>
        rcases hentry with ⟨hnone, -⟩ | ⟨b, a', hb, ha', hset⟩
        · rw [ha] at hnone
          cases hnone
        · rw [ha, Option.some.injEq] at hb
          exact ⟨a', by rw [hframe' _ hnew, ha'], hb ▸ hset⟩
      | tail _ hmem =>
        have hne : id ≠ e.1 := by
          intro heq
          exact hnew (heq ▸ List.mem_map_of_mem (f := Prod.fst) hmem)
        exact hentry' id i hmem a (by rw [hframe id hne, ha])

lemma map_eq_of_forall₂ {α β γ : Type} {R : α → β → Prop} {f : α → γ} {g : β → γ} (hR : ∀ a b, R a b → g b = f a)
    {as : List α} {bs : List β} (h : List.Forall₂ R as bs) : bs.map g = as.map f := by
  induction h with
  | nil => rfl
  | cons hab _ ih => rw [List.map_cons, List.map_cons, hR _ _ hab, ih]

/-- What becomes of a desired asset: outside the index nothing; inside it the mapped fields are decided, where a null
target keeps the remote value, and the rest is as it was. -/
structure Overlaid (config : CollibraMappingConfig) (report : PropertyConflictReport)
    (remoteState : CollibraRemoteState) (index : PhysicalReconciliationIndex) (a a' : CollibraAssetSpec) : Prop where
  localId : a'.localId = a.localId
  unindexed : index.get a.localId = none → a' = a
  indexed : ∀ i, index.get a.localId = some i →
    EntrySet config report (remoteOf remoteState a.localId) i a a'

lemma distinct_start {baseline : CollibraDesiredState} (hids : (baseline.assets.map CollibraAssetSpec.localId).Nodup)
    (hdistinct : ∀ a ∈ baseline.assets, DistinctTypes a.attributes) :
    ∀ key a, (Dict.index CollibraAssetSpec.localId id baseline.assets).get? key = some a →
      DistinctTypes a.attributes := by
  intro key a ha
  exact hdistinct a ((Dict.get?_index_id_eq_some hids).mp ha).1

/-- What the held assets are once the loop over the index has ended. -/
lemma overlaidAsset_of {baseline : CollibraDesiredState} {index : PhysicalReconciliationIndex} {state : OverlayState}
    (hrefs : DistinctRefs config) (hids : (baseline.assets.map CollibraAssetSpec.localId).Nodup)
    (hdistinct : ∀ a ∈ baseline.assets, DistinctTypes a.attributes)
    (hrun : index.byLocalId.entries.foldlM (overlayEntry config report remoteState)
      ⟨Dict.index CollibraAssetSpec.localId id baseline.assets, []⟩ = .ok state) :
    ∀ a ∈ baseline.assets, ∃ a', overlaidAsset state a = .ok a' ∧
      Overlaid config report remoteState index a a' := by
  obtain ⟨hframe, hentry⟩ := overlayEntries_set config report hrefs index.byLocalId.nodup
    (distinct_start hids hdistinct) hrun
  intro a ha
  have hget : (Dict.index CollibraAssetSpec.localId id baseline.assets).get? a.localId = some (id a) :=
    Dict.get?_index_of_nodup hids ha
  cases hindex : index.get a.localId with
  | none =>
    have hnot := Dict.get?_eq_none.mp hindex
    refine ⟨a, ?_, rfl, fun _ => rfl, ?_⟩
    · rw [overlaidAsset, hframe a.localId hnot, hget]
      rfl
    · intro i hi
      rw [hindex] at hi
      cases hi
  | some i =>
    obtain ⟨a', ha', hset⟩ := hentry a.localId i (Dict.get?_eq_some.mp hindex) a hget
    refine ⟨a', ?_, hset.localId, ?_, ?_⟩
    · rw [overlaidAsset, ha']
    · intro hnone
      rw [hindex] at hnone
      cases hnone
    · intro j hj
      rw [hindex, Option.some.injEq] at hj
      exact hj ▸ hset

/-- Whenever the overlay of distinct desired assets succeeds, it changes only what it targets. -/
theorem overlay_set {baseline : CollibraDesiredState} {index : PhysicalReconciliationIndex} {out : OverlayResult}
    (hrefs : DistinctRefs config) (hids : (baseline.assets.map CollibraAssetSpec.localId).Nodup)
    (hdistinct : ∀ a ∈ baseline.assets, DistinctTypes a.attributes)
    (hout : applyReconciliationOverlay config report remoteState baseline index = .ok out) :
    out.desired.relationships = baseline.relationships ∧
      List.Forall₂ (Overlaid config report remoteState index) baseline.assets out.desired.assets := by
  obtain ⟨state, hrun, hout⟩ := bind_eq_ok.mp hout
  obtain ⟨ordered, hordered, hout⟩ := bind_eq_ok.mp hout
  obtain rfl := pure_eq_ok.mp hout
  have hasset := overlaidAsset_of config report hrefs hids hdistinct hrun
  have hall : List.Forall₂ (Overlaid config report remoteState index) baseline.assets ordered := by
    have hmem := (List.forall₂_and_left (p := fun a => a ∈ baseline.assets) baseline.assets ordered).mpr
      ⟨fun _ ha => ha, mapM_eq_ok.mp hordered⟩
    refine hmem.imp ?_
    rintro a a' ⟨ha, hok⟩
    obtain ⟨b, hb, hoverlaid⟩ := hasset a ha
    rw [hok, Except.ok.injEq] at hb
    exact hb ▸ hoverlaid
  have hsorted : SortedBy CollibraAssetSpec.localId ordered := by
    have hbaseline : (baseline.assets.map CollibraAssetSpec.localId).Pairwise (· ≤ ·) :=
      List.pairwise_map.mpr baseline.assets_sorted
    rw [← map_eq_of_forall₂ (fun _ _ h => Overlaid.localId h) hall] at hbaseline
    exact List.pairwise_map.mp hbaseline
  refine ⟨sortBy_eq_self baseline.relationships_sorted, ?_⟩
  change List.Forall₂ _ baseline.assets (sortBy CollibraAssetSpec.localId ordered)
  rw [sortBy_eq_self hsorted]
  exact hall

/-- Over distinct desired assets, each with distinct attribute types, and remote assets without blank display names
the overlay succeeds and changes only what it targets. -/
theorem overlay_targets {baseline : CollibraDesiredState} {index : PhysicalReconciliationIndex}
    (hrefs : config.attributeTypeRefs.values.Nodup) (hids : (baseline.assets.map CollibraAssetSpec.localId).Nodup)
    (hdistinct : ∀ a ∈ baseline.assets, DistinctTypes a.attributes)
    (hremote : ∀ r ∈ remoteState.assets, displayNamePresent r.displayName = true) :
    ∃ out, applyReconciliationOverlay config report remoteState baseline index = .ok out ∧
      out.desired.relationships = baseline.relationships ∧
      List.Forall₂ (Overlaid config report remoteState index) baseline.assets out.desired.assets := by
  have hinj := distinctRefs_of_nodup hrefs
  obtain ⟨state, hrun, -⟩ := @exists_foldlM_ok String (String × GraphNodeIdentity) OverlayState
    (overlayEntry config report remoteState) (fun _ _ => True) index.byLocalId.entries
    ⟨Dict.index CollibraAssetSpec.localId id baseline.assets, []⟩ trivial
    (fun _ e _ state _ => (exists_overlayEntry config report hremote state e).imp fun _ h => ⟨h, trivial⟩)
  obtain ⟨ordered, hordered⟩ := exists_mapM_ok fun a ha =>
    (overlaidAsset_of config report hinj hids hdistinct hrun a ha).imp fun _ h => h.1
  have hout : applyReconciliationOverlay config report remoteState baseline index =
      .ok ⟨.create ordered baseline.relationships, state.applied⟩ := by
    rw [applyReconciliationOverlay, hrun, ok_bind, hordered]
    rfl
  exact ⟨_, hout, overlay_set config report hinj hids hdistinct hout⟩

end Run

section Sole
/-! A database whose description was observed. -/

def soleDescription : PropertyConflictResult :=
  ⟨soleIdentity, pathDescription, .singleObservation, .singleObservation, [], some (canonicalizeJsonValue (.str "t")),
    none, sole_groups⟩

/-- The owner that the authority took away. -/
def noOwner : PropertyConflictResult :=
  ⟨soleIdentity, pathOwnership, .agreement, .agreement, [], some (canonicalizeJsonValue .null), none, sole_groups⟩

theorem description_nonblank : isBlank "mock:attribute-type:description" = false := by decide
theorem owner_nonblank : isBlank "mock:attribute-type:owner" = false := by decide

def ownedAttributes : List CollibraAttributeSpec :=
  [⟨"mock:attribute-type:description", "old", description_nonblank⟩,
    ⟨"mock:attribute-type:owner", "ann", owner_nonblank⟩]
def storedAttributes : List CollibraRemoteAttribute :=
  [⟨"mock:attribute-type:description", "old", none, description_nonblank⟩,
    ⟨"mock:attribute-type:owner", "bob", none, owner_nonblank⟩]

theorem owned_sorted : SortedBy CollibraAttributeSpec.attributeTypeRef ownedAttributes := by decide
theorem stored_sorted : SortedBy CollibraRemoteAttribute.attributeTypeRef storedAttributes := by decide

def ownedAsset : CollibraAssetSpec :=
  { soleAsset with attributes := ownedAttributes, attributes_sorted := owned_sorted }

/-- The database as it is stored, under another owner. -/
def storedRemote : CollibraRemoteState :=
  .create [⟨"r", "d", "d", "d", "d", none, storedAttributes, sole_nonblank, sole_nonblank, sole_nonblank, sole_nonblank,
    sole_nonblank, stored_sorted⟩] [] 0 0

/-- The description is set to what was observed, and the owner stays the stored one. -/
theorem overlay_targets_stored : ∃ out, applyReconciliationOverlay mockMappingConfig (.of [soleDescription, noOwner])
      storedRemote (.create [ownedAsset] []) soleIndex = .ok out ∧
    List.Forall₂ (Overlaid mockMappingConfig (.of [soleDescription, noOwner]) storedRemote soleIndex) [ownedAsset]
      out.desired.assets ∧
    out.desired.assets.map (fun a => a.attributes.map fun entry => (entry.attributeTypeRef, entry.value)) =
      [[("mock:attribute-type:description", "t"), ("mock:attribute-type:owner", "bob")]] := by
  obtain ⟨out, hout, -, hall⟩ := @overlay_targets mockMappingConfig (.of [soleDescription, noOwner])
    storedRemote (.create [ownedAsset] []) soleIndex (by decide) (by decide) (by decide) (by decide)
  have hvalues : (applyReconciliationOverlay mockMappingConfig (.of [soleDescription, noOwner]) storedRemote
      (.create [ownedAsset] []) soleIndex).toOption.map (fun out => out.desired.assets.map fun a =>
        a.attributes.map fun entry => (entry.attributeTypeRef, entry.value)) =
      some [[("mock:attribute-type:description", "t"), ("mock:attribute-type:owner", "bob")]] := by
    decide +kernel
  rw [hout] at hvalues
  exact ⟨out, hout, hall, Option.some.inj hvalues⟩

theorem listed_nonblank : isBlank "x" = false := by decide

/-- Two values under one attribute type, which nothing maps. -/
def listedAttributes : List CollibraAttributeSpec := [⟨"x", "1", listed_nonblank⟩, ⟨"x", "2", listed_nonblank⟩]

theorem listed_sorted : SortedBy CollibraAttributeSpec.attributeTypeRef listedAttributes := by decide

def listedAsset : CollibraAssetSpec := { soleAsset with attributes := listedAttributes, attributes_sorted := listed_sorted }

/-- Setting the description of an asset drops a value it lists under another type. -/
theorem overlay_drops_listed_value : mockMappingConfig.attributeTypeRefs.values.Nodup ∧
    (∀ field, fieldRef mockMappingConfig field ≠ some "x") ∧
    ∃ lost ∈ listedAsset.attributes, lost.attributeTypeRef = "x" ∧
      ∃ out, applyReconciliationOverlay mockMappingConfig (.of [soleDescription]) (.create [] [] 0 0)
          (.create [listedAsset] []) soleIndex = .ok out ∧
        ∀ a ∈ out.desired.assets, lost ∉ a.attributes := by
  have hrun : (applyReconciliationOverlay mockMappingConfig (.of [soleDescription]) (.create [] [] 0 0)
      (.create [listedAsset] []) soleIndex).toOption.any (fun out => out.desired.assets.all (fun a =>
        decide ((⟨"x", "1", listed_nonblank⟩ : CollibraAttributeSpec) ∉ a.attributes))) = true := by
    decide +kernel
  rw [Option.any_eq_true] at hrun
  obtain ⟨out, hout, hlost⟩ := hrun
  rw [toOption_eq_some] at hout
  have hmapped : ∀ field, fieldRef mockMappingConfig field ≠ some "x" := by
    intro field
    cases field <;> decide
  refine ⟨by decide, hmapped, ⟨"x", "1", listed_nonblank⟩, List.mem_cons_self .., rfl, out, hout, ?_⟩
  intro a ha
  exact of_decide_eq_true (List.all_eq_true.mp hlost a ha)

end Sole
end CollibraGovernance.Reconciliation
