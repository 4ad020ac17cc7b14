import CollibraGovernance.Comparison.LoadSpec
import CollibraGovernance.Comparison.MemberOrder

/-! The changes that an accepted comparison document tells. -/
namespace CollibraGovernance.Comparison
open Library Domain Identity

/-- One side of a property change, as far as comparing values reads it. -/
def readSide (side : Json) : ComparablePropertyValue :=
  match Json.get (membersOf side) "has_value" with
  | .bool true => .of (Json.get (membersOf side) "value")
  | _ => .missing

def readPropertyChange (c : Json) : Option PropertyChange :=
  match Json.get (membersOf c) "property" with
  | .str pointer => some ⟨pointer, readSide (Json.get (membersOf c) "baseline"),
      readSide (Json.get (membersOf c) "candidate")⟩
  | _ => none

def readPropertyChanges : Json → Option (List PropertyChange)
  | .arr items => items.mapM readPropertyChange
  | _ => none

def readObjectChange (item : Json) : Option ObjectChange := do
  let i ← parseIdentityDict (Json.get (membersOf item) "object_identity")
  let change ← changeKindOf (Json.get (membersOf item) "change")
  let propertyChanges ← readPropertyChanges (Json.get (membersOf item) "property_changes")
  return ⟨change, i, parseIdentityDict (Json.get (membersOf item) "parent_identity"), propertyChanges⟩

/-- The object changes of a document. -/
def readObjectChanges (payload : List (String × Json)) : Option (List ObjectChange) :=
  match Json.get payload "object_changes" with
  | .arr items => items.mapM readObjectChange
  | _ => none

/-- A change that the loader lets through. -/
structure AcceptedChange (o : ObjectChange) : Prop where
  parent : o.parentIdentity = o.objectIdentity.expectedParent
  empty : o.change ≠ .changed → o.propertyChanges = []
  nonempty : o.change = .changed → o.propertyChanges ≠ []
  nodup : (o.propertyChanges.map PropertyChange.property).Nodup
  properties : ∀ c ∈ o.propertyChanges, ProperProperty o.objectIdentity c
  root : o.objectIdentity.kind = .dataSource ∨ o.objectIdentity.kind = .database → o.change = .changed

section Sides
variable {i : ComparisonObjectIdentity} {pointer : String}

/-- A side that fits the property still does once it is read. -/
lemma compatible_readSide {side : Json} (h : comparableChangeValueCompatible i pointer side = true) :
    comparableChangeValueCompatible i pointer (readSide side).toDict = true := by
  cases side with
  | obj members =>
    rw [comparableChangeValueCompatible] at h
    rw [readSide, membersOf]
    cases hhas : Json.get members "has_value" with
    | bool b =>
      rw [hhas] at h
      cases b with
      | true =>
        dsimp only at h
        generalize Json.get members "value" = value at h ⊢
        have hvalue := validFixedValue_normalize pointer value i
        split_ifs at h with hshape htechnical
        · simp [ComparablePropertyValue.of, ComparablePropertyValue.toDict, comparableChangeValueCompatible,
            Json.get, Json.lookup, htechnical]
        · simpa [ComparablePropertyValue.of, ComparablePropertyValue.toDict, comparableChangeValueCompatible,
            Json.get, Json.lookup, htechnical, canonicalizeJsonValue, hvalue] using h
      | false =>
        dsimp only at h
        split_ifs at h with hshape
        simpa [ComparablePropertyValue.toDict, comparableChangeValueCompatible, Json.get, Json.lookup] using h
    | _ => rw [hhas] at h; cases h
  | _ => cases h

/-- Sides that differ in the document differ once they are read. -/
lemma readSide_ne {b c : List (String × Json)}
    (hb : comparableChangeValueCompatible i pointer (.obj b) = true)
    (hc : comparableChangeValueCompatible i pointer (.obj c) = true)
    (h : propertyValuesMateriallyDifferent b c = true) : readSide (.obj b) ≠ readSide (.obj c) := by
  have hbool : ∀ {ms : List (String × Json)}, comparableChangeValueCompatible i pointer (.obj ms) = true →
      ∃ has, Json.get ms "has_value" = .bool has := by
    intro ms hms
    rw [comparableChangeValueCompatible] at hms
    cases hhas : Json.get ms "has_value" with
    | bool has => exact ⟨has, rfl⟩
    | _ => rw [hhas] at hms; cases hms
  obtain ⟨hasB, hhasB⟩ := hbool hb
  obtain ⟨hasC, hhasC⟩ := hbool hc
  rw [propertyValuesMateriallyDifferent, hhasB, hhasC] at h
  rw [readSide, readSide, membersOf, membersOf, hhasB, hhasC]
  cases hasB with
  | false =>
    cases hasC with
    | false => simp [Json.truthy] at h
    | true => simp [ComparablePropertyValue.of]
  | true =>
    cases hasC with
    | false => simp [ComparablePropertyValue.of]
    | true =>
      intro heq
      have hnormal := congrArg CanonicalValue.val (ComparablePropertyValue.present.inj heq)
      simp [Json.truthy, Json.canonicalJson_inj.mpr hnormal] at h

lemma validateSides_sound {path : String} {baseline candidate : Json}
    (h : validateSides i pointer path baseline candidate = .ok ()) :
    comparableChangeValueCompatible i pointer (readSide baseline).toDict = true ∧
      comparableChangeValueCompatible i pointer (readSide candidate).toDict = true ∧
        readSide baseline ≠ readSide candidate := by
  rw [validateSides.eq_def] at h
  split at h
  case h_2 => cases h
  obtain ⟨⟨⟩, hbaseline, h⟩ := bind_eq_ok.mp h
  obtain ⟨⟨⟩, hcandidate, hdifferent⟩ := bind_eq_ok.mp h
  rw [demand_eq_ok] at hbaseline hcandidate hdifferent
  exact ⟨compatible_readSide hbaseline, compatible_readSide hcandidate,
    readSide_ne hbaseline hcandidate hdifferent⟩

lemma validateCanonicalPropertyPointer_sound {path : String}
    (h : validateCanonicalPropertyPointer pointer path = .ok ()) :
    ∃ segments, segments ≠ [] ∧ pointerText segments = pointer := by
  rw [validateCanonicalPropertyPointer] at h
  cases hparse : parsePointer pointer with
  | error e => rw [hparse] at h; cases h
  | ok segments =>
    rw [hparse, demand_eq_ok, decide_eq_true_eq] at h
    exact ⟨segments, parsePointer_ne_nil hparse, h⟩

end Sides

section Changes
variable {i : ComparisonObjectIdentity}

/-- What is read of accepted property changes. -/
lemma validatePropertyChanges_sound {basePath : String} {items : List Json} (index : Nat)
    (seen : List String) (h : validatePropertyChanges i basePath index seen items = .ok ()) :
    ∃ changes, items.mapM readPropertyChange = some changes ∧ (∀ c ∈ changes, ProperProperty i c) ∧
      (changes.map PropertyChange.property).Nodup ∧ ∀ c ∈ changes, c.property ∉ seen := by
  induction items generalizing index seen with
  | nil => exact ⟨[], rfl, by simp, List.nodup_nil, by simp⟩
  | cons item rest ih =>
    rw [validatePropertyChanges.eq_def] at h
    dsimp only at h
    split at h
    case h_2 => cases h
    rename_i members
    split at h
    case h_2 => cases h
    rename_i pointer hpointer
    obtain ⟨⟨⟩, hcanonical, h⟩ := bind_eq_ok.mp h
    obtain ⟨⟨⟩, hunseen, h⟩ := bind_eq_ok.mp h
    obtain ⟨⟨⟩, -, h⟩ := bind_eq_ok.mp h
    obtain ⟨⟨⟩, hcompatible, h⟩ := bind_eq_ok.mp h
    obtain ⟨⟨⟩, hsides, h⟩ := bind_eq_ok.mp h
    rw [demand_eq_ok] at hunseen hcompatible
    obtain ⟨hbaseline, hcandidate, hdifferent⟩ := validateSides_sound hsides
    obtain ⟨changes, hread, hproper, hnodup, hnew⟩ := ih (index + 1) (pointer :: seen) h
    have hone : readPropertyChange (.obj members) = some ⟨pointer, readSide (Json.get members "baseline"),
        readSide (Json.get members "candidate")⟩ := by
      rw [readPropertyChange, membersOf, hpointer]
    refine ⟨⟨pointer, readSide (Json.get members "baseline"), readSide (Json.get members "candidate")⟩ :: changes,
      ?_, ?_, ?_, ?_⟩
    · rw [List.mapM_cons, hone, hread]
      rfl
    · intro c hc
      rcases List.mem_cons.mp hc with rfl | hc
      · exact ⟨validateCanonicalPropertyPointer_sound hcanonical, hcompatible, hbaseline, hcandidate, hdifferent⟩
      · exact hproper c hc
    · rw [List.map_cons, List.nodup_cons]
      refine ⟨?_, hnodup⟩
      intro hmem
      obtain ⟨c, hc, hproperty⟩ := List.mem_map.mp hmem
      exact hnew c hc (hproperty ▸ List.mem_cons_self ..)
    · intro c hc
      rcases List.mem_cons.mp hc with rfl | hc
      · simpa using hunseen
      · exact fun hmem => hnew c hc (List.mem_cons_of_mem _ hmem)

lemma parentMatches_sound {parent : Json} (h : parentMatches i parent = true) :
    parseIdentityDict parent = i.expectedParent := by
  rw [parentMatches] at h
  cases hexpected : i.expectedParent with
  | none =>
    rw [hexpected] at h
    rw [of_decide_eq_true h]
    rfl
  | some expected =>
    rw [hexpected] at h
    cases hactual : parseIdentityDict parent with
    | none =>
      rw [hactual] at h
      cases h
    | some actual =>
      rw [hactual] at h
      rw [ComparisonObjectIdentity.toDict_inj (of_decide_eq_true h)]

/-- What is read of an accepted object change. -/
lemma validateObjectChange_sound {index : Nat} {seen : List ComparisonObjectIdentity} {item : Json}
    {parsed : ParsedChange} (h : validateObjectChange index seen item = .ok parsed) :
    ∃ o, readObjectChange item = some o ∧ parsed.change = o.change ∧ parsed.identity = o.objectIdentity ∧
      o.objectIdentity ∉ seen ∧ o.parentIdentity = o.objectIdentity.expectedParent ∧
      (o.change ≠ .changed → o.propertyChanges = []) ∧ (o.change = .changed → o.propertyChanges ≠ []) ∧
      (o.propertyChanges.map PropertyChange.property).Nodup ∧
        ∀ c ∈ o.propertyChanges, ProperProperty o.objectIdentity c := by
  rw [validateObjectChange.eq_def] at h
  dsimp only at h
  split at h
  case h_2 => cases h
  rename_i members
  obtain ⟨i, hidentity, h⟩ := bind_eq_ok.mp h
  obtain ⟨⟨⟩, hunseen, h⟩ := bind_eq_ok.mp h
  obtain ⟨⟨⟩, hparent, h⟩ := bind_eq_ok.mp h
  rw [demand_eq_ok] at hunseen hparent
  have hparsed : parseIdentityDict (Json.get members "object_identity") = some i := by
    rw [parseIdentity] at hidentity
    cases hparse : parseIdentityDict (Json.get members "object_identity") with
    | none => rw [hparse] at hidentity; cases hidentity
    | some i' =>
      rw [hparse] at hidentity
      cases hidentity
      rfl
  have hnew : i ∉ seen := by
    simpa [List.mem_map, ComparisonObjectIdentity.canonicalBytes_inj.eq_iff] using hunseen
  have hread : ∀ {change : ChangeKind} {changes : List PropertyChange},
      changeKindOf (Json.get members "change") = some change →
      readPropertyChanges (Json.get members "property_changes") = some changes →
      readObjectChange (.obj members) = some ⟨change, i, i.expectedParent, changes⟩ := by
    intro change changes hchange hchanges
    simp only [readObjectChange, membersOf, hparsed, hchange, hchanges, parentMatches_sound hparent]
    rfl
  split at h
  · cases h
  · rename_i hchange
    split at h
    case h_2 => cases h
    rename_i first rest hitems
    obtain ⟨⟨⟩, hproperties, h⟩ := bind_eq_ok.mp h
    obtain ⟨⟨⟩, -, h⟩ := bind_eq_ok.mp h
    cases h
    obtain ⟨changes, hchanges, hproper, hnodup, -⟩ := validatePropertyChanges_sound 0 [] hproperties
    have hnonempty : changes ≠ [] := by
      rintro rfl
      simp [List.mapM_cons, Option.bind_eq_some_iff] at hchanges
    refine ⟨_, hread hchange (hitems ▸ hchanges), rfl, rfl, hnew, rfl, fun hne => absurd rfl hne,
      fun _ => hnonempty, hnodup, hproper⟩
  · rename_i change hnot hchange
    obtain ⟨⟨⟩, hempty, h⟩ := bind_eq_ok.mp h
    cases h
    rw [demand_eq_ok, decide_eq_true_eq] at hempty
    have hchanges : readPropertyChanges (Json.get members "property_changes") = some [] := by
      rw [hempty]
      rfl
    refine ⟨_, hread hchange hchanges, rfl, rfl, hnew, rfl, fun _ => rfl, ?_, List.nodup_nil, by simp⟩
    intro hchanged
    have hkind : change = .changed := hchanged
    exact absurd hkind (by simpa using hnot)

/-- An accepted change before it is known that no root is added or removed. -/
structure ReadChange (o : ObjectChange) : Prop where
  parent : o.parentIdentity = o.objectIdentity.expectedParent
  empty : o.change ≠ .changed → o.propertyChanges = []
  nonempty : o.change = .changed → o.propertyChanges ≠ []
  nodup : (o.propertyChanges.map PropertyChange.property).Nodup
  properties : ∀ c ∈ o.propertyChanges, ProperProperty o.objectIdentity c

/-- The parsed changes and the read ones tell the same objects. -/
def Agrees (parsed : ParsedChange) (o : ObjectChange) : Prop :=
  parsed.change = o.change ∧ parsed.identity = o.objectIdentity

lemma validateObjectChanges_sound {items : List Json} {before parsed : List ParsedChange}
    {read : List ObjectChange} (hagrees : List.Forall₂ Agrees before read)
    (hread : ∀ o ∈ read, ReadChange o) (hnodup : (read.map ObjectChange.objectIdentity).Nodup)
    (h : validateObjectChanges before items = .ok parsed) :
    ∃ changes, items.mapM readObjectChange = some changes ∧ List.Forall₂ Agrees parsed (read ++ changes) ∧
      (∀ o ∈ read ++ changes, ReadChange o) ∧ ((read ++ changes).map ObjectChange.objectIdentity).Nodup := by
  induction items generalizing before read with
  | nil =>
    cases h
    exact ⟨[], rfl, by rwa [List.append_nil], by rwa [List.append_nil], by rwa [List.append_nil]⟩
  | cons item rest ih =>
    rw [validateObjectChanges] at h
    obtain ⟨change, hchange, h⟩ := bind_eq_ok.mp h
    obtain ⟨o, ho, hkind, hidentity, hnew, hparent, hempty, hnonempty, hproperties, hproper⟩ :=
      validateObjectChange_sound hchange
    have hidentities : before.map ParsedChange.identity = read.map ObjectChange.objectIdentity := by
      refine List.forall₂_eq_eq_eq ▸ ?_
      rw [List.forall₂_map_left_iff, List.forall₂_map_right_iff]
      exact hagrees.imp (fun _ _ h => h.2)
    rw [hidentities] at hnew
    obtain ⟨changes, hchanges, hall, hreads, hdistinct⟩ := ih
      (List.rel_append hagrees (.cons ⟨hkind, hidentity⟩ .nil))
      (by
        intro x hx
        rcases List.mem_append.mp hx with hx | hx
        · exact hread x hx
        · exact List.mem_singleton.mp hx ▸ ⟨hparent, hempty, hnonempty, hproperties, hproper⟩)
      (by
        rw [List.map_append, List.map_singleton]
        refine List.nodup_append.mpr ⟨hnodup, List.nodup_singleton _, ?_⟩
        rintro x hx y hy rfl
        exact hnew (List.mem_singleton.mp hy ▸ hx)) h
    rw [List.append_assoc, List.singleton_append] at hall hreads hdistinct
    refine ⟨o :: changes, ?_, hall, hreads, hdistinct⟩
    rw [List.mapM_cons, ho, hchanges]
    rfl

lemma validateStatus_sound {parsed : List ParsedChange} {status : Json}
    (h : validateStatus parsed status = .ok ()) :
    ∃ s, status = .str s ∧ (s = "identical" ↔ parsed = []) := by
  rw [validateStatus.eq_def] at h
  dsimp only at h
  split at h
  · rw [demand_eq_ok, Bool.and_eq_true, List.isEmpty_iff] at h
    exact ⟨_, rfl, iff_of_true rfl h.2⟩
  · rw [demand_eq_ok, decide_eq_true_eq] at h
    refine ⟨_, rfl, iff_of_false (by decide) ?_⟩
    rintro rfl
    exact absurd h (by decide)
  · cases h

/-- Every accepted document tells changes of different objects, each let through by the loader. -/
theorem readObjectChanges_of_ok {payload : List (String × Json)}
    (h : validateComparisonResultSemantics payload = .ok ()) :
    ∃ changes status, readObjectChanges payload = some changes ∧ (∀ o ∈ changes, AcceptedChange o) ∧
      (changes.map ObjectChange.objectIdentity).Nodup ∧ Json.get payload "status" = .str status ∧
        (status = "identical" ↔ changes = []) := by
  rw [validateComparisonResultSemantics.eq_def] at h
  obtain ⟨⟨⟩, -, h⟩ := bind_eq_ok.mp h
  obtain ⟨⟨⟩, -, h⟩ := bind_eq_ok.mp h
  obtain ⟨⟨⟩, -, h⟩ := bind_eq_ok.mp h
  dsimp only at h
  obtain ⟨⟨⟩, -, h⟩ := bind_eq_ok.mp h
  split at h
  case h_2 => cases h
  rename_i items _ hitems
  obtain ⟨⟨⟩, -, h⟩ := bind_eq_ok.mp h
  obtain ⟨parsed, hparsed, h⟩ := bind_eq_ok.mp h
  obtain ⟨⟨⟩, hroots, h⟩ := bind_eq_ok.mp h
  obtain ⟨⟨⟩, -, h⟩ := bind_eq_ok.mp h
  obtain ⟨⟨⟩, -, h⟩ := bind_eq_ok.mp h
  obtain ⟨⟨⟩, -, h⟩ := bind_eq_ok.mp h
  obtain ⟨⟨⟩, -, h⟩ := bind_eq_ok.mp h
  obtain ⟨⟨⟩, -, hstatus⟩ := bind_eq_ok.mp h
  obtain ⟨changes, hchanges, hagrees, hread, hnodup⟩ :=
    @validateObjectChanges_sound _ _ _ [] List.Forall₂.nil (by simp) List.nodup_nil hparsed
  rw [List.nil_append] at hagrees hread hnodup
  have hpairs : parsed.map (fun c => (c.change, c.identity)) =
      changes.map (fun o => (o.change, o.objectIdentity)) := by
    refine List.forall₂_eq_eq_eq ▸ ?_
    rw [List.forall₂_map_left_iff, List.forall₂_map_right_iff]
    exact hagrees.imp (fun _ _ h => Prod.ext h.1 h.2)
  have hroot : ∀ o ∈ changes, o.objectIdentity.kind = .dataSource ∨ o.objectIdentity.kind = .database →
      o.change = .changed := by
    intro o ho hkind
    have hmem : (o.change, o.objectIdentity) ∈ parsed.map (fun c => (c.change, c.identity)) :=
      hpairs ▸ List.mem_map_of_mem ho
    obtain ⟨c, hc, hsame⟩ := List.mem_map.mp hmem
    obtain ⟨hchange, hidentity⟩ := Prod.mk.inj hsame
    rw [validateRootObjectChanges, demand_eq_ok, List.all_eq_true] at hroots
    have hone := hroots c hc
    have hpath : o.objectIdentity.path = [] := by
      cases hi : o.objectIdentity <;> simp [hi, ComparisonObjectIdentity.kind] at hkind <;> rfl
    rw [hchange, hidentity, hpath] at hone
    rcases hkind with hkind | hkind <;> simpa [hkind] using hone
  obtain ⟨status, hstatus, hempty⟩ := validateStatus_sound hstatus
  have hnil : parsed = [] ↔ changes = [] := by
    rw [← List.length_eq_zero_iff, ← List.length_eq_zero_iff, hagrees.length_eq]
  refine ⟨changes, status, ?_, ?_, hnodup, hstatus, hempty.trans hnil⟩
  · rw [readObjectChanges, hitems]
    exact hchanges
  · intro o ho
    have h := hread o ho
    exact ⟨h.parent, h.empty, h.nonempty, h.nodup, h.properties, hroot o ho⟩

end Changes
end CollibraGovernance.Comparison
