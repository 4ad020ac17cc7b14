import CollibraGovernance.Collibra.Batching

/-! What a compiled import document says: one command for each mutated asset, one relation entry
for each created relationship, and no reference to a later command. -/
namespace CollibraGovernance.Collibra
open Library

/-- One related asset under one relation of one command. -/
structure RelationEntry where
  host : ImportIdentifier
  key : String
  related : ImportIdentifier
  deriving DecidableEq

def relationEntriesOf (host : ImportIdentifier) (relations : List (String × List ImportIdentifier)) :
    List RelationEntry :=
  relations.flatMap fun e => e.2.map fun related => ⟨host, e.1, related⟩

def ImportCommand.relationEntries (command : ImportCommand) : List RelationEntry :=
  relationEntriesOf command.identifier command.relations.entries

def ImportDocument.relationEntries (document : ImportDocument) : List RelationEntry :=
  document.commands.flatMap ImportCommand.relationEntries

def planAssets (plan : SyncPlan) : List SyncAction :=
  plan.actions.filter (fun a => a.objectKind = .asset)

/-- The relationships that the plan creates. -/
def createdRelationships (plan : SyncPlan) : List CollibraRelationshipSpec :=
  (ofKind .create .relationship plan.actions).filterMap SyncAction.desiredRelationship

/-- The asset of the plan that an identifier stands for, named by its local id. -/
inductive Denotes (plan : SyncPlan) : ImportIdentifier → String → Prop
  | created {action : SyncAction} {asset : CollibraAssetSpec} {localId : String}
      (listed : action ∈ planAssets plan) (type : action.actionType = .create)
      (named : action.localId = some localId) (desired : action.desiredAsset = some asset) :
      Denotes plan (.natural asset.name asset.domainRef) localId
  | stored {action : SyncAction} {remoteId localId : String}
      (listed : action ∈ planAssets plan) (type : action.actionType ≠ .create)
      (named : action.localId = some localId) (known : action.remoteId = some remoteId) :
      Denotes plan (.remote remoteId) localId

/-- A relation entry says that one asset stands in a relation to another: from the host's side the
key gives the end at which the related asset stands. -/
def Expresses (plan : SyncPlan) (entry : RelationEntry) (rel : CollibraRelationshipSpec) : Prop :=
  (entry.key = relationKey rel.relationTypeRef .source ∧
    Denotes plan entry.host rel.targetLocalId ∧ Denotes plan entry.related rel.sourceLocalId) ∨
  (entry.key = relationKey rel.relationTypeRef .target ∧
    Denotes plan entry.host rel.sourceLocalId ∧ Denotes plan entry.related rel.targetLocalId)

/-- The command without its relations. -/
def ImportCommand.bare (command : ImportCommand) : ImportCommand :=
  { command with relations := Dict.empty }

def attributeValues (asset : CollibraAssetSpec) : List (String × String) :=
  asset.attributes.map fun a => (a.attributeTypeRef, a.value)

/-- The command of a mutated asset: a create carries the whole asset, an update its changed fields. -/
inductive CarriesAsset (action : SyncAction) (command : ImportCommand) : Prop
  | created {asset : CollibraAssetSpec} (type : action.actionType = .create)
      (desired : action.desiredAsset = some asset)
      (identifier : command.identifier = .natural asset.name asset.domainRef)
      (typeRef : command.typeRef = some asset.assetTypeRef) (name : command.name = none)
      (displayName : command.displayName = asset.displayName)
      (attributes : command.attributes.entries = attributeValues asset)
  | updated {asset : CollibraAssetSpec} {remoteId : String} (type : action.actionType = .update)
      (desired : action.desiredAsset = some asset) (known : action.remoteId = some remoteId)
      (identifier : command.identifier = .remote remoteId) (typeRef : command.typeRef = none)
      (name : command.name = if action.changedFields.contains "name" then some asset.name else none)
      (displayName : command.displayName =
        if action.changedFields.contains "display_name" then asset.displayName else none)
      (attributes : command.attributes.entries =
        if action.changedFields.contains "managed_attributes" then attributeValues asset else [])

/-- A command that carries relations only. -/
def LinkOnly (plan : SyncPlan) (localId : String) (command : ImportCommand) : Prop :=
  Denotes plan command.identifier localId ∧
    command.bare = ⟨command.identifier, none, none, none, Dict.empty, Dict.empty⟩

/-- Every name that a command refers to is the name of an earlier one, or its own when the plan
links that asset to itself. -/
def RefersBack (plan : SyncPlan) (earlier : List ImportCommand) (command : ImportCommand) : Prop :=
  ∀ entry ∈ command.relationEntries, ∀ name domainRef, entry.related = .natural name domainRef →
    (∃ c ∈ earlier, c.identifier = entry.related) ∨
    (entry.related = command.identifier ∧ ∃ rel ∈ createdRelationships plan,
      rel.sourceLocalId = rel.targetLocalId ∧ Denotes plan command.identifier rel.sourceLocalId)

/-- The source and update actions that compile to a command of their own, in command order. -/
def mutatedAssets (plan : SyncPlan) : List SyncAction :=
  sortBy assetRank (ofKind .create .asset (plan.actions.filter SyncAction.mutates)) ++
  sortBy (fun a => a.localId.getD "") (ofKind .update .asset (plan.actions.filter SyncAction.mutates))

lemma ofKind_mutates {t : SyncActionType} (k : SyncObjectKind) (actions : List SyncAction)
    (ht : t = .create ∨ t = .update) :
    ofKind t k (actions.filter SyncAction.mutates) = ofKind t k actions := by
  unfold ofKind
  rw [List.filter_filter]
  apply List.filter_congr
  intro a _
  rcases ht with rfl | rfl <;>
  by_cases h : a.actionType = .create <;> by_cases h' : a.actionType = .update <;>
    simp [SyncAction.mutates, h, h']

lemma mem_planAssets {plan : SyncPlan} {a : SyncAction} :
    a ∈ planAssets plan ↔ a ∈ plan.actions ∧ a.objectKind = .asset := by
  simp [planAssets]

lemma mem_mutatedAssets {plan : SyncPlan} {a : SyncAction} :
    a ∈ mutatedAssets plan ↔ a ∈ plan.actions ∧ a.mutatesAsset = true := by
  simp only [mutatedAssets, ofKind_mutates .asset plan.actions (.inl rfl),
    ofKind_mutates .asset plan.actions (.inr rfl), List.mem_append, mem_sortBy, mem_ofKind,
    SyncAction.mutatesAsset, SyncAction.mutates, decide_eq_true_eq]
  tauto

theorem mutatedAssets_perm (plan : SyncPlan) :
    (mutatedAssets plan).Perm (plan.actions.filter SyncAction.mutatesAsset) := by
  have hsort : (mutatedAssets plan).Perm
      (ofKind .create .asset plan.actions ++ ofKind .update .asset plan.actions) := by
    unfold mutatedAssets
    rw [ofKind_mutates .asset plan.actions (.inl rfl), ofKind_mutates .asset plan.actions (.inr rfl)]
    exact (sortBy_perm _ _).append (sortBy_perm _ _)
  refine hsort.trans ?_
  generalize plan.actions = actions
  induction actions with
  | nil => exact List.Perm.refl _
  | cons a actions ih =>
    by_cases hk : a.objectKind = .asset
    · cases ht : a.actionType <;>
        simp_all [ofKind, SyncAction.mutatesAsset, SyncAction.mutates]
      exact List.perm_middle.trans (ih.cons a)
    · simp_all [ofKind, SyncAction.mutatesAsset, SyncAction.mutates]

/-! ### What the checks before the loop establish -/

theorem requireDesiredAsset_ok {action : SyncAction} {asset : CollibraAssetSpec}
    (h : requireDesiredAsset action = .ok asset) : action.desiredAsset = some asset := by
  unfold requireDesiredAsset at h
  split at h
  · cases h
  · rename_i spec hspec
    cases h
    exact hspec

theorem requireAssetLocalIdentity_ok {action : SyncAction} {localId : String}
    (h : requireAssetLocalIdentity action = .ok localId) :
    action.objectKind = .asset ∧ action.localId = some localId := by
  unfold requireAssetLocalIdentity at h
  split at h
  · cases h
  · rename_i hkind
    split at h
    · cases h
    · split at h
      · cases h
      · obtain ⟨asset, _, h⟩ := bind_eq_ok.mp h
        split at h
        · cases h
        · split at h
          · cases h
          · rename_i hid
            obtain rfl := pure_eq_ok.mp h
            exact ⟨not_not.mp hkind, not_not.mp hid⟩

theorem exactImportAssetIdentifier_ok {asset : CollibraAssetSpec} {key : String × String}
    (h : exactImportAssetIdentifier asset = .ok key) : key = (asset.name, asset.domainRef) := by
  unfold exactImportAssetIdentifier at h
  split at h
  · cases h
  · split at h
    · cases h
    · cases h
      rfl

/-- Where the loop over creates has noted the local id of an asset's name and domain. -/
def Noted (seen : Dict (String × String) String) (a : SyncAction) : Prop :=
  ∃ asset localId, a.desiredAsset = some asset ∧ a.localId = some localId ∧
    seen.get? (asset.name, asset.domainRef) = some localId

theorem noteCreateIdentifier_keeps {seen seen' : Dict (String × String) String} {a : SyncAction}
    (h : noteCreateIdentifier seen a = .ok seen') {k : String × String} {l : String}
    (hget : seen.get? k = some l) : seen'.get? k = some l := by
  unfold noteCreateIdentifier at h
  split at h
  · obtain ⟨asset, _, h⟩ := bind_eq_ok.mp h
    obtain ⟨key, _, h⟩ := bind_eq_ok.mp h
    obtain ⟨localId, _, h⟩ := bind_eq_ok.mp h
    split at h
    · cases h
    · rename_i hsame
      obtain rfl := pure_eq_ok.mp h
      rw [Dict.get?_set]
      split_ifs with hk
      · subst hk
        rw [hget, Option.getD_some, not_not] at hsame
        rw [hsame]
      · exact hget
  · cases h
    exact hget

theorem noteCreateIdentifier_noted {seen seen' : Dict (String × String) String} {a : SyncAction}
    (h : noteCreateIdentifier seen a = .ok seen') (hcreate : a.isCreateAsset = true) :
    Noted seen' a := by
  unfold noteCreateIdentifier at h
  rw [if_pos hcreate] at h
  obtain ⟨asset, hasset, h⟩ := bind_eq_ok.mp h
  obtain ⟨key, hkey, h⟩ := bind_eq_ok.mp h
  obtain ⟨localId, hlocal, h⟩ := bind_eq_ok.mp h
  split at h
  · cases h
  · obtain rfl := pure_eq_ok.mp h
    obtain rfl := exactImportAssetIdentifier_ok hkey
    exact ⟨asset, localId, requireDesiredAsset_ok hasset, (requireAssetLocalIdentity_ok hlocal).2,
      Dict.get?_set_self ..⟩

theorem foldlM_noteCreateIdentifier {actions : List SyncAction}
    {seen seen' : Dict (String × String) String}
    (h : actions.foldlM noteCreateIdentifier seen = .ok seen') :
    (∀ k l, seen.get? k = some l → seen'.get? k = some l) ∧
      ∀ a ∈ actions, a.isCreateAsset = true → Noted seen' a := by
  refine foldlM_ok (R := fun seen actions seen' =>
    (∀ k l, seen.get? k = some l → seen'.get? k = some l) ∧
      ∀ a ∈ actions, a.isCreateAsset = true → Noted seen' a) ?_ ?_ h
  · intro seen
    exact ⟨fun _ _ h => h, fun a ha => absurd ha List.not_mem_nil⟩
  · intro seen a mid rest seen' hstep ⟨hkeep, hnoted⟩
    refine ⟨fun k l hk => hkeep k l (noteCreateIdentifier_keeps hstep hk), fun b hb hcreate => ?_⟩
    rcases List.mem_cons.mp hb with rfl | hb
    · obtain ⟨asset, localId, hasset, hlocal, hget⟩ := noteCreateIdentifier_noted hstep hcreate
      exact ⟨asset, localId, hasset, hlocal, hkeep _ _ hget⟩
    · exact hnoted b hb hcreate

theorem noteAsset_get? {found found' : Dict String SyncAction} {action a : SyncAction} {l : String}
    (h : noteAsset found action = .ok found') (hget : found'.get? l = some a) :
    found.get? l = some a ∨ (a = action ∧ a.objectKind = .asset ∧ a.localId = some l) := by
  have hset : ∀ {k : String}, found' = found.set k action → action.objectKind = .asset →
      action.localId = some k →
      found.get? l = some a ∨ (a = action ∧ a.objectKind = .asset ∧ a.localId = some l) := by
    intro k hfound hkind hlocal
    rw [hfound, Dict.get?_set] at hget
    split_ifs at hget with hk
    · subst hk
      obtain rfl := Option.some.inj hget
      exact .inr ⟨rfl, hkind, hlocal⟩
    · exact .inl hget
  unfold noteAsset at h
  split at h
  · cases h
    exact .inl hget
  · rename_i hkind
    split at h
    · obtain ⟨k, hk, h⟩ := bind_eq_ok.mp h
      exact hset (pure_eq_ok.mp h).symm (not_not.mp hkind) (requireAssetLocalIdentity_ok hk).2
    · split at h
      · cases h
        exact .inl hget
      · rename_i k hlocal
        split at h
        · cases h
          exact .inl hget
        · cases h
          exact hset rfl (not_not.mp hkind) hlocal

/-- The lookup finds an asset action of the plan under its own local id. -/
theorem assetLookup_get? {plan : SyncPlan} {found : Dict String SyncAction}
    (h : assetLookup plan = .ok found) {l : String} {a : SyncAction} (hget : found.get? l = some a) :
    a ∈ planAssets plan ∧ a.localId = some l := by
  have hall := foldlM_ok (R := fun found actions found' => ∀ l a, found'.get? l = some a →
      found.get? l = some a ∨ (a ∈ actions ∧ a.objectKind = .asset ∧ a.localId = some l))
    (fun found l a hget => .inl hget)
    (fun found action mid rest found' hstep hrest l a hget => by
      rcases hrest l a hget with hmid | ⟨ha, hkind, hlocal⟩
      · rcases noteAsset_get? hstep hmid with hold | ⟨rfl, hkind, hlocal⟩
        · exact .inl hold
        · exact .inr ⟨List.mem_cons_self .., hkind, hlocal⟩
      · exact .inr ⟨List.mem_cons_of_mem _ ha, hkind, hlocal⟩) h
  rcases hall l a hget with hnone | ⟨ha, hkind, hlocal⟩
  · cases hnone
  · exact ⟨mem_planAssets.mpr ⟨ha, hkind⟩, hlocal⟩

/-! ### Identifiers stand for assets -/

lemma eq_of_filterMap_nodup {α β : Type*} {f : α → Option β} {xs : List α}
    (h : (xs.filterMap f).Nodup) {x y : α} (hx : x ∈ xs) (hy : y ∈ xs) {b : β}
    (hfx : f x = some b) (hfy : f y = some b) : x = y := by
  induction xs with
  | nil => cases hx
  | cons z zs ih =>
    rcases List.mem_cons.mp hx with rfl | hx' <;> rcases List.mem_cons.mp hy with rfl | hy'
    · rfl
    · rw [List.filterMap_cons_some hfx] at h
      exact absurd (List.mem_filterMap.mpr ⟨y, hy', hfy⟩) (List.nodup_cons.mp h).1
    · rw [List.filterMap_cons_some hfy] at h
      exact absurd (List.mem_filterMap.mpr ⟨x, hx', hfx⟩) (List.nodup_cons.mp h).1
    · cases hz : f z with
      | none => exact ih (by rwa [List.filterMap_cons_none hz] at h) hx' hy'
      | some c => exact ih (List.nodup_cons.mp (by rwa [List.filterMap_cons_some hz] at h)).2 hx' hy'

section Identity
variable {plan : SyncPlan} {i i' : ImportIdentifier} {l l' : String}

/-- An asset has one identifier. -/
theorem Denotes.identifier_unique (hlocal : ((planAssets plan).filterMap SyncAction.localId).Nodup)
    (h : Denotes plan i l) (h' : Denotes plan i' l) : i = i' := by
  cases h with
  | created listed type named desired =>
    cases h' with
    | created listed' type' named' desired' =>
      obtain rfl := eq_of_filterMap_nodup hlocal listed listed' named named'
      rw [Option.some.inj (desired.symm.trans desired')]
    | stored listed' type' named' known' =>
      obtain rfl := eq_of_filterMap_nodup hlocal listed listed' named named'
      exact absurd type type'
  | stored listed type named known =>
    cases h' with
    | created listed' type' named' desired' =>
      obtain rfl := eq_of_filterMap_nodup hlocal listed listed' named named'
      exact absurd type' type
    | stored listed' type' named' known' =>
      obtain rfl := eq_of_filterMap_nodup hlocal listed listed' named named'
      rw [Option.some.inj (known.symm.trans known')]

/-- An identifier stands for one asset, when no two created assets share name and domain. -/
theorem Denotes.localId_unique {seen : Dict (String × String) String}
    (hnoted : ∀ a ∈ plan.actions, a.isCreateAsset = true → Noted seen a)
    (hremote : ((planAssets plan).filterMap SyncAction.remoteId).Nodup)
    (h : Denotes plan i l) (h' : Denotes plan i l') : l = l' := by
  have hseen : ∀ {a : SyncAction} {asset : CollibraAssetSpec} {l : String}, a ∈ planAssets plan →
      a.actionType = .create → a.localId = some l → a.desiredAsset = some asset →
      seen.get? (asset.name, asset.domainRef) = some l := by
    intro a asset l ha htype hl hasset
    obtain ⟨hmem, hkind⟩ := mem_planAssets.mp ha
    obtain ⟨asset', l'', hasset', hl', hget⟩ :=
      hnoted a hmem (by simp [SyncAction.isCreateAsset, hkind, htype])
    rw [Option.some.inj (hasset.symm.trans hasset'), hget, hl'.symm.trans hl]
  cases h with
  | created listed type named desired =>
    generalize hi : ImportIdentifier.natural _ _ = j at h'
    cases h' with
    | created listed' type' named' desired' =>
      obtain ⟨hname, hdomain⟩ := ImportIdentifier.natural.inj hi
      have hget := hseen listed type named desired
      rw [hname, hdomain, hseen listed' type' named' desired'] at hget
      exact (Option.some.inj hget).symm
    | stored => cases hi
  | stored listed type named known =>
    cases h' with
    | stored listed' type' named' known' =>
      obtain rfl := eq_of_filterMap_nodup hremote listed listed' known known'
      exact Option.some.inj (named.symm.trans named')

end Identity

/-! ### Asset commands -/

theorem managedAttributes_ok {attributes : List CollibraAttributeSpec} {allowed : List String}
    {payload : Dict String String} (h : managedAttributes attributes allowed = .ok payload) :
    payload.entries = attributes.map fun a => (a.attributeTypeRef, a.value) := by
  have hall := foldlM_ok (R := fun s attributes s' => s'.entries = s.entries ++
      attributes.map fun a => (a.attributeTypeRef, a.value))
    (fun s => by rw [List.map_nil, List.append_nil])
    (fun s a mid rest s' hstep hrest => by
      unfold addManagedAttribute at hstep
      split at hstep
      · cases hstep
      · split at hstep
        · cases hstep
        · rename_i hnew
          cases hstep
          rw [Bool.not_eq_true, ← Bool.not_eq_true, Dict.contains_iff] at hnew
          rw [hrest, Dict.entries_set_of_notMem _ hnew, List.map_cons, List.append_assoc,
            List.singleton_append]) h
  exact hall

theorem createCommand_carries {allowed : List String} {action : SyncAction}
    {asset : CollibraAssetSpec} {command : ImportCommand} (htype : action.actionType = .create)
    (hasset : action.desiredAsset = some asset) (h : createCommand allowed asset = .ok command) :
    CarriesAsset action command ∧ command.relations = Dict.empty := by
  obtain ⟨key, hkey, h⟩ := bind_eq_ok.mp h
  obtain ⟨payload, hpayload, h⟩ := bind_eq_ok.mp h
  obtain rfl := pure_eq_ok.mp h
  obtain rfl := exactImportAssetIdentifier_ok hkey
  exact ⟨.created htype hasset rfl rfl rfl rfl (managedAttributes_ok hpayload), rfl⟩

theorem changedAttributes_ok {allowed : List String} {action : SyncAction}
    {asset : CollibraAssetSpec} {payload : Dict String String}
    (h : changedAttributes allowed action asset = .ok payload) :
    payload.entries =
      if action.changedFields.contains "managed_attributes" then attributeValues asset else [] := by
  unfold changedAttributes at h
  split at h
  · rename_i hchanged
    obtain ⟨attributes, hattributes, h⟩ := bind_eq_ok.mp h
    split at h
    · cases h
    · obtain rfl := pure_eq_ok.mp h
      rw [if_pos hchanged, managedAttributes_ok hattributes]
      rfl
  · rename_i hchanged
    cases h
    rw [if_neg hchanged]
    rfl

theorem updateCommand_carries {allowed : List String} {action : SyncAction}
    {asset : CollibraAssetSpec} {command : ImportCommand} (htype : action.actionType = .update)
    (hasset : action.desiredAsset = some asset)
    (h : updateCommand allowed action asset = .ok command) :
    CarriesAsset action command ∧ command.relations = Dict.empty := by
  obtain ⟨_, remoteId, _, hknown⟩ := action.update_isSome htype
  unfold updateCommand at h
  rw [hknown, Option.getD_some] at h
  simp only at h
  split at h
  · cases h
  · obtain ⟨payload, hpayload, h⟩ := bind_eq_ok.mp h
    obtain rfl := pure_eq_ok.mp h
    exact ⟨.updated htype hasset hknown rfl rfl rfl rfl (changedAttributes_ok hpayload), rfl⟩

theorem assetCommand_carries {allowed : List String} {action : SyncAction} {command : ImportCommand}
    (h : assetCommand allowed action = .ok command) :
    CarriesAsset action command ∧ command.relations = Dict.empty := by
  obtain ⟨asset, hasset, h⟩ := bind_eq_ok.mp h
  have hdesired := requireDesiredAsset_ok hasset
  split at h
  · exact createCommand_carries ‹_› hdesired h
  · exact updateCommand_carries ‹_› hdesired h
  · cases h

theorem CarriesAsset.denotes {plan : SyncPlan} {action : SyncAction} {command : ImportCommand}
    {l : String} (h : CarriesAsset action command) (hmem : action ∈ planAssets plan)
    (hlocal : action.localId = some l) : Denotes plan command.identifier l := by
  cases h with
  | created type desired identifier =>
    rw [identifier]
    exact .created hmem type hlocal desired
  | updated type desired known identifier =>
    rw [identifier]
    exact .stored hmem (by rw [type]; exact SyncActionType.noConfusion) hlocal known

/-- The identifier of a relationship's end stands for that end, and is a name only for a create. -/
theorem assetIdentifier_denotes {plan : SyncPlan} {action : SyncAction} {i : ImportIdentifier}
    {l : String} (h : assetIdentifier action = .ok i) (hmem : action ∈ planAssets plan)
    (hlocal : action.localId = some l) :
    Denotes plan i l ∧ (action.actionType ≠ .create → ∀ n d, i ≠ .natural n d) := by
  unfold assetIdentifier at h
  split at h
  · rename_i htype
    obtain ⟨asset, hasset, h⟩ := bind_eq_ok.mp h
    obtain ⟨key, hkey, h⟩ := bind_eq_ok.mp h
    obtain rfl := pure_eq_ok.mp h
    obtain rfl := exactImportAssetIdentifier_ok hkey
    exact ⟨.created hmem htype hlocal (requireDesiredAsset_ok hasset), fun hne => absurd htype hne⟩
  · rename_i htype
    split at h
    · cases h
    · rename_i remoteId hknown
      split at h
      · cases h
      · cases h
        exact ⟨.stored hmem htype hlocal hknown, fun _ n d hi => by cases hi⟩

/-- The loop over asset actions appends one command each, under the action's local id. -/
theorem foldlM_compileAsset {plan : SyncPlan} {allowed : List String}
    {assetsByLocal : Dict String SyncAction} {actions : List SyncAction} {s s' : Commands}
    (hkind : ∀ a ∈ actions, a.objectKind = .asset)
    (h : actions.foldlM (compileAction plan allowed assetsByLocal) s = .ok s') :
    ∃ es, s'.entries = s.entries ++ es ∧ List.Forall₂ (fun a e => a.localId = some e.1 ∧
      CarriesAsset a e.2 ∧ e.2.relations = Dict.empty) actions es := by
  induction actions generalizing s with
  | nil =>
    obtain rfl := pure_eq_ok.mp h
    exact ⟨[], (List.append_nil _).symm, .nil⟩
  | cons a actions ih =>
    obtain ⟨mid, hstep, hrest⟩ := bind_eq_ok.mp h
    obtain ⟨es, hes, hall⟩ := ih (fun b hb => hkind b (List.mem_cons_of_mem _ hb)) hrest
    unfold compileAction at hstep
    rw [hkind a (List.mem_cons_self ..)] at hstep
    obtain ⟨command, hcommand, hstep⟩ := bind_eq_ok.mp hstep
    obtain ⟨localId, hlocal, hstep⟩ := bind_eq_ok.mp hstep
    split at hstep
    · cases hstep
    · rename_i hnew
      obtain rfl := pure_eq_ok.mp hstep
      rw [Dict.contains_iff] at hnew
      rw [Dict.entries_set_of_notMem _ hnew, List.append_assoc, List.singleton_append] at hes
      exact ⟨(localId, command) :: es, hes,
        .cons ⟨(requireAssetLocalIdentity_ok hlocal).2, assetCommand_carries hcommand⟩ hall⟩

/-! ### Attaching relationships -/

section Entries
variable (command : ImportCommand) (type : String) (direction : RelationDirection)
  (related : ImportIdentifier)

@[simp] lemma addRelation_identifier :
    (command.addRelation type direction related).identifier = command.identifier := rfl

@[simp] lemma addRelation_bare :
    (command.addRelation type direction related).bare = command.bare := rfl

/-- Adding a relation adds one entry. -/
theorem addRelation_relationEntries :
    (command.addRelation type direction related).relationEntries.Perm
      (⟨command.identifier, relationKey type direction, related⟩ :: command.relationEntries) := by
  unfold ImportCommand.relationEntries
  simp only [ImportCommand.addRelation]
  generalize relationKey type direction = key
  cases hget : command.relations.get? key with
  | none =>
    rw [Dict.entries_set_of_notMem _ (Dict.get?_eq_none.mp hget)]
    simp only [relationEntriesOf, List.flatMap_append, Option.getD_none, List.nil_append,
      List.flatMap_cons, List.flatMap_nil, List.map_cons, List.map_nil, List.append_nil]
    exact List.perm_append_comm
  | some values =>
    obtain ⟨pre, post, hold, hnew⟩ := Dict.entries_set_of_get? (values ++ [related]) hget
    rw [Option.getD_some, hold, hnew]
    simp only [relationEntriesOf, List.flatMap_append, List.flatMap_cons, List.map_append,
      List.map_cons, List.map_nil, List.append_assoc, List.singleton_append]
    rw [← List.append_assoc, ← List.append_assoc]
    exact List.perm_middle

lemma host_eq_of_mem {entry : RelationEntry} (h : entry ∈ command.relationEntries) :
    entry.host = command.identifier := by
  obtain ⟨e, _, he⟩ := List.mem_flatMap.mp h
  obtain ⟨_, _, rfl⟩ := List.mem_map.mp he
  rfl

end Entries

/-- The commands part-way through the relationships: the asset commands `base` with relations
added, then the commands that only carry relations. -/
structure Attached (plan : SyncPlan) (base s : Commands) (done : List CollibraRelationshipSpec) :
    Prop where
  commands : ∃ links : List (String × ImportCommand),
    s.entries.map (fun e => (e.1, e.2.bare)) = base.entries ++ links ∧
    ∀ e ∈ links, LinkOnly plan e.1 e.2 ∧ ∃ rel ∈ createdRelationships plan, rel.sourceLocalId = e.1
  relations : ∃ entries : List RelationEntry,
    entries.Perm (s.values.flatMap ImportCommand.relationEntries) ∧
    List.Forall₂ (Expresses plan) entries done
  backward : ∀ e ∈ s.entries, ∀ entry ∈ e.2.relationEntries, ∀ n d, entry.related = .natural n d →
    ∃ k c, base.get? k = some c ∧ c.identifier = entry.related ∧ e.1 ∈ base.keys ∧
      base.keys.idxOf k ≤ base.keys.idxOf e.1

/-- Each asset command names the asset it is listed under and relates it to nothing yet. -/
def AssetCommands (plan : SyncPlan) (base : Commands) : Prop :=
  ∀ e ∈ base.entries, Denotes plan e.2.identifier e.1 ∧ e.2.relations = Dict.empty

namespace Attached
variable {plan : SyncPlan} {base s : Commands} {done : List CollibraRelationshipSpec}

theorem start (hbase : AssetCommands plan base) : Attached plan base base [] where
  commands := by
    refine ⟨[], ?_, fun e he => absurd he List.not_mem_nil⟩
    rw [List.append_nil]
    calc base.entries.map (fun e => (e.1, e.2.bare)) = base.entries.map id := by
          apply List.map_congr_left
          intro e he
          rw [ImportCommand.bare, ← (hbase e he).2]
          rfl
      _ = base.entries := List.map_id _
  relations := by
    refine ⟨[], ?_, .nil⟩
    have hnone : base.values.flatMap ImportCommand.relationEntries = [] := by
      rw [List.flatMap_eq_nil_iff]
      intro c hc
      obtain ⟨e, he, rfl⟩ := List.mem_map.mp hc
      rw [ImportCommand.relationEntries, (hbase e he).2]
      rfl
    rw [hnone]
  backward := by
    intro e he entry hentry
    rw [ImportCommand.relationEntries, (hbase e he).2] at hentry
    cases hentry

theorem denotes (h : Attached plan base s done) (hbase : AssetCommands plan base)
    {e : String × ImportCommand} (he : e ∈ s.entries) : Denotes plan e.2.identifier e.1 := by
  obtain ⟨links, heq, hlinks⟩ := h.commands
  have hmem : (e.1, e.2.bare) ∈ base.entries ++ links := by
    rw [← heq]
    exact List.mem_map_of_mem (f := fun e : String × ImportCommand => (e.1, e.2.bare)) he
  rcases List.mem_append.mp hmem with hmem | hmem
  · exact (hbase _ hmem).1
  · exact (hlinks _ hmem).1.1

/-- The asset commands come first, in their order. -/
theorem keys_eq (h : Attached plan base s done) : ∃ extra, s.keys = base.keys ++ extra := by
  obtain ⟨links, heq, _⟩ := h.commands
  refine ⟨links.map Prod.fst, ?_⟩
  have hfst := congrArg (List.map Prod.fst) heq
  rwa [List.map_map, List.map_append] at hfst

theorem idxOf_keys (h : Attached plan base s done) {k : String} (hk : k ∈ base.keys) :
    s.keys.idxOf k = base.keys.idxOf k := by
  obtain ⟨extra, hkeys⟩ := h.keys_eq
  rw [hkeys, List.idxOf_append_of_mem hk]

/-- What hosting one more relation needs: the entry says what the relationship says, and a name it
refers to is at hand by then. -/
theorem host (h : Attached plan base s done) {l type : String} {direction : RelationDirection}
    {command : ImportCommand} {related : ImportIdentifier} {rel : CollibraRelationshipSpec}
    (hget : s.get? l = some command)
    (hexpr : Expresses plan ⟨command.identifier, relationKey type direction, related⟩ rel)
    (hback : ∀ n d, related = .natural n d → ∃ k c, base.get? k = some c ∧ c.identifier = related ∧
      l ∈ base.keys ∧ base.keys.idxOf k ≤ base.keys.idxOf l) :
    Attached plan base (s.set l (command.addRelation type direction related)) (done ++ [rel]) := by
  obtain ⟨pre, post, hold, hnew⟩ :=
    Dict.entries_set_of_get? (command.addRelation type direction related) hget
  have hperm := addRelation_relationEntries command type direction related
  constructor
  · obtain ⟨links, heq, hlinks⟩ := h.commands
    refine ⟨links, ?_, hlinks⟩
    rw [← heq, hold, hnew]
    simp only [List.map_append, List.map_cons, addRelation_bare]
  · obtain ⟨entries, hentries, hall⟩ := h.relations
    refine ⟨entries ++ [⟨command.identifier, relationKey type direction, related⟩], ?_,
      List.rel_append hall (.cons hexpr .nil)⟩
    refine List.perm_append_comm.trans ((hentries.cons _).trans ?_)
    simp only [Dict.values, hold, hnew, List.map_append, List.map_cons, List.flatMap_append,
      List.flatMap_cons]
    exact List.perm_middle.symm.trans ((hperm.symm.append_right _).append_left _)
  · intro e he entry hentry n d hnatural
    have hold' : ∀ e ∈ pre ++ (l, command) :: post, e ∈ s.entries := fun e he => hold ▸ he
    rw [hnew] at he
    rcases List.mem_append.mp he with he | he
    · exact h.backward e (hold' e (List.mem_append_left _ he)) entry hentry n d hnatural
    · rcases List.mem_cons.mp he with rfl | he
      · rcases List.mem_cons.mp (hperm.mem_iff.mp hentry) with rfl | hentry
        · exact hback n d hnatural
        · exact h.backward (l, command) (hold' _ (List.mem_append_right _ (List.mem_cons_self ..)))
            entry hentry n d hnatural
      · exact h.backward e (hold' e (List.mem_append_right _ (List.mem_cons_of_mem _ he))) entry
          hentry n d hnatural

/-- A command that only carries relations goes to the end. -/
theorem link (h : Attached plan base s done) {l : String} {command : ImportCommand}
    (hget : s.get? l = none) (hlink : LinkOnly plan l command)
    (hrelations : command.relations = Dict.empty)
    (hsource : ∃ rel ∈ createdRelationships plan, rel.sourceLocalId = l) :
    Attached plan base (s.set l command) done := by
  have hnew := Dict.entries_set_of_notMem command (Dict.get?_eq_none.mp hget)
  have hnone : command.relationEntries = [] := by
    rw [ImportCommand.relationEntries, hrelations]
    rfl
  constructor
  · obtain ⟨links, heq, hlinks⟩ := h.commands
    refine ⟨links ++ [(l, command.bare)], ?_, fun e he => ?_⟩
    · rw [hnew, List.map_append, heq, List.append_assoc]
      rfl
    · rcases List.mem_append.mp he with he | he
      · exact hlinks e he
      · rw [List.mem_singleton.mp he]
        exact ⟨⟨hlink.1, hlink.2⟩, hsource⟩
  · obtain ⟨entries, hentries, hall⟩ := h.relations
    refine ⟨entries, ?_, hall⟩
    rw [Dict.values, hnew, List.map_append, List.flatMap_append]
    simpa [hnone, Dict.values] using hentries
  · intro e he entry hentry n d hnatural
    rw [hnew] at he
    rcases List.mem_append.mp he with he | he
    · exact h.backward e he entry hentry n d hnatural
    · rw [List.mem_singleton.mp he, hnone] at hentry
      cases hentry

end Attached

theorem hostRelation_ok {s s' : Commands} {l type : String} {direction : RelationDirection}
    {action : SyncAction} (h : hostRelation s l type direction action = .ok s') :
    ∃ command related, s.get? l = some command ∧ assetIdentifier action = .ok related ∧
      s' = s.set l (command.addRelation type direction related) := by
  unfold hostRelation at h
  split at h
  · cases h
  · rename_i command hget
    obtain ⟨related, hrelated, h⟩ := bind_eq_ok.mp h
    obtain rfl := pure_eq_ok.mp h
    exact ⟨command, related, hget, hrelated, rfl⟩

theorem lookupEndpoint_ok {assetsByLocal : Dict String SyncAction} {l : String} {a : SyncAction}
    (h : lookupEndpoint assetsByLocal l = .ok a) : assetsByLocal.get? l = some a := by
  unfold lookupEndpoint at h
  split at h
  · cases h
  · cases h
    assumption

lemma isCreateAsset_iff {plan : SyncPlan} {a : SyncAction} (ha : a ∈ planAssets plan) :
    a.isCreateAsset = true ↔ a.actionType = .create := by
  simp [SyncAction.isCreateAsset, (mem_planAssets.mp ha).2]

/-- What the asset loop and the checks before it leave for the relationships. -/
structure Prepared (plan : SyncPlan) (assetsByLocal : Dict String SyncAction) (base : Commands) :
    Prop where
  localIds : ((planAssets plan).filterMap SyncAction.localId).Nodup
  lookup : ∀ l a, assetsByLocal.get? l = some a → a ∈ planAssets plan ∧ a.localId = some l
  commands : AssetCommands plan base
  mutated : ∀ a ∈ plan.actions, a.mutatesAsset = true → ∃ l, a.localId = some l ∧ l ∈ base.keys

namespace Prepared
variable {plan : SyncPlan} {assetsByLocal : Dict String SyncAction} {base s s' : Commands}
  {done : List CollibraRelationshipSpec} {rel : CollibraRelationshipSpec}

/-- A created asset has its command. -/
theorem create_mem (h : Prepared plan assetsByLocal base) {l : String} {a : SyncAction}
    (hget : assetsByLocal.get? l = some a) (hcreate : a.isCreateAsset = true) : l ∈ base.keys := by
  obtain ⟨hmem, hlocal⟩ := h.lookup l a hget
  obtain ⟨hplan, hkind⟩ := mem_planAssets.mp hmem
  have htype := (isCreateAsset_iff hmem).mp hcreate
  obtain ⟨l', hl', hkey⟩ := h.mutated a hplan
    (by simp [SyncAction.mutatesAsset, SyncAction.mutates, hkind, htype])
  obtain rfl := Option.some.inj (hlocal.symm.trans hl')
  exact hkey

/-- The command of a created asset bears the identifier others refer to it by. -/
theorem create_command (h : Prepared plan assetsByLocal base) {l : String} {a : SyncAction}
    (hget : assetsByLocal.get? l = some a) (hcreate : a.isCreateAsset = true) {i : ImportIdentifier}
    (hi : assetIdentifier a = .ok i) : ∃ c, base.get? l = some c ∧ c.identifier = i := by
  obtain ⟨hmem, hlocal⟩ := h.lookup l a hget
  obtain ⟨c, hc⟩ := Dict.mem_keys_iff.mp (h.create_mem hget hcreate)
  exact ⟨c, hc, (h.commands _ (Dict.get?_eq_some.mp hc)).1.identifier_unique h.localIds
    (assetIdentifier_denotes hi hmem hlocal).1⟩

/-- Hosting a relation on one end of a relationship, with the other end named. -/
theorem host_ok (h : Prepared plan assetsByLocal base) (hatt : Attached plan base s done)
    {direction : RelationDirection} {l l' : String} {a : SyncAction}
    (hends : (direction = .source ∧ l = rel.targetLocalId ∧ l' = rel.sourceLocalId) ∨
      (direction = .target ∧ l = rel.sourceLocalId ∧ l' = rel.targetLocalId))
    (hget : assetsByLocal.get? l' = some a)
    (horder : a.isCreateAsset = true → l ∈ base.keys ∧ base.keys.idxOf l' ≤ base.keys.idxOf l)
    (hhost : hostRelation s l rel.relationTypeRef direction a = .ok s') :
    Attached plan base s' (done ++ [rel]) := by
  obtain ⟨command, related, hcommand, hrelated, rfl⟩ := hostRelation_ok hhost
  obtain ⟨hmem, hlocal⟩ := h.lookup l' a hget
  obtain ⟨hdenotes, hname⟩ := assetIdentifier_denotes hrelated hmem hlocal
  have hown := hatt.denotes h.commands (Dict.get?_eq_some.mp hcommand)
  refine hatt.host hcommand ?_ ?_
  · rcases hends with ⟨rfl, rfl, rfl⟩ | ⟨rfl, rfl, rfl⟩
    · exact .inl ⟨rfl, hown, hdenotes⟩
    · exact .inr ⟨rfl, hown, hdenotes⟩
  · intro n d hnatural
    have hcreate : a.isCreateAsset = true := by
      rw [isCreateAsset_iff hmem]
      by_contra htype
      exact hname htype n d hnatural
    obtain ⟨c, hc, hident⟩ := h.create_command hget hcreate hrelated
    exact ⟨l', c, hc, hident, horder hcreate⟩

theorem relationOnlyCommand_ok {l : String} {command : ImportCommand}
    (htype : ∀ a ∈ planAssets plan, a.localId = some l → a.actionType ≠ .create)
    (hok : relationOnlyCommand plan l = .ok command) :
    LinkOnly plan l command ∧ command.relations = Dict.empty := by
  unfold relationOnlyCommand at hok
  split at hok
  · cases hok
  · rename_i a hfind
    cases hok
    have hmem := List.mem_of_find?_eq_some hfind
    have hprop := List.find?_some hfind
    simp only [decide_eq_true_eq] at hprop
    obtain ⟨hkind, hlocal, hremote⟩ := hprop
    have hasset := mem_planAssets.mpr ⟨hmem, hkind⟩
    cases hr : a.remoteId with
    | none => exact absurd (by rw [hr]; rfl) hremote
    | some remoteId =>
      exact ⟨⟨.stored hasset (htype a hasset hlocal) hlocal hr, rfl⟩, rfl⟩

/-- A command for an asset that the plan leaves alone is made once and kept. -/
theorem ensure_ok (h : Prepared plan assetsByLocal base) (hatt : Attached plan base s done)
    (hrel : rel ∈ createdRelationships plan) {a : SyncAction}
    (hget : assetsByLocal.get? rel.sourceLocalId = some a) (hcreate : ¬ a.isCreateAsset = true)
    (hok : ensureRelationCommand plan s rel.sourceLocalId = .ok s') :
    Attached plan base s' done := by
  unfold ensureRelationCommand at hok
  split at hok
  · cases hok
    exact hatt
  · rename_i hnone
    obtain ⟨command, hcommand, hok⟩ := bind_eq_ok.mp hok
    obtain rfl := pure_eq_ok.mp hok
    obtain ⟨hmem, hlocal⟩ := h.lookup _ a hget
    obtain ⟨hlink, hrelations⟩ := relationOnlyCommand_ok (fun b hb hb' htype => by
      obtain rfl := eq_of_filterMap_nodup h.localIds hmem hb hlocal hb'
      exact hcreate ((isCreateAsset_iff hmem).mpr htype)) hcommand
    exact hatt.link hnone hlink hrelations ⟨rel, hrel, rfl⟩

/-- One relationship adds the one entry that expresses it. -/
theorem attach_ok (h : Prepared plan assetsByLocal base) (hatt : Attached plan base s done)
    (hrel : rel ∈ createdRelationships plan)
    (hok : attachRelationship plan assetsByLocal s rel = .ok s') :
    Attached plan base s' (done ++ [rel]) := by
  obtain ⟨sourceAction, hsource, hok⟩ := bind_eq_ok.mp hok
  obtain ⟨targetAction, htarget, hok⟩ := bind_eq_ok.mp hok
  have hs := lookupEndpoint_ok hsource
  have ht := lookupEndpoint_ok htarget
  split at hok
  · rename_i hboth
    have hsmem := h.create_mem hs hboth.1
    have htmem := h.create_mem ht hboth.2
    split at hok
    · cases hok
    · split at hok
      · rename_i hlater
        rw [hatt.idxOf_keys hsmem, hatt.idxOf_keys htmem] at hlater
        exact h.host_ok hatt (.inl ⟨rfl, rfl, rfl⟩) hs (fun _ => ⟨htmem, hlater.le⟩) hok
      · rename_i hlater
        rw [hatt.idxOf_keys hsmem, hatt.idxOf_keys htmem] at hlater
        exact h.host_ok hatt (.inr ⟨rfl, rfl, rfl⟩) ht (fun _ => ⟨hsmem, not_lt.mp hlater⟩) hok
  · rename_i hboth
    split at hok
    · rename_i hcreate
      exact h.host_ok hatt (.inr ⟨rfl, rfl, rfl⟩) ht (fun htc => absurd ⟨hcreate, htc⟩ hboth) hok
    · rename_i hcreate
      split at hok
      · exact h.host_ok hatt (.inl ⟨rfl, rfl, rfl⟩) hs (fun hsc => absurd hsc hcreate) hok
      · rename_i htc
        obtain ⟨linked, hlinked, hok⟩ := bind_eq_ok.mp hok
        exact h.host_ok (h.ensure_ok hatt hrel hs hcreate hlinked) (.inr ⟨rfl, rfl, rfl⟩) ht
          (fun htc' => absurd htc' htc) hok

/-- The loop over created relationships. -/
theorem foldlM_attach (h : Prepared plan assetsByLocal base) {allowed : List String}
    {actions : List SyncAction} (hatt : Attached plan base s done)
    (hactions : ∀ a ∈ actions, a ∈ ofKind .create .relationship plan.actions)
    (hok : actions.foldlM (compileAction plan allowed assetsByLocal) s = .ok s') :
    Attached plan base s' (done ++ actions.filterMap SyncAction.desiredRelationship) := by
  induction actions generalizing s done with
  | nil =>
    obtain rfl := pure_eq_ok.mp hok
    rwa [List.filterMap_nil, List.append_nil]
  | cons a actions ih =>
    obtain ⟨mid, hstep, hrest⟩ := bind_eq_ok.mp hok
    have ha := hactions a (List.mem_cons_self ..)
    obtain ⟨_, htype, hkind⟩ := mem_ofKind.mp ha
    obtain ⟨rel, hrel⟩ := a.create_relationship_isSome htype hkind
    have hcreated : rel ∈ createdRelationships plan := List.mem_filterMap.mpr ⟨a, ha, hrel⟩
    unfold compileAction at hstep
    simp only [hkind, htype, hrel, ne_eq, not_true_eq_false, if_false] at hstep
    have hmid := h.attach_ok hatt hcreated hstep
    have hend := ih hmid (fun b hb => hactions b (List.mem_cons_of_mem _ hb)) hrest
    rwa [List.append_assoc, List.singleton_append, ← List.filterMap_cons_some hrel] at hend

end Prepared

/-! ### The whole document -/

/-- A compiled document: its commands are those of the asset loop with every created relationship
attached. -/
structure Compiled (plan : SyncPlan) (document : ImportDocument)
    (seen : Dict (String × String) String) (assetsByLocal : Dict String SyncAction)
    (base commands : Commands) (rels : List CollibraRelationshipSpec) : Prop where
  noted : ∀ a ∈ plan.actions, a.isCreateAsset = true → Noted seen a
  prepared : Prepared plan assetsByLocal base
  carried : List.Forall₂ (fun a e => a.localId = some e.1 ∧ CarriesAsset a e.2)
    (mutatedAssets plan) base.entries
  attached : Attached plan base commands rels
  created : rels.Perm (createdRelationships plan)
  written : document.commands = commands.values

theorem compile_compiled {plan : SyncPlan} {config : CollibraMappingConfig}
    {document : ImportDocument} (h : compileImportDocument plan config = .ok document)
    (hlocal : ((planAssets plan).filterMap SyncAction.localId).Nodup) :
    ∃ seen assetsByLocal base commands rels,
      Compiled plan document seen assetsByLocal base commands rels := by
  unfold compileImportDocument at h
  split at h
  · cases h
  · obtain ⟨_, _, h⟩ := bind_eq_ok.mp h
    obtain ⟨_, hreject, h⟩ := bind_eq_ok.mp h
    obtain ⟨seen, hseen, _⟩ := bind_eq_ok.mp hreject
    obtain ⟨assetsByLocal, hlookup, h⟩ := bind_eq_ok.mp h
    obtain ⟨commands, hcommands, h⟩ := bind_eq_ok.mp h
    obtain rfl := pure_eq_ok.mp h
    have hsplit : orderedMutatingActions (plan.actions.filter SyncAction.mutates) =
        mutatedAssets plan ++ sortBy (fun a => a.localId.getD "")
          (ofKind .create .relationship (plan.actions.filter SyncAction.mutates)) := rfl
    rw [hsplit, ofKind_mutates .relationship plan.actions (.inl rfl), List.foldlM_append] at hcommands
    obtain ⟨base, hbase, hrels⟩ := bind_eq_ok.mp hcommands
    have hasset : ∀ a ∈ mutatedAssets plan, a ∈ planAssets plan := fun a ha => by
      obtain ⟨hmem, hmut⟩ := mem_mutatedAssets.mp ha
      simp only [SyncAction.mutatesAsset, decide_eq_true_eq] at hmut
      exact mem_planAssets.mpr ⟨hmem, hmut.1⟩
    obtain ⟨es, hes, hall⟩ :=
      foldlM_compileAsset (fun a ha => (mem_planAssets.mp (hasset a ha)).2) hbase
    rw [Dict.entries_empty, List.nil_append] at hes
    subst hes
    have hprepared : Prepared plan assetsByLocal base := by
      refine ⟨hlocal, fun l a => assetLookup_get? hlookup, fun e he => ?_, fun a ha hmut => ?_⟩
      · obtain ⟨a, ha, hl, hcarries, hrelations⟩ := (forall₂_mem hall).1 _ he
        exact ⟨hcarries.denotes (hasset a ha) hl, hrelations⟩
      · obtain ⟨e, he, hl, _⟩ := (forall₂_mem hall).2 _ (mem_mutatedAssets.mpr ⟨ha, hmut⟩)
        exact ⟨e.1, hl, List.mem_map_of_mem (f := Prod.fst) he⟩
    refine ⟨seen, assetsByLocal, base, commands, _, (foldlM_noteCreateIdentifier hseen).2, hprepared,
      hall.imp fun _ _ h => ⟨h.1, h.2.1⟩,
      hprepared.foldlM_attach (Attached.start hprepared.commands) (fun a ha => mem_sortBy.mp ha) hrels,
      ?_, rfl⟩
    exact (sortBy_perm _ _).filterMap _

lemma mem_of_idxOf_lt {xs ys : List String} {a b : String} (hnodup : (xs ++ b :: ys).Nodup)
    (h : (xs ++ b :: ys).idxOf a < (xs ++ b :: ys).idxOf b) : a ∈ xs := by
  by_contra ha
  have hb : b ∉ xs := fun hb =>
    (List.nodup_append.mp hnodup).2.2 b hb b (List.mem_cons_self ..) rfl
  rw [List.idxOf_append_of_notMem ha, List.idxOf_append_of_notMem hb, List.idxOf_cons_self] at h
  omega

lemma CarriesAsset.of_bare {action : SyncAction} {command : ImportCommand}
    (h : CarriesAsset action command.bare) : CarriesAsset action command := by
  cases h with
  | created type desired identifier typeRef name displayName attributes =>
    exact .created type desired identifier typeRef name displayName attributes
  | updated type desired known identifier typeRef name displayName attributes =>
    exact .updated type desired known identifier typeRef name displayName attributes

/-- A relation key fixes the type and the direction. -/
lemma relationKey_inj {t t' : String} {d d' : RelationDirection}
    (h : relationKey t d = relationKey t' d') : t = t' ∧ d = d' := by
  have hlist := congrArg String.toList h
  simp only [relationKey, String.toList_append] at hlist
  cases d <;> cases d' <;> simp only [RelationDirection.text] at hlist
  · exact ⟨String.toList_inj.mp (List.append_cancel_right (List.append_cancel_right hlist)), rfl⟩
  · exact absurd (congrArg (fun xs => xs.reverse[5]?) hlist) (by simp)
  · exact absurd (congrArg (fun xs => xs.reverse[5]?) hlist) (by simp)
  · exact ⟨String.toList_inj.mp (List.append_cancel_right (List.append_cancel_right hlist)), rfl⟩

namespace Compiled
variable {plan : SyncPlan} {document : ImportDocument} {seen : Dict (String × String) String}
  {assetsByLocal : Dict String SyncAction} {base commands : Commands}
  {rels : List CollibraRelationshipSpec}

theorem denotes (h : Compiled plan document seen assetsByLocal base commands rels)
    {e : String × ImportCommand} (he : e ∈ commands.entries) : Denotes plan e.2.identifier e.1 :=
  h.attached.denotes h.prepared.commands he

theorem identifiers_nodup (h : Compiled plan document seen assetsByLocal base commands rels)
    (hremote : ((planAssets plan).filterMap SyncAction.remoteId).Nodup) :
    (document.commands.map ImportCommand.identifier).Nodup := by
  rw [h.written, Dict.values, List.map_map]
  refine List.Nodup.map_on (fun e he e' he' heq => ?_) commands.entries_nodup
  have hkey : e.1 = e'.1 :=
    (h.denotes he).localId_unique h.noted hremote (by rw [show e.2.identifier = _ from heq]; exact h.denotes he')
  exact List.inj_on_of_nodup_map commands.nodup he he' hkey

/-- Each mutated asset has its command, and the others only link an asset that is not mutated. -/
theorem commands_ok (h : Compiled plan document seen assetsByLocal base commands rels) :
    ∃ carried links : List ImportCommand, ∃ sources : List String,
      document.commands = carried ++ links ∧
      List.Forall₂ CarriesAsset (mutatedAssets plan) carried ∧
      List.Forall₂ (LinkOnly plan) sources links ∧ sources.Nodup ∧
      ∀ l ∈ sources, (∃ rel ∈ createdRelationships plan, rel.sourceLocalId = l) ∧
        ∀ a ∈ plan.actions, a.mutatesAsset = true → a.localId ≠ some l := by
  obtain ⟨extra, heq, hextra⟩ := h.attached.commands
  obtain ⟨front, back, hentries, hfront, hback⟩ := List.map_eq_append_iff.mp heq
  have hkeys : front.map Prod.fst = base.keys := by
    rw [Dict.keys, ← hfront, List.map_map]
    rfl
  have hnodup : (front.map Prod.fst ++ back.map Prod.fst).Nodup := by
    rw [← List.map_append, ← hentries]
    exact commands.nodup
  refine ⟨front.map Prod.snd, back.map Prod.snd, back.map Prod.fst, ?_, ?_, ?_, ?_, ?_⟩
  · rw [h.written, Dict.values, hentries, List.map_append]
  · have hcarried := h.carried
    rw [← hfront, List.forall₂_map_right_iff] at hcarried
    rw [List.forall₂_map_right_iff]
    exact hcarried.imp fun _ _ he => he.2.of_bare
  · rw [List.forall₂_map_left_iff, List.forall₂_map_right_iff, List.forall₂_same]
    intro e he
    have hlink := (hextra (e.1, e.2.bare) (by
      rw [← hback]
      exact List.mem_map_of_mem (f := fun e : String × ImportCommand => (e.1, e.2.bare)) he)).1
    exact ⟨hlink.1, hlink.2⟩
  · exact (List.nodup_append.mp hnodup).2.1
  · intro l hl
    obtain ⟨e, he, rfl⟩ := List.mem_map.mp hl
    refine ⟨(hextra (e.1, e.2.bare) (by
      rw [← hback]
      exact List.mem_map_of_mem (f := fun e : String × ImportCommand => (e.1, e.2.bare)) he)).2,
      fun a ha hmut hlocal => ?_⟩
    obtain ⟨l', hl', hkey⟩ := h.prepared.mutated a ha hmut
    obtain rfl := Option.some.inj (hlocal.symm.trans hl')
    rw [← hkeys] at hkey
    exact (List.nodup_append.mp hnodup).2.2 _ hkey _ hl rfl

/-- Each created relationship has its entry. -/
theorem relations_ok (h : Compiled plan document seen assetsByLocal base commands rels) :
    ∃ ordered, ordered.Perm (createdRelationships plan) ∧
      List.Forall₂ (Expresses plan) document.relationEntries ordered := by
  obtain ⟨entries, hentries, hall⟩ := h.attached.relations
  rw [← h.written] at hentries
  obtain ⟨ordered, hordered, hperm⟩ := List.perm_comp_forall₂ hentries.symm hall
  exact ⟨ordered, hperm.trans h.created, hordered⟩

theorem refersBack (h : Compiled plan document seen assetsByLocal base commands rels)
    (hremote : ((planAssets plan).filterMap SyncAction.remoteId).Nodup)
    {earlier later : List ImportCommand} {command : ImportCommand}
    (hsplit : document.commands = earlier ++ command :: later) : RefersBack plan earlier command := by
  intro entry hentry name domainRef hnatural
  rw [h.written] at hsplit
  obtain ⟨front, back, hentries, rfl, hback⟩ := List.map_eq_append_iff.mp hsplit
  obtain ⟨e, rest, rfl, rfl, rfl⟩ := List.map_eq_cons_iff.mp hback
  have he : e ∈ commands.entries := by
    rw [hentries]
    exact List.mem_append_right _ (List.mem_cons_self ..)
  obtain ⟨k, c, hc, hident, hkey, hle⟩ := h.attached.backward e he entry hentry name domainRef hnatural
  have hk : k ∈ base.keys := Dict.mem_keys_iff.mpr ⟨c, hc⟩
  have hdenotes : Denotes plan entry.related k :=
    hident ▸ (h.prepared.commands _ (Dict.get?_eq_some.mp hc)).1
  by_cases hself : k = e.1
  · subst hself
    have hown := (h.denotes he).identifier_unique h.prepared.localIds hdenotes
    refine .inr ⟨hown.symm, ?_⟩
    obtain ⟨ordered, hordered, hall⟩ := h.relations_ok
    have hlisted : entry ∈ document.relationEntries := by
      rw [ImportDocument.relationEntries, h.written]
      exact List.mem_flatMap.mpr ⟨e.2, List.mem_map_of_mem he, hentry⟩
    obtain ⟨rel, hrel, hexpr⟩ := (forall₂_mem hall).2 entry hlisted
    have hhost := host_eq_of_mem e.2 hentry
    refine ⟨rel, hordered.mem_iff.mp hrel, ?_⟩
    rcases hexpr with ⟨_, htarget, hsource⟩ | ⟨_, hsource, htarget⟩
    · rw [hhost, hown] at htarget
      rw [hown]
      exact ⟨hsource.localId_unique h.noted hremote htarget, hsource⟩
    · rw [hhost, hown] at hsource
      rw [hown]
      exact ⟨hsource.localId_unique h.noted hremote htarget, hsource⟩
  · have hlt : commands.keys.idxOf k < commands.keys.idxOf e.1 := by
      rw [h.attached.idxOf_keys hk, h.attached.idxOf_keys hkey]
      exact lt_of_le_of_ne hle fun heq => hself ((List.idxOf_inj hk).mp heq)
    have hkeys : commands.keys = front.map Prod.fst ++ e.1 :: rest.map Prod.fst := by
      rw [Dict.keys, hentries, List.map_append, List.map_cons]
    have hnodup := commands.keys_nodup
    rw [hkeys] at hlt hnodup
    obtain ⟨e', he', rfl⟩ := List.mem_map.mp (mem_of_idxOf_lt hnodup hlt)
    refine .inl ⟨e'.2, List.mem_map_of_mem he', ?_⟩
    exact (h.denotes (hentries ▸ List.mem_append_left _ he')).identifier_unique h.prepared.localIds
      hdenotes

end Compiled

/-- An entry expresses one relationship: it fixes both ends and the type. -/
theorem Expresses.unique {plan : SyncPlan} {seen : Dict (String × String) String}
    (hnoted : ∀ a ∈ plan.actions, a.isCreateAsset = true → Noted seen a)
    (hremote : ((planAssets plan).filterMap SyncAction.remoteId).Nodup)
    {entry : RelationEntry} {rel rel' : CollibraRelationshipSpec} (h : Expresses plan entry rel)
    (h' : Expresses plan entry rel') : rel.sourceLocalId = rel'.sourceLocalId ∧
      rel.targetLocalId = rel'.targetLocalId ∧ rel.relationTypeRef = rel'.relationTypeRef := by
  rcases h with ⟨hkey, hhost, hrelated⟩ | ⟨hkey, hhost, hrelated⟩ <;>
    rcases h' with ⟨hkey', hhost', hrelated'⟩ | ⟨hkey', hhost', hrelated'⟩ <;>
    obtain ⟨htype, hdirection⟩ := relationKey_inj (hkey.symm.trans hkey')
  · exact ⟨hrelated.localId_unique hnoted hremote hrelated',
      hhost.localId_unique hnoted hremote hhost', htype⟩
  · cases hdirection
  · cases hdirection
  · exact ⟨hhost.localId_unique hnoted hremote hhost',
      hrelated.localId_unique hnoted hremote hrelated', htype⟩

/-- A compiled document says what the plan says, and splitting it into batches keeps its order:
no command refers by name to a later one. -/
theorem import_faithful {plan : SyncPlan} {config : CollibraMappingConfig} {document : ImportDocument}
    (hcompile : compileImportDocument plan config = .ok document)
    (hlocal : ((planAssets plan).filterMap SyncAction.localId).Nodup)
    (hremote : ((planAssets plan).filterMap SyncAction.remoteId).Nodup) :
    (∃ assets, assets.Perm (plan.actions.filter SyncAction.mutatesAsset) ∧
      ∃ carried links sources, document.commands = carried ++ links ∧
        List.Forall₂ CarriesAsset assets carried ∧
        List.Forall₂ (LinkOnly plan) sources links ∧ sources.Nodup ∧
        ∀ l ∈ sources, (∃ rel ∈ createdRelationships plan, rel.sourceLocalId = l) ∧
          ∀ a ∈ plan.actions, a.mutatesAsset = true → a.localId ≠ some l) ∧
    (document.commands.map ImportCommand.identifier).Nodup ∧
    (∃ ordered, ordered.Perm (createdRelationships plan) ∧
      List.Forall₂ (Expresses plan) document.relationEntries ordered) ∧
    (∀ entry rel rel', Expresses plan entry rel → Expresses plan entry rel' →
      rel.sourceLocalId = rel'.sourceLocalId ∧ rel.targetLocalId = rel'.targetLocalId ∧
        rel.relationTypeRef = rel'.relationTypeRef) ∧
    (∀ earlier command later, document.commands = earlier ++ command :: later →
      RefersBack plan earlier command) ∧
    ∀ maxResources maxAdditionalCharacteristics batches,
      partitionDocument document maxResources maxAdditionalCharacteristics = .ok batches →
      batches.flatMap ImportDocument.commands = document.commands ∧
      ∀ done batch rest, batches = done ++ batch :: rest →
        ∀ earlier command later, batch.commands = earlier ++ command :: later →
          RefersBack plan (done.flatMap ImportDocument.commands ++ earlier) command := by
  obtain ⟨seen, assetsByLocal, base, commands, rels, h⟩ := compile_compiled hcompile hlocal
  obtain ⟨carried, links, sources, hcommands⟩ := h.commands_ok
  have hback : ∀ earlier command later, document.commands = earlier ++ command :: later →
      RefersBack plan earlier command := fun _ _ _ hsplit => h.refersBack hremote hsplit
  refine ⟨⟨mutatedAssets plan, mutatedAssets_perm plan, carried, links, sources, hcommands⟩,
    h.identifiers_nodup hremote, h.relations_ok,
    fun _ _ _ he he' => Expresses.unique h.noted hremote he he', hback, ?_⟩
  intro m n batches hbatches
  have hflat := partitionDocument_commands hbatches
  refine ⟨hflat, ?_⟩
  rintro done batch rest rfl earlier command later hbatch
  refine hback _ _ (later ++ rest.flatMap ImportDocument.commands) ?_
  rw [← hflat, List.flatMap_append, List.flatMap_cons, hbatch]
  simp only [List.append_assoc, List.cons_append]

/-! ### A new table with keys to a renamed one and to another new one -/

theorem employees_nonblank : isBlank "tbl:employees" = false := by decide
theorem employees_name_nonblank : isBlank "employees" = false := by decide
theorem employees_display : displayNamePresent none = true := rfl
theorem employees_attributes : SortedBy CollibraAttributeSpec.attributeTypeRef [] := List.Pairwise.nil
theorem manager_changed : SortedBy id ([] : List String) := List.Pairwise.nil
theorem departments_nonblank : isBlank "tbl:departments" = false := by decide
theorem departments_name_nonblank : isBlank "departments" = false := by decide
theorem teams_nonblank : isBlank "tbl:teams" = false := by decide
theorem teams_name_nonblank : isBlank "teams" = false := by decide
theorem departmentKey_nonblank : isBlank "fk:departments" = false := by decide
theorem employeesKey_nonblank : isBlank "fk:employees" = false := by decide
theorem renamed_sorted : SortedBy id ["name"] := List.pairwise_singleton _ _

def employeesTable : CollibraAssetSpec :=
  ⟨"tbl:employees", "employees", "employees", "employees", none, [], employees_nonblank,
    employees_name_nonblank, employees_name_nonblank, employees_name_nonblank, employees_display,
    employees_attributes⟩

def departmentsTable : CollibraAssetSpec :=
  { employeesTable with
    localId := "tbl:departments", name := "departments"
    localId_nonblank := departments_nonblank, name_nonblank := departments_name_nonblank }

def teamsTable : CollibraAssetSpec :=
  { employeesTable with
    localId := "tbl:teams", name := "teams", localId_nonblank := teams_nonblank, name_nonblank := teams_name_nonblank }

def departmentKey : CollibraRelationshipSpec :=
  ⟨"fk:departments", "tbl:teams", "tbl:departments", "employees", departmentKey_nonblank, teams_nonblank,
    departments_nonblank, employees_name_nonblank⟩

def employeesKey : CollibraRelationshipSpec :=
  ⟨"fk:employees", "tbl:teams", "tbl:employees", "employees", employeesKey_nonblank, teams_nonblank,
    employees_nonblank, employees_name_nonblank⟩

theorem employees_accepted : syncActionError .create .asset none (some employeesTable) none = none := rfl
theorem teams_accepted : syncActionError .create .asset none (some teamsTable) none = none := rfl
theorem renamed_accepted : syncActionError .update .asset (some "r-1") (some departmentsTable) none = none := rfl
theorem departmentKey_accepted : syncActionError .create .relationship none none (some departmentKey) = none := rfl
theorem employeesKey_accepted : syncActionError .create .relationship none none (some employeesKey) = none := rfl

def teamsPlan : SyncPlan := .create
  [⟨.create, .asset, some "tbl:employees", none, "", some employeesTable, none, [], manager_changed,
    employees_accepted⟩,
   ⟨.create, .asset, some "tbl:teams", none, "", some teamsTable, none, [], manager_changed, teams_accepted⟩,
   ⟨.update, .asset, some "tbl:departments", some "r-1", "", some departmentsTable, none, ["name"], renamed_sorted,
    renamed_accepted⟩,
   ⟨.create, .relationship, some "tbl:teams", none, "", none, some departmentKey, [], manager_changed,
    departmentKey_accepted⟩,
   ⟨.create, .relationship, some "tbl:teams", none, "", none, some employeesKey, [], manager_changed,
    employeesKey_accepted⟩]

theorem teams_entries : ((compileImportDocument teamsPlan mockMappingConfig).toOption.map
    fun document => document.commands.map ImportCommand.relationEntries) =
    some [[], [⟨.natural "teams" "employees", "employees:TARGET", .remote "r-1"⟩,
      ⟨.natural "teams" "employees", "employees:TARGET", .natural "employees" "employees"⟩], []] := by
  decide

theorem teams_import_faithful : ∃ document, compileImportDocument teamsPlan mockMappingConfig = .ok document ∧
    document.commands.map ImportCommand.relationEntries =
      [[], [⟨.natural "teams" "employees", "employees:TARGET", .remote "r-1"⟩,
        ⟨.natural "teams" "employees", "employees:TARGET", .natural "employees" "employees"⟩], []] ∧
    (∃ ordered, ordered.Perm (createdRelationships teamsPlan) ∧
      List.Forall₂ (Expresses teamsPlan) document.relationEntries ordered) ∧
    ∀ earlier command later, document.commands = earlier ++ command :: later →
      RefersBack teamsPlan earlier command := by
  obtain ⟨document, hcompile, hentries⟩ := toOption_map_eq_some.mp teams_entries
  obtain ⟨-, -, hrelations, -, hback, -⟩ := import_faithful hcompile (by decide) (by decide)
  exact ⟨document, hcompile, hentries, hrelations, hback⟩

/-! ### A table with a foreign key to itself -/

def managerKey : CollibraRelationshipSpec :=
  ⟨"tbl:employees", "tbl:employees", "tbl:employees", "employees", employees_nonblank,
    employees_nonblank, employees_nonblank, employees_name_nonblank⟩

theorem manager_accepted : syncActionError .create .relationship none none (some managerKey) = none := rfl

def employeesPlan : SyncPlan := .create
  [⟨.create, .asset, some "tbl:employees", none, "", some employeesTable, none, [], manager_changed,
    employees_accepted⟩,
   ⟨.create, .relationship, some "tbl:employees", none, "", none, some managerKey, [],
    manager_changed, manager_accepted⟩]

def managerEntry : RelationEntry :=
  ⟨.natural "employees" "employees", "employees:TARGET", .natural "employees" "employees"⟩

theorem employees_entries : ((compileImportDocument employeesPlan mockMappingConfig).toOption.map
    fun document => document.commands.map ImportCommand.relationEntries) =
    some [[managerEntry]] := by
  decide

theorem employees_compiled : ∃ document, compileImportDocument employeesPlan mockMappingConfig =
    .ok document ∧ document.commands.map ImportCommand.relationEntries =
    [[managerEntry]] :=
  toOption_map_eq_some.mp employees_entries

/-- The command of a table with a foreign key to itself refers to itself, not to an earlier one. -/
theorem self_link_not_earlier : ∃ document earlier command later entry name domainRef,
    compileImportDocument employeesPlan mockMappingConfig = .ok document ∧
      ((planAssets employeesPlan).filterMap SyncAction.localId).Nodup ∧
      ((planAssets employeesPlan).filterMap SyncAction.remoteId).Nodup ∧
      document.commands = earlier ++ command :: later ∧ entry ∈ command.relationEntries ∧
      entry.related = .natural name domainRef ∧ ∀ c ∈ earlier, c.identifier ≠ entry.related := by
  obtain ⟨document, hcompile, hentries⟩ := employees_compiled
  obtain ⟨command, later, hcommands, hown, _⟩ := List.map_eq_cons_iff.mp hentries
  refine ⟨document, [], command, later, managerEntry, "employees", "employees", hcompile, by decide, by decide,
    hcommands, ?_, rfl, fun c hc => absurd hc List.not_mem_nil⟩
  rw [hown]
  exact List.mem_singleton.mpr rfl

end CollibraGovernance.Collibra
