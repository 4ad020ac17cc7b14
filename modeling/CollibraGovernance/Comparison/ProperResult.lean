import CollibraGovernance.Comparison.Proper

/-! What the result of a comparison is made of: proper changes, each object once, with their counts. -/
namespace CollibraGovernance.Comparison
open Library Domain Identity Snapshots

/-- The changes of a root tell its name exactly when the two sides call it differently. -/
def RootNamed (changes : List ObjectChange) (root : ComparisonObjectIdentity) (baseline candidate : String) :
    Prop :=
  ∀ x y, (∃ o ∈ changes, o.objectIdentity = root ∧ ⟨"/name", x, y⟩ ∈ o.propertyChanges) ↔
    x = text baseline ∧ y = text candidate ∧ baseline ≠ candidate

/-- The names, versions and identities of one side of a result. -/
structure ProperMetadata (sha256 : String → String) (a : ArtifactMetadata) : Prop where
  sourceName : a.sourceName ≠ ""
  databaseName : a.databaseName ≠ ""
  systemType : a.systemType ≠ ""
  scanner : a.scanner ≠ ""
  version : a.scannerContractVersion = Snapshots.scannerContractVersion
  algorithm : a.contentIdentity.algorithm = algorithmName
  hashing : a.contentIdentity.hashingContractVersion = hashingContractVersion
  digest : ∃ hashed, a.contentIdentity.digest = sha256 hashed

/-- The changes of a result, and what is told about them. -/
structure ProperResult (sha256 : String → String) (r : ComparisonResult) : Prop where
  baseline : ProperMetadata sha256 r.baseline
  candidate : ProperMetadata sha256 r.candidate
  systemType : r.baseline.systemType = r.candidate.systemType
  scanner : r.baseline.scanner = r.candidate.scanner
  alignment : r.rootAlignment = ⟨alignmentPair r.baseline.sourceName r.candidate.sourceName,
    alignmentPair r.baseline.databaseName r.candidate.databaseName⟩
  changes : ∀ o ∈ r.objectChanges, ProperChange o
  nodup : (r.objectChanges.map ObjectChange.objectIdentity).Nodup
  sorted : SortedBy changeKey r.objectChanges
  hierarchy : ∀ o ∈ r.objectChanges, ∀ o' ∈ r.objectChanges,
    o'.objectIdentity ∈ o.objectIdentity.ancestors → o'.change ≠ .changed → o.change = o'.change
  roots : ∀ o ∈ r.objectChanges, o.objectIdentity = .dataSource ∨ o.objectIdentity = .database →
    o.change = .changed
  sourceNamed : RootNamed r.objectChanges .dataSource r.baseline.sourceName r.candidate.sourceName
  databaseNamed : RootNamed r.objectChanges .database r.baseline.databaseName r.candidate.databaseName
  added : r.summary.added = r.objectChanges.countP (fun o => o.change = .added)
  removed : r.summary.removed = r.objectChanges.countP (fun o => o.change = .removed)
  changed : r.summary.changed = r.objectChanges.countP (fun o => o.change = .changed)
  propertyChanges : r.summary.propertyChanges =
    ((r.objectChanges.filter (fun o => o.change = .changed)).flatMap ObjectChange.propertyChanges).length
  status : r.status = statusOf r.summary

section Counts
variable {baseline candidate here there : ObjectMap}

lemma change_lackingChanges {change : ChangeKind} {o : ObjectChange}
    (ho : o ∈ lackingChanges change here there) : o.change = change := by
  obtain ⟨-, x, -, heq⟩ := mem_lackingChanges.mp ho
  rw [heq]

lemma change_changedObjects {o : ObjectChange} (ho : o ∈ changedObjects baseline candidate) :
    o.change = .changed := by
  obtain ⟨left, right, -, -, heq⟩ := mem_matchedChanges.mp (List.mem_filter.mp ho).1
  rw [heq]

lemma length_lackingChanges (change : ChangeKind) :
    (lackingChanges change here there).length = (identitiesOnlyIn here there).length := by
  rw [← identities_lackingChanges change, List.length_map]

/-- Changes of one kind are counted in full, and those of another not at all. -/
lemma countP_of_change {changes : List ObjectChange} {change : ChangeKind}
    (h : ∀ o ∈ changes, o.change = change) (kind : ChangeKind) :
    changes.countP (fun o => o.change = kind) = if change = kind then changes.length else 0 := by
  split_ifs with hkind
  · refine List.countP_eq_length.mpr ?_
    intro o ho
    exact decide_eq_true ((h o ho).trans hkind)
  · refine List.countP_eq_zero.mpr ?_
    intro o ho hcount
    exact hkind ((h o ho).symm.trans (of_decide_eq_true hcount))

/-- The summary's count of a kind of change. -/
def ComparisonSummary.count (s : ComparisonSummary) : ChangeKind → Nat
  | .added => s.added
  | .removed => s.removed
  | .changed => s.changed

lemma countP_objectChanges (kind : ChangeKind) :
    (compareProjected baseline candidate).objectChanges.countP (fun o => o.change = kind) =
      (compareProjected baseline candidate).summary.count kind := by
  rw [objectChanges_eq, (sortBy_perm _ _).countP_eq, unsortedChanges, List.countP_append, List.countP_append,
    countP_of_change (fun _ => change_lackingChanges), countP_of_change (fun _ => change_lackingChanges),
    countP_of_change (fun _ => change_changedObjects), length_lackingChanges, length_lackingChanges]
  cases kind with
  | added => rfl
  | removed => exact Nat.zero_add _
  | changed => exact Nat.zero_add _

lemma filter_changed : (unsortedChanges baseline candidate).filter (fun o => o.change = .changed) =
    changedObjects baseline candidate := by
  have hnone : ∀ {change : ChangeKind} {here there : ObjectMap}, change ≠ .changed →
      (lackingChanges change here there).filter (fun o => o.change = .changed) = [] := by
    intro change here there hchange
    refine List.filter_eq_nil_iff.mpr ?_
    intro o ho hkind
    exact hchange ((change_lackingChanges ho).symm.trans (of_decide_eq_true hkind))
  have hall : (changedObjects baseline candidate).filter (fun o => o.change = .changed) =
      changedObjects baseline candidate :=
    List.filter_eq_self.mpr (fun o ho => decide_eq_true (change_changedObjects ho))
  rw [unsortedChanges, List.filter_append, List.filter_append, hnone (by decide), hnone (by decide), hall]
  rfl

lemma length_propertyChanges : (((compareProjected baseline candidate).objectChanges.filter
    (fun o => o.change = .changed)).flatMap ObjectChange.propertyChanges).length =
      ((changedObjects baseline candidate).flatMap ObjectChange.propertyChanges).length := by
  have hperm := ((sortBy_perm changeKey (unsortedChanges baseline candidate)).filter
    (fun o => o.change = .changed)).flatMap_right ObjectChange.propertyChanges
  rw [filter_changed] at hperm
  rw [objectChanges_eq]
  exact hperm.length_eq

end Counts

section Names
variable {a b : GovernanceSnapshot} {baseline candidate : ObjectMap}
  {es es' : List (Element ComparisonObjectIdentity)} {e e' : Element ComparisonObjectIdentity}

/-- The property changes of an object on both sides are the differences of its properties. -/
theorem mem_changes_iff (hl : Represents baseline es) (hr : Represents candidate es') (he : e ∈ es)
    (he' : e' ∈ es') (hid : e.id = e'.id) {c : PropertyChange} :
    (∃ o ∈ (compareProjected baseline candidate).objectChanges, o.objectIdentity = e.id ∧
      c ∈ o.propertyChanges) ↔ c ∈ diffProperties (comparableProperties e) (comparableProperties e') := by
  obtain ⟨left, hleft, -, -, hsame⟩ := hl.shows e he
  obtain ⟨right, hright, -, -, hsame'⟩ := hr.shows e' he'
  rw [← hid] at hright
  rw [← diffProperties_congr hsame hsame', objectChanges_eq]
  simp only [mem_sortBy]
  constructor
  · rintro ⟨o, ho, hoid, hc⟩
    rcases List.mem_append.mp ho with ho | ho
    · rcases List.mem_append.mp ho with ho | ho
      · obtain ⟨hnot, -⟩ := mem_lackingChanges.mp ho
        exact absurd (hoid ▸ Dict.mem_keys_iff.mpr ⟨left, hleft⟩) hnot
      · obtain ⟨hnot, -⟩ := mem_lackingChanges.mp ho
        exact absurd (hoid ▸ Dict.mem_keys_iff.mpr ⟨right, hright⟩) hnot
    · obtain ⟨left', right', hleft', hright', heq⟩ := mem_matchedChanges.mp (List.mem_filter.mp ho).1
      rw [hoid, hleft] at hleft'
      rw [hoid, hright] at hright'
      cases hleft'
      cases hright'
      rw [heq] at hc
      exact hc
  · intro hc
    refine ⟨⟨.changed, e.id, left.parentIdentity, diffProperties left.properties right.properties⟩, ?_, rfl, hc⟩
    refine List.mem_append_right _ (List.mem_filter.mpr ⟨mem_matchedChanges.mpr ?_, ?_⟩)
    · exact ⟨left, right, hleft, hright, rfl⟩
    · exact decide_eq_true (List.ne_nil_of_mem hc)

lemma rootNamed_of (hl : Represents baseline es) (hr : Represents candidate es') (he : e ∈ es)
    (he' : e' ∈ es') (hid : e.id = e'.id) : RootNamed (compareProjected baseline candidate).objectChanges e.id
      (elementName e) (elementName e') := by
  intro x y
  rw [mem_changes_iff hl hr he he' hid, mem_diffProperties, valueOf_name, valueOf_name]
  constructor
  · rintro ⟨rfl, rfl, hne⟩
    exact ⟨rfl, rfl, fun heq => hne (congrArg text heq)⟩
  · rintro ⟨rfl, rfl, hne⟩
    exact ⟨rfl, rfl, fun heq => hne (text_inj heq)⟩

end Names

section Result
variable {sha256 : String → String} {isPrintable : Char → Bool} {a b : GovernanceSnapshot}
  {ack : RootAlignmentAck} {r : ComparisonResult}

lemma properMetadata_of {side : String} {p : ProjectedSnapshot}
    (hp : projectSnapshot isPrintable side a = .ok p) : ProperMetadata sha256 (artifactMetadata sha256 a) := by
  obtain ⟨source, d, hacceptable, -, -⟩ := projects_of_ok hp
  have henvelope := hacceptable.envelope
  constructor
  · exact fun heq => ne_empty_of_not_blank source.name_nonblank (henvelope.sourceName.symm.trans heq)
  · exact fun heq => ne_empty_of_not_blank d.name_nonblank (henvelope.databaseName.symm.trans heq)
  · exact fun heq => ne_empty_of_not_blank source.systemType_nonblank (henvelope.systemType.symm.trans heq)
  · exact henvelope.scanner
  · exact henvelope.version
  · rfl
  · rfl
  · exact ⟨_, rfl⟩

/-- Everything the result of a comparison promises. -/
theorem properResult_of_ok (h : buildComparisonResult sha256 isPrintable a b ack = .ok r) :
    ProperResult sha256 r := by
  obtain ⟨p, q, hcompared⟩ := buildComparisonResult_eq_ok.mp h
  obtain ⟨-, -, halignment⟩ := resolveRootAlignment_eq_ok.mp hcompared.alignment
  have hl := represents_of_ok hcompared.baseline
  have hr := represents_of_ok hcompared.candidate
  have cl := coherent_of_ok hcompared.baseline
  have cr := coherent_of_ok hcompared.candidate
  obtain ⟨_, _, _, hsource⟩ := cl.dataSource
  obtain ⟨_, _, _, hsource'⟩ := cr.dataSource
  obtain ⟨_, _, hdatabase⟩ := cl.database
  obtain ⟨_, _, hdatabase'⟩ := cr.database
  have hmem : ∀ {o}, o ∈ (compareProjected p.objects q.objects).objectChanges ↔
      o ∈ unsortedChanges p.objects q.objects := by
    intro o
    rw [objectChanges_eq, mem_sortBy]
  rw [hcompared.result]
  constructor
  case baseline => exact properMetadata_of hcompared.baseline
  case candidate => exact properMetadata_of hcompared.candidate
  case systemType => exact hcompared.systemType
  case scanner => exact hcompared.scanner
  case alignment => exact halignment
  case changes => exact fun o ho => properChange_of_mem hl hr cl cr hcompared.systemType (hmem.mp ho)
  case nodup =>
    exact (((sortBy_perm changeKey _).map ObjectChange.objectIdentity).nodup_iff).mpr
      (unsortedChanges_nodup p.objects q.objects)
  case sorted => exact sortBy_sorted changeKey _
  case hierarchy =>
    exact fun o ho o' ho' => hierarchy_consistent hl hr cl cr (hmem.mp ho) (hmem.mp ho')
  case roots => exact fun o ho => roots_changed hl hr cl cr (hmem.mp ho)
  case sourceNamed => exact rootNamed_of hl hr hsource hsource' rfl
  case databaseNamed => exact rootNamed_of hl hr hdatabase hdatabase' rfl
  case added => exact (countP_objectChanges .added).symm
  case removed => exact (countP_objectChanges .removed).symm
  case changed => exact (countP_objectChanges .changed).symm
  case propertyChanges => exact length_propertyChanges.symm
  case status => rfl

end Result
end CollibraGovernance.Comparison
