import CollibraGovernance.History.Append
import CollibraGovernance.Comparison.RoundTrip

/-! What is written of a history is read again: its labels in the order of their keys, its locators normalised once
more, everything else as it was. -/
namespace CollibraGovernance.History
open Library Identity Comparison

/-! ### Labels -/

section Labels
variable {tables : UnicodeTables} {path : String}

/-- Labels as they are normalised: trimmed, without fault, not too many. -/
structure LabelsProper (tables : UnicodeTables) (labels : Dict String String) : Prop where
  count : labels.entries.length ≤ maxLabels
  trimmed : ∀ e ∈ labels.entries, strip e.1 = e.1 ∧ strip e.2 = e.2
  faultless : ∀ e ∈ labels.entries, labelFault tables e.1 e.2 = none

lemma sortedLabels_nodup (labels : Dict String String) : ((sortBy Prod.fst labels.entries).map Prod.fst).Nodup :=
  ((sortBy_perm _ _).map Prod.fst).nodup_iff.mpr labels.nodup

/-- The labels in the order of their keys. -/
def canonicalLabels (labels : Dict String String) : Dict String String where
  entries := sortBy Prod.fst labels.entries
  nodup := sortedLabels_nodup labels

lemma LabelsProper.canonical {labels : Dict String String} (h : LabelsProper tables labels) :
    LabelsProper tables (canonicalLabels labels) where
  count := (length_sortBy ..).trans_le h.count
  trimmed e he := h.trimmed e (mem_sortBy.mp he)
  faultless e he := h.faultless e (mem_sortBy.mp he)

lemma canonicalLabels_idem (labels : Dict String String) :
    canonicalLabels (canonicalLabels labels) = canonicalLabels labels :=
  Dict.ext (sortBy_idem _ _)

lemma normalize_labels (labels : Dict String String) :
    (labelsDocument labels).normalize = labelsDocument (canonicalLabels labels) := by
  rw [labelsDocument, Json.normalize_obj_eq, Json.sortedMembers, List.map_map]
  exact congrArg Json.obj (map_sortBy (fun e : String × String => (e.1, Json.str e.2)) Prod.fst Prod.fst (fun _ => rfl)
    labels.entries).symm

lemma addLabel_new {acc : Dict String String} {e : String × String} (hkey : strip e.1 = e.1) (hvalue : strip e.2 = e.2)
    (hfault : labelFault tables e.1 e.2 = none) (hnew : e.1 ∉ acc.keys) :
    addLabel tables path acc (e.1, .str e.2) = .ok (acc.set e.1 e.2) := by
  simp only [addLabel, hkey, hvalue, hfault]
  rw [if_neg hnew]

lemma addLabels_written {es : List (String × String)} {acc : Dict String String}
    (hproper : ∀ e ∈ es, (strip e.1 = e.1 ∧ strip e.2 = e.2) ∧ labelFault tables e.1 e.2 = none)
    (hnodup : ((acc.entries ++ es).map Prod.fst).Nodup) :
    ∃ labels : Dict String String, labels.entries = acc.entries ++ es ∧
      (es.map fun e => (e.1, Json.str e.2)).foldlM (addLabel tables path) acc = .ok labels := by
  induction es generalizing acc with
  | nil => exact ⟨acc, (List.append_nil _).symm, rfl⟩
  | cons e es ih =>
    obtain ⟨⟨hkey, hvalue⟩, hfault⟩ := hproper e (List.mem_cons_self ..)
    have hnew : e.1 ∉ acc.keys := by
      rw [List.map_append, List.map_cons] at hnodup
      exact fun hmem => (List.nodup_append.mp hnodup).2.2 _ hmem _ (List.mem_cons_self ..) rfl
    have hentries := Dict.entries_set_of_notMem (d := acc) e.2 hnew
    have hassoc : (acc.set e.1 e.2).entries ++ es = acc.entries ++ e :: es := by
      rw [hentries, List.append_assoc]
      rfl
    obtain ⟨labels, hlabels, hrest⟩ := ih (fun e' he' => hproper e' (List.mem_cons_of_mem _ he')) (hassoc ▸ hnodup)
    refine ⟨labels, hlabels.trans hassoc, ?_⟩
    rw [List.map_cons, List.foldlM_cons, addLabel_new hkey hvalue hfault hnew]
    exact hrest

theorem normalizeLabels_written {labels : Dict String String} (h : LabelsProper tables labels) :
    normalizeLabels tables path (labelsDocument labels) = .ok (some labels) := by
  have hproper : ∀ e ∈ labels.entries, (strip e.1 = e.1 ∧ strip e.2 = e.2) ∧ labelFault tables e.1 e.2 = none :=
    fun e he => ⟨h.trimmed e he, h.faultless e he⟩
  have hnodup : (((Dict.empty : Dict String String).entries ++ labels.entries).map Prod.fst).Nodup := labels.nodup
  obtain ⟨read, hentries, hread⟩ := addLabels_written hproper hnodup
  obtain rfl : read = labels := Dict.ext hentries
  rw [labelsDocument, normalizeLabels, if_neg (by rw [List.length_map]; exact not_lt.mpr h.count), hread]
  rfl

/-- One label that is accepted is trimmed, without fault and new. -/
lemma addLabel_ok {acc acc' : Dict String String} {label : String × Json}
    (h : addLabel tables path acc label = .ok acc') : ∃ key value, strip key = key ∧ strip value = value ∧
      labelFault tables key value = none ∧ acc'.entries = acc.entries ++ [(key, value)] := by
  unfold addLabel at h
  cases hvalue : label.2 <;> rw [hvalue] at h
  case str rawValue =>
    dsimp only at h
    cases hfault : labelFault tables (strip label.1) (strip rawValue) <;> rw [hfault] at h
    case none =>
      dsimp only at h
      split_ifs at h with hmem
      · cases h
      · obtain rfl := Except.ok.inj h
        exact ⟨_, _, strip_idem _, strip_idem _, hfault, Dict.entries_set_of_notMem _ hmem⟩
    case some message => cases h
  all_goals cases h

lemma addLabels_ok {ls : List (String × Json)} {acc labels : Dict String String}
    (h : ls.foldlM (addLabel tables path) acc = .ok labels) : ∃ es, labels.entries = acc.entries ++ es ∧
      es.length = ls.length ∧ ∀ e ∈ es, (strip e.1 = e.1 ∧ strip e.2 = e.2) ∧ labelFault tables e.1 e.2 = none := by
  induction ls generalizing acc with
  | nil =>
    obtain rfl := Except.ok.inj h
    exact ⟨[], (List.append_nil _).symm, rfl, fun _ he => absurd he List.not_mem_nil⟩
  | cons l ls ih =>
    rw [List.foldlM_cons] at h
    obtain ⟨acc', hstep, hrest⟩ := bind_eq_ok.mp h
    obtain ⟨key, value, hkey, hvalue, hfault, hentries⟩ := addLabel_ok hstep
    obtain ⟨es, hlabels, hlength, heach⟩ := ih hrest
    refine ⟨(key, value) :: es, ?_, by simp [hlength], ?_⟩
    · rw [hlabels, hentries, List.append_assoc]
      rfl
    · intro e he
      rcases List.mem_cons.mp he with rfl | he
      · exact ⟨⟨hkey, hvalue⟩, hfault⟩
      · exact heach e he

/-- Labels that were normalised are proper. -/
theorem normalizeLabels_proper {j : Json} {labels : Dict String String}
    (h : normalizeLabels tables path j = .ok (some labels)) : LabelsProper tables labels := by
  cases j with
  | obj ls =>
    rw [normalizeLabels] at h
    split_ifs at h with hcount
    · cases h
    · cases hread : ls.foldlM (addLabel tables path) .empty with
      | error e =>
        rw [hread] at h
        cases h
      | ok read =>
        rw [hread] at h
        obtain rfl := Option.some.inj (Except.ok.inj h)
        obtain ⟨es, hentries, hlength, heach⟩ := addLabels_ok hread
        have hes : read.entries = es := hentries
        refine ⟨?_, fun e he => (heach e (hes ▸ he)).1, fun e he => (heach e (hes ▸ he)).2⟩
        rw [hes, hlength]
        exact not_lt.mp hcount
  | null => cases h
  | _ => cases h

end Labels

/-! ### Identities and contexts -/

/-- An identity without empty member. -/
def Complete (c : ContentIdentity) : Prop := ¬ (c.algorithm = "" ∨ c.hashingContractVersion = "" ∨ c.digest = "")

/-- The identities of a context have no empty member. -/
def HistoryContext.Complete : HistoryContext → Prop
  | absent => True
  | provenance observations => History.Complete observations
  | full observations authority conflicts =>
    History.Complete observations ∧ History.Complete authority ∧ History.Complete conflicts

lemma readContentIdentity_written {c : ContentIdentity} (h : Complete c) (path : String) :
    readContentIdentity c.toDict path = .ok c := by
  have hparse : parseContentIdentity c path = .ok c := if_neg h
  exact hparse

/-- What is written of a context, if anything. -/
def HistoryContext.document : HistoryContext → Option Json
  | absent => none
  | provenance observations => some (.obj [("observations", observations.toDict)])
  | full observations authority conflicts => some (.obj [("authority", authority.toDict),
      ("conflicts", conflicts.toDict), ("observations", observations.toDict)])

lemma normalize_context (context : HistoryContext) : context.document.map Json.normalize = context.document := by
  cases context with
  | absent => rfl
  | provenance observations =>
    have hkeys : SortedBy id ["observations"] := by decide
    exact congrArg some (Json.normalize_obj_self hkeys (by simp [normalize_contentIdentity]))
  | full observations authority conflicts =>
    have hkeys : SortedBy id ["authority", "conflicts", "observations"] := by decide
    exact congrArg some (Json.normalize_obj_self hkeys (by simp [normalize_contentIdentity]))

lemma readContext_written {context : HistoryContext} (h : context.Complete) {j : Json}
    (hj : context.document = some j) (path : String) : readContext j path = .ok context := by
  cases context with
  | absent => cases hj
  | provenance observations =>
    obtain rfl := Option.some.inj hj
    have hread := readContentIdentity_written h (path ++ "/observations")
    exact (congrArg (· >>= fun o => pure (HistoryContext.provenance o)) hread)
  | full observations authority conflicts =>
    obtain rfl := Option.some.inj hj
    obtain ⟨hobservations, hauthority, hconflicts⟩ := h
    have hread : (do
        let a ← readContentIdentity authority.toDict (path ++ "/authority")
        let c ← readContentIdentity conflicts.toDict (path ++ "/conflicts")
        let o ← readContentIdentity observations.toDict (path ++ "/observations")
        return HistoryContext.full o a c) = Except.ok (.full observations authority conflicts) := by
      rw [readContentIdentity_written hauthority, ok_bind, readContentIdentity_written hconflicts, ok_bind,
        readContentIdentity_written hobservations]
      rfl
    exact hread

/-! ### States -/

def HistoryEntryState.members (s : HistoryEntryState) : List (String × Json) :=
  [("snapshot", s.snapshot.toDict)] ++ s.labels.toList.map (fun l => ("labels", labelsDocument l)) ++
    s.context.document.toList.map (fun j => ("context", j))

lemma HistoryEntryState.toIdentityDict_eq (s : HistoryEntryState) : s.toIdentityDict = .obj s.members := by
  unfold toIdentityDict members
  cases s.labels <;> cases s.context <;> rfl

/-- The state with its labels in the order of their keys. -/
def HistoryEntryState.canonical (s : HistoryEntryState) : HistoryEntryState :=
  { s with labels := s.labels.map canonicalLabels }

structure HistoryEntryState.Proper (tables : UnicodeTables) (s : HistoryEntryState) : Prop where
  snapshot : Complete s.snapshot
  labels : ∀ l ∈ s.labels, LabelsProper tables l
  context : s.context.Complete

section States
variable {tables : UnicodeTables} {s : HistoryEntryState}

lemma lookup_labels (s : HistoryEntryState) : Json.lookup s.members "labels" = s.labels.map labelsDocument := by
  unfold HistoryEntryState.members
  cases s.labels <;> cases s.context <;> rfl

lemma lookup_context (s : HistoryEntryState) : Json.lookup s.members "context" = s.context.document := by
  unfold HistoryEntryState.members
  cases s.labels <;> cases s.context <;> rfl

lemma members_all {keys : List String} {ms : List (String × Json)} :
    (Json.sortedMembers ms).all (fun m => keys.contains m.1) = ms.all (fun m => keys.contains m.1) := by
  rw [(Json.sortedMembers_perm ms).all_eq, List.all_map]
  rfl

lemma stateKeys (s : HistoryEntryState) :
    s.members.all (fun m => ["snapshot", "labels", "context"].contains m.1) = true := by
  unfold HistoryEntryState.members
  cases s.labels <;> cases s.context <;> rfl

theorem readEntryState_written (h : s.Proper tables) (path : String) :
    readEntryState tables (Json.sortedMembers s.members) path = .ok s.canonical := by
  have hsnapshot : Json.get (Json.sortedMembers s.members) "snapshot" = s.snapshot.toDict :=
    (Json.get_sortedMembers _ _).trans (normalize_contentIdentity _)
  have hlabels : readMember (Json.sortedMembers s.members) "labels" none (normalizeLabels tables (path ++ "/labels")) =
      .ok (s.labels.map canonicalLabels) := by
    rw [readMember, Json.lookup_sortedMembers, lookup_labels]
    cases hs : s.labels with
    | none => rfl
    | some labels =>
      simp only [Option.map_some, normalize_labels]
      exact normalizeLabels_written (h.labels labels hs).canonical
  have hcontext : readMember (Json.sortedMembers s.members) "context" .absent
      (fun raw => readContext raw (path ++ "/context")) = .ok s.context := by
    rw [readMember, Json.lookup_sortedMembers, lookup_context, normalize_context]
    cases hs : s.context.document with
    | none =>
      cases hcontext : s.context with
      | absent => rfl
      | _ => rw [hcontext] at hs; cases hs
    | some j => exact readContext_written h.context hs _
  rw [readEntryState, hsnapshot, readContentIdentity_written h.snapshot, ok_bind, hlabels, ok_bind, hcontext, ok_bind,
    if_pos (members_all.trans (stateKeys s))]
  rfl

end States

/-! ### Operators -/

namespace HistoryOperator

def members (o : HistoryOperator) : List (String × Json) :=
  [("snapshot_path", .str o.snapshotPath)] ++ o.observationsPath.toList.map (fun p => ("observations_path", .str p)) ++
    o.authorityPaths.toList.map (fun ps => ("authority_paths", .arr (ps.map .str)))

/-- Every locator is normalised once more. -/
def reread (o : HistoryOperator) (path : String) : Checked HistoryOperator := do
  let snapshotPath ← normalizeHistoryRelativePath o.snapshotPath (path ++ "/snapshot_path")
  let observationsPath ← o.observationsPath.mapM fun text =>
    normalizeHistoryRelativePath text (path ++ "/observations_path")
  let authorityPaths ← o.authorityPaths.mapM fun texts => texts.zipIdx.mapM fun entry =>
    normalizeHistoryRelativePath entry.1 (path ++ "/authority_paths" ++ "/" ++ toString entry.2)
  return ⟨snapshotPath, observationsPath, authorityPaths⟩

/-- All locators. -/
def locators (o : HistoryOperator) : List String :=
  o.snapshotPath :: (o.observationsPath.toList ++ o.authorityPaths.getD [])

variable {o : HistoryOperator}

lemma lookup_observations (o : HistoryOperator) :
    Json.lookup o.members "observations_path" = o.observationsPath.map Json.str := by
  unfold members
  cases o.observationsPath <;> cases o.authorityPaths <;> rfl

lemma lookup_authority (o : HistoryOperator) :
    Json.lookup o.members "authority_paths" = o.authorityPaths.map (fun ps => .arr (ps.map .str)) := by
  unfold members
  cases o.observationsPath <;> cases o.authorityPaths <;> rfl

lemma lookup_conflicts (o : HistoryOperator) : Json.lookup o.members "conflicts_path" = none := by
  unfold members
  cases o.observationsPath <;> cases o.authorityPaths <;> rfl

lemma keys_allowed (o : HistoryOperator) : o.members.all (fun m => operatorKeys.contains m.1) = true := by
  unfold members
  cases o.observationsPath <;> cases o.authorityPaths <;> rfl

lemma normalize_texts (texts : List String) : (texts.map Json.str).map Json.normalize = texts.map .str := by
  rw [List.map_map]
  exact List.map_congr_left fun _ _ => rfl

lemma readAuthorityPaths_written {texts : List String} (h : texts ≠ []) (path : String) :
    readAuthorityPaths path (.arr (texts.map .str)) =
      texts.zipIdx.mapM (fun entry => normalizeHistoryRelativePath entry.1 (path ++ "/" ++ toString entry.2)) := by
  obtain ⟨text, texts, rfl⟩ := List.exists_cons_of_ne_nil h
  rw [List.map_cons, readAuthorityPaths, ← List.map_cons, List.zipIdx_map, List.mapM_map]
  rfl

theorem readOperator_written (h : o.authorityPaths ≠ some []) (path : String) :
    readOperator (.obj (Json.sortedMembers o.members)) path = o.reread path := by
  have hsnapshot : Json.get (Json.sortedMembers o.members) "snapshot_path" = .str o.snapshotPath :=
    Json.get_sortedMembers _ _
  have hnone : (Json.lookup (Json.sortedMembers o.members) "conflicts_path").isSome = false := by
    rw [Json.lookup_sortedMembers, lookup_conflicts]
    rfl
  have hsome : (Json.lookup (Json.sortedMembers o.members) "snapshot_path").isNone = false := by
    rw [Json.lookup_sortedMembers]
    rfl
  have hobservations : readOptional (Json.sortedMembers o.members) "observations_path"
      (fun raw => readLocator raw (path ++ "/observations_path")) =
      o.observationsPath.mapM fun text => normalizeHistoryRelativePath text (path ++ "/observations_path") := by
    rw [readOptional, Json.lookup_sortedMembers, lookup_observations]
    cases o.observationsPath <;> rfl
  have hauthority : readOptional (Json.sortedMembers o.members) "authority_paths"
      (readAuthorityPaths (path ++ "/authority_paths")) =
      o.authorityPaths.mapM fun texts => texts.zipIdx.mapM fun entry =>
        normalizeHistoryRelativePath entry.1 (path ++ "/authority_paths" ++ "/" ++ toString entry.2) := by
    rw [readOptional, Json.lookup_sortedMembers, lookup_authority]
    cases hpaths : o.authorityPaths with
    | none => rfl
    | some texts =>
      have hne : texts ≠ [] := fun hnil => h (hpaths.trans (congrArg some hnil))
      simp only [Option.map_some, Json.normalize_arr, normalize_texts, Option.mapM_some]
      rw [readAuthorityPaths_written hne]
  rw [readOperator, if_neg (by rw [hnone]; decide), members_all, keys_allowed, hsome, if_neg (by decide), hsnapshot,
    hobservations, hauthority]
  rfl

end HistoryOperator

/-! ### Entries -/

/-- Two operators that name artifacts of the same kinds. -/
structure HistoryOperator.SameShape (o o' : HistoryOperator) : Prop where
  observations : o'.observationsPath.isSome = o.observationsPath.isSome
  authority : o'.authorityPaths.isSome = o.authorityPaths.isSome
  some_authority : (o'.authorityPaths.getD []).isEmpty = (o.authorityPaths.getD []).isEmpty

lemma mapM_isSome {α β : Type} {f : α → Checked β} {a : Option α} {b : Option β} (h : a.mapM f = .ok b) :
    b.isSome = a.isSome := by
  cases a with
  | none =>
    obtain rfl := Except.ok.inj h
    rfl
  | some a =>
    cases hf : f a with
    | error e =>
      rw [Option.mapM_some, hf] at h
      cases h
    | ok y =>
      rw [Option.mapM_some, hf] at h
      obtain rfl := Except.ok.inj h
      rfl

lemma HistoryOperator.reread_shape {o o' : HistoryOperator} {path : String} (h : o.reread path = .ok o') :
    o.SameShape o' := by
  obtain ⟨s, -, h⟩ := bind_eq_ok.mp h
  obtain ⟨b, hb, h⟩ := bind_eq_ok.mp h
  obtain ⟨a, ha, h⟩ := bind_eq_ok.mp h
  obtain rfl := pure_eq_ok.mp h
  refine ⟨mapM_isSome hb, mapM_isSome ha, ?_⟩
  dsimp only
  cases hpaths : o.authorityPaths with
  | none =>
    rw [hpaths] at ha
    obtain rfl := Except.ok.inj ha
    rfl
  | some texts =>
    rw [hpaths, Option.mapM_some] at ha
    cases hread : texts.zipIdx.mapM (fun entry =>
        normalizeHistoryRelativePath entry.1 (path ++ "/authority_paths" ++ "/" ++ toString entry.2)) with
    | error e =>
      rw [hread] at ha
      cases ha
    | ok read =>
      rw [hread] at ha
      obtain rfl := Except.ok.inj ha
      have hlength := (mapM_zipIdx_get hread).1
      cases texts <;> cases read <;> simp at hlength ⊢

lemma coupling_congr {s : HistoryEntryState} {o o' : HistoryOperator} (h : o.SameShape o') (path : String) :
    validateOperatorContextCoupling s.canonical o' path = validateOperatorContextCoupling s o path := by
  have hcontext : s.canonical.context = s.context := rfl
  unfold validateOperatorContextCoupling
  rw [hcontext, h.observations, h.authority, h.some_authority, ← Option.not_isSome, ← Option.not_isSome,
    h.observations]

namespace RecordedEntry

def members (e : RecordedEntry) : List (String × Json) :=
  [("operator", e.operator.toDict), ("state", e.state.toIdentityDict)] ++
    e.capturedAt.toList.map (fun t => ("captured_at", .str t))

structure Proper (tables : UnicodeTables) (e : RecordedEntry) : Prop where
  state : e.state.Proper tables
  coupled : ∀ path, validateOperatorContextCoupling e.state e.operator path = .ok ()
  captured : ∀ t ∈ e.capturedAt, isTimestamp tables t = true

variable {tables : UnicodeTables} {e : RecordedEntry}

lemma Proper.authority (h : e.Proper tables) : e.operator.authorityPaths ≠ some [] := by
  intro hpaths
  have hcoupled := h.coupled ""
  unfold validateOperatorContextCoupling at hcoupled
  cases hcontext : e.state.context <;> rw [hcontext] at hcoupled <;> simp [hpaths, refuse] at hcoupled

lemma lookup_captured (e : RecordedEntry) : Json.lookup e.members "captured_at" = e.capturedAt.map Json.str := by
  unfold members
  cases e.capturedAt <;> rfl

lemma keys_allowed (e : RecordedEntry) :
    e.members.all (fun m => ["state", "operator", "captured_at"].contains m.1) = true := by
  unfold members
  cases e.capturedAt <;> rfl

/-- What is written of an entry is read with its labels in order and its locators normalised once more. -/
theorem readEntry_written (h : e.Proper tables) (index : Nat) :
    readEntry tables (e.toPersistedDict.normalize, index) =
      (e.operator.reread ("/entries/" ++ toString index ++ "/operator")).map
        (fun o => ⟨⟨e.state.canonical, o⟩, e.capturedAt⟩) := by
  have hdict : e.toPersistedDict.normalize = .obj (Json.sortedMembers e.members) := Json.normalize_obj_eq e.members
  have hstate : Json.get (Json.sortedMembers e.members) "state" = .obj (Json.sortedMembers e.state.members) := by
    rw [Json.get_sortedMembers, ← Json.normalize_obj_eq, ← HistoryEntryState.toIdentityDict_eq]
    rfl
  have hoperator : Json.get (Json.sortedMembers e.members) "operator" = .obj (Json.sortedMembers e.operator.members) := by
    rw [Json.get_sortedMembers, ← Json.normalize_obj_eq]
    rfl
  have hcaptured : ∀ path, readMember (Json.sortedMembers e.members) "captured_at" none
      (validateCapturedAt tables path) = .ok e.capturedAt := by
    intro path
    rw [readMember, Json.lookup_sortedMembers, lookup_captured]
    cases ht : e.capturedAt with
    | none => rfl
    | some t => exact if_pos (h.captured t ht)
  rw [readEntry, hdict]
  dsimp only
  rw [hstate]
  dsimp only
  rw [readEntryState_written h.state, ok_bind, hoperator, HistoryOperator.readOperator_written h.authority]
  cases hreread : e.operator.reread ("/entries/" ++ toString index ++ "/operator") with
  | error failure => rfl
  | ok o =>
    rw [ok_bind, coupling_congr (HistoryOperator.reread_shape hreread), h.coupled, ok_bind, hcaptured, ok_bind,
      if_pos (members_all.trans e.keys_allowed)]
    rfl

end RecordedEntry

/-! ### Histories -/

namespace RecordedHistory

structure Proper (tables : UnicodeTables) (h : RecordedHistory) : Prop where
  entries : ∀ e ∈ h.entries, e.Proper tables

/-- The entries, each with its labels in order and its locators normalised once more. -/
def reread (h : RecordedHistory) : Checked RecordedHistory := do
  let entries ← h.entries.zipIdx.mapM fun entry =>
    (entry.1.operator.reread ("/entries/" ++ toString entry.2 ++ "/operator")).map
      fun o => (⟨⟨entry.1.state.canonical, o⟩, entry.1.capturedAt⟩ : RecordedEntry)
  return ⟨h.comparisonPolicy, entries⟩

variable {tables : UnicodeTables} {sha256 : String → String} {schemaErrors : Json → List JsonSchema.Failure}
  {h : RecordedHistory}

lemma readPolicy_written (p : ComparisonPolicy) : readPolicy p.toDict.normalize = .ok p := by
  have hkeys : SortedBy id ["align_database_roots", "align_source_roots"] := by decide
  have hdict : p.toDict.normalize = p.toDict := Json.normalize_obj_self hkeys (by simp)
  rw [hdict]
  rfl

lemma readHistory_written (hproper : h.Proper tables) :
    readHistory tables (Json.sortedMembers (h.members sha256)) = h.reread := by
  have hpolicy : Json.get (Json.sortedMembers (h.members sha256)) "comparison_policy" =
      h.comparisonPolicy.toDict.normalize := Json.get_sortedMembers _ _
  have hentries : Json.get (Json.sortedMembers (h.members sha256)) "entries" =
      .arr (h.entries.map fun e => e.toPersistedDict.normalize) := by
    have hget : Json.get (h.members sha256) "entries" = .arr (h.entries.map RecordedEntry.toPersistedDict) := rfl
    rw [Json.get_sortedMembers, hget, Json.normalize_arr, List.map_map]
    rfl
  rw [readHistory, hpolicy, readPolicy_written, ok_bind, hentries, reread]
  dsimp only
  rw [List.zipIdx_map]
  refine congrArg (· >>= _) (mapM_congr_forall₂ (List.forall₂_map_left_iff.mpr (List.forall₂_same.mpr ?_)))
  intro entry hentry
  exact RecordedEntry.readEntry_written (hproper.entries _ (List.fst_mem_of_mem_zipIdx hentry)) entry.2

end RecordedHistory

end CollibraGovernance.History
