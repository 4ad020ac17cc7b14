import CollibraGovernance.History.Reread

/-! Which histories are read back from their file as they were written. -/
namespace CollibraGovernance.History
open Library Identity Comparison

/-! ### The document of a history -/

section Keys

lemma uniqueKeys_identity (c : ContentIdentity) : c.toDict.uniqueKeys = true := rfl

lemma uniqueKeys_labels (labels : Dict String String) : (labelsDocument labels).uniqueKeys = true := by
  rw [labelsDocument, Json.uniqueKeys_obj, List.map_map]
  refine ⟨labels.nodup, fun m hm => ?_⟩
  obtain ⟨e, -, rfl⟩ := List.mem_map.mp hm
  rfl

lemma uniqueKeys_context {context : HistoryContext} {j : Json} (h : context.document = some j) :
    j.uniqueKeys = true := by
  cases context with
  | absent => cases h
  | provenance observations =>
    obtain rfl := Option.some.inj h
    rfl
  | full observations authority conflicts =>
    obtain rfl := Option.some.inj h
    rfl

lemma uniqueKeys_state (s : HistoryEntryState) : s.toIdentityDict.uniqueKeys = true := by
  rw [HistoryEntryState.toIdentityDict_eq, Json.uniqueKeys_obj]
  constructor
  · unfold HistoryEntryState.members
    cases s.labels <;> cases s.context <;> simp [HistoryContext.document]
  · intro m hm
    simp only [HistoryEntryState.members, List.mem_append, List.mem_singleton, List.mem_map, Option.mem_toList] at hm
    rcases hm with (rfl | ⟨labels, -, rfl⟩) | ⟨j, hj, rfl⟩
    · exact uniqueKeys_identity _
    · exact uniqueKeys_labels labels
    · exact uniqueKeys_context hj

lemma uniqueKeys_operator (o : HistoryOperator) : o.toDict.uniqueKeys = true := by
  have hdict : o.toDict = .obj o.members := rfl
  rw [hdict, Json.uniqueKeys_obj]
  constructor
  · unfold HistoryOperator.members
    cases o.observationsPath <;> cases o.authorityPaths <;> simp
  · intro m hm
    simp only [HistoryOperator.members, List.mem_append, List.mem_singleton, List.mem_map, Option.mem_toList] at hm
    rcases hm with (rfl | ⟨p, -, rfl⟩) | ⟨ps, -, rfl⟩
    · rfl
    · rfl
    · rw [Json.uniqueKeys_arr]
      intro j hj
      obtain ⟨p, -, rfl⟩ := List.mem_map.mp hj
      rfl

lemma uniqueKeys_entry (e : RecordedEntry) : e.toPersistedDict.uniqueKeys = true := by
  have hdict : e.toPersistedDict = .obj e.members := rfl
  rw [hdict, Json.uniqueKeys_obj]
  constructor
  · unfold RecordedEntry.members
    cases e.capturedAt <;> simp
  · intro m hm
    simp only [RecordedEntry.members, List.mem_append, List.mem_cons, List.not_mem_nil, or_false, List.mem_map,
      Option.mem_toList] at hm
    rcases hm with (rfl | rfl) | ⟨t, -, rfl⟩
    · exact uniqueKeys_operator _
    · exact uniqueKeys_state _
    · rfl

end Keys

section Document
variable {tables : UnicodeTables} {sha256 : String → String} {schemaErrors : Json → List JsonSchema.Failure}
  {h h' : RecordedHistory}

lemma uniqueKeys_history (h : RecordedHistory) : (h.toDict sha256).uniqueKeys = true := by
  have hdict : h.toDict sha256 = .obj (h.members sha256) := rfl
  rw [hdict, Json.uniqueKeys_obj]
  refine ⟨by simp [RecordedHistory.members], fun m hm => ?_⟩
  simp only [RecordedHistory.members, List.mem_cons, List.not_mem_nil, or_false] at hm
  rcases hm with rfl | rfl | rfl | rfl | rfl
  · rfl
  · rw [Json.uniqueKeys_arr]
    intro j hj
    obtain ⟨e, -, rfl⟩ := List.mem_map.mp hj
    exact uniqueKeys_entry e
  · rfl
  · rfl
  · exact uniqueKeys_identity _

lemma normalize_state (s : HistoryEntryState) : s.canonical.toIdentityDict.normalize = s.toIdentityDict.normalize := by
  rw [HistoryEntryState.toIdentityDict_eq, HistoryEntryState.toIdentityDict_eq]
  refine Json.normalize_obj_congr ?_
  unfold HistoryEntryState.members HistoryEntryState.canonical
  cases s.labels with
  | none => rfl
  | some labels =>
    simp only [Option.map_some, Option.toList_some, List.map_cons, List.map_nil, List.map_append, normalize_labels,
      canonicalLabels_idem]

lemma complete_sha256 (hdigest : HexDigest sha256) (domainPrefix : String) (payload : Json) :
    Complete (sha256Identity sha256 domainPrefix payload) := by
  have hne : sha256 (domainPrefix ++ payload.canonicalJson) ≠ "" := by
    intro hempty
    have hlength := (hdigest (domainPrefix ++ payload.canonicalJson)).1
    rw [hempty] at hlength
    cases hlength
  have halgorithm : algorithmName ≠ "" := by decide
  have hversion : hashingContractVersion ≠ "" := by decide
  rintro (h | h | h)
  · exact halgorithm h
  · exact hversion h
  · exact hne h

/-- What is hashed of a history: its policy and the states of its entries, whatever the order of labels. -/
theorem contentIdentity_congr (hpolicy : h'.comparisonPolicy = h.comparisonPolicy)
    (hstates : h'.entries.map (fun e => e.state.canonical) = h.entries.map (fun e => e.state.canonical)) :
    h'.history.contentIdentity sha256 = h.history.contentIdentity sha256 := by
  refine sha256Identity_congr ?_
  have hentry : ∀ h : RecordedHistory, (h.history.entries.map fun e => Json.obj [("state", e.state.toIdentityDict)]).map
      Json.normalize = (h.entries.map fun e => e.state.canonical).map
        fun s => (Json.obj [("state", s.toIdentityDict)]).normalize := by
    intro h
    rw [RecordedHistory.history, List.map_map, List.map_map, List.map_map]
    refine List.map_congr_left fun e _ => ?_
    refine Json.normalize_obj_congr ?_
    simp only [List.map_cons, List.map_nil, normalize_state]
  refine Json.normalize_obj_congr ?_
  have hpolicy' : h'.history.comparisonPolicy = h.history.comparisonPolicy := hpolicy
  simp only [List.map_cons, List.map_nil, Json.normalize_arr, hentry, hstates, hpolicy']

lemma reread_entries (hreread : h.reread = .ok h') : h'.comparisonPolicy = h.comparisonPolicy ∧
    List.Forall₂ (fun e e' => e'.state = e.state.canonical ∧ e'.capturedAt = e.capturedAt ∧
      ∃ path, e.operator.reread path = .ok e'.operator) h.entries h'.entries := by
  obtain ⟨entries, hentries, hh⟩ := bind_eq_ok.mp hreread
  obtain rfl := pure_eq_ok.mp hh
  refine ⟨rfl, ?_⟩
  have hall := mapM_eq_ok.mp hentries
  have hrel : List.Forall₂ (fun (entry : RecordedEntry × Nat) e' => e'.state = entry.1.state.canonical ∧
      e'.capturedAt = entry.1.capturedAt ∧ ∃ path, entry.1.operator.reread path = .ok e'.operator)
      h.entries.zipIdx entries := by
    refine hall.imp fun entry e' he => ?_
    cases ho : entry.1.operator.reread ("/entries/" ++ toString entry.2 ++ "/operator") with
    | error failure =>
      rw [ho] at he
      cases he
    | ok o =>
      rw [ho] at he
      obtain rfl := Except.ok.inj he
      exact ⟨rfl, rfl, _, ho⟩
  rw [← List.zipIdx_map_fst 0 h.entries]
  exact List.forall₂_map_left_iff.mpr hrel

lemma canonical_idem (s : HistoryEntryState) : s.canonical.canonical = s.canonical := by
  unfold HistoryEntryState.canonical
  cases s.labels with
  | none => rfl
  | some labels =>
    simp only [Option.map_some, canonicalLabels_idem]

/-- The states of a history are read as they were written. -/
lemma reread_states (hreread : h.reread = .ok h') :
    (h'.entries.map fun e => e.state.canonical) = h.entries.map fun e => e.state.canonical := by
  have hsame : List.Forall₂ (· = ·) (h.entries.map fun e => e.state.canonical)
      (h'.entries.map fun e => e.state.canonical) := by
    refine List.forall₂_map_left_iff.mpr (List.forall₂_map_right_iff.mpr ((reread_entries hreread).2.imp ?_))
    intro e e' he
    rw [he.1, canonical_idem]
  exact (List.forall₂_eq_eq_eq ▸ hsame : _ = _).symm

/-- Reading again keeps the policy and the states, so that the identity is the same. -/
lemma reread_identity (hreread : h.reread = .ok h') :
    h'.history.contentIdentity sha256 = h.history.contentIdentity sha256 :=
  contentIdentity_congr (reread_entries hreread).1 (reread_states hreread)

/-- What is written of a history is read as far as the schema accepts it, with its locators normalised once more. -/
theorem loadHistoryArtifact_written (hdigest : HexDigest sha256) (hproper : h.Proper tables) :
    loadHistoryArtifact tables sha256 schemaErrors (written sha256 h) =
      (validateHistorySchema schemaErrors (Json.sortedMembers (h.members sha256)) >>= fun _ => h.reread) := by
  have hget := fun key => Json.get_sortedMembers (h.members sha256) key
  have hunique : (h.toDict sha256).normalize.uniqueKeys = true := Json.uniqueKeys_normalize (uniqueKeys_history h)
  have hdict : (h.toDict sha256).normalize = .obj (Json.sortedMembers (h.members sha256)) :=
    Json.normalize_obj_eq (h.members sha256)
  have hschema : Json.get (Json.sortedMembers (h.members sha256)) "history_schema" = .str historySchema := hget _
  have hversion : Json.get (Json.sortedMembers (h.members sha256)) "history_version" = .str historyVersion := hget _
  have hidentity : Json.get (Json.sortedMembers (h.members sha256)) "content_identity" =
      (h.history.contentIdentity sha256).toDict := (hget _).trans (normalize_contentIdentity _)
  have hcomplete : Complete (h.history.contentIdentity sha256) := complete_sha256 hdigest _ _
  have hverify : (h.reread >>= fun history =>
      verifyIdentity sha256 (h.history.contentIdentity sha256).toDict history >>= fun _ => pure history) = h.reread := by
    cases hreread : h.reread with
    | error failure => rfl
    | ok h' =>
      rw [ok_bind, verifyIdentity, readContentIdentity_written hcomplete]
      dsimp only
      rw [if_pos (reread_identity hreread).symm]
      rfl
  rw [hdict] at hunique
  rw [written, hdict, loadHistoryArtifact, if_neg (by rw [hunique]; decide), loadPayload,
    if_neg (not_not.mpr hschema), if_neg (not_not.mpr hversion), hidentity]
  refine congrArg (validateHistorySchema schemaErrors (Json.sortedMembers (h.members sha256)) >>= ·) ?_
  funext u
  exact (congrArg (· >>= _) (RecordedHistory.readHistory_written hproper)).trans hverify

end Document

end CollibraGovernance.History
