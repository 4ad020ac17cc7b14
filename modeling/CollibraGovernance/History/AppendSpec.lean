import CollibraGovernance.History.Fits

/-! What appending does to a history and its file. -/
namespace CollibraGovernance.History
open Library Identity Domain Comparison Snapshots

section Proper
variable {tables : UnicodeTables} {path : String}

lemma parseContentIdentity_complete {c d : ContentIdentity} (h : parseContentIdentity c path = .ok d) : Complete d := by
  unfold parseContentIdentity at h
  split_ifs at h with hempty
  · cases h
  · obtain rfl := Except.ok.inj h
    exact hempty

lemma readContentIdentity_complete {raw : Json} {c : ContentIdentity} (h : readContentIdentity raw path = .ok c) :
    Complete c := by
  unfold readContentIdentity at h
  split at h
  · split_ifs at h
    · split at h
      · exact parseContentIdentity_complete h
      · cases h
    · cases h
  · cases h

lemma readContext_complete {raw : Json} {context : HistoryContext} (h : readContext raw path = .ok context) :
    context.Complete := by
  unfold readContext at h
  split at h
  · obtain rfl := Except.ok.inj h
    exact trivial
  · split_ifs at h
    · obtain ⟨o, ho, h⟩ := bind_eq_ok.mp h
      obtain rfl := pure_eq_ok.mp h
      exact readContentIdentity_complete ho
    · obtain ⟨a, ha, h⟩ := bind_eq_ok.mp h
      obtain ⟨c, hc, h⟩ := bind_eq_ok.mp h
      obtain ⟨o, ho, h⟩ := bind_eq_ok.mp h
      obtain rfl := pure_eq_ok.mp h
      exact ⟨readContentIdentity_complete ho, readContentIdentity_complete ha, readContentIdentity_complete hc⟩
    · cases h
  · cases h

lemma normalizeLabels_some {raw : Json} {labels : Option (Dict String String)}
    (h : normalizeLabels tables path raw = .ok labels) : ∀ l ∈ labels, LabelsProper tables l := by
  rintro l rfl
  exact normalizeLabels_proper h

lemma validateCapturedAt_some {raw : Json} {stamp : Option String} (h : validateCapturedAt tables path raw = .ok stamp) :
    ∀ t ∈ stamp, isTimestamp tables t = true := by
  rintro t rfl
  unfold validateCapturedAt at h
  split at h
  · cases h
  · split_ifs at h with hstamp
    · obtain rfl := Option.some.inj (Except.ok.inj h)
      exact hstamp
    · cases h
  · cases h

lemma readMember_some {α : Type} {members : List (String × Json)} {key : String} {missing a : α}
    {read : Json → Checked α} (h : readMember members key missing read = .ok a) : a = missing ∨ ∃ raw, read raw = .ok a := by
  unfold readMember at h
  split at h
  · exact Or.inr ⟨_, h⟩
  · exact Or.inl (Except.ok.inj h).symm

/-- A state that was read is proper. -/
lemma readEntryState_proper {members : List (String × Json)} {s : HistoryEntryState}
    (h : readEntryState tables members path = .ok s) : s.Proper tables := by
  obtain ⟨snapshot, hsnapshot, h⟩ := bind_eq_ok.mp h
  obtain ⟨labels, hlabels, h⟩ := bind_eq_ok.mp h
  obtain ⟨context, hcontext, h⟩ := bind_eq_ok.mp h
  split_ifs at h
  · obtain rfl := pure_eq_ok.mp h
    refine ⟨readContentIdentity_complete hsnapshot, ?_, ?_⟩
    · rcases readMember_some hlabels with rfl | ⟨raw, hraw⟩
      · exact fun l hl => absurd hl (Option.not_mem_none l)
      · exact normalizeLabels_some hraw
    · rcases readMember_some hcontext with rfl | ⟨raw, hraw⟩
      · exact trivial
      · exact readContext_complete hraw
  · cases h

lemma guard_ok {c : Bool} {code message : String} :
    (if c = true then refuse code path message else .ok () : Checked Unit) = .ok () ↔ c = false := by
  cases c
  · exact ⟨fun _ => rfl, fun _ => rfl⟩
  · constructor <;> intro h <;> cases h

/-- Coupling does not depend on the place that its error names. -/
lemma coupling_place {s : HistoryEntryState} {o : HistoryOperator} {path path' : String}
    (h : validateOperatorContextCoupling s o path = .ok ()) : validateOperatorContextCoupling s o path' = .ok () := by
  unfold validateOperatorContextCoupling at h ⊢
  cases hcontext : s.context with
  | absent =>
    rw [hcontext] at h
    exact guard_ok.mpr (guard_ok.mp h)
  | provenance observations =>
    rw [hcontext] at h
    exact guard_ok.mpr (guard_ok.mp h)
  | full observations authority conflicts =>
    rw [hcontext] at h
    exact guard_ok.mpr (guard_ok.mp h)

/-- An entry that was read is proper. -/
lemma readEntry_proper {indexed : Json × Nat} {e : RecordedEntry} (h : readEntry tables indexed = .ok e) :
    e.Proper tables := by
  unfold readEntry at h
  dsimp only at h
  split at h
  · split at h
    · obtain ⟨state, hstate, h⟩ := bind_eq_ok.mp h
      obtain ⟨operator, -, h⟩ := bind_eq_ok.mp h
      obtain ⟨⟨⟩, hcoupled, h⟩ := bind_eq_ok.mp h
      obtain ⟨capturedAt, hcaptured, h⟩ := bind_eq_ok.mp h
      split_ifs at h
      · obtain rfl := pure_eq_ok.mp h
        refine ⟨readEntryState_proper hstate, fun path => coupling_place hcoupled, ?_⟩
        rcases readMember_some hcaptured with rfl | ⟨raw, hraw⟩
        · exact fun t ht => absurd ht (Option.not_mem_none t)
        · exact validateCapturedAt_some hraw
      · cases h
    · cases h
  · cases h

variable {sha256 : String → String} {schemaErrors : Json → List JsonSchema.Failure}

/-- A history that was loaded is proper. -/
theorem loadHistoryArtifact_proper {stored : Stored} {h : RecordedHistory}
    (hload : loadHistoryArtifact tables sha256 schemaErrors stored = .ok h) : h.Proper tables := by
  unfold loadHistoryArtifact at hload
  split at hload
  · cases hload
  · cases hload
  · cases hload
  · split_ifs at hload
    · cases hload
    · split at hload
      · unfold loadPayload at hload
        split_ifs at hload
        · cases hload
        · cases hload
        · obtain ⟨⟨⟩, -, hload⟩ := bind_eq_ok.mp hload
          split at hload
          · obtain ⟨history, hread, hload⟩ := bind_eq_ok.mp hload
            obtain ⟨⟨⟩, -, hload⟩ := bind_eq_ok.mp hload
            obtain rfl := pure_eq_ok.mp hload
            unfold readHistory at hread
            obtain ⟨policy, -, hread⟩ := bind_eq_ok.mp hread
            split at hread
            · obtain ⟨entries, hentries, hread⟩ := bind_eq_ok.mp hread
              obtain rfl := pure_eq_ok.mp hread
              refine ⟨fun e he => ?_⟩
              obtain ⟨indexed, -, hindexed⟩ := (mapM_mem hentries).1 e he
              exact readEntry_proper hindexed
            · cases hread
          · cases hload
      · cases hload

end Proper

/-! ### What a successful append does -/

section Append
variable {tables : UnicodeTables} {sha256 : String → String} {isPrintable : Char → Bool}
  {schemaErrors : Json → List JsonSchema.Failure} {artifacts : Artifacts} {file : Option Stored} {args : AppendArgs}
  {updated : RecordedHistory}

/-- The entries that were there. -/
def entriesBefore (existing : Option (RecordedHistory × ResolvedHistory)) : List RecordedEntry :=
  (existing.map fun e => e.1.entries).getD []

/-- What the new entry says, and what was checked of it. -/
structure Appends (sha256 : String → String) (isPrintable : Char → Bool) (artifacts : Artifacts) (args : AppendArgs)
    (existing : Option (RecordedHistory × ResolvedHistory)) (snapshot : GovernanceSnapshot) (e : RecordedEntry) :
    Prop where
  operator : appendedOperator args = .ok e.operator
  loaded : artifacts.loadSnapshot e.operator.snapshotPath = .ok snapshot
  identity : e.state.snapshot = snapshot.contentIdentity sha256
  context : appendedContext sha256 artifacts e.operator = .ok e.state.context
  successor : checkSuccessor sha256 isPrintable existing snapshot e.state = .ok ()

lemma appendedContext_complete (hdigest : HexDigest sha256) {o : HistoryOperator} {context : HistoryContext}
    (h : appendedContext sha256 artifacts o = .ok context) : context.Complete := by
  obtain ⟨observations, -, h⟩ := bind_eq_ok.mp h
  obtain ⟨authority, -, h⟩ := bind_eq_ok.mp h
  unfold buildContextIdentities at h
  cases observations with
  | none =>
    cases authority with
    | none =>
      obtain rfl := Except.ok.inj h
      exact trivial
    | some a => cases h
  | some o =>
    cases authority with
    | none =>
      obtain rfl := Except.ok.inj h
      exact complete_sha256 hdigest _ _
    | some a =>
      obtain rfl := Except.ok.inj h
      exact ⟨complete_sha256 hdigest _ _, complete_sha256 hdigest _ _, complete_sha256 hdigest _ _⟩

/-- A successful append adds one proper entry to the entries that were there. -/
theorem appendHistoryEntry_ok (hdigest : HexDigest sha256)
    (h : appendHistoryEntry tables sha256 isPrintable schemaErrors artifacts file args = .ok updated) :
    ∃ existing snapshot e, existingHistory tables sha256 isPrintable schemaErrors artifacts file args = .ok existing ∧
      updated = ⟨policyOf existing args, entriesBefore existing ++ [e]⟩ ∧ e.Proper tables ∧
      Appends sha256 isPrintable artifacts args existing snapshot e := by
  obtain ⟨operator, hoperator, h⟩ := bind_eq_ok.mp h
  obtain ⟨labels, hlabels, h⟩ := bind_eq_ok.mp h
  obtain ⟨capturedAt, hcaptured, h⟩ := bind_eq_ok.mp h
  obtain ⟨snapshot, hsnapshot, h⟩ := bind_eq_ok.mp h
  obtain ⟨existing, hexisting, h⟩ := bind_eq_ok.mp h
  obtain ⟨context, hcontext, h⟩ := bind_eq_ok.mp h
  obtain ⟨⟨⟩, hcoupled, h⟩ := bind_eq_ok.mp h
  obtain ⟨⟨⟩, hsuccessor, h⟩ := bind_eq_ok.mp h
  obtain rfl := pure_eq_ok.mp h
  refine ⟨existing, snapshot, ⟨⟨⟨snapshot.contentIdentity sha256, labels, context⟩, operator⟩, capturedAt⟩, hexisting, rfl,
    ⟨⟨?_, ?_, ?_⟩, fun path => coupling_place hcoupled, ?_⟩,
      ⟨hoperator, mapError_eq_ok.mp hsnapshot, rfl, hcontext, hsuccessor⟩⟩
  · exact complete_sha256 hdigest _ _
  · exact normalizeLabels_some hlabels
  · exact appendedContext_complete hdigest hcontext
  · exact validateCapturedAt_some hcaptured

/-- The history that was there is what its file loads as, resolved. -/
lemma existingHistory_ok {existing : Option (RecordedHistory × ResolvedHistory)}
    (h : existingHistory tables sha256 isPrintable schemaErrors artifacts file args = .ok existing) :
    (file = none ∧ existing = none) ∨ ∃ stored before resolved, file = some stored ∧ existing = some (before, resolved) ∧
      loadHistoryArtifact tables sha256 schemaErrors stored = .ok before ∧
      resolveHistoryArtifacts sha256 isPrintable artifacts before.history = .ok resolved := by
  cases file with
  | none =>
    obtain rfl := Except.ok.inj h
    exact Or.inl ⟨rfl, rfl⟩
  | some stored =>
    obtain ⟨before, hload, h⟩ := bind_eq_ok.mp h
    obtain ⟨resolved, hresolved, h⟩ := bind_eq_ok.mp h
    obtain ⟨⟨⟩, -, h⟩ := bind_eq_ok.mp h
    obtain ⟨⟨⟩, -, h⟩ := bind_eq_ok.mp h
    obtain rfl := pure_eq_ok.mp h
    exact Or.inr ⟨stored, before, resolved, rfl, rfl, hload, hresolved⟩

theorem appendHistoryEntry_proper (hdigest : HexDigest sha256)
    (h : appendHistoryEntry tables sha256 isPrintable schemaErrors artifacts file args = .ok updated) :
    updated.Proper tables := by
  obtain ⟨existing, snapshot, e, hexisting, rfl, he, -⟩ := appendHistoryEntry_ok hdigest h
  refine ⟨fun e' he' => ?_⟩
  rcases List.mem_append.mp he' with he' | he'
  · rcases existingHistory_ok hexisting with ⟨-, rfl⟩ | ⟨stored, before, resolved, -, rfl, hload, -⟩
    · cases he'
    · exact (loadHistoryArtifact_proper hload).entries e' he'
  · exact List.mem_singleton.mp he' ▸ he

/-- What the command has written is read back as it is exactly where each entry lasts: its locators normalise to
themselves and have no line break, nor has a label key, and the digits of its capture time are ASCII. -/
theorem appended_reloads_iff (hdigest : HexDigest sha256) (hfold : FoldsAscii tables)
    (hvalidator : ∀ d, schemaErrors d = [] ↔ historySchemaAccepts d = true)
    (h : appendHistoryEntry tables sha256 isPrintable schemaErrors artifacts file args = .ok updated) :
    loadHistoryArtifact tables sha256 schemaErrors (written sha256 updated) = .ok updated.canonical ↔
      ∀ e ∈ updated.entries, e.Lasting :=
  load_written_iff hdigest hfold hvalidator (appendHistoryEntry_proper hdigest h)

end Append

/-! ### A shop that is recorded once -/

/-- The tables of Unicode, for texts of ASCII characters. -/
def asciiTables : UnicodeTables :=
  ⟨fun s => String.ofList (s.toList.map Char.toLower), fun c => if c.isDigit then some (c.toNat - 48) else none⟩

/-- Reports something of exactly the documents that the schema refuses. -/
def historyValidator (document : Json) : List JsonSchema.Failure :=
  if historySchemaAccepts document then [] else [⟨"type", []⟩]

lemma historyValidator_iff (document : Json) : historyValidator document = [] ↔ historySchemaAccepts document = true := by
  unfold historyValidator
  split_ifs with h <;> simp [h]

/-- The same shop under every path. -/
def shopOnly : Artifacts :=
  ⟨fun _ => .ok (scannedShop "postgresql"), fun _ => .error [], fun _ => .error []⟩

/-- The shop under a path, labelled, on a leap day. -/
def addShop (path : String) : AppendArgs :=
  ⟨path, none, none, some (Dict.empty.set " env " "prod"), some "2024-02-29T12:00:00.5Z", none, none⟩

/-- What the file holds after the first command. -/
def recordedShop (locator : String) : RecordedHistory :=
  ⟨⟨false, false⟩, [⟨⟨⟨(scannedShop "postgresql").contentIdentity constantDigest, some (Dict.empty.set "env" "prod"), .absent⟩,
    ⟨locator, none, none⟩⟩, some "2024-02-29T12:00:00.5Z"⟩]⟩

/-- The shop under a plain path is read back, but not the shop under a drive that `./` has hidden. -/
theorem hidden_drive_unread :
    loadHistoryArtifact asciiTables constantDigest historyValidator (written constantDigest (recordedShop "shop.json")) =
      .ok (recordedShop "shop.json").canonical ∧
    loadHistoryArtifact asciiTables constantDigest historyValidator (written constantDigest (recordedShop "C:/shop.json")) ≠
      .ok (recordedShop "C:/shop.json").canonical := by
  have hfold : FoldsAscii asciiTables := fun s _ => rfl
  have hplain : appendHistoryEntry asciiTables constantDigest (fun _ => true) historyValidator shopOnly none
      (addShop "./shop.json") = .ok (recordedShop "shop.json") := by rfl
  have hdrive : appendHistoryEntry asciiTables constantDigest (fun _ => true) historyValidator shopOnly none
      (addShop "./C:/shop.json") = .ok (recordedShop "C:/shop.json") := by rfl
  constructor
  · refine (appended_reloads_iff constantDigest_hex hfold historyValidator_iff hplain).mpr fun e he => ?_
    obtain rfl := List.mem_singleton.mp he
    refine ⟨fun p hp => ?_, fun l hl => ?_, fun t ht => ?_⟩
    · obtain rfl := List.mem_singleton.mp hp
      exact ⟨fun path => rfl, by decide⟩
    · obtain rfl := Option.some.inj hl
      decide
    · obtain rfl := Option.some.inj ht
      decide
  · rw [Ne, appended_reloads_iff constantDigest_hex hfold historyValidator_iff hdrive]
    intro hlasting
    have hsettled := ((hlasting _ (List.mem_singleton.mpr rfl)).locators "C:/shop.json" (List.mem_singleton.mpr rfl)).1 "/"
    cases hsettled

end CollibraGovernance.History
