import Mathlib.Data.List.Chain
import CollibraGovernance.History.AppendSpec

/-! Runs of the append command: the file of a history is a log that only grows at its end, by what was acknowledged. -/
namespace CollibraGovernance.History
open Library Identity Domain Comparison Snapshots

/-- What a history is for: a policy, chosen once, and the states recorded so far. -/
structure Log where
  policy : Option ComparisonPolicy
  states : List HistoryEntryState

/-- The log that a history keeps; the order of labels says nothing. -/
def RecordedHistory.log (h : RecordedHistory) : Log :=
  ⟨some h.comparisonPolicy, h.entries.map fun e => e.state.canonical⟩

section Runs
variable (tables : UnicodeTables) (sha256 : String → String) (isPrintable : Char → Bool)
  (schemaErrors : Json → List JsonSchema.Failure)

/-- The file is what was written of a history, or loads as it. -/
def Keeps (stored : Stored) (h : RecordedHistory) : Prop :=
  (stored = written sha256 h ∧ h.Proper tables) ∨ loadHistoryArtifact tables sha256 schemaErrors stored = .ok h

/-- The file holds a log; no file holds the empty one. -/
def Holds (file : Option Stored) (log : Log) : Prop :=
  match file with
  | none => log = ⟨none, []⟩
  | some stored => ∃ h, Keeps tables sha256 schemaErrors stored h ∧ log = h.log

/-- One command after the other, each in its own world: what they answer, and the file after them. -/
def historyRun (file : Option Stored) : List (World × AppendArgs) → List (Checked RecordedHistory) × Option Stored
  | [] => ([], file)
  | command :: commands =>
    let step := historyAdd tables sha256 isPrintable schemaErrors command.1 file command.2
    let rest := historyRun step.2 commands
    (step.1 :: rest.1, rest.2)

/-- The states that an answer acknowledges: the last of an updated history, and none with an error. -/
def acknowledgedBy : Checked RecordedHistory → List HistoryEntryState
  | .ok updated => (updated.entries.getLast?.map fun e => e.state.canonical).toList
  | .error _ => []

def acknowledged (answers : List (Checked RecordedHistory)) : List HistoryEntryState := answers.flatMap acknowledgedBy

/-- Two states with different identities. -/
def Differ (s s' : HistoryEntryState) : Prop := s.entryStateIdentity sha256 ≠ s'.entryStateIdentity sha256

end Runs

section Spec
variable {tables : UnicodeTables} {sha256 : String → String} {isPrintable : Char → Bool}
  {schemaErrors : Json → List JsonSchema.Failure} {file : Option Stored} {log : Log}

lemma identity_canonical (s : HistoryEntryState) : s.canonical.entryStateIdentity sha256 = s.entryStateIdentity sha256 :=
  sha256Identity_congr (normalize_state s)

/-- What the file loads as has the log that the file holds. -/
lemma Keeps.log_eq (hdigest : HexDigest sha256) {stored : Stored} {h before : RecordedHistory}
    (hkeeps : Keeps tables sha256 schemaErrors stored h)
    (hload : loadHistoryArtifact tables sha256 schemaErrors stored = .ok before) : before.log = h.log := by
  rcases hkeeps with ⟨rfl, hproper⟩ | hsame
  · rw [loadHistoryArtifact_written hdigest hproper] at hload
    obtain ⟨-, -, hreread⟩ := bind_eq_ok.mp hload
    rw [RecordedHistory.log, RecordedHistory.log, (reread_entries hreread).1, reread_states hreread]
  · rw [Except.ok.inj (hload.symm.trans hsame)]

/-- What a successful append finds, against the log that the file holds. -/
lemma entriesBefore_log (hdigest : HexDigest sha256) {artifacts : Artifacts} {args : AppendArgs}
    {existing : Option (RecordedHistory × ResolvedHistory)} (hholds : Holds tables sha256 schemaErrors file log)
    (h : existingHistory tables sha256 isPrintable schemaErrors artifacts file args = .ok existing) :
    (entriesBefore existing).map (fun e => e.state.canonical) = log.states ∧
      ∀ p ∈ log.policy, policyOf existing args = p := by
  rcases existingHistory_ok h with ⟨rfl, rfl⟩ | ⟨stored, before, resolved, rfl, rfl, hload, -⟩
  · obtain rfl : log = ⟨none, []⟩ := hholds
    exact ⟨rfl, fun p hp => absurd hp (Option.not_mem_none p)⟩
  · obtain ⟨kept, hkeeps, rfl⟩ := hholds
    rw [← hkeeps.log_eq hdigest hload]
    exact ⟨rfl, fun p hp => Option.some.inj hp⟩

/-- The last state that is resolved is the last that was recorded. -/
lemma last_differs {artifacts : Artifacts} {args : AppendArgs} {existing : Option (RecordedHistory × ResolvedHistory)}
    {snapshot : GovernanceSnapshot} {s : HistoryEntryState}
    (h : existingHistory tables sha256 isPrintable schemaErrors artifacts file args = .ok existing)
    (hsuccessor : checkSuccessor sha256 isPrintable existing snapshot s = .ok ()) :
    ∀ last ∈ ((entriesBefore existing).map fun e => e.state.canonical).getLast?, Differ sha256 last s := by
  rcases existingHistory_ok h with ⟨-, rfl⟩ | ⟨stored, before, resolved, -, rfl, -, hresolved⟩
  · exact fun last hlast => absurd hlast (Option.not_mem_none last)
  · have hentries := (resolveHistoryArtifacts_spec hresolved).entries
    have hlast : before.history.entries.getLast? = resolved.states.getLast?.map ResolvedEntryState.entry := by
      rw [← hentries, List.getLast?_map]
    intro last hmem
    rw [entriesBefore, Option.map_some, Option.getD_some, List.getLast?_map] at hmem
    obtain ⟨e, he, rfl⟩ := Option.map_eq_some_iff.mp hmem
    have hbefore : before.history.entries.getLast? = some e.toHistoryEntry := by
      rw [RecordedHistory.history, List.getLast?_map, he]
      rfl
    rw [hbefore] at hlast
    obtain ⟨resolvedLast, hresolvedLast, hentry⟩ := Option.map_eq_some_iff.mp hlast.symm
    unfold checkSuccessor at hsuccessor
    dsimp only at hsuccessor
    rw [hresolvedLast] at hsuccessor
    obtain ⟨comparison, -, hdiffer⟩ := bind_eq_ok.mp hsuccessor
    split_ifs at hdiffer with hsame
    · cases hdiffer
    · rw [hentry] at hsame
      rw [Differ, identity_canonical]
      exact hsame

lemma chain_acknowledged {states : List HistoryEntryState} {answer : Checked RecordedHistory}
    (hchain : states.IsChain (Differ sha256))
    (hdiffer : ∀ s ∈ acknowledgedBy answer, ∀ last ∈ states.getLast?, Differ sha256 last s) :
    (states ++ acknowledgedBy answer).IsChain (Differ sha256) := by
  refine List.isChain_append.mpr ⟨hchain, ?_, fun last hlast s hs => hdiffer s (List.mem_of_mem_head? hs) last hlast⟩
  unfold acknowledgedBy
  split
  · cases List.getLast? _ with
    | none => exact List.isChain_nil
    | some e => exact List.isChain_singleton _
  · exact List.isChain_nil

/-- A command that reports an error leaves the file alone; one that reports success adds its state to the log. -/
theorem historyAdd_holds (hdigest : HexDigest sha256) (hholds : Holds tables sha256 schemaErrors file log) (world : World)
    (args : AppendArgs) :
    ∃ policy, Holds tables sha256 schemaErrors (historyAdd tables sha256 isPrintable schemaErrors world file args).2
        ⟨policy, log.states ++ acknowledgedBy (historyAdd tables sha256 isPrintable schemaErrors world file args).1⟩ ∧
      (∀ p ∈ log.policy, policy = some p) ∧
      ∀ s ∈ acknowledgedBy (historyAdd tables sha256 isPrintable schemaErrors world file args).1,
        ∀ last ∈ log.states.getLast?, Differ sha256 last s := by
  have hkept : ∃ policy, Holds tables sha256 schemaErrors file ⟨policy, log.states ++ []⟩ ∧
      ∀ p ∈ log.policy, policy = some p := by
    refine ⟨log.policy, ?_, fun p hp => hp⟩
    rw [List.append_nil]
    exact hholds
  unfold historyAdd
  cases happend : appendHistoryEntry tables sha256 isPrintable schemaErrors world.artifacts file args with
  | error failure =>
    obtain ⟨policy, hsame, hpolicy⟩ := hkept
    exact ⟨policy, hsame, hpolicy, fun s hs => absurd hs List.not_mem_nil⟩
  | ok updated =>
    dsimp only
    cases world.writable with
    | false =>
      obtain ⟨policy, hsame, hpolicy⟩ := hkept
      exact ⟨policy, hsame, hpolicy, fun s hs => absurd hs List.not_mem_nil⟩
    | true =>
      have hproper := appendHistoryEntry_proper hdigest happend
      obtain ⟨existing, snapshot, e, hexisting, rfl, -, hadded⟩ := appendHistoryEntry_ok hdigest happend
      obtain ⟨hstates, hpolicy⟩ := entriesBefore_log hdigest hholds hexisting
      have hacknowledged : acknowledgedBy (.ok ⟨policyOf existing args, entriesBefore existing ++ [e]⟩) =
          [e.state.canonical] := by
        rw [acknowledgedBy, List.getLast?_append_of_ne_nil _ (by simp)]
        rfl
      refine ⟨some (policyOf existing args), ⟨_, Or.inl ⟨rfl, hproper⟩, ?_⟩, fun p hp => congrArg some (hpolicy p hp), ?_⟩
      · rw [if_pos rfl, hacknowledged, RecordedHistory.log, List.map_append, hstates]
        rfl
      · rw [if_pos rfl, hacknowledged, ← hstates]
        intro s hs last hlast
        rw [List.mem_singleton.mp hs, Differ, identity_canonical]
        exact last_differs hexisting hadded.successor last hlast

/-- However commands are run, whatever becomes of the artifacts between them: the file holds what it held, followed by
the states of the commands that reported success, in their order, and no others. The policy stays as it was chosen,
and neighbours differ. -/
theorem history_append_only (hdigest : HexDigest sha256) (commands : List (World × AppendArgs))
    (hholds : Holds tables sha256 schemaErrors file log) :
    ∃ policy, Holds tables sha256 schemaErrors (historyRun tables sha256 isPrintable schemaErrors file commands).2
        ⟨policy, log.states ++ acknowledged (historyRun tables sha256 isPrintable schemaErrors file commands).1⟩ ∧
      (∀ p ∈ log.policy, policy = some p) ∧
      (log.states.IsChain (Differ sha256) →
        (log.states ++ acknowledged (historyRun tables sha256 isPrintable schemaErrors file commands).1).IsChain
          (Differ sha256)) := by
  induction commands generalizing file log with
  | nil =>
    refine ⟨log.policy, ?_, fun p hp => hp, ?_⟩
    · rw [historyRun, acknowledged, List.flatMap_nil, List.append_nil]
      exact hholds
    · rw [historyRun, acknowledged, List.flatMap_nil, List.append_nil]
      exact id
  | cons command commands ih =>
    obtain ⟨policy, hstep, hpolicy, hdiffer⟩ :=
      @historyAdd_holds tables sha256 isPrintable schemaErrors file log hdigest hholds command.1 command.2
    obtain ⟨policy', hrest, hpolicy', hchain⟩ := ih hstep
    rw [historyRun, acknowledged, List.flatMap_cons, ← List.append_assoc, ← acknowledged]
    exact ⟨policy', hrest, fun p hp => hpolicy' p (hpolicy p hp), fun h => hchain (chain_acknowledged h hdiffer)⟩

end Spec

/-- The shop is recorded, where the file can be replaced and where it can not. -/
def shopCommands : List (World × AppendArgs) :=
  [(⟨shopOnly, false⟩, addShop "shop.json"), (⟨shopOnly, true⟩, addShop "./shop.json"),
    (⟨shopOnly, true⟩, addShop "shop.json")]

/-- The three commands leave a file with what they acknowledged. -/
theorem shop_recorded_once :
    ∃ policy, Holds asciiTables constantDigest historyValidator
        (historyRun asciiTables constantDigest (fun _ => true) historyValidator none shopCommands).2
        ⟨policy, [] ++ acknowledged
          (historyRun asciiTables constantDigest (fun _ => true) historyValidator none shopCommands).1⟩ ∧
      (∀ p ∈ (none : Option ComparisonPolicy), policy = some p) ∧
      (([] : List HistoryEntryState).IsChain (Differ constantDigest) → ([] ++ acknowledged
          (historyRun asciiTables constantDigest (fun _ => true) historyValidator none shopCommands).1).IsChain
        (Differ constantDigest)) :=
  @history_append_only asciiTables constantDigest (fun _ => true) historyValidator none ⟨none, []⟩ constantDigest_hex
    shopCommands rfl

end CollibraGovernance.History
