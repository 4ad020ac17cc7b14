import CollibraGovernance.Collibra.Import

/-! Conservative, deterministic batching of import commands. -/
namespace CollibraGovernance.Collibra
open Library

def hardMaxResources : Int := 50000
def hardMaxAdditionalCharacteristics : Int := 500000

/-- A limit that is no positive number, or a command or limit that cannot be batched safely. -/
inductive BatchingFailure where
  | valueError (message : String)
  | batchingError (error : CollibraAdapterError)
  deriving DecidableEq

def batchingError (message : String) : BatchingFailure :=
  .batchingError ⟨message, "partition_import", none, none, none, none, none⟩

structure CommandCounts where
  resourceCount : Nat
  attributeCharacteristicCount : Nat
  relationCharacteristicCount : Nat
  tagCharacteristicCount : Nat
  deriving DecidableEq

namespace CommandCounts

def additionalCharacteristicCount (c : CommandCounts) : Nat :=
  c.attributeCharacteristicCount + c.relationCharacteristicCount + c.tagCharacteristicCount

def plus (c other : CommandCounts) : CommandCounts where
  resourceCount := c.resourceCount + other.resourceCount
  attributeCharacteristicCount := c.attributeCharacteristicCount + other.attributeCharacteristicCount
  relationCharacteristicCount := c.relationCharacteristicCount + other.relationCharacteristicCount
  tagCharacteristicCount := c.tagCharacteristicCount + other.tagCharacteristicCount

def zero : CommandCounts := ⟨0, 0, 0, 0⟩

end CommandCounts

def requireStrictPositiveInt (value : Int) (fieldName : String) : Except BatchingFailure Int :=
  if value ≤ 0 then .error (.valueError (fieldName ++ " must be positive")) else .ok value

def resolveBatchLimits (maxResources maxAdditionalCharacteristics : Option Int) :
    Except BatchingFailure (Int × Int) := do
  let resources ← match maxResources with
    | none => .ok hardMaxResources
    | some n => requireStrictPositiveInt n "max_resources"
  let additional ← match maxAdditionalCharacteristics with
    | none => .ok hardMaxAdditionalCharacteristics
    | some n => requireStrictPositiveInt n "max_additional_characteristics"
  if resources ≤ 0 ∨ additional ≤ 0 then
    throw (batchingError "batch ceilings must be positive")
  if resources > hardMaxResources ∨ additional > hardMaxAdditionalCharacteristics then
    throw (batchingError "batch ceilings cannot exceed the hard maxima")
  return (resources, additional)

/-- What one member of a counted object adds. -/
def valueCount : Json → Nat
  | .arr values => values.length
  | .null => 0
  | _ => 1

def entryCount : Option Json → Nat
  | some (.obj members) => members.foldl (fun total m => total + valueCount m.2) 0
  | _ => 0

/-- Count one command using the conservative project counters. -/
def countCommandPayload (payload : List (String × Json)) : CommandCounts where
  resourceCount := 1
  attributeCharacteristicCount := entryCount (Json.lookup payload "attributes")
  relationCharacteristicCount := entryCount (Json.lookup payload "relations")
  tagCharacteristicCount := 0

/-- The accumulators of the greedy grouping. -/
structure Grouping where
  groups : List (List Nat)
  currentIndexes : List Nat
  current : CommandCounts

def exceeds (counts : CommandCounts) (limits : Int × Int) : Bool :=
  (counts.resourceCount : Int) > limits.1 ∨
    (counts.additionalCharacteristicCount : Int) > limits.2

/-- One turn of the grouping loop. -/
def groupCommand (limits : Int × Int) (g : Grouping) (item : CommandCounts × Nat) :
    Except BatchingFailure Grouping :=
  if exceeds item.1 limits then
    .error (batchingError "a single import command exceeds the batch ceiling")
  else if g.currentIndexes ≠ [] ∧ exceeds (g.current.plus item.1) limits then
    .ok ⟨g.groups ++ [g.currentIndexes], [item.2], item.1⟩
  else .ok ⟨g.groups, g.currentIndexes ++ [item.2], g.current.plus item.1⟩

/-- `partition_counts`: greedy stable grouping of command indices within the ceilings. -/
def partitionCounts (counts : List CommandCounts) (maxResources maxAdditionalCharacteristics : Int) :
    Except BatchingFailure (List (List Nat)) := do
  let limits ← resolveBatchLimits (some maxResources) (some maxAdditionalCharacteristics)
  let g ← counts.zipIdx.foldlM (groupCommand limits) ⟨[], [], CommandCounts.zero⟩
  return g.groups ++ (if g.currentIndexes = [] then [] else [g.currentIndexes])

/-- `partition_document` -/
def partitionDocument (document : ImportDocument)
    (maxResources maxAdditionalCharacteristics : Option Int) :
    Except BatchingFailure (List ImportDocument) := do
  let limits ← resolveBatchLimits maxResources maxAdditionalCharacteristics
  if document.commands = [] then return []
  let counts := document.commands.map fun command => countCommandPayload command.payload
  let groups ← partitionCounts counts limits.1 limits.2
  return groups.map fun group => ⟨group.filterMap fun index => document.commands[index]?⟩

/-- The groups list the indices in order, each once. -/
theorem groupCommand_flatten {limits : Int × Int} {g g' : Grouping} {item : CommandCounts × Nat}
    (h : groupCommand limits g item = .ok g') :
    g'.groups.flatten ++ g'.currentIndexes = g.groups.flatten ++ g.currentIndexes ++ [item.2] := by
  unfold groupCommand at h
  split at h
  · cases h
  · split at h
    · cases h
      simp only [List.flatten_append, List.flatten_singleton]
    · cases h
      exact (List.append_assoc ..).symm

lemma foldlM_groupCommand {limits : Int × Int} {items : List (CommandCounts × Nat)} {g g' : Grouping}
    (h : items.foldlM (groupCommand limits) g = .ok g') :
    g'.groups.flatten ++ g'.currentIndexes =
      g.groups.flatten ++ g.currentIndexes ++ items.map Prod.snd :=
  foldlM_ok (R := fun g items g' => g'.groups.flatten ++ g'.currentIndexes =
      g.groups.flatten ++ g.currentIndexes ++ items.map Prod.snd)
    (fun g => by rw [List.map_nil, List.append_nil])
    (fun g item t rest g' ht hrest => by
      rw [hrest, groupCommand_flatten ht, List.map_cons, List.append_assoc, List.append_assoc,
        List.append_assoc, List.singleton_append])
    h

theorem partitionCounts_flatten {counts : List CommandCounts} {m n : Int} {groups : List (List Nat)}
    (h : partitionCounts counts m n = .ok groups) : groups.flatten = List.range counts.length := by
  obtain ⟨limits, _, h⟩ := bind_eq_ok.mp h
  obtain ⟨g, hg, h⟩ := bind_eq_ok.mp h
  obtain rfl := pure_eq_ok.mp h
  have hflat := foldlM_groupCommand hg
  rw [List.zipIdx_map_snd] at hflat
  split
  · rename_i hnil
    rw [hnil] at hflat
    simpa [List.range_eq_range'] using hflat
  · simpa [List.range_eq_range'] using hflat

lemma filterMap_getElem?_range (commands : List ImportCommand) :
    (List.range commands.length).filterMap (fun index => commands[index]?) = commands := by
  induction commands using List.reverseRecOn with
  | nil => rfl
  | append_singleton commands c ih =>
    rw [List.length_append, List.length_singleton, List.range_succ, List.filterMap_append]
    have hinit : (List.range commands.length).filterMap (fun index => (commands ++ [c])[index]?) =
        (List.range commands.length).filterMap (fun index => commands[index]?) := by
      apply List.filterMap_congr
      intro index hindex
      rw [List.getElem?_append_left (List.mem_range.mp hindex)]
    rw [hinit, ih]
    simp

/-- The batches, one after the other, are the document. -/
theorem partitionDocument_commands {document : ImportDocument} {m n : Option Int}
    {batches : List ImportDocument} (h : partitionDocument document m n = .ok batches) :
    batches.flatMap ImportDocument.commands = document.commands := by
  obtain ⟨limits, _, h⟩ := bind_eq_ok.mp h
  split at h
  · rename_i hnil
    obtain rfl := pure_eq_ok.mp h
    exact hnil.symm
  · obtain ⟨groups, hgroups, h⟩ := bind_eq_ok.mp h
    obtain rfl := pure_eq_ok.mp h
    have hflat := partitionCounts_flatten hgroups
    rw [List.length_map] at hflat
    rw [List.flatMap_map]
    show groups.flatMap (List.filterMap fun index => document.commands[index]?) = _
    rw [List.flatMap_def, ← List.filterMap_flatten, hflat, filterMap_getElem?_range]

end CollibraGovernance.Collibra
