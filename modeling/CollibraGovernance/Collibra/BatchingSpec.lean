import CollibraGovernance.Collibra.Batching
import CollibraGovernance.Library.GreedyCut

/-! The batches of an import are the fewest that the ceilings allow, and lose no command. -/
namespace CollibraGovernance.Collibra
open Library

/-- The total of one counter over a group of command indices. -/
def groupTotal (count : CommandCounts → Nat) (counts : List CommandCounts) : List Nat → Nat
  | [] => 0
  | index :: group => ((counts[index]?).map count).getD 0 + groupTotal count counts group

/-- Both totals of the group stay within the ceilings. -/
def WithinCeilings (counts : List CommandCounts) (limits : Int × Int) (group : List Nat) : Prop :=
  (groupTotal CommandCounts.resourceCount counts group : Int) ≤ limits.1 ∧
    (groupTotal CommandCounts.additionalCharacteristicCount counts group : Int) ≤ limits.2

/-- `batch_document_counts` -/
def batchDocumentCounts (document : ImportDocument) : CommandCounts :=
  document.commands.foldl (fun total command => total.plus (countCommandPayload command.payload))
    CommandCounts.zero

/-! ### Totals -/

section Totals
variable {count : CommandCounts → Nat} {counts : List CommandCounts} {limits : Int × Int}

theorem groupTotal_append (xs ys : List Nat) :
    groupTotal count counts (xs ++ ys) = groupTotal count counts xs + groupTotal count counts ys := by
  induction xs with
  | nil => exact (Nat.zero_add _).symm
  | cons index xs ih => rw [List.cons_append, groupTotal, groupTotal, ih, Nat.add_assoc]

lemma groupTotal_singleton {index : Nat} {c : CommandCounts} (h : counts[index]? = some c) :
    groupTotal count counts [index] = count c := by
  simp [groupTotal, h]

theorem additionalCharacteristicCount_plus (c d : CommandCounts) :
    (c.plus d).additionalCharacteristicCount =
      c.additionalCharacteristicCount + d.additionalCharacteristicCount := by
  simp only [CommandCounts.additionalCharacteristicCount, CommandCounts.plus]
  omega

lemma exceeds_eq_false {c : CommandCounts} : exceeds c limits = false ↔
    (c.resourceCount : Int) ≤ limits.1 ∧ (c.additionalCharacteristicCount : Int) ≤ limits.2 := by
  simp [exceeds]

theorem withinCeilings_infixClosed : InfixClosed (WithinCeilings counts limits) := by
  intro before xs after h
  obtain ⟨hresources, hadditional⟩ := h
  rw [groupTotal_append, groupTotal_append] at hresources hadditional
  constructor
  · omega
  · omega

lemma withinCeilings_singleton {index : Nat} {c : CommandCounts} (h : counts[index]? = some c) :
    WithinCeilings counts limits [index] ↔ exceeds c limits = false := by
  rw [exceeds_eq_false, WithinCeilings, groupTotal_singleton h, groupTotal_singleton h]

/-- The counts of a batch are the totals of its group. -/
lemma foldl_plus (hplus : ∀ c d : CommandCounts, count (c.plus d) = count c + count d)
    {commands : List ImportCommand} (group : List Nat) (total : CommandCounts) :
    count ((group.filterMap fun index => commands[index]?).foldl
      (fun total command => total.plus (countCommandPayload command.payload)) total) =
      count total + groupTotal count
        (commands.map fun command => countCommandPayload command.payload) group := by
  induction group generalizing total with
  | nil => rfl
  | cons index group ih =>
    rw [groupTotal, List.getElem?_map]
    cases hget : commands[index]? with
    | none =>
      rw [List.filterMap_cons_none hget, ih]
      simp
    | some command =>
      rw [List.filterMap_cons_some hget, List.foldl_cons, ih, hplus]
      simp [Nat.add_assoc]

end Totals

/-! ### The grouping loop -/

/-- What the accumulators say about the commands seen so far. -/
structure Grouped (counts : List CommandCounts) (limits : Int × Int) (g : Grouping) : Prop where
  within : ∀ group ∈ g.groups ++ [g.currentIndexes], WithinCeilings counts limits group
  resources : g.current.resourceCount = groupTotal CommandCounts.resourceCount counts g.currentIndexes
  additional : g.current.additionalCharacteristicCount =
    groupTotal CommandCounts.additionalCharacteristicCount counts g.currentIndexes
  nonempty : ∀ group ∈ g.groups, group ≠ []
  greedy : Greedy (WithinCeilings counts limits) (g.groups ++ [g.currentIndexes])
  started : g.currentIndexes = [] → g.groups = []

section Loop
variable {counts : List CommandCounts} {limits : Int × Int} {g g' : Grouping} {c : CommandCounts}
  {index : Nat}

theorem grouped_init (hresources : 0 ≤ limits.1) (hadditional : 0 ≤ limits.2) :
    Grouped counts limits ⟨[], [], CommandCounts.zero⟩ where
  within := by
    intro group hgroup
    obtain rfl := List.mem_singleton.mp hgroup
    exact ⟨hresources, hadditional⟩
  resources := rfl
  additional := rfl
  nonempty := by simp
  greedy := greedy_singleton _
  started := fun _ => rfl

/-- The running counts decide whether the current group can take the command. -/
lemma Grouped.takes (hg : Grouped counts limits g) (hc : counts[index]? = some c) :
    WithinCeilings counts limits (g.currentIndexes ++ [index]) ↔
      exceeds (g.current.plus c) limits = false := by
  rw [exceeds_eq_false, WithinCeilings, groupTotal_append, groupTotal_append, groupTotal_singleton hc,
    groupTotal_singleton hc, ← hg.resources, ← hg.additional, additionalCharacteristicCount_plus]
  rfl

/-- A flushed group stays as it is; the command starts the next one. -/
lemma Grouped.flush (hg : Grouped counts limits g) (hc : counts[index]? = some c)
    (hsingle : exceeds c limits = false) (hne : g.currentIndexes ≠ [])
    (hfull : exceeds (g.current.plus c) limits = true) :
    Grouped counts limits ⟨g.groups ++ [g.currentIndexes], [index], c⟩ where
  within := by
    intro group hgroup
    rcases List.mem_append.mp hgroup with h | h
    · exact hg.within group h
    · obtain rfl := List.mem_singleton.mp h
      exact (withinCeilings_singleton hc).mpr hsingle
  resources := (groupTotal_singleton hc).symm
  additional := (groupTotal_singleton hc).symm
  nonempty := by
    intro group hgroup
    rcases List.mem_append.mp hgroup with h | h
    · exact hg.nonempty group h
    · exact List.mem_singleton.mp h ▸ hne
  greedy := by
    refine hg.greedy.flush fun hfits => ?_
    rw [(hg.takes hc).mp hfits] at hfull
    cases hfull
  started := fun h => absurd h (List.cons_ne_nil _ _)

/-- The current group takes a command that fits. -/
lemma Grouped.grow (hg : Grouped counts limits g) (hc : counts[index]? = some c)
    (hfits : WithinCeilings counts limits (g.currentIndexes ++ [index])) :
    Grouped counts limits ⟨g.groups, g.currentIndexes ++ [index], g.current.plus c⟩ where
  within := by
    intro group hgroup
    rcases List.mem_append.mp hgroup with h | h
    · exact hg.within group (List.mem_append_left _ h)
    · exact List.mem_singleton.mp h ▸ hfits
  resources := by
    rw [groupTotal_append, groupTotal_singleton hc, ← hg.resources]
    rfl
  additional := by
    rw [groupTotal_append, groupTotal_singleton hc, ← hg.additional,
      additionalCharacteristicCount_plus]
  nonempty := hg.nonempty
  greedy := by
    by_cases hne : g.currentIndexes = []
    · rw [hg.started hne]
      exact greedy_singleton _
    · exact hg.greedy.grow hne
  started := fun h => absurd h (List.append_ne_nil_of_right_ne_nil _ (List.cons_ne_nil _ _))

/-- One turn keeps what the accumulators say. -/
theorem groupCommand_grouped (hg : Grouped counts limits g) (hc : counts[index]? = some c)
    (h : groupCommand limits g (c, index) = .ok g') : Grouped counts limits g' := by
  unfold groupCommand at h
  split at h
  · cases h
  · rename_i hsingle
    have hsingle : exceeds c limits = false := Bool.eq_false_iff.mpr hsingle
    split at h
    · rename_i hfull
      obtain rfl := Except.ok.inj h
      exact hg.flush hc hsingle hfull.1 hfull.2
    · rename_i hroom
      obtain rfl := Except.ok.inj h
      refine hg.grow hc ?_
      by_cases hne : g.currentIndexes = []
      · rw [hne]
        exact (withinCeilings_singleton hc).mpr hsingle
      · exact (hg.takes hc).mpr (Bool.eq_false_iff.mpr fun hfull => hroom ⟨hne, hfull⟩)

/-- The whole loop keeps it. -/
theorem foldlM_grouped {items : List (CommandCounts × Nat)}
    (hitems : ∀ item ∈ items, counts[item.2]? = some item.1)
    (h : items.foldlM (groupCommand limits) g = .ok g') (hg : Grouped counts limits g) :
    Grouped counts limits g' := by
  induction items generalizing g with
  | nil =>
    obtain rfl := pure_eq_ok.mp h
    exact hg
  | cons item items ih =>
    obtain ⟨next, hnext, h⟩ := bind_eq_ok.mp h
    exact ih (fun i hi => hitems i (.tail _ hi)) h
      (groupCommand_grouped hg (hitems item (.head _)) hnext)

/-- The failure of a command that no batch can hold. -/
def singleCommandError : BatchingFailure :=
  batchingError "a single import command exceeds the batch ceiling"

/-- The loop fails exactly at a command that exceeds a ceiling alone. -/
theorem foldlM_refused {items : List (CommandCounts × Nat)} :
    (items.foldlM (groupCommand limits) g = .error singleCommandError ∧
        ∃ item ∈ items, exceeds item.1 limits = true) ∨
      ((∃ g', items.foldlM (groupCommand limits) g = .ok g') ∧
        ∀ item ∈ items, exceeds item.1 limits = false) := by
  induction items generalizing g with
  | nil => exact .inr ⟨⟨g, rfl⟩, by simp⟩
  | cons item items ih =>
    rw [List.foldlM_cons]
    cases hitem : exceeds item.1 limits with
    | true =>
      refine .inl ⟨?_, item, .head _, hitem⟩
      rw [groupCommand, if_pos hitem]
      rfl
    | false =>
      obtain ⟨next, hnext⟩ : ∃ next, groupCommand limits g item = .ok next := by
        unfold groupCommand
        rw [hitem, if_neg Bool.false_ne_true]
        split
        · exact ⟨_, rfl⟩
        · exact ⟨_, rfl⟩
      rw [hnext, ok_bind]
      rcases ih (g := next) with ⟨herror, i, hi, hexceeds⟩ | ⟨hok, hall⟩
      · exact .inl ⟨herror, i, .tail _ hi, hexceeds⟩
      · refine .inr ⟨hok, ?_⟩
        intro i hi
        rcases List.mem_cons.mp hi with rfl | hi
        · exact hitem
        · exact hall i hi

end Loop

/-! ### Accepted ceilings -/

/-- One resolved ceiling. -/
def ceilingOr (hardMax : Int) (fieldName : String) : Option Int → Except BatchingFailure Int
  | none => .ok hardMax
  | some n => requireStrictPositiveInt n fieldName

/-- The checks on the resolved pair. -/
def checkedCeilings (resources additional : Int) : Except BatchingFailure (Int × Int) :=
  if resources ≤ 0 ∨ additional ≤ 0 then .error (batchingError "batch ceilings must be positive")
  else if resources > hardMaxResources ∨ additional > hardMaxAdditionalCharacteristics then
    .error (batchingError "batch ceilings cannot exceed the hard maxima")
  else .ok (resources, additional)

section Ceilings
variable {m n : Option Int} {limits : Int × Int}

lemma resolveBatchLimits_eq : resolveBatchLimits m n =
    ceilingOr hardMaxResources "max_resources" m >>= fun resources =>
      ceilingOr hardMaxAdditionalCharacteristics "max_additional_characteristics" n >>=
        checkedCeilings resources := by
  cases m <;> cases n <;> rfl

lemma ceilingOr_eq_ok {hardMax value : Int} {name : String} {chosen : Option Int} (hpos : 0 < hardMax) :
    ceilingOr hardMax name chosen = .ok value ↔ value = chosen.getD hardMax ∧ 0 < value := by
  cases chosen with
  | none =>
    rw [ceilingOr, Option.getD_none, Except.ok.injEq]
    constructor
    · intro h
      exact h ▸ ⟨rfl, hpos⟩
    · exact fun h => h.1.symm
  | some n =>
    rw [ceilingOr, requireStrictPositiveInt, Option.getD_some]
    split
    · simp
      omega
    · rw [Except.ok.injEq]
      omega

lemma checkedCeilings_eq_ok {resources additional : Int} :
    checkedCeilings resources additional = .ok limits ↔ limits = (resources, additional) ∧
      (0 < resources ∧ resources ≤ hardMaxResources) ∧
        0 < additional ∧ additional ≤ hardMaxAdditionalCharacteristics := by
  unfold checkedCeilings
  split
  · simp
    omega
  · split
    · simp
      omega
    · rw [Except.ok.injEq, eq_comm]
      exact ⟨fun h => ⟨h, by omega⟩, fun h => h.1⟩

/-- The pairs of ceilings that are accepted. -/
theorem resolveBatchLimits_eq_ok : resolveBatchLimits m n = .ok limits ↔
    limits = (m.getD hardMaxResources, n.getD hardMaxAdditionalCharacteristics) ∧
      (0 < limits.1 ∧ limits.1 ≤ hardMaxResources) ∧
        0 < limits.2 ∧ limits.2 ≤ hardMaxAdditionalCharacteristics := by
  have hres : (0 : Int) < hardMaxResources := by decide
  have hadd : (0 : Int) < hardMaxAdditionalCharacteristics := by decide
  rw [resolveBatchLimits_eq, bind_eq_ok]
  simp only [bind_eq_ok, ceilingOr_eq_ok hres, ceilingOr_eq_ok hadd, checkedCeilings_eq_ok]
  constructor
  · rintro ⟨resources, ⟨rfl, _⟩, additional, ⟨rfl, _⟩, rfl, hr, ha⟩
    exact ⟨rfl, hr, ha⟩
  · rintro ⟨rfl, hr, ha⟩
    exact ⟨_, ⟨rfl, hr.1⟩, _, ⟨rfl, ha.1⟩, rfl, hr, ha⟩

/-- Resolving resolved ceilings again changes nothing. -/
theorem resolveBatchLimits_again (h : resolveBatchLimits m n = .ok limits) :
    resolveBatchLimits (some limits.1) (some limits.2) = .ok limits :=
  resolveBatchLimits_eq_ok.mpr ⟨rfl, (resolveBatchLimits_eq_ok.mp h).2⟩

end Ceilings

/-! ### Partitions -/

/-- A cut of the command indices that loses none, keeps the ceilings and is as short as any. -/
structure ExactPartition (counts : List CommandCounts) (limits : Int × Int) (groups : List (List Nat)) :
    Prop where
  flatten : groups.flatten = List.range counts.length
  nonempty : ∀ group ∈ groups, group ≠ []
  within : ∀ group ∈ groups, WithinCeilings counts limits group
  blocked : Greedy (WithinCeilings counts limits) groups
  fewest : ∀ others, Cuts (WithinCeilings counts limits) others (List.range counts.length) →
    groups.length ≤ others.length

/-- The commands that stay within the ceilings as one batch. -/
def BatchWithin (limits : Int × Int) (commands : List ImportCommand) : Prop :=
  exceeds (batchDocumentCounts ⟨commands⟩) limits = false

/-- Batches that are the document, one after the other, within the ceilings and as few as can be. -/
structure ExactBatches (document : ImportDocument) (limits : Int × Int) (batches : List ImportDocument) :
    Prop where
  commands : batches.flatMap ImportDocument.commands = document.commands
  nonempty : ∀ batch ∈ batches, batch.commands ≠ []
  within : ∀ batch ∈ batches, BatchWithin limits batch.commands
  blocked : Greedy (BatchWithin limits) (batches.map ImportDocument.commands)
  fewest : ∀ others, Cuts (BatchWithin limits) others document.commands →
    batches.length ≤ others.length

section Partition
variable {counts : List CommandCounts} {document : ImportDocument} {m n : Option Int} {limits : Int × Int}
  {groups : List (List Nat)}

/-- What the loop leaves, as a partition. -/
lemma Grouped.exact {g : Grouping} (hg : Grouped counts limits g)
    (hflat : g.groups.flatten ++ g.currentIndexes = List.range counts.length) :
    ExactPartition counts limits
      (g.groups ++ (if g.currentIndexes = [] then [] else [g.currentIndexes])) := by
  have hcut : (g.groups ++ (if g.currentIndexes = [] then [] else [g.currentIndexes])).flatten =
      List.range counts.length := by
    rw [← hflat]
    split
    · rename_i hnil
      rw [hnil, List.append_nil, List.append_nil]
    · rw [List.flatten_append, List.flatten_singleton]
  have hnonempty : ∀ group ∈ g.groups ++ (if g.currentIndexes = [] then [] else [g.currentIndexes]),
      group ≠ [] := by
    intro group hgroup
    rcases List.mem_append.mp hgroup with h | h
    · exact hg.nonempty group h
    · split at h
      · cases h
      · rename_i hne
        exact List.mem_singleton.mp h ▸ hne
  have hgreedy : Greedy (WithinCeilings counts limits)
      (g.groups ++ (if g.currentIndexes = [] then [] else [g.currentIndexes])) := by
    split
    · rename_i hnil
      rw [hg.started hnil]
      exact greedy_nil
    · exact hg.greedy
  refine ⟨hcut, hnonempty, ?_, hgreedy, ?_⟩
  · intro group hgroup
    apply hg.within
    rcases List.mem_append.mp hgroup with h | h
    · exact List.mem_append_left _ h
    · split at h
      · cases h
      · exact List.mem_append_right _ h
  · exact fun others hothers =>
      hgreedy.minimal withinCeilings_infixClosed hnonempty hcut hothers

/-- The partition succeeds exactly when no command exceeds a ceiling alone. -/
theorem partitionCounts_cases (accepted : resolveBatchLimits m n = .ok limits) :
    (partitionCounts counts limits.1 limits.2 = .error singleCommandError ∧
        ∃ c ∈ counts, exceeds c limits = true) ∨
      ((∃ groups, partitionCounts counts limits.1 limits.2 = .ok groups ∧
        ExactPartition counts limits groups) ∧ ∀ c ∈ counts, exceeds c limits = false) := by
  have hmem : ∀ c, (∃ item ∈ counts.zipIdx, item.1 = c) ↔ c ∈ counts := by
    intro c
    rw [← List.mem_map, List.zipIdx_map_fst]
  rw [partitionCounts, resolveBatchLimits_again accepted, ok_bind]
  rcases @foldlM_refused limits ⟨[], [], CommandCounts.zero⟩ counts.zipIdx with
    ⟨herror, item, hitem, hexceeds⟩ | ⟨⟨g, hg⟩, hall⟩
  · refine .inl ⟨?_, item.1, (hmem _).mp ⟨item, hitem, rfl⟩, hexceeds⟩
    rw [herror]
    rfl
  · refine .inr ⟨⟨_, by rw [hg, ok_bind]; rfl, ?_⟩, ?_⟩
    · obtain ⟨_, ⟨hresources, _⟩, hadditional, _⟩ := resolveBatchLimits_eq_ok.mp accepted
      have hitems : ∀ item ∈ counts.zipIdx, counts[item.2]? = some item.1 :=
        fun item hitem => List.mem_zipIdx_iff_getElem?.mp hitem
      have hflat := foldlM_groupCommand hg
      rw [List.zipIdx_map_snd] at hflat
      exact (foldlM_grouped hitems hg (grouped_init hresources.le hadditional.le)).exact
        (by simpa [List.range_eq_range'] using hflat)
    · intro c hc
      obtain ⟨item, hitem, rfl⟩ := (hmem c).mpr hc
      exact hall item hitem

/-- The two ways a partition can end exclude each other. -/
lemma outcome_of_cases {α β : Type} {exact : α → Prop} {items : List β}
    {outcome : Except BatchingFailure α} {alone : β → Bool}
    (h : (outcome = .error singleCommandError ∧ ∃ item ∈ items, alone item = true) ∨
      ((∃ result, outcome = .ok result ∧ exact result) ∧ ∀ item ∈ items, alone item = false)) :
    (∀ result, outcome = .ok result → exact result) ∧
      ((∃ error, outcome = .error (.batchingError error)) ↔ ∃ item ∈ items, alone item = true) ∧
      ((∃ result, outcome = .ok result) ↔ ∀ item ∈ items, alone item = false) := by
  rcases h with ⟨rfl, item, hitem, halone⟩ | ⟨⟨result, rfl, hexact⟩, hall⟩
  · refine ⟨by simp, ⟨fun _ => ⟨item, hitem, halone⟩, fun _ => ⟨_, rfl⟩⟩, by simp, fun hall => ?_⟩
    rw [hall item hitem] at halone
    cases halone
  · refine ⟨fun other hother => Except.ok.inj hother ▸ hexact, ⟨by simp, ?_⟩, fun _ => hall, fun _ => ⟨_, rfl⟩⟩
    rintro ⟨item, hitem, halone⟩
    rw [hall item hitem] at halone
    cases halone

/-! ### Batches -/

section Batches
variable {commands : List ImportCommand}

/-- The commands that a group of indices picks. -/
def pick (commands : List ImportCommand) (group : List Nat) : List ImportCommand :=
  group.filterMap fun index => commands[index]?

lemma pick_append (xs ys : List Nat) : pick commands (xs ++ ys) = pick commands xs ++ pick commands ys :=
  List.filterMap_append

lemma pick_cons {index : Nat} {command : ImportCommand} (h : commands[index]? = some command)
    (group : List Nat) : pick commands (index :: group) = command :: pick commands group :=
  List.filterMap_cons_some h

theorem batchWithin_pick (group : List Nat) : BatchWithin limits (pick commands group) ↔
    WithinCeilings (commands.map fun command => countCommandPayload command.payload) limits group := by
  have hresources := @foldl_plus CommandCounts.resourceCount (fun _ _ => rfl) commands group
    CommandCounts.zero
  have hadditional := @foldl_plus CommandCounts.additionalCharacteristicCount
    additionalCharacteristicCount_plus commands group CommandCounts.zero
  rw [BatchWithin, exceeds_eq_false, WithinCeilings, batchDocumentCounts, pick, hresources, hadditional]
  simp [CommandCounts.zero, CommandCounts.additionalCharacteristicCount]

lemma batchDocumentCounts_append {count : CommandCounts → Nat}
    (hplus : ∀ c d : CommandCounts, count (c.plus d) = count c + count d)
    (hzero : count CommandCounts.zero = 0) (xs ys : List ImportCommand) :
    count (batchDocumentCounts ⟨xs ++ ys⟩) =
      count (batchDocumentCounts ⟨xs⟩) + count (batchDocumentCounts ⟨ys⟩) := by
  have hys := @foldl_plus count hplus ys (List.range ys.length)
  rw [filterMap_getElem?_range] at hys
  simp only [batchDocumentCounts, List.foldl_append]
  rw [hys, hys CommandCounts.zero, hzero, Nat.zero_add]

theorem batchWithin_infixClosed : InfixClosed (BatchWithin limits) := by
  intro before xs after h
  rw [BatchWithin, exceeds_eq_false] at h ⊢
  simp only [@batchDocumentCounts_append CommandCounts.resourceCount (fun _ _ => rfl) rfl,
    batchDocumentCounts_append additionalCharacteristicCount_plus rfl] at h
  exact ⟨by omega, by omega⟩

/-- The batches that an exact partition picks. -/
theorem ExactPartition.batches
    (h : ExactPartition (document.commands.map fun command => countCommandPayload command.payload)
      limits groups) :
    ExactBatches document limits (groups.map fun group => ⟨pick document.commands group⟩) := by
  have hpick : ∀ group ∈ groups, ∀ index ∈ group, ∃ command, document.commands[index]? = some command := by
    intro group hgroup index hindex
    have hmem : index ∈ groups.flatten := List.mem_flatten.mpr ⟨group, hgroup, hindex⟩
    rw [h.flatten, List.length_map, List.mem_range] at hmem
    exact ⟨_, List.getElem?_eq_getElem hmem⟩
  have hfirst : ∀ group ∈ groups, ∃ index rest command, group = index :: rest ∧
      document.commands[index]? = some command := by
    intro group hgroup
    obtain ⟨index, rest, rfl⟩ := List.exists_cons_of_ne_nil (h.nonempty group hgroup)
    obtain ⟨command, hcommand⟩ := hpick _ hgroup index (.head _)
    exact ⟨index, rest, command, rfl, hcommand⟩
  have hcommands : (groups.map fun group => (⟨pick document.commands group⟩ : ImportDocument)).flatMap
      ImportDocument.commands = document.commands := by
    rw [List.flatMap_map]
    show groups.flatMap (List.filterMap fun index => document.commands[index]?) = _
    rw [List.flatMap_def, ← List.filterMap_flatten, h.flatten, List.length_map,
      filterMap_getElem?_range]
  have hnonempty : ∀ batch ∈ groups.map (fun group => (⟨pick document.commands group⟩ : ImportDocument)),
      batch.commands ≠ [] := by
    intro batch hbatch
    obtain ⟨group, hgroup, rfl⟩ := List.mem_map.mp hbatch
    obtain ⟨index, rest, command, rfl, hcommand⟩ := hfirst group hgroup
    simp only [pick_cons hcommand]
    exact List.cons_ne_nil _ _
  have hgreedy : Greedy (BatchWithin limits)
      ((groups.map fun group => (⟨pick document.commands group⟩ : ImportDocument)).map
        ImportDocument.commands) := by
    rw [List.map_map]
    refine (List.isChain_map _).mpr (List.IsChain.imp_of_mem_imp ?_ h.blocked)
    intro group next _ hnext hblocked command hcommand hfits
    obtain ⟨index, rest, first, rfl, hget⟩ := hfirst next hnext
    simp only [Function.comp_apply, pick_cons hget, List.head?_cons, Option.mem_some] at hcommand
    obtain rfl := hcommand
    refine hblocked index rfl ?_
    rw [← batchWithin_pick, pick_append, pick_cons hget]
    exact hfits
  refine ⟨hcommands, hnonempty, ?_, hgreedy, ?_⟩
  · intro batch hbatch
    obtain ⟨group, hgroup, rfl⟩ := List.mem_map.mp hbatch
    exact (batchWithin_pick group).mpr (h.within group hgroup)
  · intro others hothers
    have hfewest := hgreedy.minimal batchWithin_infixClosed
      (fun commands hmem => by
        obtain ⟨batch, hbatch, rfl⟩ := List.mem_map.mp hmem
        exact hnonempty batch hbatch)
      ((List.flatMap_def ..).symm.trans hcommands) hothers
    rwa [List.length_map] at hfewest

/-- The documents that can be batched, and their batches. -/
theorem partitionDocument_cases (accepted : resolveBatchLimits m n = .ok limits) :
    (partitionDocument document m n = .error singleCommandError ∧
        ∃ command ∈ document.commands, exceeds (countCommandPayload command.payload) limits = true) ∨
      ((∃ batches, partitionDocument document m n = .ok batches ∧ ExactBatches document limits batches) ∧
        ∀ command ∈ document.commands,
          exceeds (countCommandPayload command.payload) limits = false) := by
  rw [partitionDocument, accepted, ok_bind]
  by_cases hnil : document.commands = []
  · refine .inr ⟨⟨[], if_pos hnil, ?_⟩, by simp [hnil]⟩
    exact ⟨hnil.symm, by simp, by simp, greedy_nil, fun _ _ => Nat.zero_le _⟩
  · rw [if_neg hnil]
    dsimp only
    rcases @partitionCounts_cases
      (document.commands.map fun command => countCommandPayload command.payload) m n limits accepted with
      ⟨herror, c, hc, hexceeds⟩ | ⟨⟨groups, hgroups, hexact⟩, hall⟩
    · obtain ⟨command, hcommand, rfl⟩ := List.mem_map.mp hc
      refine .inl ⟨?_, command, hcommand, hexceeds⟩
      rw [herror]
      rfl
    · refine .inr ⟨⟨_, by rw [hgroups, ok_bind]; rfl, hexact.batches⟩, ?_⟩
      exact fun command hcommand => hall _ (List.mem_map.mpr ⟨command, hcommand, rfl⟩)

end Batches

end Partition

/-- Under accepted ceilings the command indices are cut exactly, as few groups as can be, unless one command
alone exceeds a ceiling; and so is a document. -/
theorem partition_exact {maxResources maxAdditionalCharacteristics : Option Int} {limits : Int × Int}
    (accepted : resolveBatchLimits maxResources maxAdditionalCharacteristics = .ok limits)
    (counts : List CommandCounts) (document : ImportDocument) :
    ((∀ groups, partitionCounts counts limits.1 limits.2 = .ok groups →
        ExactPartition counts limits groups) ∧
      ((∃ error, partitionCounts counts limits.1 limits.2 = .error (.batchingError error)) ↔
        ∃ c ∈ counts, exceeds c limits = true) ∧
      ((∃ groups, partitionCounts counts limits.1 limits.2 = .ok groups) ↔
        ∀ c ∈ counts, exceeds c limits = false)) ∧
    ((∀ batches, partitionDocument document maxResources maxAdditionalCharacteristics = .ok batches →
        ExactBatches document limits batches) ∧
      ((∃ error, partitionDocument document maxResources maxAdditionalCharacteristics =
          .error (.batchingError error)) ↔
        ∃ command ∈ document.commands, exceeds (countCommandPayload command.payload) limits = true) ∧
      ((∃ batches, partitionDocument document maxResources maxAdditionalCharacteristics = .ok batches) ↔
        ∀ command ∈ document.commands, exceeds (countCommandPayload command.payload) limits = false)) := by
  exact ⟨outcome_of_cases (partitionCounts_cases accepted),
    outcome_of_cases (partitionDocument_cases accepted)⟩

/-- Three commands of two characteristics each, under a ceiling of four. -/
def threeCommands : List CommandCounts := [⟨1, 2, 0, 0⟩, ⟨1, 1, 1, 0⟩, ⟨1, 0, 2, 0⟩]

theorem tenFour_accepted : resolveBatchLimits (some 10) (some 4) = .ok (10, 4) := rfl

theorem threeCommands_partition : partitionCounts threeCommands 10 4 = .ok [[0, 1], [2]] ∧
    ExactPartition threeCommands (10, 4) [[0, 1], [2]] :=
  ⟨by decide, (partition_exact tenFour_accepted threeCommands ⟨[]⟩).1.1 _ (by decide)⟩

end CollibraGovernance.Collibra
