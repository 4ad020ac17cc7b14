import CollibraGovernance.Domain.Models
import CollibraGovernance.Domain.PhysicalProjection
import CollibraGovernance.Library.Outcome

/-! The index from the local ids of a model to structural identities; local ids are never parsed. -/
namespace CollibraGovernance.Reconciliation
open Library Domain

structure PhysicalReconciliationIndex where
  byLocalId : Dict String GraphNodeIdentity
  nameSpace : Stripped

def PhysicalReconciliationIndex.get (index : PhysicalReconciliationIndex) (localId : String) :
    Option GraphNodeIdentity := index.byLocalId.get? localId

section Nodes
variable (ns : Stripped)

def columnNodes (database schema table : Stripped) (t : Table) : List (String × GraphNodeIdentity) :=
  t.columns.map (fun c => (c.id, columnChain ns database schema table (.of c.name c.name_nonblank)))

def tableNodes (database schema : Stripped) (t : Table) : List (String × GraphNodeIdentity) :=
  (t.id, tableChain ns database schema (.of t.name t.name_nonblank)) ::
    columnNodes ns database schema (.of t.name t.name_nonblank) t

def schemaNodes (database : Stripped) (s : Schema) : List (String × GraphNodeIdentity) :=
  (s.id, schemaChain ns database (.of s.name s.name_nonblank)) ::
    s.tables.flatMap (tableNodes ns database (.of s.name s.name_nonblank))

def databaseNodes (d : Database) : List (String × GraphNodeIdentity) :=
  (d.id, databaseChain ns (.of d.name d.name_nonblank)) ::
    d.schemas.flatMap (schemaNodes ns (.of d.name d.name_nonblank))

/-- The local ids of a model with their identities, in the order they are put into the index. -/
def physicalNodes (m : GovernanceModel) : List (String × GraphNodeIdentity) :=
  m.databases.flatMap (databaseNodes ns)

end Nodes

/-- `_put`: a local id keeps its identity. -/
def put (mapping : Dict String GraphNodeIdentity) (e : String × GraphNodeIdentity) :
    Except String (Dict String GraphNodeIdentity) :=
  match mapping.get? e.1 with
  | none => .ok (mapping.set e.1 e.2)
  | some existing =>
    if existing ≠ e.2 then
      .error "physical reconciliation index has conflicting GraphNodeIdentity for the same local_id"
    else .ok (mapping.set e.1 e.2)

def buildPhysicalReconciliationIndex (model : GovernanceModel) (nameSpace : String) :
    Except String PhysicalReconciliationIndex :=
  if h : isBlank nameSpace = false then do
    let ns := Stripped.of nameSpace h
    let mapping ← (physicalNodes ns model).foldlM put Dict.empty
    return ⟨mapping, ns⟩
  else .error "namespace must be a non-empty string"

/-- Nodes with distinct local ids are all indexed, in their order. -/
theorem foldlM_put_ok {nodes : List (String × GraphNodeIdentity)} (h : (nodes.map Prod.fst).Nodup) :
    ∃ mapping, nodes.foldlM put Dict.empty = .ok mapping ∧ mapping.entries = nodes := by
  have hstep : ∀ done rest : List (String × GraphNodeIdentity), ((done ++ rest).map Prod.fst).Nodup →
      ∀ d : Dict String GraphNodeIdentity, d.entries = done →
      ∃ mapping, rest.foldlM put d = .ok mapping ∧ mapping.entries = done ++ rest := by
    intro done rest
    induction rest generalizing done with
    | nil =>
      intro _ d hd
      exact ⟨d, rfl, by rw [hd, List.append_nil]⟩
    | cons e rest ih =>
      intro hnodup d hd
      have hnew : e.1 ∉ d.keys := by
        rw [List.map_append, List.map_cons, List.nodup_append] at hnodup
        intro hmem
        rw [Dict.keys, hd] at hmem
        exact hnodup.2.2 e.1 hmem e.1 (List.mem_cons_self ..) rfl
      have hput : put d e = .ok (d.set e.1 e.2) := by
        rw [put, Dict.get?_eq_none.mpr hnew]
      have hentries : (d.set e.1 e.2).entries = done ++ [e] := by
        rw [Dict.entries_set_of_notMem _ hnew, hd]
      have hrest : ((done ++ [e] ++ rest).map Prod.fst).Nodup := by
        rwa [List.append_assoc, List.singleton_append]
      obtain ⟨mapping, hrun, hmapping⟩ := ih (done ++ [e]) hrest _ hentries
      refine ⟨mapping, ?_, by rw [hmapping, List.append_assoc, List.singleton_append]⟩
      rw [List.foldlM_cons, hput]
      exact hrun
  exact hstep [] nodes h .empty rfl

lemma put_eq_ok {d d' : Dict String GraphNodeIdentity} {e : String × GraphNodeIdentity} (h : put d e = .ok d') :
    d' = d.set e.1 e.2 := by
  rw [put] at h
  split at h
  · cases h
    rfl
  · split_ifs at h
    cases h
    rfl

/-- What the index holds was put into it. -/
theorem mem_of_foldlM_put {nodes : List (String × GraphNodeIdentity)} {d mapping : Dict String GraphNodeIdentity}
    (h : nodes.foldlM put d = .ok mapping) : ∀ e ∈ mapping.entries, e ∈ d.entries ∨ e ∈ nodes := by
  refine foldlM_ok (R := fun d nodes mapping => ∀ e ∈ mapping.entries, e ∈ d.entries ∨ e ∈ nodes)
    (fun _ _ he => Or.inl he) ?_ h
  intro d a d' rest mapping hput hrest e he
  cases hrest e he with
  | inr he => exact Or.inr (List.mem_cons_of_mem _ he)
  | inl he =>
    rw [put_eq_ok hput, Dict.mem_entries_set] at he
    cases he with
    | inl he => exact Or.inr (he ▸ List.mem_cons_self ..)
    | inr he => exact Or.inl he.2

section Ids
variable (ns : Stripped)

lemma tableNodes_ids (database schema : Stripped) (t : Table) :
    (tableNodes ns database schema t).map Prod.fst = t.id :: t.columns.map Column.id := by
  rw [tableNodes, columnNodes, List.map_cons, List.map_map]
  rfl

/-- A list of heads with what follows each of them lists the heads and what follows. -/
lemma flatMap_cons_perm {α : Type} (xs : List α) (f : α → String) (g : α → List String) :
    (xs.flatMap (fun x => f x :: g x)).Perm (xs.map f ++ xs.flatMap g) := by
  have h := List.flatMap_append_perm xs (fun x => [f x]) g
  rw [← List.map_eq_flatMap] at h
  exact h.symm

/-- The index lists databases, schemas, tables and columns. -/
theorem physicalNodes_ids_perm (m : GovernanceModel) :
    ((physicalNodes ns m).map Prod.fst).Perm (m.databases.map Database.id ++ m.schemas.map Schema.id ++
      m.tables.map Table.id ++ m.tables.flatMap (fun t => t.columns.map Column.id)) := by
  have hschema : ∀ (database : Stripped) (s : Schema), ((schemaNodes ns database s).map Prod.fst) =
      s.id :: s.tables.flatMap (fun t => t.id :: t.columns.map Column.id) := by
    intro database s
    rw [schemaNodes, List.map_cons, List.map_flatMap]
    simp only [tableNodes_ids]
  have hdatabase : ∀ d : Database, ((databaseNodes ns d).map Prod.fst) =
      d.id :: d.schemas.flatMap (fun s => s.id ::
        s.tables.flatMap (fun t => t.id :: t.columns.map Column.id)) := by
    intro d
    rw [databaseNodes, List.map_cons, List.map_flatMap]
    simp only [hschema]
  rw [physicalNodes, List.map_flatMap]
  simp only [hdatabase]
  refine (flatMap_cons_perm ..).trans ?_
  rw [← List.flatMap_assoc, List.append_assoc, List.append_assoc]
  refine List.Perm.append_left _ ((flatMap_cons_perm ..).trans ?_)
  rw [← List.flatMap_assoc]
  exact List.Perm.append_left _ (flatMap_cons_perm ..)

theorem mem_physicalNodes {m : GovernanceModel} {e : String × GraphNodeIdentity} :
    e ∈ physicalNodes ns m ↔ ∃ d ∈ m.databases,
      e = (d.id, databaseChain ns (.of d.name d.name_nonblank)) ∨ ∃ s ∈ d.schemas,
        e = (s.id, schemaChain ns (.of d.name d.name_nonblank) (.of s.name s.name_nonblank)) ∨
        ∃ t ∈ s.tables,
          e = (t.id, tableChain ns (.of d.name d.name_nonblank) (.of s.name s.name_nonblank)
            (.of t.name t.name_nonblank)) ∨
          ∃ c ∈ t.columns,
            e = (c.id, columnChain ns (.of d.name d.name_nonblank) (.of s.name s.name_nonblank)
              (.of t.name t.name_nonblank) (.of c.name c.name_nonblank)) := by
  simp only [physicalNodes, databaseNodes, schemaNodes, tableNodes, columnNodes, List.mem_flatMap,
    List.mem_cons, List.mem_map, eq_comm]

end Ids
end CollibraGovernance.Reconciliation
