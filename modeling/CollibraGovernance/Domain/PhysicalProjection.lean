import CollibraGovernance.Domain.Graph
import CollibraGovernance.Domain.PhysicalIds

/-! From the identity of a physical object to its local id, along complete chains only. -/
namespace CollibraGovernance.Domain
open Library

namespace GraphNodeIdentity
variable (nameSpace kind logicalId : Stripped) (parent : GraphNodeIdentity)

@[simp] theorem nameSpace_child : (child nameSpace kind logicalId parent).nameSpace = nameSpace := rfl
@[simp] theorem kind_child : (child nameSpace kind logicalId parent).kind = kind := rfl
@[simp] theorem logicalId_child : (child nameSpace kind logicalId parent).logicalId = logicalId := rfl
@[simp] theorem parent_child : (child nameSpace kind logicalId parent).parent = some parent := rfl

end GraphNodeIdentity

/-- A graph identity projected onto a local id. -/
structure PhysicalProjection where
  objectKind : String
  localId : String
  node : GraphNodeIdentity

/-- A data source that stands on its own. -/
def isRootDataSource (identity : GraphNodeIdentity) : Bool :=
  identity.kind.val = nodeKindDataSource && identity.parent.isNone

def projectPhysicalIdentity (identity : GraphNodeIdentity) :
    Except String (Option PhysicalProjection) :=
  if isRootDataSource identity then do
    let localId ← makeDatabaseId identity.nameSpace.val identity.logicalId.val
    return some ⟨"database", localId, identity⟩
  else if identity.kind.val = nodeKindDataset then
    match identity.parent with
    | none => .ok none
    | some parent =>
      if isRootDataSource parent = false ∨ parent.nameSpace ≠ identity.nameSpace then .ok none
      else do
        let localId ← makeSchemaId identity.nameSpace.val parent.logicalId.val identity.logicalId.val
        return some ⟨"schema", localId, identity⟩
  else if identity.kind.val = nodeKindTable then
    match identity.parent with
    | none => .ok none
    | some dataset =>
      if dataset.kind.val ≠ nodeKindDataset then .ok none
      else match dataset.parent with
        | none => .ok none
        | some dataSource =>
          if isRootDataSource dataSource = false then .ok none
          else if identity.nameSpace ≠ dataset.nameSpace ∨
              dataset.nameSpace ≠ dataSource.nameSpace then .ok none
          else do
            let localId ← makeTableId identity.nameSpace.val dataSource.logicalId.val
              dataset.logicalId.val identity.logicalId.val
            return some ⟨"table", localId, identity⟩
  else if identity.kind.val = nodeKindColumn then
    match identity.parent with
    | none => .ok none
    | some table =>
      if table.kind.val ≠ nodeKindTable then .ok none
      else match table.parent with
        | none => .ok none
        | some dataset =>
          if dataset.kind.val ≠ nodeKindDataset then .ok none
          else match dataset.parent with
            | none => .ok none
            | some dataSource =>
              if isRootDataSource dataSource = false then .ok none
              else if identity.nameSpace ≠ table.nameSpace ∨ table.nameSpace ≠ dataset.nameSpace ∨
                  dataset.nameSpace ≠ dataSource.nameSpace then .ok none
              else do
                let localId ← makeColumnId identity.nameSpace.val dataSource.logicalId.val
                  dataset.logicalId.val table.logicalId.val identity.logicalId.val
                return some ⟨"column", localId, identity⟩
  else .ok none

def projectPhysicalLocalId (identity : GraphNodeIdentity) : Except String (Option String) := do
  let projected ← projectPhysicalIdentity identity
  return projected.map PhysicalProjection.localId

section Chain

theorem nodeKindDataSource_nonblank : isBlank nodeKindDataSource = false := by decide
theorem nodeKindDataset_nonblank : isBlank nodeKindDataset = false := by decide
theorem nodeKindTable_nonblank : isBlank nodeKindTable = false := by decide
theorem nodeKindColumn_nonblank : isBlank nodeKindColumn = false := by decide

def kindDataSource : Stripped := .of nodeKindDataSource nodeKindDataSource_nonblank
def kindDataset : Stripped := .of nodeKindDataset nodeKindDataset_nonblank
def kindTable : Stripped := .of nodeKindTable nodeKindTable_nonblank
def kindColumn : Stripped := .of nodeKindColumn nodeKindColumn_nonblank

@[simp] theorem kindDataSource_val : kindDataSource.val = nodeKindDataSource := by decide
@[simp] theorem kindDataset_val : kindDataset.val = nodeKindDataset := by decide
@[simp] theorem kindTable_val : kindTable.val = nodeKindTable := by decide
@[simp] theorem kindColumn_val : kindColumn.val = nodeKindColumn := by decide

theorem dataSource_ne_column : kindDataSource.val ≠ nodeKindColumn := by decide

/-- The identities along a chain of one namespace. -/
def databaseChain (ns database : Stripped) : GraphNodeIdentity :=
  .root ns kindDataSource database dataSource_ne_column

def schemaChain (ns database schema : Stripped) : GraphNodeIdentity :=
  .child ns kindDataset schema (databaseChain ns database)

def tableChain (ns database schema table : Stripped) : GraphNodeIdentity :=
  .child ns kindTable table (schemaChain ns database schema)

def columnChain (ns database schema table column : Stripped) : GraphNodeIdentity :=
  .child ns kindColumn column (tableChain ns database schema table)

variable (ns database schema table column : Stripped)

@[simp] lemma isRootDataSource_databaseChain :
    isRootDataSource (databaseChain ns database) = true := by
  simp [isRootDataSource, databaseChain, GraphNodeIdentity.kind, GraphNodeIdentity.parent]

@[simp] lemma nameSpace_databaseChain : (databaseChain ns database).nameSpace = ns := rfl
@[simp] lemma logicalId_databaseChain : (databaseChain ns database).logicalId = database := rfl

@[simp] lemma isRootDataSource_child (kind logicalId : Stripped) (parent : GraphNodeIdentity) :
    isRootDataSource (.child ns kind logicalId parent) = false := by
  simp [isRootDataSource]

theorem projectPhysicalLocalId_databaseChain : projectPhysicalLocalId (databaseChain ns database) =
    .ok (some ("db:" ++ databasePath ns.val database.val)) := by
  rw [projectPhysicalLocalId, projectPhysicalIdentity, if_pos (isRootDataSource_databaseChain ..)]
  rw [databaseChain, makeDatabaseId, GraphNodeIdentity.nameSpace, GraphNodeIdentity.logicalId,
    requireNonEmpty_ok _ ns.nonblank, requireNonEmpty_ok _ database.nonblank]
  rfl

theorem projectPhysicalLocalId_schemaChain : projectPhysicalLocalId (schemaChain ns database schema) =
    .ok (some ("sch:" ++ schemaPath ns.val database.val schema.val)) := by
  have hmade : makeSchemaId ns.val database.val schema.val =
      .ok ("sch:" ++ schemaPath ns.val database.val schema.val) := by
    rw [makeSchemaId, requireNonEmpty_ok _ ns.nonblank, requireNonEmpty_ok _ database.nonblank,
      requireNonEmpty_ok _ schema.nonblank]
    rfl
  simp [projectPhysicalLocalId, projectPhysicalIdentity, schemaChain, hmade]

theorem projectPhysicalLocalId_tableChain :
    projectPhysicalLocalId (tableChain ns database schema table) =
      .ok (some ("tbl:" ++ tablePath ns.val database.val schema.val table.val)) := by
  have hmade : makeTableId ns.val database.val schema.val table.val =
      .ok ("tbl:" ++ tablePath ns.val database.val schema.val table.val) := by
    rw [makeTableId, requireNonEmpty_ok _ ns.nonblank, requireNonEmpty_ok _ database.nonblank,
      requireNonEmpty_ok _ schema.nonblank, requireNonEmpty_ok _ table.nonblank]
    rfl
  have hkind : ¬ nodeKindTable = nodeKindDataset := by decide
  simp [projectPhysicalLocalId, projectPhysicalIdentity, tableChain, schemaChain, hkind, hmade]

theorem projectPhysicalLocalId_columnChain :
    projectPhysicalLocalId (columnChain ns database schema table column) =
      .ok (some ("col:" ++ columnPath ns.val database.val schema.val table.val column.val)) := by
  have hmade : makeColumnId ns.val database.val schema.val table.val column.val =
      .ok ("col:" ++ columnPath ns.val database.val schema.val table.val column.val) := by
    rw [makeColumnId, requireNonEmpty_ok _ ns.nonblank, requireNonEmpty_ok _ database.nonblank,
      requireNonEmpty_ok _ schema.nonblank, requireNonEmpty_ok _ table.nonblank,
      requireNonEmpty_ok _ column.nonblank]
    rfl
  have hdataset : ¬ nodeKindColumn = nodeKindDataset := by decide
  have htable : ¬ nodeKindColumn = nodeKindTable := by decide
  simp [projectPhysicalLocalId, projectPhysicalIdentity, columnChain, tableChain, schemaChain,
    hdataset, htable, hmade]

end Chain
end CollibraGovernance.Domain
