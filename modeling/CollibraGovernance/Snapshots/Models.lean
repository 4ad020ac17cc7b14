import CollibraGovernance.Domain.Models
import CollibraGovernance.Identity.Hashing

/-! The canonical governance snapshot artifact. -/
namespace CollibraGovernance.Snapshots
open Library Domain Identity

def snapshotSchema : String := "governance-snapshot"
def snapshotVersion : String := "1"
def scannerContractVersion : String := "1"

structure GovernanceSnapshot where
  model : GovernanceModel
  sourceName : String
  databaseName : String
  systemType : String
  scanner : String
  scannerContractVersion : String

namespace GovernanceSnapshot

/-- The data source and the database of a model with exactly one of each. -/
def root (m : GovernanceModel) : Except String (DataSource × Database) :=
  match m.dataSources with
  | [dataSource] =>
    match dataSource.databases with
    | [database] => .ok (dataSource, database)
    | _ => .error "DataSource must contain exactly one Database"
  | _ => .error "GovernanceModel must contain exactly one DataSource"

def fromModel (m : GovernanceModel) : Except String GovernanceSnapshot := do
  let (dataSource, database) ← root m
  return ⟨m, dataSource.name, database.name, dataSource.systemType, dataSource.systemType,
    Snapshots.scannerContractVersion⟩

def canonicalDictWithoutIdentity (s : GovernanceSnapshot) : Json :=
  .obj [("governance", s.model.toDict),
    ("scan", .obj [("scanner", .str s.scanner),
      ("scanner_contract_version", .str s.scannerContractVersion)]),
    ("snapshot_schema", .str snapshotSchema),
    ("snapshot_version", .str snapshotVersion),
    ("source", .obj [("database", .str s.databaseName), ("name", .str s.sourceName),
      ("system_type", .str s.systemType)])]

variable (sha256 : String → String)

def contentIdentity (s : GovernanceSnapshot) : ContentIdentity :=
  snapshotIdentity sha256 s.canonicalDictWithoutIdentity

/-- The artifact document. -/
def toDict (s : GovernanceSnapshot) : Json :=
  match s.canonicalDictWithoutIdentity with
  | .obj payload => .obj (payload ++ [("content_identity", (s.contentIdentity sha256).toDict)])
  | document => document

end GovernanceSnapshot
end CollibraGovernance.Snapshots
