import CollibraGovernance.Domain.Models
import CollibraGovernance.Library.JoinedNames
import CollibraGovernance.Library.Outcome

/-! Ids of physical objects: the names down to the object, joined by slashes. -/
namespace CollibraGovernance.Domain
open Library

def databasePath (datasourceName databaseName : String) : String := joined datasourceName databaseName

def schemaPath (datasourceName databaseName schemaName : String) : String :=
  joined (databasePath datasourceName databaseName) schemaName

def tablePath (datasourceName databaseName schemaName tableName : String) : String :=
  joined (schemaPath datasourceName databaseName schemaName) tableName

def columnPath (datasourceName databaseName schemaName tableName columnName : String) : String :=
  joined (tablePath datasourceName databaseName schemaName tableName) columnName

def makeDatasourceId (name : String) : Except String String := do
  let name ← requireNonEmpty name "name"
  return "ds:" ++ name.val

def makeDatabaseId (datasourceName databaseName : String) : Except String String := do
  let datasourceName ← requireNonEmpty datasourceName "datasource_name"
  let databaseName ← requireNonEmpty databaseName "database_name"
  return "db:" ++ databasePath datasourceName.val databaseName.val

def makeSchemaId (datasourceName databaseName schemaName : String) : Except String String := do
  let datasourceName ← requireNonEmpty datasourceName "datasource_name"
  let databaseName ← requireNonEmpty databaseName "database_name"
  let schemaName ← requireNonEmpty schemaName "schema_name"
  return "sch:" ++ schemaPath datasourceName.val databaseName.val schemaName.val

def makeTableId (datasourceName databaseName schemaName tableName : String) : Except String String := do
  let datasourceName ← requireNonEmpty datasourceName "datasource_name"
  let databaseName ← requireNonEmpty databaseName "database_name"
  let schemaName ← requireNonEmpty schemaName "schema_name"
  let tableName ← requireNonEmpty tableName "table_name"
  return "tbl:" ++ tablePath datasourceName.val databaseName.val schemaName.val tableName.val

def makeColumnId (datasourceName databaseName schemaName tableName columnName : String) :
    Except String String := do
  let datasourceName ← requireNonEmpty datasourceName "datasource_name"
  let databaseName ← requireNonEmpty databaseName "database_name"
  let schemaName ← requireNonEmpty schemaName "schema_name"
  let tableName ← requireNonEmpty tableName "table_name"
  let columnName ← requireNonEmpty columnName "column_name"
  return "col:" ++
    columnPath datasourceName.val databaseName.val schemaName.val tableName.val columnName.val

def makePrimaryKeyId (tableId constraintName : String) : Except String String := do
  let tableId ← requireNonEmpty tableId "table_id"
  let constraintName ← requireNonEmpty constraintName "constraint_name"
  return "pk:" ++ joined tableId.val constraintName.val

def makeForeignKeyId (tableId constraintName : String) : Except String String := do
  let tableId ← requireNonEmpty tableId "table_id"
  let constraintName ← requireNonEmpty constraintName "constraint_name"
  return "fk:" ++ joined tableId.val constraintName.val

def makeRelationshipId (name : String) : Except String String := do
  let name ← requireNonEmpty name "name"
  return "rel:" ++ name.val

section Made
variable {source database schema table column constraint name id : String}

lemma makeDatasourceId_ok (h : makeDatasourceId name = .ok id) : id = "ds:" ++ name := by
  obtain ⟨n, hn, h⟩ := bind_eq_ok.mp h
  cases h
  rw [requireNonEmpty_eq_ok hn]

lemma makeDatabaseId_ok (h : makeDatabaseId source database = .ok id) :
    id = "db:" ++ databasePath source database ∧ isBlank source = false ∧ isBlank database = false := by
  obtain ⟨s, hs, h⟩ := bind_eq_ok.mp h
  obtain ⟨d, hd, h⟩ := bind_eq_ok.mp h
  cases h
  rw [← requireNonEmpty_eq_ok hs, ← requireNonEmpty_eq_ok hd]
  exact ⟨rfl, s.nonblank, d.nonblank⟩

lemma makeSchemaId_ok (h : makeSchemaId source database schema = .ok id) :
    id = "sch:" ++ schemaPath source database schema ∧ isBlank schema = false := by
  obtain ⟨s, hs, h⟩ := bind_eq_ok.mp h
  obtain ⟨d, hd, h⟩ := bind_eq_ok.mp h
  obtain ⟨n, hn, h⟩ := bind_eq_ok.mp h
  cases h
  rw [← requireNonEmpty_eq_ok hs, ← requireNonEmpty_eq_ok hd, ← requireNonEmpty_eq_ok hn]
  exact ⟨rfl, n.nonblank⟩

lemma makeTableId_ok (h : makeTableId source database schema table = .ok id) :
    id = "tbl:" ++ tablePath source database schema table ∧ isBlank table = false := by
  obtain ⟨s, hs, h⟩ := bind_eq_ok.mp h
  obtain ⟨d, hd, h⟩ := bind_eq_ok.mp h
  obtain ⟨n, hn, h⟩ := bind_eq_ok.mp h
  obtain ⟨t, ht, h⟩ := bind_eq_ok.mp h
  cases h
  rw [← requireNonEmpty_eq_ok hs, ← requireNonEmpty_eq_ok hd, ← requireNonEmpty_eq_ok hn,
    ← requireNonEmpty_eq_ok ht]
  exact ⟨rfl, t.nonblank⟩

lemma makeColumnId_ok (h : makeColumnId source database schema table column = .ok id) :
    id = "col:" ++ columnPath source database schema table column ∧ isBlank column = false := by
  obtain ⟨s, hs, h⟩ := bind_eq_ok.mp h
  obtain ⟨d, hd, h⟩ := bind_eq_ok.mp h
  obtain ⟨n, hn, h⟩ := bind_eq_ok.mp h
  obtain ⟨t, ht, h⟩ := bind_eq_ok.mp h
  obtain ⟨c, hc, h⟩ := bind_eq_ok.mp h
  cases h
  rw [← requireNonEmpty_eq_ok hs, ← requireNonEmpty_eq_ok hd, ← requireNonEmpty_eq_ok hn,
    ← requireNonEmpty_eq_ok ht, ← requireNonEmpty_eq_ok hc]
  exact ⟨rfl, c.nonblank⟩

lemma makePrimaryKeyId_ok (h : makePrimaryKeyId table constraint = .ok id) :
    id = "pk:" ++ joined table constraint := by
  obtain ⟨t, ht, h⟩ := bind_eq_ok.mp h
  obtain ⟨c, hc, h⟩ := bind_eq_ok.mp h
  cases h
  rw [requireNonEmpty_eq_ok ht, requireNonEmpty_eq_ok hc]

lemma makeForeignKeyId_ok (h : makeForeignKeyId table constraint = .ok id) :
    id = "fk:" ++ joined table constraint := by
  obtain ⟨t, ht, h⟩ := bind_eq_ok.mp h
  obtain ⟨c, hc, h⟩ := bind_eq_ok.mp h
  cases h
  rw [requireNonEmpty_eq_ok ht, requireNonEmpty_eq_ok hc]

end Made
end CollibraGovernance.Domain
