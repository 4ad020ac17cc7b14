import CollibraGovernance.Comparison.Compare

/-! The comparison result of two snapshots. -/
namespace CollibraGovernance.Comparison
open Library Identity Snapshots

def codeSystemTypeMismatch : String := "system_type_mismatch"
def codeScannerMismatch : String := "scanner_mismatch"
def codeRootAlignmentRequired : String := "root_alignment_required"

/-- Explicit acknowledgement that differing roots may be matched. -/
structure RootAlignmentAck where
  alignSourceRoots : Bool
  alignDatabaseRoots : Bool

/-- The names of one root on the two sides. -/
structure AlignmentPair where
  baseline : String
  candidate : String
  deriving DecidableEq

def AlignmentPair.toDict (p : AlignmentPair) : Json :=
  .obj [("baseline", .str p.baseline), ("candidate", .str p.candidate)]

structure RootAlignmentResult where
  source : Option AlignmentPair
  database : Option AlignmentPair
  deriving DecidableEq

def RootAlignmentResult.toDict (r : RootAlignmentResult) : Json :=
  .obj [("database", (r.database.map AlignmentPair.toDict).getD .null),
    ("source", (r.source.map AlignmentPair.toDict).getD .null)]

/-- The pair of names of a root, when they differ. -/
def alignmentPair (baseline candidate : String) : Option AlignmentPair :=
  if baseline = candidate then none else some ⟨baseline, candidate⟩

def resolveRootAlignment (baseline candidate : GovernanceSnapshot) (ack : RootAlignmentAck) :
    Checked RootAlignmentResult := do
  raiseIfAny (
    diagnose (baseline.sourceName = candidate.sourceName ∨ ack.alignSourceRoots)
      ⟨codeRootAlignmentRequired, "/root_alignment/source",
        "source names differ; pass --align-source-roots to acknowledge matching"⟩ ++
    diagnose (baseline.databaseName = candidate.databaseName ∨ ack.alignDatabaseRoots)
      ⟨codeRootAlignmentRequired, "/root_alignment/database",
        "database names differ; pass --align-database-roots to acknowledge matching"⟩)
  return ⟨alignmentPair baseline.sourceName candidate.sourceName,
    alignmentPair baseline.databaseName candidate.databaseName⟩

structure ArtifactMetadata where
  contentIdentity : ContentIdentity
  databaseName : String
  scanner : String
  scannerContractVersion : String
  sourceName : String
  systemType : String
  deriving DecidableEq

def ArtifactMetadata.toDict (a : ArtifactMetadata) : Json :=
  .obj [("content_identity", a.contentIdentity.toDict), ("database_name", .str a.databaseName),
    ("scanner", .str a.scanner), ("scanner_contract_version", .str a.scannerContractVersion),
    ("source_name", .str a.sourceName), ("system_type", .str a.systemType)]

def comparisonSchema : String := "governance-snapshot-comparison"
def comparisonVersion : String := "1"
def direction : String := "baseline_to_candidate"

def PropertyChange.toDict (c : PropertyChange) : Json :=
  .obj [("baseline", c.baseline.toDict), ("candidate", c.candidate.toDict), ("property", .str c.property)]

def ObjectChange.toDict (c : ObjectChange) : Json :=
  .obj [("change", .str c.change.text), ("object_identity", c.objectIdentity.toDict),
    ("parent_identity", (c.parentIdentity.map ComparisonObjectIdentity.toDict).getD .null),
    ("property_changes", .arr (c.propertyChanges.map PropertyChange.toDict))]

def ComparisonSummary.toDict (s : ComparisonSummary) : Json :=
  .obj [("added", .int s.added), ("removed", .int s.removed), ("changed", .int s.changed),
    ("unchanged", .int s.unchanged), ("property_changes", .int s.propertyChanges)]

structure ComparisonResult where
  baseline : ArtifactMetadata
  candidate : ArtifactMetadata
  objectChanges : List ObjectChange
  rootAlignment : RootAlignmentResult
  status : String
  summary : ComparisonSummary
  deriving DecidableEq

def ComparisonResult.dictWithoutIdentity (r : ComparisonResult) : List (String × Json) :=
  [("baseline", r.baseline.toDict), ("candidate", r.candidate.toDict),
    ("comparison_schema", .str comparisonSchema), ("comparison_version", .str comparisonVersion),
    ("direction", .str direction), ("object_changes", .arr (r.objectChanges.map ObjectChange.toDict)),
    ("root_alignment", r.rootAlignment.toDict), ("status", .str r.status),
    ("summary", r.summary.toDict), ("writes_performed", .int 0)]

section Build
variable (sha256 : String → String) (isPrintable : Char → Bool)

def artifactMetadata (s : GovernanceSnapshot) : ArtifactMetadata :=
  ⟨s.contentIdentity sha256, s.databaseName, s.scanner, s.scannerContractVersion, s.sourceName,
    s.systemType⟩

/-- The document of a result, its content identity last. -/
def ComparisonResult.toDict (r : ComparisonResult) : Json :=
  .obj (r.dictWithoutIdentity ++
    [("content_identity", (snapshotComparisonIdentity sha256 (.obj r.dictWithoutIdentity)).toDict)])

def validatePairwiseScanner (baseline candidate : GovernanceSnapshot) : Checked Unit :=
  raiseIfAny (
    diagnose (baseline.systemType = candidate.systemType) ⟨codeSystemTypeMismatch, "/system_type",
      "baseline system_type " ++ Json.reprString isPrintable baseline.systemType ++ " != candidate " ++
        Json.reprString isPrintable candidate.systemType⟩ ++
    diagnose (baseline.scanner = candidate.scanner) ⟨codeScannerMismatch, "/scanner",
      "baseline scanner " ++ Json.reprString isPrintable baseline.scanner ++ " != candidate " ++
        Json.reprString isPrintable candidate.scanner⟩)

/-- The guard that the source keeps against a summary that counts properties of no object. -/
def summaryConsistent (summary : ComparisonSummary) : Bool :=
  !(summary.changed = 0 && summary.propertyChanges ≠ 0)

def buildComparisonResult (baseline candidate : GovernanceSnapshot) (ack : RootAlignmentAck) :
    Checked ComparisonResult := do
  let projectedBaseline ← projectSnapshot isPrintable "baseline" baseline
  let projectedCandidate ← projectSnapshot isPrintable "candidate" candidate
  validatePairwiseScanner isPrintable baseline candidate
  let alignment ← resolveRootAlignment baseline candidate ack
  let diff := compareProjected projectedBaseline.objects projectedCandidate.objects
  if summaryConsistent diff.summary then
    return ⟨artifactMetadata sha256 baseline, artifactMetadata sha256 candidate, diff.objectChanges, alignment,
      statusOf diff.summary, diff.summary⟩
  else .error [⟨"ValueError", "", "inconsistent summary: changed=0 but property_changes!=0"⟩]

end Build

/-! The law that the two directions of a comparison obey. -/

/-- `_swap_alignment` -/
def AlignmentPair.swap (p : AlignmentPair) : AlignmentPair := ⟨p.candidate, p.baseline⟩

def PropertyChange.swap (c : PropertyChange) : PropertyChange := ⟨c.property, c.candidate, c.baseline⟩

def changesByKey (changes : List ObjectChange) : Dict (ChangeKind × ComparisonObjectIdentity) ObjectChange :=
  Dict.index (fun c => (c.change, c.objectIdentity)) id changes

/-- What `assert_inverse` asks of one change and the changes of the other direction. -/
def changeInverted (right : Dict (ChangeKind × ComparisonObjectIdentity) ObjectChange) (c : ObjectChange) :
    Bool :=
  match c.change with
  | .added => (right.get? (.removed, c.objectIdentity)).any (fun o => o.propertyChanges = [])
  | .removed => (right.get? (.added, c.objectIdentity)).any (fun o => o.propertyChanges = [])
  | .changed => (right.get? (.changed, c.objectIdentity)).any (fun o =>
      c.propertyChanges.length = o.propertyChanges.length &&
        let leftProps := Dict.index PropertyChange.property id c.propertyChanges
        let rightProps := Dict.index PropertyChange.property id o.propertyChanges
        leftProps.keys.all rightProps.keys.contains && rightProps.keys.all leftProps.keys.contains &&
          leftProps.entries.all (fun e => (rightProps.get? e.1).any (fun p =>
            e.2.baseline = p.candidate && e.2.candidate = p.baseline)))

def assertInverse (left right : ComparisonResult) : Bool :=
  left.baseline = right.candidate && left.candidate = right.baseline &&
    left.summary.added = right.summary.removed && left.summary.removed = right.summary.added &&
    left.summary.changed = right.summary.changed && left.summary.unchanged = right.summary.unchanged &&
    left.summary.propertyChanges = right.summary.propertyChanges &&
    left.rootAlignment.source = right.rootAlignment.source.map AlignmentPair.swap &&
    left.rootAlignment.database = right.rootAlignment.database.map AlignmentPair.swap &&
    (changesByKey left.objectChanges).entries.all (fun e =>
      changeInverted (changesByKey right.objectChanges) e.2)

end CollibraGovernance.Comparison
