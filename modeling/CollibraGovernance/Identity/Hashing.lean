import CollibraGovernance.Library.CanonicalJson

/-! Versioned content identities with domain separation. The digest function is a parameter: it
receives the hashed text, whose UTF-8 bytes are what the program hashes. -/
namespace CollibraGovernance.Identity
open Library

def hashingContractVersion : String := "1"
def algorithmName : String := "sha256"

/-- Machine-readable integrity identity (not authenticity). -/
structure ContentIdentity where
  algorithm : String
  hashingContractVersion : String
  digest : String
  deriving DecidableEq

def ContentIdentity.toDict (c : ContentIdentity) : Json :=
  .obj [("algorithm", .str c.algorithm), ("digest", .str c.digest),
    ("hashing_contract_version", .str c.hashingContractVersion)]

section Digest
variable (sha256 : String → String)

/-- `_sha256_identity` over the canonical bytes of a document. -/
def sha256Identity (domainPrefix : String) (payload : Json) : ContentIdentity :=
  ⟨algorithmName, hashingContractVersion, sha256 (domainPrefix ++ payload.canonicalJson)⟩

def configIdentity (projection : Json) : ContentIdentity :=
  sha256Identity sha256 "gov-config-v1\n" projection
def configIdentityV2 (projection : Json) : ContentIdentity :=
  sha256Identity sha256 "gov-config-v2\n" projection
def snapshotIdentity (canonicalSnapshot : Json) : ContentIdentity :=
  sha256Identity sha256 "gov-snapshot-v1\n" canonicalSnapshot
def mappingIdentity (normalizedMapping : Json) : ContentIdentity :=
  sha256Identity sha256 "gov-mapping-v1\n" normalizedMapping
def policyIdentity (normalizedPolicySet : Json) : ContentIdentity :=
  sha256Identity sha256 "gov-policy-v1\n" normalizedPolicySet
def authorityIdentity (normalizedAuthoritySet : Json) : ContentIdentity :=
  sha256Identity sha256 "gov-authority-v1\n" normalizedAuthoritySet
def propertyObservationSetIdentity (observationSet : Json) : ContentIdentity :=
  sha256Identity sha256 "gov-property-observations-v1\n" observationSet
def propertyConflictReportIdentity (conflictReport : Json) : ContentIdentity :=
  sha256Identity sha256 "gov-property-conflicts-v1\n" conflictReport
def remoteStateIdentity (projection : Json) : ContentIdentity :=
  sha256Identity sha256 "gov-remote-state-v1\n" projection
def targetContextIdentity (targetContext : Json) : ContentIdentity :=
  sha256Identity sha256 "gov-target-context-v1\n" targetContext
def planIdentity (canonicalPlan : Json) : ContentIdentity :=
  sha256Identity sha256 "gov-plan-v1\n" canonicalPlan
def planIdentityV2 (canonicalPlan : Json) : ContentIdentity :=
  sha256Identity sha256 "gov-plan-v2\n" canonicalPlan
def reconciliationAssumptionsIdentity (root : Json) : ContentIdentity :=
  sha256Identity sha256 "gov-reconciliation-assumptions-v1\n" root
def snapshotComparisonIdentity (canonicalResult : Json) : ContentIdentity :=
  sha256Identity sha256 "gov-snapshot-comparison-v1\n" canonicalResult
def driftPolicyIdentity (normalizedPolicy : Json) : ContentIdentity :=
  sha256Identity sha256 "gov-drift-policy-v1\n" normalizedPolicy
def driftResultIdentity (canonicalResult : Json) : ContentIdentity :=
  sha256Identity sha256 "gov-drift-result-v1\n" canonicalResult
def historyIdentity (canonicalHistory : Json) : ContentIdentity :=
  sha256Identity sha256 "gov-history-v1\n" canonicalHistory

variable {sha256}

/-- Documents that differ only in member order have one identity. -/
theorem sha256Identity_congr {domainPrefix : String} {a b : Json} (h : a.normalize = b.normalize) :
    sha256Identity sha256 domainPrefix a = sha256Identity sha256 domainPrefix b := by
  unfold sha256Identity
  rw [Json.canonicalJson_inj.mpr h]

/-- When the digest separates the two texts, equal identities mean equal documents. -/
theorem normalize_eq_of_identity {domainPrefix : String} {a b : Json}
    (hsep : sha256 (domainPrefix ++ a.canonicalJson) = sha256 (domainPrefix ++ b.canonicalJson) →
      domainPrefix ++ a.canonicalJson = domainPrefix ++ b.canonicalJson)
    (h : sha256Identity sha256 domainPrefix a = sha256Identity sha256 domainPrefix b) :
    a.normalize = b.normalize := by
  have htext := hsep (congrArg ContentIdentity.digest h)
  rw [String.append_right_inj] at htext
  exact Json.canonicalJson_inj.mp htext

end Digest
end CollibraGovernance.Identity
