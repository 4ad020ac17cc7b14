import CollibraGovernance.Domain.Authority

/-! Conflict analysis: which value of a property the authority rules make effective. -/
namespace CollibraGovernance.Domain
open Library Identity

inductive ConflictState where
  | singleObservation | agreement | resolvedByAuthority | unresolvedConflict
  | invalidOrAmbiguousAuthority
  deriving DecidableEq

inductive ConflictReason where
  | singleObservation | agreement | resolvedByAuthority | noAuthorityRule
  | authoritativeSourceNotObserved | authoritativeSourceConflicted | invalidOrAmbiguousAuthority
  deriving DecidableEq

def ConflictState.value : ConflictState → String
  | .singleObservation => "SINGLE_OBSERVATION"
  | .agreement => "AGREEMENT"
  | .resolvedByAuthority => "RESOLVED_BY_AUTHORITY"
  | .unresolvedConflict => "UNRESOLVED_CONFLICT"
  | .invalidOrAmbiguousAuthority => "INVALID_OR_AMBIGUOUS_AUTHORITY"

def ConflictReason.value : ConflictReason → String
  | .singleObservation => "SINGLE_OBSERVATION"
  | .agreement => "AGREEMENT"
  | .resolvedByAuthority => "RESOLVED_BY_AUTHORITY"
  | .noAuthorityRule => "NO_AUTHORITY_RULE"
  | .authoritativeSourceNotObserved => "AUTHORITATIVE_SOURCE_NOT_OBSERVED"
  | .authoritativeSourceConflicted => "AUTHORITATIVE_SOURCE_CONFLICTED"
  | .invalidOrAmbiguousAuthority => "INVALID_OR_AMBIGUOUS_AUTHORITY"

/-- What is found of one property: its value groups, and the effective value where there is one. -/
structure PropertyConflictResult where
  objectIdentity : GraphNodeIdentity
  propertyPath : PropertyPath
  state : ConflictState
  reason : ConflictReason
  valueGroups : List PropertyObservation
  effectiveValue : Option CanonicalValue
  winningRuleKey : Option AuthorityRuleKey
  arranged : SortedBy PropertyObservation.valueFingerprint valueGroups

namespace PropertyConflictResult

def toIdentityDict (r : PropertyConflictResult) : Json :=
  .obj ([("object", r.objectIdentity.toDict), ("property", .str r.propertyPath.toPointer),
      ("reason", .str r.reason.value), ("state", .str r.state.value),
      ("value_groups", .arr (r.valueGroups.map PropertyObservation.toValueGroupDict))] ++
    (match r.effectiveValue with
      | none => []
      | some v => [("effective_value", v.val)]) ++
    (match r.winningRuleKey with
      | none => []
      | some k => [("winning_rule_key", k.toDict)]))

def sortKey (r : PropertyConflictResult) : String ×ₗ String :=
  toLex (r.objectIdentity.canonicalBytes, r.propertyPath.toPointer)

end PropertyConflictResult

structure PropertyConflictReport where
  results : List PropertyConflictResult
  arranged : SortedBy PropertyConflictResult.sortKey results

namespace PropertyConflictReport

def of (results : List PropertyConflictResult) : PropertyConflictReport :=
  ⟨sortBy PropertyConflictResult.sortKey results, sortBy_sorted _ _⟩

def toIdentityDict (r : PropertyConflictReport) : Json :=
  .obj [("conflict_schema", .str "governance-property-conflicts"), ("conflict_version", .str "1"),
    ("results", .arr (r.results.map PropertyConflictResult.toIdentityDict))]

def contentIdentity (sha256 : String → String) (r : PropertyConflictReport) : ContentIdentity :=
  propertyConflictReportIdentity sha256 r.toIdentityDict

/-- The effective value the report gives a property. -/
def effectiveValue (r : PropertyConflictReport) (i : GraphNodeIdentity) (p : PropertyPath) :
    Option CanonicalValue :=
  (r.results.find? (fun x => x.objectIdentity = i ∧ x.propertyPath = p)).bind
    PropertyConflictResult.effectiveValue

end PropertyConflictReport

/-- Some record of the observation is one the target names. -/
def PropertyObservation.authorizedBy (o : PropertyObservation) (t : AuthorityTarget) : Bool :=
  o.provenance.any t.matchesRecord

/-- Highest specificity among matching rules. -/
def maxRank (matching : List NormalizedAuthorityRule) : Nat :=
  (matching.map (fun r => r.key.selector.specificityRank)).max?.getD 0

/-- The matching rules of the highest specificity. -/
def winningRules (matching : List NormalizedAuthorityRule) : List NormalizedAuthorityRule :=
  matching.filter (fun r => r.key.selector.specificityRank = maxRank matching)

/-- State, reason, effective value and winning rule key of a property. -/
structure Verdict where
  state : ConflictState
  reason : ConflictReason
  effectiveValue : Option CanonicalValue
  winningRuleKey : Option AuthorityRuleKey

section Analysis
variable (authority : NormalizedAuthorityPolicySet)

/-- The branches of `_analyze_group`. -/
def verdict (objectIdentity : GraphNodeIdentity) (propertyPath : PropertyPath)
    (valueGroups : List PropertyObservation) : Verdict :=
  match valueGroups with
  | [observation] =>
    if observation.provenance.length = 1 then
      ⟨.singleObservation, .singleObservation, some observation.value, none⟩
    else ⟨.agreement, .agreement, some observation.value, none⟩
  | _ =>
    match authority.matchingRules objectIdentity propertyPath with
    | [] => ⟨.unresolvedConflict, .noAuthorityRule, none, none⟩
    | first :: rest =>
      let winners := winningRules (first :: rest)
      if (distinct (winners.map NormalizedAuthorityRule.key)).length > 1 then
        ⟨.invalidOrAmbiguousAuthority, .invalidOrAmbiguousAuthority, none, none⟩
      else
        -- `winners[0]`: some matching rule has the highest rank
        let winningKey := (winners.head?.getD first).key
        match valueGroups.filter (fun o => o.authorizedBy winningKey.authority) with
        | [] => ⟨.unresolvedConflict, .authoritativeSourceNotObserved, none, some winningKey⟩
        | [authorized] =>
          ⟨.resolvedByAuthority, .resolvedByAuthority, some authorized.value, some winningKey⟩
        | _ => ⟨.unresolvedConflict, .authoritativeSourceConflicted, none, some winningKey⟩

/-- `_analyze_group` over the observations of one property. -/
def analyzeGroup (group : Library.Group PropertyObservation) : PropertyConflictResult :=
  let valueGroups := sortBy PropertyObservation.valueFingerprint group.members
  let v := verdict authority group.base.objectIdentity group.base.propertyPath valueGroups
  ⟨group.base.objectIdentity, group.base.propertyPath, v.state, v.reason, valueGroups,
    v.effectiveValue, v.winningRuleKey, sortBy_sorted _ _⟩

def propertyKey (o : PropertyObservation) : String × String :=
  (o.objectIdentity.canonicalBytes, o.propertyPath.toPointer)

def analyzePropertyConflicts (observations : PropertyObservationSet) : PropertyConflictReport :=
  .of ((groupBy propertyKey observations.observations).entries.map
    (fun e => analyzeGroup authority e.2))

end Analysis
end CollibraGovernance.Domain
