import CollibraGovernance.Domain.Authority
import CollibraGovernance.Observations.RoundTrip

/-! The key of an authority rule inside other artifacts. -/
namespace CollibraGovernance.Observations
open Library Domain Comparison

def authorityTargetSchema : Json → Bool := JsonSchema.object
  [⟨"provider_type", true, JsonSchema.text 1⟩, ⟨"source_ref", false, JsonSchema.text 1⟩]

def authoritySelectorSchema : Json → Bool := JsonSchema.object
  [⟨"kind", true, JsonSchema.texts admittedKinds⟩, ⟨"property", true, JsonSchema.text 1⟩,
    ⟨"namespace", false, JsonSchema.text 1⟩]

def winningRuleKeySchema : Json → Bool := JsonSchema.object
  [⟨"authority", true, authorityTargetSchema⟩, ⟨"select", true, authoritySelectorSchema⟩]

lemma admittedKinds_value (kind : AuthorityNodeKind) : admittedKinds.contains kind.value = true := by
  cases kind <;> decide

lemma winningRuleKeySchema_toDict (k : AuthorityRuleKey) : winningRuleKeySchema k.toDict = true := by
  have htarget : authorityTargetSchema k.authority.toDict = true := by
    obtain ⟨-, provider, source⟩ := k
    cases source <;>
      simp [authorityTargetSchema, AuthorityTarget.toDict, optionalMember, JsonSchema.object, Json.lookup,
        text_stripped]
  have hselector : authoritySelectorSchema k.selector.toDict = true := by
    obtain ⟨⟨kind, path, nameSpace⟩, -⟩ := k
    have hkind := admittedKinds_value kind
    cases nameSpace <;>
      simp_all [authoritySelectorSchema, AuthoritySelector.toDict, optionalMember, JsonSchema.object,
        JsonSchema.texts, Json.lookup, text_stripped, text_of_ne (toPointer_ne path)]
  simp [winningRuleKeySchema, AuthorityRuleKey.toDict, JsonSchema.object, Json.lookup, htarget, hselector]

lemma orderFree_authorityTarget : JsonSchema.OrderFree authorityTargetSchema := by
  apply JsonSchema.orderFree_object
  simp only [List.forall_mem_cons, List.not_mem_nil, false_implies, implies_true, and_true]
  exact ⟨JsonSchema.orderFree_text _, JsonSchema.orderFree_text _⟩

lemma orderFree_authoritySelector : JsonSchema.OrderFree authoritySelectorSchema := by
  apply JsonSchema.orderFree_object
  simp only [List.forall_mem_cons, List.not_mem_nil, false_implies, implies_true, and_true]
  exact ⟨JsonSchema.orderFree_texts _, JsonSchema.orderFree_text _, JsonSchema.orderFree_text _⟩

/-- Rule keys are accepted in any order of their members. -/
theorem orderFree_winningRuleKey : JsonSchema.OrderFree winningRuleKeySchema := by
  apply JsonSchema.orderFree_object
  simp only [List.forall_mem_cons, List.not_mem_nil, false_implies, implies_true, and_true]
  exact ⟨orderFree_authorityTarget, orderFree_authoritySelector⟩

end CollibraGovernance.Observations
