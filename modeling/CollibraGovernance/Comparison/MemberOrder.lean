import CollibraGovernance.Comparison.Compatible
import CollibraGovernance.Library.PyJson

/-! What is checked of a property value does not depend on the order of its members. -/
namespace CollibraGovernance.Comparison
open Library Domain Identity

lemma get_normalize (j : Json) (key : String) :
    Json.get (membersOf j.normalize) key = (Json.get (membersOf j) key).normalize := by
  cases j with
  | obj members =>
    rw [Json.normalize_obj_eq]
    exact Json.get_sortedMembers members key
  | _ => rfl

lemma hasExactly_normalize (members : List (String × Json)) (keys : List String) :
    hasExactly (Json.sortedMembers members) keys = hasExactly members keys := by
  have hnames : ∀ p : String → Bool, (Json.sortedMembers members).all (fun m => p m.1) =
      members.all (fun m => p m.1) := by
    intro p
    rw [(Json.sortedMembers_perm members).all_eq, List.all_map]
    rfl
  have hlookup : ∀ key, (Json.lookup (Json.sortedMembers members) key).isSome =
      (Json.lookup members key).isSome := by
    intro key
    rw [Json.lookup_sortedMembers, Option.isSome_map]
  simp only [hasExactly, hnames, hlookup]

lemma pathTexts_normalize (items : List Json) : pathTexts (items.map Json.normalize) = pathTexts items := by
  rw [pathTexts, pathTexts, List.mapM_map]
  congr 1
  funext item
  cases item <;> rfl

theorem parseIdentityDict_normalize (j : Json) : parseIdentityDict j.normalize = parseIdentityDict j := by
  cases j with
  | obj members =>
    rw [Json.normalize_obj_eq, parseIdentityDict, parseIdentityDict, hasExactly_normalize,
      Json.get_sortedMembers, Json.get_sortedMembers]
    cases Json.get members "kind" with
    | str kind =>
      cases Json.get members "path" with
      | arr items => simp only [Json.normalize_str, Json.normalize_arr, pathTexts_normalize]
      | obj ms => simp
      | _ => rfl
    | arr items => simp
    | obj ms => simp
    | _ => rfl
  | arr items => simp [parseIdentityDict]
  | _ => rfl

lemma nonWhitespaceString_normalize (j : Json) : nonWhitespaceString j.normalize = nonWhitespaceString j := by
  cases j <;> rfl

lemma validOwnershipValue_normalize (j : Json) : validOwnershipValue j.normalize = validOwnershipValue j := by
  cases j with
  | obj members =>
    rw [Json.normalize_obj_eq, validOwnershipValue, validOwnershipValue, hasExactly_normalize,
      Json.get_sortedMembers, Json.get_sortedMembers, nonWhitespaceString_normalize,
      nonWhitespaceString_normalize]
  | arr items => simp [validOwnershipValue]
  | _ => rfl

lemma validColumnItems_normalize (required : Option (List Segment)) (same : Bool)
    (shared : Option (List Segment)) (items : List Json) :
    validColumnItems required same shared (items.map Json.normalize) =
      validColumnItems required same shared items := by
  induction items generalizing shared with
  | nil => rfl
  | cons item rest ih => simp only [List.map_cons, validColumnItems, parseIdentityDict_normalize, ih]

lemma validColumnIdentityList_normalize (j : Json) (nonEmpty : Bool) (required : Option (List Segment))
    (same : Bool) : validColumnIdentityList j.normalize nonEmpty required same =
      validColumnIdentityList j nonEmpty required same := by
  cases j with
  | arr items =>
    rw [Json.normalize_arr, validColumnIdentityList, validColumnIdentityList, validColumnItems_normalize,
      List.isEmpty_map]
  | obj members => simp [validColumnIdentityList]
  | _ => rfl

lemma validTableIdentity_normalize (j : Json) : validTableIdentity j.normalize = validTableIdentity j := by
  rw [validTableIdentity, validTableIdentity, parseIdentityDict_normalize]

lemma validForeignKeyIdentity_normalize (j : Json) (table : Option (List Segment)) :
    validForeignKeyIdentity j.normalize table = validForeignKeyIdentity j table := by
  cases j with
  | obj members =>
    have hparse := parseIdentityDict_normalize (.obj members)
    rw [Json.normalize_obj_eq] at hparse ⊢
    rw [validForeignKeyIdentity, validForeignKeyIdentity, hparse]
    · simp
    · simp
  | arr items => simp [validForeignKeyIdentity, parseIdentityDict]
  | _ => rfl

lemma validFixedValue_normalize (pointer : String) (j : Json) (i : ComparisonObjectIdentity) :
    validFixedValue pointer j.normalize i = validFixedValue pointer j i := by
  unfold validFixedValue
  split
  · exact nonWhitespaceString_normalize j
  · rfl
  · exact validOwnershipValue_normalize j
  · exact nonWhitespaceString_normalize j
  · cases j <;> rfl
  · cases j <;> rfl
  · exact validColumnIdentityList_normalize j _ _ _
  · exact validTableIdentity_normalize j
  · exact validColumnIdentityList_normalize j _ _ _
  · exact validTableIdentity_normalize j
  · exact validForeignKeyIdentity_normalize j _
  · rfl

end CollibraGovernance.Comparison
