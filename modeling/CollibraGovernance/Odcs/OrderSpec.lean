import CollibraGovernance.Odcs.OrderWalk

/-! Neither the acceptance of a contract nor what it maps to depends on the order of its lists. -/
namespace CollibraGovernance.Odcs
open Library Identity Domain

/-! ### Members, roles and teams -/

section Members
variable {pre post : List (String × Json)} {key : String} {v v' : Json}

/-- Rewriting each member of an object carries a change of one member along. -/
lemma normalize_map_congr {f : String × Json → Json}
    (h : (f (key, v)).normalize = (f (key, v')).normalize) :
    (Json.obj ((pre ++ (key, v) :: post).map fun m => (m.1, f m))).normalize =
      (Json.obj ((pre ++ (key, v') :: post).map fun m => (m.1, f m))).normalize := by
  apply normalize_obj_congr
  simp only [normalMembers, List.map_append, List.map_cons, h]

end Members

/-- Two objects with one normalized rewriting. -/
def SameObject (normalizer : List (String × Json) → Json) (v v' : Json) : Prop :=
  ∃ m m', v = .obj m ∧ v' = .obj m' ∧ (normalizer m).normalize = (normalizer m').normalize

theorem sameRole_of_perm {pre post : List (String × Json)} {key : String} {xs ys : List Json}
    (h : xs.Perm ys) : SameObject normalizeRole (.obj (pre ++ (key, .arr xs) :: post))
      (.obj (pre ++ (key, .arr ys) :: post)) ∨ key ≠ "customProperties" := by
  by_cases hkey : key = "customProperties"
  · refine .inl ⟨_, _, rfl, rfl, ?_⟩
    apply normalize_map_congr
    simp only [hkey, if_true, normalizeCustomProperties, normalizeObjectList, Option.getD_some]
    exact sortByCanonical_congr (h.map _)
  · exact .inr hkey

theorem sameTeamMember_of_perm {pre post : List (String × Json)} {key : String} {xs ys : List Json}
    (hkey : key ∈ Place.teamMember.lists) (h : xs.Perm ys) :
    SameObject normalizeTeamMember (.obj (pre ++ (key, .arr xs) :: post))
      (.obj (pre ++ (key, .arr ys) :: post)) := by
  refine ⟨_, _, rfl, rfl, ?_⟩
  apply normalize_map_congr
  have hsorted := sortByCanonical_congr (h.map Json.normalize)
  simp only [Place.lists, List.mem_cons, List.not_mem_nil, or_false] at hkey
  rcases hkey with rfl | rfl | rfl
  · simp only [if_true, normalizeTags_perm h]
    rfl
  · simpa [normalizeAuthoritativeDefinitions, normalizeObjectList] using hsorted
  · simpa [normalizeCustomProperties, normalizeObjectList] using hsorted

section Lists
variable {normalizer : List (String × Json) → Json} {xs ys : List Json}

lemma mappings_append (xs ys : List Json) : mappings (xs ++ ys) = mappings xs ++ mappings ys :=
  List.filterMap_append

/-- A canonically sorted list of rewritten objects depends on the objects up to order. -/
lemma sortedObjects_of_perm (h : xs.Perm ys) :
    (Json.arr (sortByCanonical ((mappings xs).map normalizer))).normalize =
      (Json.arr (sortByCanonical ((mappings ys).map normalizer))).normalize :=
  sortByCanonical_congr (((h.filterMap _).map _).map _)

lemma sortedObjects_of_element {v v' : Json} (h : SameObject normalizer v v') :
    (Json.arr (sortByCanonical ((mappings (xs ++ v :: ys)).map normalizer))).normalize =
      (Json.arr (sortByCanonical ((mappings (xs ++ v' :: ys)).map normalizer))).normalize := by
  obtain ⟨m, m', rfl, rfl, heq⟩ := h
  apply sortByCanonical_congr
  have hcons : ∀ m : List (String × Json), mappings (.obj m :: ys) = m :: mappings ys := fun _ => rfl
  simp only [mappings_append, hcons, List.map_append, List.map_cons, heq]
  exact List.Perm.refl _

end Lists

theorem normalizeRoles_of_perm {xs ys : List Json} (h : xs.Perm ys) :
    NormalAlike normalizeRoles (.arr xs) (.arr ys) := congrArg some (sortedObjects_of_perm h)

theorem normalizeRoles_of_element {xs ys : List Json} {v v' : Json}
    (h : SameObject normalizeRole v v') :
    NormalAlike normalizeRoles (.arr (xs ++ v :: ys)) (.arr (xs ++ v' :: ys)) :=
  congrArg some (sortedObjects_of_element h)

theorem normalizeMemberList_of_perm {xs ys : List Json} (h : xs.Perm ys) :
    NormalAlike normalizeMemberList (.arr xs) (.arr ys) := congrArg some (sortedObjects_of_perm h)

theorem normalizeMemberList_of_element {xs ys : List Json} {v v' : Json}
    (h : SameObject normalizeTeamMember v v') :
    NormalAlike normalizeMemberList (.arr (xs ++ v :: ys)) (.arr (xs ++ v' :: ys)) :=
  congrArg some (sortedObjects_of_element h)

/-- A team written as the list of its members. -/
lemma normalizeTeam_arr {xs ys : List Json} (h : NormalAlike normalizeMemberList (.arr xs) (.arr ys)) :
    NormalAlike normalizeTeam (.arr xs) (.arr ys) := by
  have hmembers : (normalizeMembers xs).normalize = (normalizeMembers ys).normalize := Option.some.inj h
  refine congrArg some (normalize_obj_congr ?_)
  simp only [normalMembers, List.map_cons, List.map_nil, hmembers]

/-- A team object with one member changed in a way that none of its normalizers sees. -/
theorem normalizeTeam_obj {pre post : List (String × Json)} {key : String} {v v' : Json}
    (hkey : key ∉ ["id", "name", "description"])
    (hmembers : key = "members" → NormalAlike normalizeMemberList v v') (hshared : SharedAlike key v v') :
    NormalAlike normalizeTeam (.obj (pre ++ (key, v) :: post)) (.obj (pre ++ (key, v') :: post)) := by
  refine congrArg some (normalize_obj_congr ?_)
  simp only [normalMembers_append]
  refine congrArg₂ (· ++ ·) (congrArg₂ (· ++ ·) (congrArg₂ (· ++ ·) (congrArg₂ (· ++ ·) ?_ ?_) ?_) ?_) ?_
  · exact congrArg normalMembers (copied_congr hkey)
  · exact normalized_congr hmembers
  · exact normalized_congr hshared.tags
  · exact normalized_congr hshared.definitions
  · exact normalized_congr hshared.properties

/-- The purpose that a description object states. -/
def purposeOf : Option Json → Option String
  | some (.obj description) => (Json.lookup description "purpose").bind textOf
  | _ => none

/-- Descriptions that say the same. -/
structure SameDescription (v v' : Json) : Prop where
  normal : NormalAlike normalizeDescriptionObject v v'
  purpose : purposeOf (some v) = purposeOf (some v')

theorem sameDescription_of_perm {pre post : List (String × Json)} {key : String} {xs ys : List Json}
    (hkey : key ∈ Place.description.lists) (h : xs.Perm ys) :
    SameDescription (.obj (pre ++ (key, .arr xs) :: post)) (.obj (pre ++ (key, .arr ys) :: post)) := by
  have hne : ∀ k ∈ ["usage", "purpose", "limitations"], key ≠ k := by
    rintro k hk rfl
    simp [Place.lists] at hkey hk
    rcases hkey with rfl | rfl <;> simp at hk
  have hshared := SharedAlike.of_perm key h
  constructor
  · refine congrArg some (normalize_obj_congr ?_)
    simp only [normalMembers_append]
    refine congrArg₂ (· ++ ·) (congrArg₂ (· ++ ·) ?_ ?_) ?_
    · exact congrArg normalMembers (copied_congr fun hk => hne key hk rfl)
    · exact normalized_congr hshared.definitions
    · exact normalized_congr hshared.properties
  · simp only [purposeOf]
    exact congrArg (fun found => found.bind textOf) (lookup_eq (hne "purpose" (by decide)))

end CollibraGovernance.Odcs
