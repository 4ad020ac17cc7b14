import CollibraGovernance.Library.Text
import Mathlib.Data.List.Nodup
import Mathlib.Data.String.Basic

/-! When two names read the same once they are joined to what stands before them. -/
namespace CollibraGovernance.Library

/-- A path and a name below it, joined by a slash. -/
def joined (path name : String) : String := path ++ "/" ++ name

/-- The name of the first pair starts with what the path of the second has more. -/
def Straddles (path name path' name' : String) : Prop :=
  ∃ middle, path' = joined path middle ∧ name = joined middle name'

lemma toList_joined (path name : String) :
    (joined path name).toList = path.toList ++ '/' :: name.toList := by
  simp [joined]

lemma joined_assoc (a b c : String) : joined (joined a b) c = joined a (joined b c) := by
  simp [joined, String.append_assoc]

lemma append_joined (kind mark path name : String) :
    kind ++ joined (mark ++ path) name = kind ++ mark ++ joined path name := by
  simp only [joined, String.append_assoc]

/-- Joined texts are equal when the parts are, or when one name straddles the other path. -/
theorem joined_eq_joined_iff {path name path' name' : String} :
    joined path name = joined path' name' ↔ (path = path' ∧ name = name') ∨
      Straddles path name path' name' ∨ Straddles path' name' path name := by
  constructor
  · intro h
    have hlist := congrArg String.toList h
    rw [toList_joined, toList_joined, List.append_eq_append_iff] at hlist
    have hpart : ∀ {p n p' n' : String}, (∃ more, p'.toList = p.toList ++ more ∧
        '/' :: n.toList = more ++ '/' :: n'.toList) →
        (p = p' ∧ n = n') ∨ Straddles p n p' n' := by
      rintro p n p' n' ⟨more, hp, hn⟩
      cases more with
      | nil =>
        rw [List.append_nil] at hp
        rw [List.nil_append] at hn
        exact Or.inl ⟨(String.toList_inj.mp hp).symm, String.toList_inj.mp (List.cons.inj hn).2⟩
      | cons c middle =>
        obtain ⟨rfl, hname⟩ := List.cons.inj hn
        have hname : n.toList = middle ++ '/' :: n'.toList := hname
        refine Or.inr ⟨String.ofList middle, ?_, ?_⟩
        · rw [← String.toList_inj, toList_joined, String.toList_ofList, hp]
        · rw [← String.toList_inj, toList_joined, String.toList_ofList, hname]
    cases hlist with
    | inl h =>
      cases hpart h with
      | inl h => exact Or.inl h
      | inr h => exact Or.inr (Or.inl h)
    | inr h =>
      cases hpart h with
      | inl h => exact Or.inl ⟨h.1.symm, h.2.symm⟩
      | inr h => exact Or.inr (Or.inr h)
  · rintro (⟨rfl, rfl⟩ | ⟨middle, rfl, rfl⟩ | ⟨middle, rfl, rfl⟩)
    · rfl
    · rw [joined_assoc]
    · rw [joined_assoc]

/-- Below one path names are told apart. -/
theorem joined_inj {path name name' : String} : joined path name = joined path name' ↔ name = name' := by
  rw [joined, joined, String.append_right_inj]

/-- A name without a slash straddles nothing. -/
theorem not_straddles {path name path' name' : String} (h : '/' ∉ name.toList) :
    ¬ Straddles path name path' name' := by
  rintro ⟨middle, -, rfl⟩
  rw [toList_joined] at h
  exact h (List.mem_append_right _ (List.mem_cons_self ..))

lemma length_strip_le (s : String) : (strip s).toList.length ≤ s.toList.length := by
  rw [strip, String.toList_ofList, List.length_reverse]
  refine (List.dropWhile_suffix _).length_le.trans ?_
  rw [List.length_reverse]
  exact (List.dropWhile_suffix _).length_le

lemma strip_eq_self_of_length {s : String} (h : (strip s).toList.length = s.toList.length) :
    strip s = s := by
  have hsub : (strip s).toList.Sublist s.toList := by
    rw [strip, String.toList_ofList]
    have hright := (List.dropWhile_suffix isSpace (l := (s.toList.dropWhile isSpace).reverse)).sublist.reverse
    rw [List.reverse_reverse] at hright
    exact hright.trans (List.dropWhile_suffix _).sublist
  exact String.toList_inj.mp (hsub.eq_of_length h)

/-- Two names joined without the white space around them give the same text only when there is none. -/
theorem joined_strip_eq_iff {path name : String} :
    joined (strip path) (strip name) = joined path name ↔ strip path = path ∧ strip name = name := by
  constructor
  · intro h
    have hlength := congrArg (fun s => s.toList.length) h
    simp only [toList_joined, List.length_append, List.length_cons] at hlength
    have hpath := length_strip_le path
    have hname := length_strip_le name
    exact ⟨strip_eq_self_of_length (by omega), strip_eq_self_of_length (by omega)⟩
  · rintro ⟨hpath, hname⟩
    rw [hpath, hname]

/-- No name straddles its own path. -/
theorem not_straddles_self (path name : String) : ¬ Straddles path name path name := by
  rintro ⟨middle, hpath, -⟩
  have hlength := congrArg (fun s => s.toList.length) hpath
  simp only [toList_joined, List.length_append, List.length_cons] at hlength
  omega

section Listed
variable {α : Type*} {path name : α → String} {xs : List α}

/-- No name of the list straddles the path of another. -/
def Unambiguous (path name : α → String) (xs : List α) : Prop :=
  ∀ x ∈ xs, ∀ y ∈ xs, ¬ Straddles (path x) (name x) (path y) (name y)

/-- Joined texts of elements told apart by path and name are distinct when nothing is straddled. -/
theorem joined_nodup_iff (hnodup : xs.Nodup)
    (hparts : ∀ x ∈ xs, ∀ y ∈ xs, path x = path y → name x = name y → x = y) :
    (xs.map (fun x => joined (path x) (name x))).Nodup ↔ Unambiguous path name xs := by
  rw [List.nodup_map_iff_inj_on hnodup]
  constructor
  · intro hinj x hx y hy hstraddles
    have hxy := hinj x hx y hy (joined_eq_joined_iff.mpr (Or.inr (Or.inl hstraddles)))
    subst hxy
    exact not_straddles_self _ _ hstraddles
  · intro hfree x hx y hy hjoined
    rcases joined_eq_joined_iff.mp hjoined with ⟨hpath, hname⟩ | hstraddles | hstraddles
    · exact hparts x hx y hy hpath hname
    · exact absurd hstraddles (hfree x hx y hy)
    · exact absurd hstraddles (hfree y hy x hx)

theorem unambiguous_of_notMem (h : ∀ x ∈ xs, '/' ∉ (name x).toList) : Unambiguous path name xs :=
  fun x hx _ _ => not_straddles (h x hx)

end Listed

section Kinds
variable {α κ : Type*} {kind : α → κ}

/-- Picking the elements of each listed kind in turn picks the elements of listed kinds. -/
theorem flatMap_filter_kind_perm [DecidableEq κ] {kinds : List κ} (h : kinds.Nodup) (xs : List α) :
    (kinds.flatMap (fun k => xs.filter (fun x => kind x = k))).Perm
      (xs.filter (fun x => kind x ∈ kinds)) := by
  induction kinds with
  | nil => simp
  | cons k kinds ih =>
    obtain ⟨hk, hkinds⟩ := List.nodup_cons.mp h
    rw [List.flatMap_cons]
    refine ((ih hkinds).append_left _).trans ?_
    refine List.Perm.trans ?_ (List.filter_append_perm (fun x => kind x = k) _)
    rw [List.filter_filter, List.filter_filter]
    refine .of_eq (congrArg₂ _ (List.filter_congr ?_) (List.filter_congr ?_))
    · intro x _
      by_cases hx : kind x = k <;> simp [hx]
    · intro x _
      by_cases hx : kind x = k <;> simp [hx, hk]

/-- Lists of different kinds are distinct together when each one is. -/
theorem nodup_flatten_kinds {lists : List (κ × List α)} (hkinds : (lists.map Prod.fst).Nodup)
    (hkind : ∀ e ∈ lists, ∀ x ∈ e.2, kind x = e.1) :
    (lists.map Prod.snd).flatten.Nodup ↔ ∀ e ∈ lists, e.2.Nodup := by
  have hdisjoint : (lists.map Prod.snd).Pairwise List.Disjoint := by
    rw [List.pairwise_map]
    rw [List.Nodup, List.pairwise_map] at hkinds
    refine hkinds.imp_of_mem ?_
    intro e f he hf hne x hxe hxf
    exact hne ((hkind e he x hxe).symm.trans (hkind f hf x hxf))
  rw [List.nodup_flatten, and_iff_left hdisjoint, List.forall_mem_map]

end Kinds
end CollibraGovernance.Library
