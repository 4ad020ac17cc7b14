import CollibraGovernance.Domain.Impact
import CollibraGovernance.Library.LayeredSearch

/-! The order of explanation paths: a common last step keeps it. -/
namespace CollibraGovernance.Domain
open Library Identity

section PathText
variable {r r' : GraphNodeIdentity} {ss ss' : List ImpactStep}

lemma normalize_stepJson (s : ImpactStep) : (stepJson s).normalize = stepJson s := by
  simp [stepJson, GraphNodeIdentity.normalize_toCanonicalList]

lemma isArray_identity (i : GraphNodeIdentity) : ∃ items, i.toCanonicalList = .arr items := by
  cases i <;> exact ⟨_, rfl⟩

/-- The text of the steps without their separators at the end. -/
def stepsText : List ImpactStep → List Char
  | [] => []
  | s :: rest => (stepJson s).encode ++ Json.encodeItems (rest.map stepJson)

/-- The part of a path's text that a further step leaves in place. -/
def openText (r : GraphNodeIdentity) (ss : List ImpactStep) : List Char :=
  '[' :: (r.toCanonicalList.encode ++ ',' :: '[' :: stepsText ss)

lemma encode_steps (ss : List ImpactStep) :
    (Json.arr (ss.map stepJson)).encode = '[' :: (stepsText ss ++ [']']) := by
  cases ss with
  | nil => rfl
  | cons s rest => simp only [List.map_cons, Json.encode, stepsText, List.append_assoc]

lemma toList_pathSortKey : (pathSortKey r ss).toList = openText r ss ++ [']', ']'] := by
  have hnormal : (Json.arr [r.toCanonicalList, .arr (ss.map stepJson)]).normalize =
      .arr [r.toCanonicalList, .arr (ss.map stepJson)] := by
    have hsteps : (ss.map stepJson).map Json.normalize = ss.map stepJson := by
      rw [List.map_map]
      exact List.map_congr_left (fun s _ => normalize_stepJson s)
    simp only [Json.normalize_arr, List.map_cons, List.map_nil,
      GraphNodeIdentity.normalize_toCanonicalList, hsteps]
  rw [pathSortKey, Json.canonicalJson, hnormal, String.toList_ofList]
  simp only [Json.encode, Json.encodeItems, encode_steps, openText, List.append_assoc,
    List.cons_append, List.nil_append, List.append_nil]

lemma encodeItems_append (as bs : List Json) :
    Json.encodeItems (as ++ bs) = Json.encodeItems as ++ Json.encodeItems bs := by
  induction as with
  | nil => rfl
  | cons a as ih => simp only [List.cons_append, Json.encodeItems, ih, List.append_assoc]

/-- A further step is written after what is there. -/
lemma openText_snoc (n : Nat) (e : ImpactStep) : ∃ tail, ∀ r ss, ss.length = n →
    openText r (ss ++ [e]) = openText r ss ++ tail := by
  cases n with
  | zero =>
    refine ⟨(stepJson e).encode, ?_⟩
    intro r ss hss
    rw [List.length_eq_zero_iff.mp hss]
    simp [openText, stepsText, Json.encodeItems]
  | succ n =>
    refine ⟨',' :: (stepJson e).encode, ?_⟩
    intro r ss hss
    cases ss with
    | nil => cases hss
    | cons s rest =>
      simp [openText, stepsText, encodeItems_append, Json.encodeItems]

lemma encodeItems_inj_of_length {as bs : List Json} (ha : ∀ a ∈ as, ∃ items, a = .arr items)
    (hb : ∀ b ∈ bs, ∃ items, b = .arr items) (hlength : as.length = bs.length) {x y : List Char}
    (h : Json.encodeItems as ++ x = Json.encodeItems bs ++ y) : as = bs ∧ x = y := by
  induction as generalizing bs with
  | nil =>
    rw [List.length_eq_zero_iff.mp hlength.symm] at h ⊢
    exact ⟨rfl, h⟩
  | cons a as ih =>
    cases bs with
    | nil => cases hlength
    | cons b bs =>
      obtain ⟨items, rfl⟩ := ha a (List.mem_cons_self ..)
      obtain ⟨items', rfl⟩ := hb b (List.mem_cons_self ..)
      simp only [Json.encodeItems, List.cons_append, List.append_assoc, List.cons.injEq,
        true_and] at h
      obtain ⟨rfl, hrest⟩ := Json.encode_arr_inj h
      obtain ⟨rfl, hxy⟩ := ih (fun a ha' => ha a (List.mem_cons_of_mem _ ha'))
        (fun b hb' => hb b (List.mem_cons_of_mem _ hb')) (by simpa using hlength) hrest
      exact ⟨rfl, hxy⟩

/-- Texts of equally long paths do not begin with one another. -/
lemma openText_eq_of_append (hlength : ss.length = ss'.length) {x : List Char}
    (h : openText r ss ++ x = openText r' ss') : openText r ss = openText r' ss' := by
  have hx : openText r ss ++ x = openText r' ss' ++ [] := by rw [h, List.append_nil]
  simp only [openText, List.cons_append, List.append_assoc, List.cons.injEq, true_and] at hx
  obtain ⟨items, hr⟩ := isArray_identity r
  obtain ⟨items', hr'⟩ := isArray_identity r'
  rw [hr, hr'] at hx
  obtain ⟨hroot, hsteps⟩ := Json.encode_arr_inj hx
  simp only [List.cons.injEq, true_and] at hsteps
  have hxnil : x = [] := by
    cases ss with
    | nil =>
      rw [List.length_eq_zero_iff.mp hlength.symm] at hsteps
      simpa [stepsText] using hsteps
    | cons s rest =>
      cases ss' with
      | nil => cases hlength
      | cons s' rest' =>
        simp only [stepsText, List.append_assoc] at hsteps
        obtain ⟨-, hrest⟩ := Json.encode_arr_inj hsteps
        have harr : ∀ l : List ImpactStep, ∀ a ∈ l.map stepJson, ∃ items, a = Json.arr items := by
          intro l a ha
          obtain ⟨s, -, rfl⟩ := List.mem_map.mp ha
          exact ⟨_, rfl⟩
        exact (encodeItems_inj_of_length (harr rest) (harr rest') (by simpa using hlength) hrest).2
  rw [← h, hxnil, List.append_nil]

/-- Equally long paths compare the same way after a common last step. -/
theorem pathSortKey_snoc_le (e : ImpactStep) (hlength : ss.length = ss'.length)
    (h : pathSortKey r ss ≤ pathSortKey r' ss') :
    pathSortKey r (ss ++ [e]) ≤ pathSortKey r' (ss' ++ [e]) := by
  obtain ⟨tail, htail⟩ := openText_snoc ss.length e
  rw [String.le_iff_toList_le, toList_pathSortKey, toList_pathSortKey] at h ⊢
  rw [htail r ss rfl, htail r' ss' hlength.symm, List.append_assoc, List.append_assoc]
  by_cases heq : openText r ss = openText r' ss'
  · rw [heq]
  · have hu : ¬ openText r ss <+: openText r' ss' := by
      rintro ⟨x, hx⟩
      exact heq (openText_eq_of_append hlength hx)
    have hv : ¬ openText r' ss' <+: openText r ss := by
      rintro ⟨x, hx⟩
      exact heq (openText_eq_of_append hlength.symm hx).symm
    have hlt : openText r ss < openText r' ss' := by
      rw [← append_lt_append_iff hu hv [']', ']'] [']', ']']]
      refine lt_of_le_of_ne h ?_
      intro hsame
      exact heq (List.append_cancel_right hsame)
    exact le_of_lt ((append_lt_append_iff hu hv _ _).mpr hlt)

end PathText
end CollibraGovernance.Domain
