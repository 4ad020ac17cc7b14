import CollibraGovernance.Comparison.Projection

/-! What the first pass accepts, and what it has recorded when it reports no error. -/
namespace CollibraGovernance.Comparison
open Library Domain Snapshots

/-- The objects the steps register, with their raw ids. -/
def registrations : List Step → List (String × ComparableObject)
  | [] => []
  | .check _ _ :: rest => registrations rest
  | .register rawId object :: rest => (rawId, object) :: registrations rest

def ChecksHold : List Step → Prop
  | [] => True
  | .check holds _ :: rest => holds = true ∧ ChecksHold rest
  | .register _ _ :: rest => ChecksHold rest

lemma registrations_append (xs ys : List Step) :
    registrations (xs ++ ys) = registrations xs ++ registrations ys := by
  induction xs with
  | nil => rfl
  | cons x xs ih => cases x <;> simp [registrations, ih]

lemma registrations_flatMap {α : Type} (xs : List α) (f : α → List Step) :
    registrations (xs.flatMap f) = xs.flatMap (fun x => registrations (f x)) := by
  induction xs with
  | nil => rfl
  | cons x xs ih => rw [List.flatMap_cons, registrations_append, ih, List.flatMap_cons]

lemma checksHold_append (xs ys : List Step) :
    ChecksHold (xs ++ ys) ↔ ChecksHold xs ∧ ChecksHold ys := by
  induction xs with
  | nil => simp [ChecksHold]
  | cons x xs ih => cases x <;> simp [ChecksHold, ih, and_assoc]

lemma checksHold_flatMap {α : Type} (xs : List α) (f : α → List Step) :
    ChecksHold (xs.flatMap f) ↔ ∀ x ∈ xs, ChecksHold (f x) := by
  induction xs with
  | nil => simp [ChecksHold]
  | cons x xs ih => rw [List.flatMap_cons, checksHold_append, ih, List.forall_mem_cons]

/-- Nothing but the listed objects is recorded, and no error. -/
structure Recorded (s : Registered) (regs : List (String × ComparableObject)) : Prop where
  errors : s.errors = []
  raw : s.rawToIdentity.entries = regs.map (fun r => (r.1, r.2.objectIdentity))
  identities : s.identityToRaw.entries = regs.map (fun r => (r.2.objectIdentity, r.1))
  objects : s.objects.entries = regs.map (fun r => (r.2.objectIdentity, r.2))

/-- Raw ids are told apart, and so are identities. -/
def Distinct (regs : List (String × ComparableObject)) : Prop :=
  (regs.map Prod.fst).Nodup ∧ (regs.map (fun r => r.2.objectIdentity)).Nodup

section Run
variable {side : String}

lemma errors_runStep {s : Registered} (x : Step) (h : s.errors ≠ []) : (runStep side s x).errors ≠ [] := by
  cases x with
  | check holds error =>
    rw [runStep]
    split_ifs
    · exact h
    · simp [Registered.fail]
  | register rawId object =>
    rw [runStep, register]
    split_ifs
    · simp [Registered.fail]
    · simp [Registered.fail]
    · exact h

/-- An error is never taken back. -/
lemma errors_run {s : Registered} (xs : List Step) (h : s.errors ≠ []) :
    (xs.foldl (runStep side) s).errors ≠ [] := by
  induction xs generalizing s with
  | nil => exact h
  | cons x xs ih => exact ih (errors_runStep x h)

lemma recorded_empty : Recorded .empty [] := ⟨rfl, rfl, rfl, rfl⟩

lemma Recorded.mem_raw {s : Registered} {regs : List (String × ComparableObject)} (h : Recorded s regs)
    (rawId : String) : s.rawToIdentity.contains rawId = true ↔ rawId ∈ regs.map Prod.fst := by
  rw [Dict.contains_iff, Dict.keys, h.raw, List.map_map]
  rfl

lemma Recorded.mem_identities {s : Registered} {regs : List (String × ComparableObject)}
    (h : Recorded s regs) (i : ComparisonObjectIdentity) :
    s.identityToRaw.contains i = true ↔ i ∈ regs.map (fun r => r.2.objectIdentity) := by
  rw [Dict.contains_iff, Dict.keys, h.identities, List.map_map]
  rfl

lemma Recorded.distinct {s : Registered} {regs : List (String × ComparableObject)}
    (h : Recorded s regs) : Distinct regs := by
  have hraw := s.rawToIdentity.nodup
  have hidentities := s.identityToRaw.nodup
  rw [h.raw, List.map_map] at hraw
  rw [h.identities, List.map_map] at hidentities
  exact ⟨hraw, hidentities⟩

/-- A new object is recorded behind the others. -/
lemma Recorded.register {s : Registered} {regs : List (String × ComparableObject)} (h : Recorded s regs)
    {rawId : String} {object : ComparableObject} (hraw : rawId ∉ regs.map Prod.fst)
    (hidentity : object.objectIdentity ∉ regs.map (fun r => r.2.objectIdentity)) :
    Recorded (register side s rawId object) (regs ++ [(rawId, object)]) := by
  have hr : rawId ∉ s.rawToIdentity.keys := by
    rwa [← Dict.contains_iff, h.mem_raw]
  have hi : object.objectIdentity ∉ s.identityToRaw.keys := by
    rwa [← Dict.contains_iff, h.mem_identities]
  have ho : object.objectIdentity ∉ s.objects.keys := by
    rwa [Dict.keys, h.objects, List.map_map]
  rw [Comparison.register, if_neg (mt Dict.contains_iff.mp hr), if_neg (mt Dict.contains_iff.mp hi)]
  refine ⟨h.errors, ?_, ?_, ?_⟩
  · rw [Dict.entries_set_of_notMem _ hr, h.raw, List.map_append]
    rfl
  · rw [Dict.entries_set_of_notMem _ hi, h.identities, List.map_append]
    rfl
  · rw [Dict.entries_set_of_notMem _ ho, h.objects, List.map_append]
    rfl

/-- The first pass reports nothing exactly when every check holds and nothing is registered twice. -/
theorem run_errors_iff {s : Registered} {regs : List (String × ComparableObject)} (h : Recorded s regs)
    (xs : List Step) : (xs.foldl (runStep side) s).errors = [] ↔
      ChecksHold xs ∧ Distinct (regs ++ registrations xs) := by
  induction xs generalizing s regs with
  | nil => simp [ChecksHold, registrations, h.errors, h.distinct]
  | cons x xs ih =>
    rw [List.foldl_cons]
    cases x with
    | check holds error =>
      cases holds with
      | true => simpa [runStep, ChecksHold, registrations] using ih h
      | false =>
        have hfail : (runStep side s (.check false error)).errors ≠ [] := by
          simp [runStep, Registered.fail]
        simp [ChecksHold, errors_run xs hfail]
    | register rawId object =>
      by_cases hraw : rawId ∈ regs.map Prod.fst
      · have hfail : (runStep side s (.register rawId object)).errors ≠ [] := by
          rw [runStep, Comparison.register, if_pos ((h.mem_raw _).mpr hraw)]
          simp [Registered.fail]
        simp only [errors_run xs hfail, false_iff, registrations, Distinct, List.map_append,
          List.map_cons]
        rintro ⟨-, hnodup, -⟩
        exact (List.nodup_append.mp hnodup).2.2 _ hraw _ (List.mem_cons_self ..) rfl
      · by_cases hidentity : object.objectIdentity ∈ regs.map (fun r => r.2.objectIdentity)
        · have hfail : (runStep side s (.register rawId object)).errors ≠ [] := by
            rw [runStep, Comparison.register, if_neg (mt (h.mem_raw _).mp hraw),
              if_pos ((h.mem_identities _).mpr hidentity)]
            simp [Registered.fail]
          simp only [errors_run xs hfail, false_iff, registrations, Distinct, List.map_append,
            List.map_cons]
          rintro ⟨-, -, hnodup⟩
          exact (List.nodup_append.mp hnodup).2.2 _ hidentity _ (List.mem_cons_self ..) rfl
        · rw [runStep, ih (h.register hraw hidentity), ChecksHold, registrations, List.append_assoc,
            List.singleton_append]

/-- What the first pass has recorded when it reports nothing. -/
theorem run_recorded {s : Registered} {regs : List (String × ComparableObject)} (h : Recorded s regs)
    (xs : List Step) (herrors : (xs.foldl (runStep side) s).errors = []) :
    Recorded (xs.foldl (runStep side) s) (regs ++ registrations xs) := by
  induction xs generalizing s regs with
  | nil => rwa [registrations, List.append_nil]
  | cons x xs ih =>
    rw [List.foldl_cons] at herrors ⊢
    have hstep : (runStep side s x).errors = [] := by
      by_contra hne
      exact errors_run xs hne herrors
    cases x with
    | check holds error =>
      cases holds with
      | true => simpa [runStep, registrations] using ih h (by simpa [runStep] using herrors)
      | false => simp [runStep, Registered.fail] at hstep
    | register rawId object =>
      have hraw : rawId ∉ regs.map Prod.fst := by
        intro hmem
        rw [runStep, Comparison.register, if_pos ((h.mem_raw _).mpr hmem)] at hstep
        simp [Registered.fail] at hstep
      have hidentity : object.objectIdentity ∉ regs.map (fun r => r.2.objectIdentity) := by
        intro hmem
        rw [runStep, Comparison.register, if_neg (mt (h.mem_raw _).mp hraw),
          if_pos ((h.mem_identities _).mpr hmem)] at hstep
        simp [Registered.fail] at hstep
      have hrest := ih (h.register hraw hidentity) herrors
      rwa [List.append_assoc, List.singleton_append] at hrest

end Run
end CollibraGovernance.Comparison
