import CollibraGovernance.Library.Refusal
import CollibraGovernance.Openlineage.Validate

/-! Where validation stops with an exception of another kind: at a URI that the URL parser refuses. -/
namespace CollibraGovernance.Openlineage
open Library

/-- The exceptions that are no `OpenLineageError`. -/
def IsUncaught : OpenLineageFailure → Prop
  | .uncaught _ => True
  | _ => False

/-- A text that is not blank. -/
def IsText (value : Json) : Prop := ∃ text, value = .str text ∧ isBlank text = false

section Checks

@[simp] lemma not_fails_validationError {α : Type} {path message : String} :
    ¬ Fails IsUncaught (validationError path message : Checked α) := fun h => fails_error.mp h

@[simp] lemma not_fails_requireMapping {value : Json} {path : String} :
    ¬ Fails IsUncaught (requireMapping value path) := by
  cases value <;> first | exact not_fails_ok | exact not_fails_validationError

@[simp] lemma not_fails_requireList {value : Json} {path : String} : ¬ Fails IsUncaught (requireList value path) := by
  cases value <;> first | exact not_fails_ok | exact not_fails_validationError

@[simp] lemma not_fails_requireText {value : Json} {path : String} : ¬ Fails IsUncaught (requireText value path) := by
  cases value with
  | str text =>
    unfold requireText
    dsimp only
    split_ifs
    · exact not_fails_validationError
    · exact not_fails_ok
  | _ => exact not_fails_validationError

@[simp] lemma not_fails_textField {mapping : List (String × Json)} {key path : String} :
    ¬ Fails IsUncaught (textField mapping key path) := not_fails_requireText

@[simp] lemma not_fails_requiredMember {mapping : List (String × Json)} {key path : String} :
    ¬ Fails IsUncaught (requiredMember mapping key path) := by
  unfold requiredMember
  cases Json.lookup mapping key with
  | none => exact not_fails_validationError
  | some value => exact not_fails_ok

@[simp] lemma not_fails_optionalMember {accepts : Json → Bool} {mapping : List (String × Json)}
    {key path message : String} : ¬ Fails IsUncaught (optionalMember accepts mapping key path message) := by
  unfold optionalMember
  cases Json.lookup mapping key with
  | none => exact not_fails_ok
  | some value =>
    dsimp only
    split_ifs
    · exact not_fails_ok
    · exact not_fails_validationError

@[simp] lemma not_fails_optionalText {mapping : List (String × Json)} {key path : String} :
    ¬ Fails IsUncaught (optionalText mapping key path) := not_fails_optionalMember

lemma fails_whenPresent {mapping : List (String × Json)} {key : String} {check : Json → Checked Unit} :
    Fails IsUncaught (whenPresent mapping key check) ↔
      ∃ value, Json.lookup mapping key = some value ∧ Fails IsUncaught (check value) := by
  unfold whenPresent
  cases Json.lookup mapping key with
  | none => exact iff_of_false not_fails_ok (by simp)
  | some value => simp

lemma not_fails_whenPresent {mapping : List (String × Json)} {key : String} {check : Json → Checked Unit}
    (h : ∀ value, ¬ Fails IsUncaught (check value)) : ¬ Fails IsUncaught (whenPresent mapping key check) := by
  rw [fails_whenPresent]
  rintro ⟨value, -, hfails⟩
  exact h value hfails

lemma not_fails_eachItem {path : String} {items : List Json} {check : Json → String → Checked Unit}
    (h : ∀ item path, ¬ Fails IsUncaught (check item path)) : ¬ Fails IsUncaught (eachItem path items check) := by
  unfold eachItem
  rw [fails_forM]
  rintro ⟨_, _, _, -, -, hfails⟩
  exact h _ _ hfails

lemma not_fails_eachMember {path : String} {members : List (String × Json)}
    {check : String → Json → String → Checked Unit} (h : ∀ key value path, ¬ Fails IsUncaught (check key value path)) :
    ¬ Fails IsUncaught (eachMember path members check) := by
  unfold eachMember
  rw [fails_forM]
  rintro ⟨_, _, _, -, -, hfails⟩
  exact h _ _ _ hfails

@[simp] lemma requireMapping_ok {value : Json} {path : String} {members : List (String × Json)} :
    requireMapping value path = .ok members ↔ value = .obj members := by
  cases value <;> simp [requireMapping, validationError]

@[simp] lemma requireList_ok {value : Json} {path : String} {items : List Json} :
    requireList value path = .ok items ↔ value = .arr items := by
  cases value <;> simp [requireList, validationError]

lemma requireText_ok {value : Json} {path text : String} :
    requireText value path = .ok text ↔ value = .str text ∧ isBlank text = false := by
  cases value with
  | str s =>
    unfold requireText
    dsimp only
    split_ifs with hs
    · refine iff_of_false (fun h => by cases h) ?_
      rintro ⟨h, hblank⟩
      cases h
      rw [hs] at hblank
      cases hblank
    · rw [Bool.not_eq_true] at hs
      constructor
      · intro h
        cases h
        exact ⟨rfl, hs⟩
      · rintro ⟨h, -⟩
        cases h
        rfl
  | _ => simp [requireText, validationError]

@[simp] lemma textField_ok {mapping : List (String × Json)} {key path text : String} :
    textField mapping key path = .ok text ↔ Json.get mapping key = .str text ∧ isBlank text = false := requireText_ok

@[simp] lemma requiredMember_ok {mapping : List (String × Json)} {key path : String} {value : Json} :
    requiredMember mapping key path = .ok value ↔ Json.lookup mapping key = some value := by
  unfold requiredMember
  cases Json.lookup mapping key <;> simp [validationError]

end Checks

section Uris
variable (parsers : Parsers)

/-- A text that is not blank, which the URL parser refuses. -/
def UriFault (value : Json) : Prop :=
  ∃ text, value = .str text ∧ isBlank text = false ∧ parsers.urlScheme (strip text) = none

/-- A text with a scheme. -/
def IsUri (value : Json) : Prop :=
  ∃ text scheme, value = .str text ∧ isBlank text = false ∧ parsers.urlScheme (strip text) = some scheme ∧ scheme ≠ ""

lemma fails_requireUriString {value : Json} {path : String} :
    Fails IsUncaught (requireUriString parsers value path) ↔ UriFault parsers value := by
  unfold requireUriString UriFault
  rw [fails_bind]
  simp only [not_fails_requireText, false_or, requireText_ok, and_assoc]
  apply exists_congr
  intro text
  apply and_congr_right
  intro _
  apply and_congr_right
  intro _
  cases parsers.urlScheme (strip text) with
  | none => exact iff_of_true (fails_error.mpr trivial) rfl
  | some scheme =>
    dsimp only
    split_ifs <;> simp

lemma requireUriString_ok {value : Json} {path text : String} :
    requireUriString parsers value path = .ok text ↔ value = .str text ∧ IsUri parsers value := by
  unfold requireUriString IsUri
  rw [bind_eq_ok]
  constructor
  · rintro ⟨text', htext, h⟩
    obtain ⟨rfl, hblank⟩ := requireText_ok.mp htext
    cases hscheme : parsers.urlScheme (strip text') with
    | none =>
      rw [hscheme] at h
      cases h
    | some scheme =>
      rw [hscheme] at h
      dsimp only at h
      split_ifs at h with hempty
      · cases h
      · cases h
        exact ⟨rfl, text, scheme, rfl, hblank, hscheme, hempty⟩
  · rintro ⟨hvalue, text', scheme, htext, hblank, hscheme, hne⟩
    subst hvalue
    injection htext with htext
    subst htext
    refine ⟨text, requireText_ok.mpr ⟨rfl, hblank⟩, ?_⟩
    rw [hscheme]
    exact if_neg hne

lemma exists_requireUriString {value : Json} {path : String} :
    (∃ text, requireUriString parsers value path = .ok text) ↔ IsUri parsers value := by
  simp only [requireUriString_ok, exists_and_right, and_iff_right_iff_imp]
  rintro ⟨text, -, h, -⟩
  exact ⟨text, h⟩

end Uris

section Facets

mutual
lemma not_fails_schemaFields {path : String} : ∀ j, ¬ Fails IsUncaught (validateSchemaFields path j)
  | .arr items => by
    rw [validateSchemaFields]
    exact not_fails_eachField items
  | .null => not_fails_validationError
  | .bool _ => not_fails_validationError
  | .int _ => not_fails_validationError
  | .float _ => not_fails_validationError
  | .str _ => not_fails_validationError
  | .obj _ => not_fails_validationError

lemma not_fails_eachField {path : String} {seen : List String} {index : Nat} :
    ∀ items, ¬ Fails IsUncaught (validateEachField path seen index items)
  | [] => not_fails_ok
  | j :: js => by
    rw [validateEachField]
    exact not_fails_bind (not_fails_field j) fun _ => not_fails_eachField js

lemma not_fails_field {path : String} {seen : List String} :
    ∀ j, ¬ Fails IsUncaught (validateField path seen j)
  | .obj mapping => by
    rw [validateField]
    refine not_fails_bind ?_ fun name => not_fails_bind (not_fails_fieldsMember mapping) fun _ => not_fails_pure
    unfold fieldName
    refine not_fails_bind not_fails_textField fun name => ?_
    split_ifs
    · exact not_fails_validationError
    · exact not_fails_bind not_fails_optionalText fun _ =>
        not_fails_bind not_fails_optionalText fun _ => not_fails_pure
  | .null => not_fails_validationError
  | .bool _ => not_fails_validationError
  | .int _ => not_fails_validationError
  | .float _ => not_fails_validationError
  | .str _ => not_fails_validationError
  | .arr _ => not_fails_validationError

lemma not_fails_fieldsMember {path : String} : ∀ members, ¬ Fails IsUncaught (validateFieldsMember path members)
  | [] => not_fails_ok
  | (k, v) :: rest => by
    rw [validateFieldsMember]
    split_ifs
    · exact not_fails_schemaFields v
    · exact not_fails_fieldsMember rest
end

lemma not_fails_deletion {facet : List (String × Json)} {path : String} :
    ¬ Fails IsUncaught (validateDeletion facet path) := by
  refine not_fails_whenPresent fun value => ?_
  split
  · exact not_fails_ok
  · exact not_fails_validationError
  · exact not_fails_validationError

lemma not_fails_namedItems {facet : List (String × Json)} {key first second path : String} :
    ¬ Fails IsUncaught (validateNamedItems facet key first second path) :=
  not_fails_bind not_fails_requiredMember fun _ => not_fails_bind not_fails_requireList fun _ =>
    not_fails_eachItem fun _ _ => not_fails_bind not_fails_requireMapping fun _ =>
      not_fails_bind not_fails_textField fun _ => not_fails_bind not_fails_textField fun _ => not_fails_pure

lemma not_fails_facetBody {key : FacetKey} {facet : List (String × Json)} {path : String} :
    ¬ Fails IsUncaught (validateFacetBody key facet path) := by
  cases key with
  | schema => exact not_fails_whenPresent fun value => not_fails_schemaFields value
  | hierarchy => exact not_fails_namedItems
  | datasetType => exact not_fails_bind not_fails_textField fun _ => not_fails_optionalText
  | storage => exact not_fails_bind not_fails_textField fun _ => not_fails_optionalText
  | ownership => exact not_fails_namedItems

lemma not_fails_inputField {value : Json} {path : String} :
    ¬ Fails IsUncaught (validateColumnLineageInputField value path) :=
  not_fails_bind not_fails_requireMapping fun _ => not_fails_bind not_fails_textField fun _ =>
    not_fails_bind not_fails_textField fun _ => not_fails_bind not_fails_textField fun _ =>
      not_fails_whenPresent fun _ => not_fails_bind not_fails_requireList fun _ =>
        not_fails_eachItem fun _ _ => not_fails_bind not_fails_requireMapping fun _ =>
          not_fails_bind not_fails_textField fun _ => not_fails_bind not_fails_optionalText fun _ =>
            not_fails_bind not_fails_optionalText fun _ => not_fails_optionalMember

lemma not_fails_lineageField {name : String} {value : Json} {path : String} :
    ¬ Fails IsUncaught (validateLineageField name value path) := by
  unfold validateLineageField
  split_ifs
  · exact not_fails_validationError
  · exact not_fails_bind not_fails_requireMapping fun _ => not_fails_bind not_fails_requiredMember fun _ =>
      not_fails_bind not_fails_requireList fun _ => not_fails_bind (not_fails_eachItem fun _ _ => not_fails_inputField)
        fun _ => not_fails_bind not_fails_optionalText fun _ => not_fails_optionalText

lemma not_fails_lineageBody {facet : List (String × Json)} {path : String} :
    ¬ Fails IsUncaught (validateLineageBody facet path) :=
  not_fails_bind not_fails_deletion fun _ => not_fails_bind not_fails_requiredMember fun _ =>
    not_fails_bind not_fails_requireMapping fun _ => not_fails_bind
      (not_fails_eachMember fun _ _ _ => not_fails_lineageField) fun _ => not_fails_whenPresent fun _ =>
        not_fails_bind not_fails_requireList fun _ => not_fails_eachItem fun _ _ => not_fails_inputField

end Facets

section Faults
variable (parsers : Parsers)

lemma fails_eachItem {path : String} {items : List Json} {check : Json → String → Checked Unit} :
    Fails IsUncaught (eachItem path items check) ↔
      FirstFault (fun e : Json × Nat => check e.1 (pointerAt path e.2))
        (fun e => Fails IsUncaught (check e.1 (pointerAt path e.2))) items.zipIdx := fails_forM

lemma fails_eachMember {path : String} {members : List (String × Json)}
    {check : String → Json → String → Checked Unit} :
    Fails IsUncaught (eachMember path members check) ↔
      FirstFault (fun m => check m.1 m.2 (pointer path m.1))
        (fun m => Fails IsUncaught (check m.1 m.2 (pointer path m.1))) members := fails_forM

/-- The producer of a facet is refused by the URL parser, or it is a URI and the schema URL is refused. -/
def HeadFault (facet : List (String × Json)) : Prop :=
  UriFault parsers (Json.get facet "_producer") ∨
    (IsUri parsers (Json.get facet "_producer") ∧ UriFault parsers (Json.get facet "_schemaURL"))

lemma fails_head {α : Type} {facet : List (String × Json)} {path : String} {rest : String → Checked α}
    (h : ∀ url, ¬ Fails IsUncaught (rest url)) :
    Fails IsUncaught (do
      let _ ← requireUriString parsers (Json.get facet "_producer") (pointer path "_producer")
      let schemaUrl ← requireUriString parsers (Json.get facet "_schemaURL") (pointer path "_schemaURL")
      rest schemaUrl) ↔ HeadFault parsers facet := by
  rw [fails_bind, fails_requireUriString, HeadFault]
  apply or_congr Iff.rfl
  simp only [fails_bind, fails_requireUriString, exists_and_right, exists_requireUriString]
  apply and_congr_right
  intro _
  apply or_iff_left
  rintro ⟨url, -, hfails⟩
  exact h url hfails

/-- A facet that is checked, with a fault in its head. -/
def FacetFault (m : String × Json) : Prop :=
  (m.1 = "columnLineage" ∨ (FacetKey.parse m.1).isSome = true) ∧ ∃ facet, m.2 = .obj facet ∧ HeadFault parsers facet

lemma fails_supportedFacet {key : FacetKey} {facet : List (String × Json)} {path : String} :
    Fails IsUncaught (validateSupportedFacet parsers key facet path) ↔ HeadFault parsers facet := by
  unfold validateSupportedFacet
  exact fails_head parsers fun _ => not_fails_bind not_fails_deletion fun _ => not_fails_facetBody

lemma fails_columnLineageFacet {facet : List (String × Json)} {path : String} :
    Fails IsUncaught (validateColumnLineageFacet parsers facet path) ↔ HeadFault parsers facet := by
  unfold validateColumnLineageFacet
  refine fails_head parsers fun url => ?_
  split_ifs
  · exact not_fails_validationError
  · exact not_fails_lineageBody

lemma fails_datasetFacet {key : String} {facet : Json} {path : String} :
    Fails IsUncaught (validateDatasetFacet parsers key facet path) ↔ FacetFault parsers (key, facet) := by
  unfold validateDatasetFacet FacetFault
  rw [fails_bind]
  simp only [not_fails_requireMapping, false_or, requireMapping_ok]
  rw [and_comm, ← exists_and_right]
  apply exists_congr
  intro members
  rw [and_assoc]
  apply and_congr_right
  intro _
  split_ifs with hkey
  · rw [fails_columnLineageFacet]
    simp [hkey]
  · cases hparse : FacetKey.parse key with
    | none => simp [hkey]
    | some facetKey => simp [hkey, fails_supportedFacet]

/-- A dataset whose first facet that does not validate has a fault in its head. -/
def DatasetFault (dataset : Json) (path : String) : Prop :=
  ∃ mapping facets, dataset = .obj mapping ∧ IsText (Json.get mapping "namespace") ∧
    IsText (Json.get mapping "name") ∧ Json.lookup mapping "facets" = some (.obj facets) ∧
    FirstFault (fun m => validateDatasetFacet parsers m.1 m.2 (pointer (pointer path "facets") m.1))
      (FacetFault parsers) facets

lemma not_fails_optionalMapping {mapping : List (String × Json)} {key path : String} :
    ¬ Fails IsUncaught (optionalMapping mapping key path) :=
  not_fails_whenPresent fun _ => not_fails_bind not_fails_requireMapping fun _ => not_fails_pure

lemma fails_datasetFacets {facets : Json} {path : String} :
    Fails IsUncaught (validateDatasetFacets parsers facets path) ↔
      ∃ members, facets = .obj members ∧
        FirstFault (fun m => validateDatasetFacet parsers m.1 m.2 (pointer path m.1)) (FacetFault parsers) members := by
  unfold validateDatasetFacets
  rw [fails_bind]
  simp only [not_fails_requireMapping, false_or, requireMapping_ok, fails_eachMember, fails_datasetFacet]

lemma fails_dataset {dataset : Json} {path : String} :
    Fails IsUncaught (validateDataset parsers dataset path) ↔ DatasetFault parsers dataset path := by
  unfold validateDataset DatasetFault
  rw [fails_bind]
  simp only [not_fails_requireMapping, false_or, requireMapping_ok]
  apply exists_congr
  intro mapping
  rw [fails_bind]
  simp only [not_fails_textField, false_or, fails_bind, fails_whenPresent, fails_datasetFacets,
    not_fails_optionalMapping, and_false, exists_false, or_false, textField_ok, exists_and_right, exists_and_left]
  constructor
  · rintro ⟨rfl, hnamespace, hname, _, hfacets, members, rfl, hfault⟩
    exact ⟨rfl, hnamespace, hname, members, hfacets, hfault⟩
  · rintro ⟨rfl, hnamespace, hname, members, hfacets, hfault⟩
    exact ⟨rfl, hnamespace, hname, _, hfacets, members, rfl, hfault⟩

/-- A list whose first dataset that does not validate has a fault. -/
def DatasetListFault (value : Json) (path : String) : Prop :=
  ∃ items, value = .arr items ∧
    FirstFault (fun e : Json × Nat => validateDataset parsers e.1 (pointerAt path e.2))
      (fun e => DatasetFault parsers e.1 (pointerAt path e.2)) items.zipIdx

lemma fails_datasetList {value : Json} {path : String} :
    Fails IsUncaught (validateDatasetList parsers value path) ↔ DatasetListFault parsers value path := by
  unfold validateDatasetList DatasetListFault
  rw [fails_bind]
  simp only [not_fails_requireList, false_or, requireList_ok, fails_eachItem, fails_dataset]

/-- A fault in the list under a key. -/
def ListedFault (event : List (String × Json)) (key path : String) : Prop :=
  ∃ value, Json.lookup event key = some value ∧ DatasetListFault parsers value (pointer path key)

/-- The inputs have a fault, or they validate and the outputs have one. -/
def InputsOutputsFault (event : List (String × Json)) (path : String) : Prop :=
  ListedFault parsers event "inputs" path ∨
    (whenPresent event "inputs" (fun value => validateDatasetList parsers value (pointer path "inputs")) = .ok () ∧
      ListedFault parsers event "outputs" path)

lemma fails_inputsOutputs {event : List (String × Json)} {path : String} :
    Fails IsUncaught (validateInputsOutputs parsers event path) ↔ InputsOutputsFault parsers event path := by
  unfold validateInputsOutputs InputsOutputsFault ListedFault
  simp only [fails_bind, fails_whenPresent, fails_datasetList]
  apply or_congr Iff.rfl
  constructor
  · rintro ⟨⟨⟩, hinputs, houtputs⟩
    exact ⟨hinputs, houtputs⟩
  · rintro ⟨hinputs, houtputs⟩
    exact ⟨(), hinputs, houtputs⟩

/-- The checks of a run event before its inputs. -/
def runPreamble (event : List (String × Json)) (path : String) : Checked Unit := do
  let raw ← requiredMember event "run" path
  let run ← requireMapping raw (pointer path "run")
  let runId ← requiredMember run "runId" (pointer path "run")
  let _ ← requireUuid parsers runId (pointer (pointer path "run") "runId")
  optionalMapping run "facets" (pointer path "run")
  let job ← requiredMember event "job" path
  validateJob job (pointer path "job")
  whenPresent event "eventType" fun eventType => validateEventType eventType (pointer path "eventType")

/-- The checks of a job event before its inputs. -/
def jobPreamble (event : List (String × Json)) (path : String) : Checked Unit := do
  forbiddenMember event "run" path "JobEvent must not include run"
  let job ← requiredMember event "job" path
  validateJob job (pointer path "job")

lemma validateRunEvent_eq {event : List (String × Json)} {path : String} :
    validateRunEvent parsers event path =
      (runPreamble parsers event path >>= fun _ => validateInputsOutputs parsers event path) := by
  simp only [validateRunEvent, runPreamble, bind_assoc]

lemma validateJobEvent_eq {event : List (String × Json)} {path : String} :
    validateJobEvent parsers event path =
      (jobPreamble event path >>= fun _ => validateInputsOutputs parsers event path) := by
  simp only [validateJobEvent, jobPreamble, bind_assoc]

lemma not_fails_validateJob {job : Json} {path : String} : ¬ Fails IsUncaught (validateJob job path) :=
  not_fails_bind not_fails_requireMapping fun _ => not_fails_bind not_fails_textField fun _ =>
    not_fails_bind not_fails_textField fun _ => not_fails_whenPresent fun _ =>
      not_fails_bind not_fails_requireMapping fun _ => not_fails_eachMember fun _ _ _ =>
        not_fails_bind not_fails_requireMapping fun _ => not_fails_pure

lemma not_fails_requireUuid {value : Json} {path : String} :
    ¬ Fails IsUncaught (requireUuid parsers value path) := by
  refine not_fails_bind not_fails_requireText fun text => ?_
  split_ifs
  · exact not_fails_ok
  · exact not_fails_validationError

lemma not_fails_requireEventTime {value : Json} {path : String} :
    ¬ Fails IsUncaught (requireEventTime parsers value path) := by
  refine not_fails_bind not_fails_requireText fun text => ?_
  split_ifs
  · exact not_fails_ok
  · exact not_fails_validationError

lemma not_fails_eventType {value : Json} {path : String} : ¬ Fails IsUncaught (validateEventType value path) := by
  cases value with
  | str text =>
    unfold validateEventType
    dsimp only
    split_ifs
    · exact not_fails_ok
    · exact not_fails_validationError
  | _ => exact not_fails_validationError

lemma not_fails_forbiddenMember {event : List (String × Json)} {key path message : String} :
    ¬ Fails IsUncaught (forbiddenMember event key path message) :=
  not_fails_whenPresent fun _ => not_fails_validationError

lemma not_fails_runPreamble {event : List (String × Json)} {path : String} :
    ¬ Fails IsUncaught (runPreamble parsers event path) :=
  not_fails_bind not_fails_requiredMember fun _ => not_fails_bind not_fails_requireMapping fun _ =>
    not_fails_bind not_fails_requiredMember fun _ => not_fails_bind (not_fails_requireUuid parsers) fun _ =>
      not_fails_bind not_fails_optionalMapping fun _ => not_fails_bind not_fails_requiredMember fun _ =>
        not_fails_bind not_fails_validateJob fun _ => not_fails_whenPresent fun _ => not_fails_eventType

lemma not_fails_jobPreamble {event : List (String × Json)} {path : String} :
    ¬ Fails IsUncaught (jobPreamble event path) :=
  not_fails_bind not_fails_forbiddenMember fun _ => not_fails_bind not_fails_requiredMember fun _ =>
    not_fails_validateJob

/-- A fault in what an event of some kind has besides the common members. -/
def BodyFault (kind : EventKind) (event : List (String × Json)) (path : String) : Prop :=
  match kind with
  | .run => runPreamble parsers event path = .ok () ∧ InputsOutputsFault parsers event path
  | .job => jobPreamble event path = .ok () ∧ InputsOutputsFault parsers event path
  | .dataset => Json.lookup event "run" = none ∧ Json.lookup event "job" = none ∧
      ∃ dataset, Json.lookup event "dataset" = some dataset ∧ DatasetFault parsers dataset (pointer path "dataset")

/-- The checks of an event of some kind. -/
def validateBody (kind : EventKind) (event : List (String × Json)) (path : String) : Checked Unit :=
  match kind with
  | .run => validateRunEvent parsers event path
  | .job => validateJobEvent parsers event path
  | .dataset => validateDatasetEvent parsers event path

lemma fails_after {x : Checked Unit} {y : Checked Unit} (h : ¬ Fails IsUncaught x) :
    Fails IsUncaught (x >>= fun _ => y) ↔ x = .ok () ∧ Fails IsUncaught y := by
  rw [fails_bind]
  constructor
  · rintro (hx | ⟨⟨⟩, hx, hy⟩)
    · exact absurd hx h
    · exact ⟨hx, hy⟩
  · rintro ⟨hx, hy⟩
    exact Or.inr ⟨(), hx, hy⟩

lemma forbiddenMember_ok {event : List (String × Json)} {key path message : String} :
    forbiddenMember event key path message = .ok () ↔ Json.lookup event key = none := by
  unfold forbiddenMember whenPresent
  cases Json.lookup event key <;> simp [validationError]

lemma fails_validateBody {kind : EventKind} {event : List (String × Json)} {path : String} :
    Fails IsUncaught (validateBody parsers kind event path) ↔ BodyFault parsers kind event path := by
  cases kind with
  | run =>
    unfold validateBody BodyFault
    dsimp only
    rw [validateRunEvent_eq, fails_after (not_fails_runPreamble parsers), fails_inputsOutputs]
  | job =>
    unfold validateBody BodyFault
    dsimp only
    rw [validateJobEvent_eq, fails_after not_fails_jobPreamble, fails_inputsOutputs]
  | dataset =>
    unfold validateBody BodyFault validateDatasetEvent
    dsimp only
    rw [fails_after not_fails_forbiddenMember, fails_after not_fails_forbiddenMember, forbiddenMember_ok,
      forbiddenMember_ok, fails_bind]
    simp only [not_fails_requiredMember, false_or, requiredMember_ok, fails_dataset]

/-- The common members up to the producer: a supported schema URL and a time. -/
def HeaderPasses (kind : EventKind) (event : List (String × Json)) (path : String) : Prop :=
  ∃ url time text, Json.lookup event "schemaURL" = some (.str url) ∧ eventKindOf url = some kind ∧
    Json.lookup event "eventTime" = some time ∧
    requireEventTime parsers time (pointer path "eventTime") = .ok text

/-- A fault of an event: at its producer, or in the members of its kind. -/
def EventFault (event : Json) (path : String) : Prop :=
  ∃ mapping kind, event = .obj mapping ∧ HeaderPasses parsers kind mapping path ∧
    ∃ producer, Json.lookup mapping "producer" = some producer ∧
      (UriFault parsers producer ∨ (IsUri parsers producer ∧ BodyFault parsers kind mapping path))

lemma isBlank_of_eventKind {url : String} {kind : EventKind} (h : eventKindOf url = some kind) :
    isBlank url = false := by
  unfold eventKindOf at h
  split_ifs at h with hrun hjob hdataset
  · subst hrun
    decide
  · subst hjob
    decide
  · subst hdataset
    decide

/-- The checks of the producer and of the members of a kind. -/
def validateRest (kind : EventKind) (event : List (String × Json)) (path : String) : Checked Unit := do
  let producer ← requiredMember event "producer" path
  let _ ← requireUriString parsers producer (pointer path "producer")
  validateBody parsers kind event path

lemma fails_validateRest {kind : EventKind} {event : List (String × Json)} {path : String} :
    Fails IsUncaught (validateRest parsers kind event path) ↔
      ∃ producer, Json.lookup event "producer" = some producer ∧
        (UriFault parsers producer ∨ (IsUri parsers producer ∧ BodyFault parsers kind event path)) := by
  unfold validateRest
  rw [fails_bind]
  simp only [not_fails_requiredMember, false_or, requiredMember_ok]
  apply exists_congr
  intro producer
  apply and_congr_right
  intro _
  rw [fails_bind, fails_requireUriString]
  simp only [fails_validateBody, exists_and_right, exists_requireUriString]

/-- An event is validated header first. -/
lemma validateEvent_eq {event : Json} {path : String} :
    validateEvent parsers event path = (do
      let mapping ← requireMapping event path
      let url ← requiredMember mapping "schemaURL" path
      let schemaUrl ← requireText url (pointer path "schemaURL")
      match eventKindOf schemaUrl with
      | none => unsupportedSchemaError (pointer path "schemaURL")
      | some kind => do
        let time ← requiredMember mapping "eventTime" path
        let _ ← requireEventTime parsers time (pointer path "eventTime")
        validateRest parsers kind mapping path
        return mapping) := by
  unfold validateEvent validateBaseEvent
  refine bind_congr fun mapping => ?_
  simp only [bind_assoc]
  refine bind_congr fun url => bind_congr fun schemaUrl => ?_
  cases eventKindOf schemaUrl with
  | none => rfl
  | some kind =>
    simp only [bind_assoc, validateRest, pure_bind]
    cases kind <;> rfl

lemma fails_validateEvent {event : Json} {path : String} :
    Fails IsUncaught (validateEvent parsers event path) ↔ EventFault parsers event path := by
  rw [validateEvent_eq, fails_bind, EventFault]
  simp only [not_fails_requireMapping, false_or, requireMapping_ok]
  apply exists_congr
  intro mapping
  rw [fails_bind]
  simp only [not_fails_requiredMember, false_or, requiredMember_ok]
  constructor
  · rintro ⟨rfl, url, hurl, hread⟩
    rcases fails_bind.mp hread with h | ⟨schemaUrl, htext, h⟩
    · exact absurd h not_fails_requireText
    · obtain ⟨rfl, -⟩ := requireText_ok.mp htext
      cases hkind : eventKindOf schemaUrl with
      | none =>
        rw [hkind] at h
        exact absurd (fails_error.mp h) id
      | some kind =>
        rw [hkind] at h
        dsimp only at h
        rcases fails_bind.mp h with h | ⟨time, htime, h⟩
        · exact absurd h not_fails_requiredMember
        rcases fails_bind.mp h with h | ⟨text, heventTime, h⟩
        · exact absurd h (not_fails_requireEventTime parsers)
        rcases fails_bind.mp h with h | ⟨_, -, h⟩
        · exact ⟨kind, rfl, ⟨schemaUrl, time, text, hurl, hkind, requiredMember_ok.mp htime, heventTime⟩,
            (fails_validateRest parsers).mp h⟩
        · exact absurd h not_fails_pure
  · rintro ⟨kind, rfl, ⟨url, time, text, hurl, hkind, htime, heventTime⟩, hrest⟩
    refine ⟨rfl, _, hurl, ?_⟩
    rw [fails_bind]
    refine Or.inr ⟨url, requireText_ok.mpr ⟨rfl, isBlank_of_eventKind hkind⟩, ?_⟩
    rw [hkind]
    dsimp only
    rw [requiredMember_ok.mpr htime, ok_bind, heventTime, ok_bind, fails_bind]
    exact Or.inl ((fails_validateRest parsers).mpr hrest)

/-- A list of events, not nested too deep, whose first event that does not validate has a fault. -/
def EventsFault (events : Json) : Prop :=
  ∃ items, events = .arr items ∧ Odcs.fitsDepth Odcs.maxJsonTreeDepth events = true ∧
    FirstFault (fun e : Json × Nat => validateEvent parsers e.1 (pointerAt "" e.2))
      (fun e => EventFault parsers e.1 (pointerAt "" e.2)) items.zipIdx

/-- Validation stops with an exception of another kind exactly at a fault. -/
theorem fails_validateOpenlineageEvents {events : Json} :
    Fails IsUncaught (validateOpenlineageEvents parsers events) ↔ EventsFault parsers events := by
  unfold EventsFault
  cases events with
  | arr items =>
    unfold validateOpenlineageEvents
    dsimp only
    cases hdepth : Odcs.fitsDepth Odcs.maxJsonTreeDepth (.arr items) with
    | false => simp
    | true =>
      rw [if_neg (by decide), fails_mapM]
      simp only [fails_validateEvent, Json.arr.injEq, true_and, exists_eq_left']
  | _ => simp [validateOpenlineageEvents]

end Faults

end CollibraGovernance.Openlineage
