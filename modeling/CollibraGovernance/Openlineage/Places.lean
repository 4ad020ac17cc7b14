import CollibraGovernance.Openlineage.Readable

/-! The place at which a value is checked shows in the text of a refusal and in nothing else. -/
namespace CollibraGovernance.Openlineage
open Library Domain

variable {path path' : String}

lemma validationError_place {α : Type} {message message' : String} :
    Agree (validationError path message : Checked α) (validationError path' message') := agree_error

lemma requireMapping_place {value : Json} : Agree (requireMapping value path) (requireMapping value path') := by
  cases value <;> first | exact Agree.refl _ | exact validationError_place

lemma requireList_place {value : Json} : Agree (requireList value path) (requireList value path') := by
  cases value <;> first | exact Agree.refl _ | exact validationError_place

lemma requireText_place {value : Json} : Agree (requireText value path) (requireText value path') := by
  cases value with
  | str text => exact validationError_place.ite (Agree.refl _)
  | _ => exact validationError_place

lemma textField_place {mapping : List (String × Json)} {key : String} :
    Agree (textField mapping key path) (textField mapping key path') := requireText_place

lemma requiredMember_place {mapping : List (String × Json)} {key : String} :
    Agree (requiredMember mapping key path) (requiredMember mapping key path') := by
  unfold requiredMember
  cases Json.lookup mapping key with
  | none => exact validationError_place
  | some value => exact Agree.refl _

lemma whenPresent_place {mapping : List (String × Json)} {key : String} {check check' : Json → Checked Unit}
    (h : ∀ value, Agree (check value) (check' value)) :
    Agree (whenPresent mapping key check) (whenPresent mapping key check') := by
  unfold whenPresent
  cases Json.lookup mapping key with
  | none => exact Agree.refl _
  | some value => exact h value

lemma optionalMember_place {accepts : Json → Bool} {mapping : List (String × Json)} {key message : String} :
    Agree (optionalMember accepts mapping key path message) (optionalMember accepts mapping key path' message) := by
  unfold optionalMember
  cases Json.lookup mapping key with
  | none => exact Agree.refl _
  | some value => exact (Agree.refl _).ite validationError_place

lemma optionalText_place {mapping : List (String × Json)} {key : String} :
    Agree (optionalText mapping key path) (optionalText mapping key path') := optionalMember_place

lemma optionalMapping_place {mapping : List (String × Json)} {key : String} :
    Agree (optionalMapping mapping key path) (optionalMapping mapping key path') :=
  whenPresent_place fun _ => requireMapping_place.bind fun _ => Agree.refl _

lemma eachItem_place {items : List Json} {check check' : Json → String → Checked Unit}
    (h : ∀ item path path', Agree (check item path) (check' item path')) :
    Agree (eachItem path items check) (eachItem path' items check') := agree_forM fun _ _ => h _ _ _

lemma eachMember_place {members : List (String × Json)} {check check' : String → Json → String → Checked Unit}
    (h : ∀ key value path path', Agree (check key value path) (check' key value path')) :
    Agree (eachMember path members check) (eachMember path' members check') := agree_forM fun _ _ => h _ _ _ _

/-! ### Facets -/

mutual
lemma schemaFields_place : ∀ (j : Json) (path path' : String),
    Agree (validateSchemaFields path j) (validateSchemaFields path' j)
  | .arr items, path, path' => by
    rw [validateSchemaFields, validateSchemaFields]
    exact eachField_place items [] 0 0 path path'
  | .null, _, _ => validationError_place
  | .bool _, _, _ => validationError_place
  | .int _, _, _ => validationError_place
  | .float _, _, _ => validationError_place
  | .str _, _, _ => validationError_place
  | .obj _, _, _ => validationError_place

lemma eachField_place : ∀ (items : List Json) (seen : List String) (index index' : Nat) (path path' : String),
    Agree (validateEachField path seen index items) (validateEachField path' seen index' items)
  | [], _, _, _, _, _ => by
    rw [validateEachField, validateEachField]
    exact Agree.refl _
  | j :: js, seen, index, index', path, path' => by
    rw [validateEachField, validateEachField]
    exact (field_place j seen _ _).bind fun name => eachField_place js (seen ++ [name]) _ _ path path'

lemma field_place : ∀ (j : Json) (seen : List String) (path path' : String),
    Agree (validateField path seen j) (validateField path' seen j)
  | .obj mapping, seen, path, path' => by
    rw [validateField, validateField]
    refine Agree.bind ?_ fun name => (fieldsMember_place mapping path path').bind fun _ => Agree.refl _
    exact textField_place.bind fun name => validationError_place.ite
      (optionalText_place.bind fun _ => optionalText_place.bind fun _ => Agree.refl _)
  | .null, _, _, _ => validationError_place
  | .bool _, _, _, _ => validationError_place
  | .int _, _, _, _ => validationError_place
  | .float _, _, _, _ => validationError_place
  | .str _, _, _, _ => validationError_place
  | .arr _, _, _, _ => validationError_place

lemma fieldsMember_place : ∀ (members : List (String × Json)) (path path' : String),
    Agree (validateFieldsMember path members) (validateFieldsMember path' members)
  | [], _, _ => by
    rw [validateFieldsMember, validateFieldsMember]
    exact Agree.refl _
  | (k, v) :: rest, path, path' => by
    rw [validateFieldsMember, validateFieldsMember]
    exact (schemaFields_place v _ _).ite (fieldsMember_place rest path path')
end

lemma deletion_place {facet : List (String × Json)} :
    Agree (validateDeletion facet path) (validateDeletion facet path') := by
  refine whenPresent_place fun value => ?_
  cases value with
  | bool b => cases b <;> first | exact Agree.refl _ | exact validationError_place
  | _ => exact validationError_place

lemma namedItems_place {facet : List (String × Json)} {key first second : String} :
    Agree (validateNamedItems facet key first second path) (validateNamedItems facet key first second path') :=
  requiredMember_place.bind fun _ => requireList_place.bind fun _ => eachItem_place fun _ _ _ =>
    requireMapping_place.bind fun _ => textField_place.bind fun _ => textField_place.bind fun _ => Agree.refl _

lemma facetBody_place {key : FacetKey} {facet : List (String × Json)} :
    Agree (validateFacetBody key facet path) (validateFacetBody key facet path') := by
  cases key with
  | schema => exact whenPresent_place fun _ => schemaFields_place _ _ _
  | hierarchy => exact namedItems_place
  | datasetType => exact textField_place.bind fun _ => optionalText_place
  | storage => exact textField_place.bind fun _ => optionalText_place
  | ownership => exact namedItems_place

lemma inputField_place {value : Json} :
    Agree (validateColumnLineageInputField value path) (validateColumnLineageInputField value path') :=
  requireMapping_place.bind fun _ => textField_place.bind fun _ => textField_place.bind fun _ =>
    textField_place.bind fun _ => whenPresent_place fun _ => requireList_place.bind fun _ => eachItem_place fun _ _ _ =>
      requireMapping_place.bind fun _ => textField_place.bind fun _ => optionalText_place.bind fun _ =>
        optionalText_place.bind fun _ => optionalMember_place

lemma inputFields_place {items : List Json} : Agree (eachItem path items validateColumnLineageInputField)
    (eachItem path' items validateColumnLineageInputField) := eachItem_place fun _ _ _ => inputField_place

lemma lineageField_place {name : String} {value : Json} :
    Agree (validateLineageField name value path) (validateLineageField name value path') :=
  validationError_place.ite (requireMapping_place.bind fun _ => requiredMember_place.bind fun _ =>
    requireList_place.bind fun _ => inputFields_place.bind fun _ =>
      optionalText_place.bind fun _ => optionalText_place)

lemma lineageFields_place {members : List (String × Json)} :
    Agree (eachMember path members validateLineageField) (eachMember path' members validateLineageField) :=
  eachMember_place fun _ _ _ _ => lineageField_place

lemma lineageBody_place {facet : List (String × Json)} :
    Agree (validateLineageBody facet path) (validateLineageBody facet path') :=
  deletion_place.bind fun _ => requiredMember_place.bind fun _ => requireMapping_place.bind fun _ =>
    lineageFields_place.bind fun _ => whenPresent_place fun _ =>
      requireList_place.bind fun _ => inputFields_place

/-! ### Events -/

section Events
variable (parsers : Parsers)

lemma requireUriString_place {value : Json} :
    Agree (requireUriString parsers value path) (requireUriString parsers value path') := by
  refine requireText_place.bind fun text => ?_
  cases parsers.urlScheme (strip text) with
  | none => exact Agree.refl _
  | some scheme => exact validationError_place.ite (Agree.refl _)

lemma datasetFacet_place {key : String} {facet : Json} :
    Agree (validateDatasetFacet parsers key facet path) (validateDatasetFacet parsers key facet path') := by
  refine requireMapping_place.bind fun mapping => Agree.ite ?_ ?_
  · exact (requireUriString_place parsers).bind fun _ => (requireUriString_place parsers).bind fun _ =>
      validationError_place.ite lineageBody_place
  · cases FacetKey.parse key with
    | none => exact Agree.refl _
    | some facetKey =>
      exact (requireUriString_place parsers).bind fun _ => (requireUriString_place parsers).bind fun _ =>
        deletion_place.bind fun _ => facetBody_place

lemma datasetFacets_place {facets : Json} :
    Agree (validateDatasetFacets parsers facets path) (validateDatasetFacets parsers facets path') :=
  requireMapping_place.bind fun _ => eachMember_place fun _ _ _ _ => datasetFacet_place parsers

lemma dataset_place {dataset : Json} :
    Agree (validateDataset parsers dataset path) (validateDataset parsers dataset path') :=
  requireMapping_place.bind fun _ => textField_place.bind fun _ => textField_place.bind fun _ =>
    Agree.bind (whenPresent_place fun _ => datasetFacets_place parsers) fun _ =>
      optionalMapping_place.bind fun _ => optionalMapping_place

lemma inputsOutputs_place {event : List (String × Json)} :
    Agree (validateInputsOutputs parsers event path) (validateInputsOutputs parsers event path') := by
  have hlist : ∀ value path path',
      Agree (validateDatasetList parsers value path) (validateDatasetList parsers value path') :=
    fun _ _ _ => requireList_place.bind fun _ => eachItem_place fun _ _ _ => dataset_place parsers
  exact (whenPresent_place fun _ => hlist _ _ _).bind fun _ => whenPresent_place fun _ => hlist _ _ _

lemma validateJob_place {job : Json} : Agree (validateJob job path) (validateJob job path') :=
  requireMapping_place.bind fun _ => textField_place.bind fun _ => textField_place.bind fun _ =>
    whenPresent_place fun _ => requireMapping_place.bind fun _ => eachMember_place fun _ _ _ _ =>
      requireMapping_place.bind fun _ => Agree.refl _

lemma baseEvent_place {event : List (String × Json)} :
    Agree (validateBaseEvent parsers event path) (validateBaseEvent parsers event path') := by
  refine requiredMember_place.bind fun _ => requireText_place.bind fun schemaUrl => ?_
  cases eventKindOf schemaUrl with
  | none => exact agree_error
  | some kind =>
    refine requiredMember_place.bind fun time => Agree.bind ?_ fun _ =>
      requiredMember_place.bind fun _ => (requireUriString_place parsers).bind fun _ => Agree.refl _
    exact requireText_place.bind fun _ => (Agree.refl _).ite validationError_place

lemma forbiddenMember_place {event : List (String × Json)} {key message : String} :
    Agree (forbiddenMember event key path message) (forbiddenMember event key path' message) :=
  whenPresent_place fun _ => validationError_place

lemma eventType_place {value : Json} : Agree (validateEventType value path) (validateEventType value path') := by
  cases value with
  | str text => exact (Agree.refl _).ite validationError_place
  | _ => exact validationError_place

/-- An event is accepted wherever it stands. -/
theorem validateEvent_place (event : Json) :
    Agree (validateEvent parsers event path) (validateEvent parsers event path') := by
  refine requireMapping_place.bind fun mapping => (baseEvent_place parsers).bind fun kind => ?_
  cases kind with
  | run =>
    refine Agree.bind ?_ fun _ => Agree.refl _
    refine requiredMember_place.bind fun _ => requireMapping_place.bind fun _ => requiredMember_place.bind fun _ =>
      Agree.bind ?_ fun _ => optionalMapping_place.bind fun _ => requiredMember_place.bind fun _ =>
        validateJob_place.bind fun _ => (whenPresent_place fun _ => eventType_place).bind fun _ =>
          inputsOutputs_place parsers
    exact requireText_place.bind fun _ => (Agree.refl _).ite validationError_place
  | job =>
    exact Agree.bind (forbiddenMember_place.bind fun _ => requiredMember_place.bind fun _ =>
      validateJob_place.bind fun _ => inputsOutputs_place parsers) fun _ => Agree.refl _
  | dataset =>
    exact Agree.bind (forbiddenMember_place.bind fun _ => forbiddenMember_place.bind fun _ =>
      requiredMember_place.bind fun _ => dataset_place parsers) fun _ => Agree.refl _

end Events

/-- An event is read alike wherever it stands. -/
theorem readEvent_place (event : List (String × Json)) : Agree (readEvent event path) (readEvent event path') := by
  unfold readEvent
  refine (Agree.refl _).bind fun schemaUrl => (Agree.refl _).bind fun producer => ?_
  cases eventKindOf schemaUrl with
  | none => exact agree_error
  | some kind => exact Agree.refl _

end CollibraGovernance.Openlineage
