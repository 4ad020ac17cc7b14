import CollibraGovernance.Authority.LoadSpec

/-! Loaded authority is never ambiguous, and does not depend on the order of files and rules. -/
namespace CollibraGovernance.Authority
open Library Identity Domain

section Ambiguity
variable {iterErrors : Json → List SchemaError} {isPrintable : Char → Bool}
  {files : List AuthorityFile} {set : NormalizedAuthorityPolicySet}

/-- No two most specific rules of a loaded set differ. -/
theorem load_mostSpecific_unique
    (h : loadNormalizedAuthorityFiles iterErrors isPrintable files = .ok set)
    {i : GraphNodeIdentity} {p : PropertyPath} {k k' : AuthorityRuleKey}
    (hk : MostSpecific set i p k) (hk' : MostSpecific set i p k') : k' = k := by
  obtain ⟨hloadable, hdeclares⟩ := load_eq_ok_iff.mp h
  obtain ⟨hmem, hmatch, hmax⟩ := hk
  obtain ⟨hmem', hmatch', hmax'⟩ := hk'
  have hselector : k'.selector = k.selector := AuthoritySelector.eq_of_matches hmatch' hmatch
    (Nat.le_antisymm (hmax k' hmem' hmatch') (hmax' k hmem hmatch))
  have hrule : ∀ k, k ∈ set.rules.map NormalizedAuthorityRule.key →
      ∃ d, (k, d) ∈ files.flatMap (rulesOf iterErrors) := by
    intro k hk
    obtain ⟨r, hr, rfl⟩ := List.mem_map.mp hk
    obtain ⟨d, hd⟩ := List.exists_mem_of_ne_nil _ r.declared
    exact ⟨d, (hdeclares _ _).mp ⟨r, hr, rfl, hd⟩⟩
  obtain ⟨d, hd⟩ := hrule k hmem
  obtain ⟨d', hd'⟩ := hrule k' hmem'
  exact hloadable.selectors _ hd' _ hd hselector

theorem load_never_ambiguous
    (h : loadNormalizedAuthorityFiles iterErrors isPrintable files = .ok set)
    (observations : PropertyObservationSet) :
    ∀ r ∈ (analyzePropertyConflicts set observations).results,
      r.state ≠ .invalidOrAmbiguousAuthority := by
  intro r hr hstate
  obtain ⟨e, -, rfl⟩ := mem_results.mp hr
  obtain ⟨k, k', hk, hk', hne⟩ := verdict_ambiguous hstate
  exact hne (load_mostSpecific_unique h hk hk')

end Ambiguity

section Order
variable {iterErrors : Json → List SchemaError} {isPrintable : Char → Bool}
  {files files' : List AuthorityFile}

theorem load_perm (h : files.Perm files') :
    (loadNormalizedAuthorityFiles iterErrors isPrintable files).toOption =
      (loadNormalizedAuthorityFiles iterErrors isPrintable files').toOption :=
  load_congr (by simp only [h.mem_iff]) (fun _ => h.flatMap_right _)

end Order

section Documents
/-! A file whose document lists the given rules, between its other members. -/

def withRules (source : String) (before after : List (String × Json)) (items : List Json) :
    AuthorityFile :=
  ⟨source, .document (.obj (before ++ ("rules", .arr items) :: after))⟩

/-- The items of the rules array. -/
def ruleItems (file : AuthorityFile) : List Json :=
  match file.content with
  | .document (.obj members) =>
    match Json.get members "rules" with
    | .arr items => items
    | _ => []
  | _ => []

lemma authorityProperties_names : (authorityProperties.map JsonSchema.Property.name).Nodup := by
  decide

lemma rules_of_schema {members : List (String × Json)} (h : authoritySchema (.obj members) = true) :
    Json.get members "authority_version" = .str "1" ∧
      ∃ items, Json.get members "rules" = .arr items ∧ ∀ item ∈ items, ruleSchema item = true := by
  obtain ⟨version, hversion, haccepts⟩ := JsonSchema.lookup_of_object h authorityProperties_names
    (List.mem_cons_of_mem _ (List.mem_cons_self ..)) rfl
  obtain ⟨rules, hrules, harray⟩ := JsonSchema.lookup_of_object h authorityProperties_names
    (List.mem_cons_of_mem _ (List.mem_cons_of_mem _ (List.mem_cons_self ..))) rfl
  obtain ⟨items, rfl, hitems⟩ := JsonSchema.array_iff.mp harray
  refine ⟨?_, items, Json.get_of_lookup hrules, hitems⟩
  rw [Json.get_of_lookup hversion]
  cases version with
  | str s => simpa [JsonSchema.texts] using haccepts
  | _ => cases haccepts

lemma validate_error {iterErrors : Json → List SchemaError} {d : Json} {source : String}
    {errors : List AuthorityDiagnosticError}
    (h : validateAuthorityStructure iterErrors d source = .error errors) : errors ≠ [] := by
  unfold validateAuthorityStructure at h
  split at h
  · dsimp only at h
    split_ifs at h with hversion hconst hnone
    · cases h
      simp
    · cases h
      simp
    · cases h
      simpa using hnone
  · cases h
    simp

section Sound
variable {iterErrors : Json → List SchemaError}
  (hschema : ∀ d, iterErrors d = [] ↔ authoritySchema d = true) {file : AuthorityFile}
include hschema

/-- A document is validated exactly when it meets the schema. -/
lemma validate_eq_ok {d : Json} {source : String} {members : List (String × Json)} :
    validateAuthorityStructure iterErrors d source = .ok members ↔
      d = .obj members ∧ authoritySchema d = true := by
  rw [← hschema]
  cases d with
  | obj ms =>
    unfold validateAuthorityStructure
    dsimp only
    by_cases herrors : iterErrors (.obj ms) = []
    · rw [herrors]
      have hversion := (rules_of_schema ((hschema _).mp herrors)).1
      rw [if_neg (by simp [hversion]), List.any_nil, if_neg (by simp), if_pos rfl]
      simp
    · rw [if_neg herrors]
      refine iff_of_false ?_ (fun h => herrors h.2)
      split_ifs <;> simp
  | _ => simp [validateAuthorityStructure]

/-- A document that meets the schema is read rule by rule. -/
lemma readFile_document {d : Json} (hcontent : file.content = .document d)
    (h : authoritySchema d = true) :
    readFile iterErrors file = normalizeItems file.source 0 (ruleItems file) := by
  obtain ⟨members, rfl, -⟩ := JsonSchema.object_iff.mp h
  obtain ⟨-, items, hitems, -⟩ := rules_of_schema h
  have hvalid : validateAuthorityStructure iterErrors (.obj members) file.source = .ok members :=
    (validate_eq_ok hschema).mpr ⟨rfl, h⟩
  rw [readFile, hcontent, ruleItems, hcontent]
  simp only [hvalid, hitems, normalizeDocument]

/-- A file is sound when it is a document that meets the schema and its rules are well formed. -/
theorem sound_iff : Sound iterErrors file ↔ ∃ d, file.content = .document d ∧
    authoritySchema d = true ∧ ∀ item ∈ ruleItems file, (ruleOf item).isSome = true := by
  constructor
  · intro hsound
    cases hcontent : file.content with
    | document d =>
      have hd : authoritySchema d = true := by
        by_contra hnot
        unfold Sound readFile at hsound
        rw [hcontent] at hsound
        dsimp only at hsound
        split at hsound
        · exact validate_error ‹_› hsound
        · exact hnot ((validate_eq_ok hschema).mp ‹_›).2
      refine ⟨d, rfl, hd, ?_⟩
      rw [Sound, readFile_document hschema hcontent hd] at hsound
      exact (normalizeItems_spec _ _ _).1.mp hsound
    | _ => simp [Sound, readFile, hcontent] at hsound
  · rintro ⟨d, hcontent, hd, hitems⟩
    rw [Sound, readFile_document hschema hcontent hd]
    exact (normalizeItems_spec _ _ _).1.mpr hitems

lemma rulesOf_sound (h : Sound iterErrors file) :
    rulesOf iterErrors file = (ruleItems file).filterMap ruleOf := by
  obtain ⟨d, hcontent, hd, -⟩ := (sound_iff hschema).mp h
  rw [rulesOf, readFile_document hschema hcontent hd]
  exact (normalizeItems_spec _ _ _).2

lemma ruleSchema_of_sound (h : Sound iterErrors file) : ∀ item ∈ ruleItems file,
    ruleSchema item = true := by
  obtain ⟨d, hcontent, hd, -⟩ := (sound_iff hschema).mp h
  obtain ⟨members, rfl, -⟩ := JsonSchema.object_iff.mp hd
  obtain ⟨-, items, hitems, hrules⟩ := rules_of_schema hd
  rw [ruleItems, hcontent]
  simpa only [hitems] using hrules

end Sound

section WithRules
variable {iterErrors : Json → List SchemaError} {source : String}
  {before after : List (String × Json)} {items : List Json}

lemma ruleItems_withRules (hbefore : "rules" ∉ before.map Prod.fst) :
    ruleItems (withRules source before after items) = items := by
  have hget : Json.get (before ++ ("rules", .arr items) :: after) "rules" = .arr items := by
    apply Json.get_of_lookup
    rw [Json.lookup_append_of_notMem hbefore, Json.lookup_cons_self]
  simp only [ruleItems, withRules, hget]

/-- Apart from its rules, whether a document is sound depends on its other members. -/
lemma sound_withRules (hschema : ∀ d, iterErrors d = [] ↔ authoritySchema d = true)
    (hbefore : "rules" ∉ before.map Prod.fst) :
    Sound iterErrors (withRules source before after items) ↔
      Sound iterErrors (withRules source before after []) ∧
        ∀ item ∈ items, ruleSchema item = true ∧ (ruleOf item).isSome = true := by
  have hexchange : authoritySchema (.obj (before ++ ("rules", .arr items) :: after)) = true ↔
      authoritySchema (.obj (before ++ ("rules", .arr []) :: after)) = true ∧
        JsonSchema.array ruleSchema (.arr items) = true :=
    JsonSchema.object_exchange authorityProperties_names
      (p := ⟨"rules", true, JsonSchema.array ruleSchema⟩) (by simp [authorityProperties]) rfl
  have hsound : ∀ items, Sound iterErrors (withRules source before after items) ↔
      authoritySchema (.obj (before ++ ("rules", .arr items) :: after)) = true ∧
        ∀ item ∈ items, (ruleOf item).isSome = true := by
    intro items
    rw [sound_iff hschema, ruleItems_withRules hbefore]
    constructor
    · rintro ⟨d, hcontent, hd, hitems⟩
      cases hcontent
      exact ⟨hd, hitems⟩
    · rintro ⟨hd, hitems⟩
      exact ⟨_, rfl, hd, hitems⟩
  rw [hsound, hsound, hexchange, JsonSchema.array_iff]
  simp only [Json.arr.injEq, exists_eq_left', List.not_mem_nil, false_implies, implies_true, and_true]
  constructor
  · rintro ⟨⟨hrest, hrules⟩, hsome⟩
    exact ⟨hrest, fun item hitem => ⟨hrules item hitem, hsome item hitem⟩⟩
  · rintro ⟨hrest, hall⟩
    exact ⟨⟨hrest, fun item hitem => (hall item hitem).1⟩, fun item hitem => (hall item hitem).2⟩

end WithRules
end Documents

section Reissue

/-- One member of a rule under a new id. -/
def reissueMember (newId : String) (m : String × Json) : String × Json :=
  if m.1 = "id" then (m.1, .str newId) else m

/-- The same rule under a new id. -/
def reissued (newId : String) : Json → Json
  | .obj members => .obj (members.map (reissueMember newId))
  | j => j

variable {newId : String}

lemma reissueMember_fst (m : String × Json) : (reissueMember newId m).1 = m.1 := by
  unfold reissueMember
  split_ifs <;> rfl

lemma lookup_reissue (members : List (String × Json)) (key : String) :
    Json.lookup (members.map (reissueMember newId)) key =
      (Json.lookup members key).map (fun j => if key = "id" then .str newId else j) := by
  induction members with
  | nil => rfl
  | cons m rest ih =>
    have hfst : (reissueMember newId m).1 = m.1 := reissueMember_fst m
    unfold Json.lookup at ih ⊢
    rw [List.map_cons, List.find?_cons, List.find?_cons, hfst]
    by_cases hk : m.1 = key
    · subst hk
      unfold reissueMember
      split_ifs <;> simp_all
    · simpa [hk] using ih

lemma get_reissue_of_ne (members : List (String × Json)) {key : String} (hkey : key ≠ "id") :
    Json.get (members.map (reissueMember newId)) key = Json.get members key := by
  rw [Json.get, Json.get, lookup_reissue]
  simp [hkey]

lemma ruleSchema_reissued (hnew : isBlank newId = false) {item : Json} (h : ruleSchema item = true) :
    ruleSchema (reissued newId item) = true := by
  obtain ⟨members, rfl, haccepts, hpresent⟩ := JsonSchema.object_iff.mp h
  refine JsonSchema.object_iff.mpr ⟨_, rfl, ?_, ?_⟩
  · intro m hm
    obtain ⟨old, hold, rfl⟩ := List.mem_map.mp hm
    unfold reissueMember
    split_ifs with hid
    · refine ⟨⟨"id", true, JsonSchema.text 1⟩, List.mem_cons_self .., hid.symm, ?_⟩
      have hne : newId.toList ≠ [] := fun hnil =>
        ne_empty_of_not_blank hnew (String.toList_inj.mp hnil)
      exact decide_eq_true (List.length_pos_of_ne_nil hne)
    · exact haccepts old hold
  · intro p hp hrequired
    rw [lookup_reissue, Option.isSome_map]
    exact hpresent p hp hrequired

/-- A rule under a new id says the same under that id. -/
lemma ruleOf_reissued (hnew : isBlank newId = false) {item : Json} (h : ruleSchema item = true)
    {k : AuthorityRuleKey} {d : AuthorityDeclaration} (hrule : ruleOf item = some (k, d)) :
    ruleOf (reissued newId item) = some (k, ⟨.of newId hnew, d.description⟩) := by
  obtain ⟨members, rfl, -, hpresent⟩ := JsonSchema.object_iff.mp h
  have hid : Json.get (members.map (reissueMember newId)) "id" = .str newId := by
    obtain ⟨old, hold⟩ := Option.isSome_iff_exists.mp
      (hpresent ⟨"id", true, JsonSchema.text 1⟩ (List.mem_cons_self ..) rfl)
    rw [Json.get, lookup_reissue, hold]
    rfl
  have hrule : (normalizeRule members "" "").toOption = some (k, d) := hrule
  rw [toOption_eq_some] at hrule
  obtain ⟨ruleId, -, hrule⟩ := bind_eq_ok.mp hrule
  obtain ⟨description, hdescription, hrule⟩ := bind_eq_ok.mp hrule
  obtain ⟨selectRaw, hselect, hrule⟩ := bind_eq_ok.mp hrule
  obtain ⟨selector, hselector, hrule⟩ := bind_eq_ok.mp hrule
  obtain ⟨authorityRaw, hauthority, hrule⟩ := bind_eq_ok.mp hrule
  obtain ⟨target, htarget, hrule⟩ := bind_eq_ok.mp hrule
  cases hrule
  have hnewRule : normalizeRule (members.map (reissueMember newId)) "" "" =
      .ok (⟨selector, target⟩, ⟨.of newId hnew, description⟩) := by
    unfold normalizeRule
    rw [hid, get_reissue_of_ne _ (by decide), get_reissue_of_ne _ (by decide),
      get_reissue_of_ne _ (by decide), hdescription, hselect, hauthority]
    simp only [requiredText, dif_pos hnew, ok_bind, hselector, htarget]
    rfl
  exact toOption_eq_some.mpr hnewRule

end Reissue

/-- The same file, up to the order of its rules. -/
inductive RulesPermuted : AuthorityFile → AuthorityFile → Prop
  | same (file : AuthorityFile) : RulesPermuted file file
  | permuted (source : String) {before : List (String × Json)} (after : List (String × Json))
      {items items' : List Json} (hbefore : "rules" ∉ before.map Prod.fst) (h : items.Perm items') :
      RulesPermuted (withRules source before after items) (withRules source before after items')

section Edits
variable {iterErrors : Json → List SchemaError} {isPrintable : Char → Bool}
  (hschema : ∀ d, iterErrors d = [] ↔ authoritySchema d = true)
include hschema

lemma RulesPermuted.sound {f f' : AuthorityFile} (h : RulesPermuted f f') :
    (Sound iterErrors f ↔ Sound iterErrors f') ∧
      (Sound iterErrors f → (rulesOf iterErrors f).Perm (rulesOf iterErrors f')) := by
  cases h with
  | same => exact ⟨Iff.rfl, fun _ => .refl _⟩
  | @permuted source before after items items' hbefore h =>
    have hiff : Sound iterErrors (withRules source before after items) ↔
        Sound iterErrors (withRules source before after items') := by
      rw [sound_withRules hschema hbefore, @sound_withRules _ _ _ _ items' hschema hbefore]
      simp only [h.mem_iff]
    refine ⟨hiff, ?_⟩
    intro hsound
    rw [rulesOf_sound hschema hsound, rulesOf_sound hschema (hiff.mp hsound),
      ruleItems_withRules hbefore, ruleItems_withRules hbefore]
    exact h.filterMap _

theorem load_rulesPermuted {files files' : List AuthorityFile}
    (h : List.Forall₂ RulesPermuted files files') :
    (loadNormalizedAuthorityFiles iterErrors isPrintable files).toOption =
      (loadNormalizedAuthorityFiles iterErrors isPrintable files').toOption := by
  have hboth : ((∀ f ∈ files, Sound iterErrors f) ↔ ∀ f ∈ files', Sound iterErrors f) ∧
      ((∀ f ∈ files, Sound iterErrors f) →
        (files.flatMap (rulesOf iterErrors)).Perm (files'.flatMap (rulesOf iterErrors))) := by
    induction h with
    | nil => simp
    | cons hfile _ ih =>
      obtain ⟨hsound, hperm⟩ := hfile.sound hschema
      simp only [List.forall_mem_cons, List.flatMap_cons]
      exact ⟨and_congr hsound ih.1, fun hall => (hperm hall.1).append (ih.2 hall.2)⟩
  exact load_congr hboth.1 hboth.2

variable {front rest : List AuthorityFile} {source : String} {before after : List (String × Json)}
  {items items' : List Json} {item : Json} {set : NormalizedAuthorityPolicySet}

/-- What one more rule adds to the rules of a family of files. -/
lemma rules_of_added (hbefore : "rules" ∉ before.map Prod.fst) (hitems : items'.Perm (item :: items))
    (hsound : ∀ f ∈ front ++ withRules source before after items :: rest, Sound iterErrors f)
    (hschemaItem : ruleSchema item = true) {k : AuthorityRuleKey} {d : AuthorityDeclaration}
    (hrule : ruleOf item = some (k, d)) :
    (∀ f ∈ front ++ withRules source before after items' :: rest, Sound iterErrors f) ∧
      ((front ++ withRules source before after items' :: rest).flatMap (rulesOf iterErrors)).Perm
        ((k, d) :: (front ++ withRules source before after items :: rest).flatMap
          (rulesOf iterErrors)) := by
  rw [List.forall_mem_append, List.forall_mem_cons] at hsound ⊢
  obtain ⟨hfront, hfile, hrest⟩ := hsound
  have hfile' : Sound iterErrors (withRules source before after items') := by
    rw [sound_withRules hschema hbefore] at hfile ⊢
    refine ⟨hfile.1, ?_⟩
    intro x hx
    cases List.mem_cons.mp (hitems.mem_iff.mp hx) with
    | inl h => exact h ▸ ⟨hschemaItem, by rw [hrule]; rfl⟩
    | inr h => exact hfile.2 x h
  refine ⟨⟨hfront, hfile', hrest⟩, ?_⟩
  have hrules : (rulesOf iterErrors (withRules source before after items')).Perm
      ((k, d) :: rulesOf iterErrors (withRules source before after items)) := by
    rw [rulesOf_sound hschema hfile, rulesOf_sound hschema hfile', ruleItems_withRules hbefore,
      ruleItems_withRules hbefore]
    have hperm := hitems.filterMap ruleOf
    rwa [List.filterMap_cons_some hrule] at hperm
  rw [List.flatMap_append, List.flatMap_append, List.flatMap_cons, List.flatMap_cons]
  exact ((hrules.append_right _).append_left _).trans List.perm_middle

/-- What a loaded rule says is among the rules of the files. -/
lemma said_of_loaded {files : List AuthorityFile}
    (h : loadNormalizedAuthorityFiles iterErrors isPrintable files = .ok set)
    (hitem : ∃ g ∈ files, item ∈ ruleItems g) : ruleSchema item = true ∧
      ∃ k d, ruleOf item = some (k, d) ∧ (k, d) ∈ files.flatMap (rulesOf iterErrors) := by
  obtain ⟨g, hg, hitem⟩ := hitem
  have hsound := (load_eq_ok_iff.mp h).1.sound g hg
  refine ⟨ruleSchema_of_sound hschema hsound item hitem, ?_⟩
  obtain ⟨d, -, -, hall⟩ := (sound_iff hschema).mp hsound
  obtain ⟨⟨k, d⟩, hrule⟩ := Option.isSome_iff_exists.mp (hall item hitem)
  refine ⟨k, d, hrule, List.mem_flatMap.mpr ⟨g, hg, ?_⟩⟩
  rw [rulesOf_sound hschema hsound]
  exact List.mem_filterMap.mpr ⟨item, hitem, hrule⟩

/-- A loaded rule that is listed once more under its own id is refused. -/
theorem load_repeated_id (hbefore : "rules" ∉ before.map Prod.fst)
    (h : loadNormalizedAuthorityFiles iterErrors isPrintable
      (front ++ withRules source before after items :: rest) = .ok set)
    (hitem : ∃ g ∈ front ++ withRules source before after items :: rest, item ∈ ruleItems g)
    (hitems : items'.Perm (item :: items)) :
    ∃ errors, loadNormalizedAuthorityFiles iterErrors isPrintable
        (front ++ withRules source before after items' :: rest) = .error errors ∧
      errors ≠ [] ∧ ∀ e ∈ errors, e.code = codeDuplicate := by
  obtain ⟨hschemaItem, k, d, hrule, hmem⟩ := said_of_loaded hschema h hitem
  obtain ⟨hsound, hperm⟩ := rules_of_added hschema hbefore hitems (load_eq_ok_iff.mp h).1.sound
    hschemaItem hrule
  apply load_duplicate hsound
  rw [(hperm.map _).nodup_iff, List.map_cons, List.nodup_cons]
  rintro ⟨hfresh, -⟩
  exact hfresh (List.mem_map_of_mem hmem)

/-- A loaded rule that is listed once more under a fresh id only adds its declaration. -/
theorem load_repeated_rule (hbefore : "rules" ∉ before.map Prod.fst)
    (h : loadNormalizedAuthorityFiles iterErrors isPrintable
      (front ++ withRules source before after items :: rest) = .ok set)
    (hitem : ∃ g ∈ front ++ withRules source before after items :: rest, item ∈ ruleItems g)
    {newId : String} (hnew : isBlank newId = false)
    (hfresh : ∀ k d, Declares set.rules k d → d.configId.val ≠ strip newId)
    (hitems : items'.Perm (reissued newId item :: items)) :
    ∃ set', loadNormalizedAuthorityFiles iterErrors isPrintable
        (front ++ withRules source before after items' :: rest) = .ok set' ∧
      set'.rules.map NormalizedAuthorityRule.key = set.rules.map NormalizedAuthorityRule.key ∧
      (∀ sha256, set'.contentIdentity sha256 = set.contentIdentity sha256) ∧
      ∃ k d, Declares set.rules k d ∧ ∀ k' d', Declares set'.rules k' d' ↔
        Declares set.rules k' d' ∨ k' = k ∧ d' = ⟨.of newId hnew, d.description⟩ := by
  obtain ⟨hschemaItem, k, d, hrule, hmem⟩ := said_of_loaded hschema h hitem
  obtain ⟨hloadable, hdeclares⟩ := load_eq_ok_iff.mp h
  obtain ⟨hsound, hperm⟩ := rules_of_added hschema hbefore hitems hloadable.sound
    (ruleSchema_reissued hnew hschemaItem) (ruleOf_reissued hnew hschemaItem hrule)
  have hloadable' : Loadable iterErrors (front ++ withRules source before after items' :: rest) := by
    refine ⟨hsound, ?_, ?_⟩
    · rw [(hperm.map _).nodup_iff, List.map_cons, List.nodup_cons]
      refine ⟨?_, hloadable.ids⟩
      intro hid
      obtain ⟨⟨k', d'⟩, hmem', hid⟩ := List.mem_map.mp hid
      exact hfresh k' d' ((hdeclares k' d').mpr hmem') hid
    · -- the new rule has the key of an old one
      have hold : ∀ r ∈ (front ++ withRules source before after items' :: rest).flatMap
          (rulesOf iterErrors), ∃ r' ∈ (front ++ withRules source before after items ::
            rest).flatMap (rulesOf iterErrors), r'.1 = r.1 := by
        intro r hr
        cases List.mem_cons.mp (hperm.mem_iff.mp hr) with
        | inl h => exact ⟨(k, d), hmem, by rw [h]⟩
        | inr h => exact ⟨r, h, rfl⟩
      intro a ha b hb hab
      obtain ⟨a', ha', haa⟩ := hold a ha
      obtain ⟨b', hb', hbb⟩ := hold b hb
      rw [← haa, ← hbb]
      exact hloadable.selectors a' ha' b' hb' (by rw [haa, hbb, hab])
  obtain ⟨set', hset'⟩ := @exists_load _ isPrintable _ hloadable'
  have hdeclared : Declares set.rules k d := (hdeclares k d).mpr hmem
  have hadded : ∀ k' d', Declares set'.rules k' d' ↔
      Declares set.rules k' d' ∨ k' = k ∧ d' = ⟨.of newId hnew, d.description⟩ := by
    intro k' d'
    rw [(load_eq_ok_iff.mp hset').2, hperm.mem_iff, List.mem_cons, hdeclares, Prod.mk.injEq, or_comm]
  have hkeys : set'.rules.map NormalizedAuthorityRule.key =
      set.rules.map NormalizedAuthorityRule.key := by
    apply NormalizedAuthorityPolicySet.keys_congr
    intro k'
    constructor
    · rintro ⟨d', hd'⟩
      cases (hadded k' d').mp hd' with
      | inl h => exact ⟨d', h⟩
      | inr h => exact ⟨d, h.1 ▸ hdeclared⟩
    · rintro ⟨d', hd'⟩
      exact ⟨d', (hadded k' d').mpr (Or.inl hd')⟩
  exact ⟨set', hset', hkeys, fun sha256 =>
    NormalizedAuthorityPolicySet.contentIdentity_congr sha256 hkeys, k, d, hdeclared, hadded⟩

end Edits

/-- Loaded authority gives no ambiguous verdict. Neither the order of the files nor that of the rules in
them matters. A loaded rule that is listed once more, anywhere, under an id that no loaded rule has only
adds a declaration; under its own id it is refused as a duplicate. -/
theorem loadedAuthority_unambiguous (iterErrors : Json → List SchemaError) (isPrintable : Char → Bool)
    (hschema : ∀ d, iterErrors d = [] ↔ authoritySchema d = true) :
    (∀ files set, loadNormalizedAuthorityFiles iterErrors isPrintable files = .ok set →
      ∀ observations, ∀ r ∈ (analyzePropertyConflicts set observations).results,
        r.state ≠ .invalidOrAmbiguousAuthority) ∧
    (∀ files files', files.Perm files' →
      (loadNormalizedAuthorityFiles iterErrors isPrintable files).toOption =
        (loadNormalizedAuthorityFiles iterErrors isPrintable files').toOption) ∧
    (∀ files files', List.Forall₂ RulesPermuted files files' →
      (loadNormalizedAuthorityFiles iterErrors isPrintable files).toOption =
        (loadNormalizedAuthorityFiles iterErrors isPrintable files').toOption) ∧
    ∀ (front rest : List AuthorityFile) (source : String) (before after : List (String × Json))
      (items : List Json) (item : Json) (set : NormalizedAuthorityPolicySet),
      "rules" ∉ before.map Prod.fst →
      loadNormalizedAuthorityFiles iterErrors isPrintable
        (front ++ withRules source before after items :: rest) = .ok set →
      (∃ g ∈ front ++ withRules source before after items :: rest, item ∈ ruleItems g) →
      (∀ (newId : String) (hnew : isBlank newId = false) (items' : List Json),
        (∀ k d, Declares set.rules k d → d.configId.val ≠ strip newId) →
        items'.Perm (reissued newId item :: items) →
        ∃ set', loadNormalizedAuthorityFiles iterErrors isPrintable
            (front ++ withRules source before after items' :: rest) = .ok set' ∧
          set'.rules.map NormalizedAuthorityRule.key = set.rules.map NormalizedAuthorityRule.key ∧
          (∀ sha256, set'.contentIdentity sha256 = set.contentIdentity sha256) ∧
          ∃ k d, Declares set.rules k d ∧ ∀ k' d', Declares set'.rules k' d' ↔
            Declares set.rules k' d' ∨ k' = k ∧ d' = ⟨.of newId hnew, d.description⟩) ∧
      ∀ items', items'.Perm (item :: items) →
        ∃ errors, loadNormalizedAuthorityFiles iterErrors isPrintable
            (front ++ withRules source before after items' :: rest) = .error errors ∧
          errors ≠ [] ∧ ∀ e ∈ errors, e.code = codeDuplicate := by
  refine ⟨?_, ?_, ?_, ?_⟩
  · intro files set h observations
    exact load_never_ambiguous h observations
  · intro files files' h
    exact load_perm h
  · intro files files' h
    exact load_rulesPermuted hschema h
  · intro front rest source before after items item set hbefore h hitem
    refine ⟨?_, ?_⟩
    · intro newId hnew items' hfresh hitems
      exact load_repeated_rule hschema hbefore h hitem hnew hfresh hitems
    · intro items' hitems
      exact load_repeated_id hschema hbefore h hitem hitems

section Shop
/-! Two authority files, for the description of tables and for the name of columns. -/

/-- A validator that reports one error for every document that does not meet the schema. -/
def typeErrors (d : Json) : List SchemaError := if authoritySchema d then [] else [⟨"type", []⟩]

lemma typeErrors_eq_nil (d : Json) : typeErrors d = [] ↔ authoritySchema d = true := by
  unfold typeErrors
  split_ifs with h <;> simp [h]

def providerRule (id kind property provider : String) : Json :=
  .obj [("id", .str id), ("select", .obj [("kind", .str kind), ("property", .str property)]),
    ("authority", .obj [("provider_type", .str provider)])]

def ruleFile (source : String) (rules : List Json) : AuthorityFile :=
  withRules source [("authority_schema", .str "governance-authority"),
    ("authority_version", .str "1")] [] rules

def contracts : AuthorityFile :=
  ruleFile "contracts.yaml" [providerRule "descriptions" "table" "/description" "odcs"]

def models : AuthorityFile := ruleFile "models.yaml" [providerRule "names" "column" "/name" "dbt"]

theorem contracts_and_models_load :
    (loadNormalizedAuthorityFiles typeErrors (fun _ => true) [contracts, models]).toOption.isSome = true ∧
      (loadNormalizedAuthorityFiles typeErrors (fun _ => true) [contracts, models]).toOption =
        (loadNormalizedAuthorityFiles typeErrors (fun _ => true) [models, contracts]).toOption :=
  ⟨by decide +kernel, (loadedAuthority_unambiguous typeErrors (fun _ => true) typeErrors_eq_nil).2.1
    _ _ (List.Perm.swap _ _ _)⟩

/-- An identical rule listed twice is refused: the ids of rules are unique. -/
theorem identical_rule_refused :
    (loadNormalizedAuthorityFiles typeErrors (fun _ => true)
      [ruleFile "contracts.yaml" [providerRule "descriptions" "table" "/description" "odcs"]]
      ).toOption.isSome = true ∧
    (loadNormalizedAuthorityFiles typeErrors (fun _ => true)
      [ruleFile "contracts.yaml" [providerRule "descriptions" "table" "/description" "odcs",
        providerRule "descriptions" "table" "/description" "odcs"]]).toOption.isSome = false := by
  decide +kernel

end Shop
end CollibraGovernance.Authority
