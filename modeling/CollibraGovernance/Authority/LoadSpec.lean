import CollibraGovernance.Authority.Load
import CollibraGovernance.Domain.ConflictSpec

/-! When authority files load, and which rules they load to. -/
namespace CollibraGovernance.Authority
open Library Identity Domain

section Rules
/-! What a rule says does not depend on where it was found. -/

lemma requiredText_toOption (value : Json) (path path' message source source' : String) :
    (requiredText value path message source).toOption =
      (requiredText value path' message source').toOption := by
  cases value with
  | str s =>
    unfold requiredText
    dsimp only
    split_ifs <;> rfl
  | _ => rfl

lemma optionalText_toOption (value : Json) (path path' message source source' : String) :
    (optionalText value path message source).toOption =
      (optionalText value path' message source').toOption := by
  cases value with
  | null => rfl
  | _ => simp only [optionalText, toOption_bind,
      requiredText_toOption _ path path' message source source']

lemma requiredMapping_toOption (value : Json) (path path' message source source' : String) :
    (requiredMapping value path message source).toOption =
      (requiredMapping value path' message source').toOption := by
  cases value <;> rfl

lemma requiredKind_toOption (value : Json) (path path' source source' : String) :
    (requiredKind value path source).toOption = (requiredKind value path' source').toOption := by
  cases value with
  | str s =>
    unfold requiredKind
    dsimp only
    split <;> rfl
  | _ => rfl

lemma requiredPointer_toOption (value : Json) (path path' source source' : String) :
    (requiredPointer value path source).toOption = (requiredPointer value path' source').toOption := by
  cases value with
  | str s =>
    unfold requiredPointer
    dsimp only
    split <;> rfl
  | _ => rfl

lemma normalizeRule_toOption (item : List (String × Json)) (pointer pointer' source source' : String) :
    (normalizeRule item pointer source).toOption = (normalizeRule item pointer' source').toOption := by
  have hselect : ∀ raw, (normalizeSelector raw (pointer ++ "/select") source).toOption =
      (normalizeSelector raw (pointer' ++ "/select") source').toOption := by
    intro raw
    simp only [normalizeSelector, toOption_bind]
    rw [requiredKind_toOption _ _ (pointer' ++ "/select" ++ "/kind") _ source',
      requiredPointer_toOption _ _ (pointer' ++ "/select" ++ "/property") _ source',
      optionalText_toOption _ _ (pointer' ++ "/select" ++ "/namespace") _ _ source']
  have htarget : ∀ raw, (normalizeTarget raw (pointer ++ "/authority") source).toOption =
      (normalizeTarget raw (pointer' ++ "/authority") source').toOption := by
    intro raw
    simp only [normalizeTarget, toOption_bind]
    rw [requiredText_toOption _ _ (pointer' ++ "/authority" ++ "/provider_type") _ _ source',
      optionalText_toOption _ _ (pointer' ++ "/authority" ++ "/source_ref") _ _ source']
  simp only [normalizeRule, toOption_bind, hselect, htarget]
  rw [requiredText_toOption _ _ (pointer' ++ "/id") _ _ source',
    optionalText_toOption _ _ (pointer' ++ "/description") _ _ source',
    requiredMapping_toOption (Json.get item "select") _ (pointer' ++ "/select") _ _ source',
    requiredMapping_toOption (Json.get item "authority") _ (pointer' ++ "/authority") _ _ source']

/-- What a rule says, if it is well formed. -/
def ruleOf (item : Json) : Option (AuthorityRuleKey × AuthorityDeclaration) :=
  match item with
  | .obj members => (normalizeRule members "" "").toOption
  | _ => none

/-- A found rule without the pointer to it. -/
def said (r : FoundRule) : AuthorityRuleKey × AuthorityDeclaration := (r.1, r.2.1)

/-- The items of a rules array are found in order; no error means that all are well formed. -/
theorem normalizeItems_spec (source : String) (index : Nat) (items : List Json) :
    ((normalizeItems source index items).2 = [] ↔ ∀ item ∈ items, (ruleOf item).isSome = true) ∧
      (normalizeItems source index items).1.map said = items.filterMap ruleOf := by
  induction items generalizing index with
  | nil => exact ⟨by simp [normalizeItems], rfl⟩
  | cons item rest ih =>
    obtain ⟨herrors, hfound⟩ := ih (index + 1)
    rw [normalizeItems, List.forall_mem_cons, List.filterMap_cons, ← herrors, ← hfound]
    cases item with
    | obj members =>
      have hrule : ruleOf (.obj members) =
          (normalizeRule members ("/rules/" ++ toString index) source).toOption :=
        normalizeRule_toOption members _ _ _ _
      rw [hrule]
      dsimp only
      cases normalizeRule members ("/rules/" ++ toString index) source with
      | ok kd => exact ⟨by simp [Except.toOption], rfl⟩
      | error e => exact ⟨by simp [Except.toOption], rfl⟩
    | _ => exact ⟨by simp [ruleOf], rfl⟩

end Rules

section Files
variable (iterErrors : Json → List SchemaError)

/-- Nothing is wrong with the file. -/
def Sound (file : AuthorityFile) : Prop := (readFile iterErrors file).2 = []

/-- What the rules of a file say. -/
def rulesOf (file : AuthorityFile) : List (AuthorityRuleKey × AuthorityDeclaration) :=
  (readFile iterErrors file).1.map said

/-- The collection after some files: without errors exactly when all were sound and no id came twice,
and then with all their rules. -/
structure Collects (c : Collection) (sound : Prop)
    (rules : List (AuthorityRuleKey × AuthorityDeclaration)) : Prop where
  errors : c.errors = [] ↔ sound ∧ (rules.map (fun r => r.2.configId.val)).Nodup
  seen : c.errors = [] → c.seenIds = rules.map (fun r => r.2.configId.val)
  collected : c.errors = [] → c.collected.map (fun r => (r.key, r.declaration)) = rules
  codes : sound → ∀ e ∈ c.errors, e.code = codeDuplicate

variable {iterErrors} {c : Collection} {sound : Prop}
  {rules : List (AuthorityRuleKey × AuthorityDeclaration)}

lemma Collects.rule (h : Collects c sound rules) (index : Nat) (source : String) (r : FoundRule) :
    Collects (collectRule index source c r) sound (rules ++ [said r]) := by
  have hnodup : ((rules ++ [said r]).map (fun r => r.2.configId.val)).Nodup ↔
      (rules.map (fun r => r.2.configId.val)).Nodup ∧
        r.2.1.configId.val ∉ rules.map (fun r => r.2.configId.val) := by
    rw [List.map_append, List.nodup_append, List.map_singleton]
    constructor
    · rintro ⟨hrules, -, hdisjoint⟩
      exact ⟨hrules, fun hmem => hdisjoint _ hmem _ (List.mem_singleton_self _) rfl⟩
    · rintro ⟨hrules, hfresh⟩
      refine ⟨hrules, List.nodup_singleton _, ?_⟩
      rintro x hx y hy rfl
      rw [List.mem_singleton] at hy
      exact hfresh (hy ▸ hx)
  by_cases hseen : r.2.1.configId.val ∈ c.seenIds
  · have herrors : (collectRule index source c r).errors ≠ [] := by
      unfold collectRule
      rw [if_pos hseen]
      simp
    refine ⟨⟨fun he => absurd he herrors, ?_⟩, fun he => absurd he herrors,
      fun he => absurd he herrors, ?_⟩
    · rintro ⟨hsound, hall⟩
      obtain ⟨hrules, hfresh⟩ := hnodup.mp hall
      rw [h.seen (h.errors.mpr ⟨hsound, hrules⟩)] at hseen
      exact absurd hseen hfresh
    · intro hsound e he
      rw [collectRule, if_pos hseen, List.mem_append, List.mem_singleton] at he
      cases he with
      | inl he => exact h.codes hsound e he
      | inr he => rw [he]
  · unfold collectRule
    rw [if_neg hseen]
    refine ⟨?_, ?_, ?_, h.codes⟩
    · rw [hnodup]
      constructor
      · intro he
        obtain ⟨hsound, hrules⟩ := h.errors.mp he
        exact ⟨hsound, hrules, h.seen he ▸ hseen⟩
      · rintro ⟨hsound, hrules, -⟩
        exact h.errors.mpr ⟨hsound, hrules⟩
    · intro he
      simp only [h.seen he, List.map_append]
      rfl
    · intro he
      simp only [List.map_append, h.collected he]
      rfl

lemma Collects.foldRules (h : Collects c sound rules) (index : Nat) (source : String)
    (found : List FoundRule) :
    Collects (found.foldl (collectRule index source) c) sound (rules ++ found.map said) := by
  induction found generalizing c rules with
  | nil => simpa using h
  | cons r rest ih =>
    have hrest := ih (h.rule index source r)
    rwa [List.append_assoc] at hrest

variable (iterErrors) in
lemma Collects.file (h : Collects c sound rules) (index : Nat) (file : AuthorityFile) :
    Collects (collectFile iterErrors c (index, file)) (sound ∧ Sound iterErrors file)
      (rules ++ rulesOf iterErrors file) := by
  apply Collects.foldRules
  have hempty : c.errors ++ ((readFile iterErrors file).2.map
      (fun e => { e with fileIndex := some index })) = [] ↔
        c.errors = [] ∧ Sound iterErrors file := by
    rw [List.append_eq_nil_iff, List.map_eq_nil_iff]
    rfl
  refine ⟨hempty.trans ?_, fun he => h.seen (hempty.mp he).1,
    fun he => h.collected (hempty.mp he).1, ?_⟩
  · rw [h.errors]
    tauto
  · rintro ⟨hsound, hfile⟩ e he
    have hfile : (readFile iterErrors file).2 = [] := hfile
    have he : e ∈ c.errors ++ (readFile iterErrors file).2.map
      (fun e => { e with fileIndex := some index }) := he
    rw [hfile, List.map_nil, List.append_nil] at he
    exact h.codes hsound e he

variable (iterErrors) in
/-- All files, read in order. -/
theorem collects_files (files : List AuthorityFile) :
    Collects (collectFiles iterErrors files) (∀ f ∈ files, Sound iterErrors f)
      (files.flatMap (rulesOf iterErrors)) := by
  have hrun : ∀ (indexed : List (Nat × AuthorityFile)) (c : Collection) (sound : Prop)
      (rules : List (AuthorityRuleKey × AuthorityDeclaration)), Collects c sound rules →
      Collects (indexed.foldl (collectFile iterErrors) c)
        (sound ∧ ∀ f ∈ indexed.map Prod.snd, Sound iterErrors f)
        (rules ++ (indexed.map Prod.snd).flatMap (rulesOf iterErrors)) := by
    intro indexed
    induction indexed with
    | nil => intro c sound rules h; simpa using h
    | cons first rest ih =>
      intro c sound rules h
      have hrest := ih _ _ _ (h.file iterErrors first.1 first.2)
      rw [List.map_cons, List.flatMap_cons, ← List.append_assoc, List.forall_mem_cons, ← and_assoc]
      exact hrest
  have hempty : Collects ⟨[], [], []⟩ True [] := ⟨by simp, fun _ => rfl, fun _ => rfl, by simp⟩
  have hfiles : ((List.range files.length).zip files).map Prod.snd = files :=
    List.map_snd_zip (by simp)
  have hall := hrun ((List.range files.length).zip files) _ _ _ hempty
  rw [hfiles, true_and, List.nil_append] at hall
  exact hall

end Files

section Load
variable {iterErrors : Json → List SchemaError} {isPrintable : Char → Bool}
  {files files' : List AuthorityFile}

lemma ambiguityErrors_eq_nil {collected : List CollectedRule} :
    ambiguityErrors isPrintable collected = [] ↔
      ∀ a ∈ collected, ∀ b ∈ collected, a.key.selector = b.key.selector → a.key = b.key := by
  simp only [ambiguityErrors, List.flatMap_eq_nil_iff, mem_sortBy, mem_distinct, List.mem_map,
    forall_exists_index, and_imp, forall_apply_eq_imp_iff₂]
  apply forall₂_congr
  intro a ha
  set origins := collected.filter (fun r => r.key.selector = a.key.selector) with horigins
  have hmem : ∀ b, b ∈ origins ↔ b ∈ collected ∧ b.key.selector = a.key.selector := by simp [horigins]
  have hlength : (distinct (origins.map CollectedRule.key)).length ≤ 1 ↔
      ∀ b ∈ collected, a.key.selector = b.key.selector → a.key = b.key := by
    have hnodup := distinct_nodup (origins.map CollectedRule.key)
    have hkeys : ∀ b ∈ collected, a.key.selector = b.key.selector →
        b.key ∈ distinct (origins.map CollectedRule.key) := fun b hb hab =>
      mem_distinct.mpr (List.mem_map_of_mem ((hmem b).mpr ⟨hb, hab.symm⟩))
    constructor
    · intro hle b hb hab
      have hpos := List.length_pos_of_mem (hkeys a ha rfl)
      obtain ⟨k, hk⟩ := List.length_eq_one_iff.mp (Nat.le_antisymm hle hpos)
      have hka := hkeys a ha rfl
      have hkb := hkeys b hb hab
      rw [hk, List.mem_singleton] at hka hkb
      rw [hka, hkb]
    · intro hall
      have hsub : distinct (origins.map CollectedRule.key) ⊆ [a.key] := by
        intro k hk
        obtain ⟨b, hb, rfl⟩ := List.mem_map.mp (mem_distinct.mp hk)
        obtain ⟨hb, hab⟩ := (hmem b).mp hb
        rw [hall b hb hab.symm]
        exact List.mem_singleton_self _
      exact (List.subperm_of_subset hnodup hsub).length_le
  rw [← hlength]
  split_ifs with hle
  · exact iff_of_true rfl hle
  · refine iff_of_false ?_ hle
    intro hnil
    rw [List.map_eq_nil_iff] at hnil
    have hnone := hnil ▸ mem_sortBy.mpr ((hmem a).mpr ⟨ha, rfl⟩)
    cases hnone

lemma declares_collectedRules {collected : List CollectedRule} {k : AuthorityRuleKey}
    {d : AuthorityDeclaration} : Declares (collectedRules collected) k d ↔
      ∃ r ∈ collected, r.key = k ∧ r.declaration = d := by
  have hentry : ∀ e ∈ (groupBy CollectedRule.key collected).entries, ∀ d,
      d ∈ (NormalizedAuthorityRule.of e.1 (e.2.members.map CollectedRule.declaration)
        (by simp [Group.members])).declarations ↔
          ∃ r ∈ collected, r.key = e.1 ∧ r.declaration = d := by
    intro e he d
    rw [NormalizedAuthorityRule.of, mem_sortedDistinct, mem_entries_groupBy he]
    simp only [List.mem_map, List.mem_filter, decide_eq_true_eq, and_assoc]
  constructor
  · rintro ⟨r, hr, rfl, hd⟩
    obtain ⟨e, he, rfl⟩ := List.mem_map.mp hr
    exact (hentry e he d).mp hd
  · rintro ⟨r, hr, rfl, hd⟩
    have hkeys : r.key ∈ (groupBy CollectedRule.key collected).keys :=
      mem_keys_groupBy.mpr ⟨r, hr, rfl⟩
    obtain ⟨e, he, hk⟩ := List.mem_map.mp hkeys
    exact ⟨_, List.mem_map_of_mem he, hk, (hentry e he d).mpr ⟨r, hr, hk.symm, hd⟩⟩

/-- The files are sound, no two of their rules share an id, and no two share a selector without sharing
the key. -/
structure Loadable (iterErrors : Json → List SchemaError) (files : List AuthorityFile) : Prop where
  sound : ∀ f ∈ files, Sound iterErrors f
  ids : ((files.flatMap (rulesOf iterErrors)).map (fun r => r.2.configId.val)).Nodup
  selectors : ∀ a ∈ files.flatMap (rulesOf iterErrors), ∀ b ∈ files.flatMap (rulesOf iterErrors),
    a.1.selector = b.1.selector → a.1 = b.1

/-- Files load exactly when they are loadable, to the set that declares what their rules say. -/
theorem load_eq_ok_iff {set : NormalizedAuthorityPolicySet} :
    loadNormalizedAuthorityFiles iterErrors isPrintable files = .ok set ↔ Loadable iterErrors files ∧
      ∀ k d, Declares set.rules k d ↔ (k, d) ∈ files.flatMap (rulesOf iterErrors) := by
  have hcollects := collects_files iterErrors files
  set c := collectFiles iterErrors files with hc
  set rules := files.flatMap (rulesOf iterErrors) with hrules
  have hselectors : c.errors = [] → (ambiguityErrors isPrintable c.collected = [] ↔
      ∀ a ∈ rules, ∀ b ∈ rules, a.1.selector = b.1.selector → a.1 = b.1) := by
    intro he
    rw [ambiguityErrors_eq_nil, ← hcollects.collected he]
    simp only [List.mem_map, forall_exists_index, and_imp, forall_apply_eq_imp_iff₂]
  have hdeclares : c.errors = [] → ∀ k d,
      Declares (collectedRules c.collected) k d ↔ (k, d) ∈ rules := by
    intro he k d
    rw [declares_collectedRules, ← hcollects.collected he]
    simp only [List.mem_map, Prod.mk.injEq]
  unfold loadNormalizedAuthorityFiles
  simp only [← hc]
  by_cases he : c.errors = []
  · obtain ⟨hsound, hids⟩ := hcollects.errors.mp he
    rw [if_neg (not_not.mpr he)]
    by_cases ha : ambiguityErrors isPrintable c.collected = []
    · rw [if_neg (not_not.mpr ha)]
      have hloadable : Loadable iterErrors files := ⟨hsound, hids, (hselectors he).mp ha⟩
      constructor
      · intro h
        cases h
        refine ⟨hloadable, fun k d => ?_⟩
        rw [← hdeclares he]
        exact declares_normalizeAuthorityRules
      · rintro ⟨-, hset⟩
        congr 1
        apply NormalizedAuthorityPolicySet.ext
        rw [← set.normalized]
        apply normalizeAuthorityRules_congr
        intro k d
        rw [hdeclares he, hset]
    · rw [if_pos ha]
      constructor
      · intro h
        cases h
      · rintro ⟨hloadable, -⟩
        exact absurd ((hselectors he).mpr hloadable.selectors) ha
  · rw [if_pos he]
    constructor
    · intro h
      cases h
    · rintro ⟨hloadable, -⟩
      exact absurd (hcollects.errors.mpr ⟨hloadable.sound, hloadable.ids⟩) he

lemma exists_load (h : Loadable iterErrors files) :
    ∃ set, loadNormalizedAuthorityFiles iterErrors isPrintable files = .ok set := by
  have hcollects := collects_files iterErrors files
  have he := hcollects.errors.mpr ⟨h.sound, h.ids⟩
  refine ⟨.of (collectedRules (collectFiles iterErrors files).collected), load_eq_ok_iff.mpr ⟨h, ?_⟩⟩
  intro k d
  have hdeclared := @declares_normalizeAuthorityRules
    (collectedRules (collectFiles iterErrors files).collected) k d
  rw [declares_collectedRules] at hdeclared
  refine hdeclared.trans ?_
  rw [← hcollects.collected he]
  simp only [List.mem_map, Prod.mk.injEq]

/-- Sound files with a repeated id are refused for that. -/
theorem load_duplicate (hsound : ∀ f ∈ files, Sound iterErrors f)
    (hids : ¬ ((files.flatMap (rulesOf iterErrors)).map (fun r => r.2.configId.val)).Nodup) :
    ∃ errors, loadNormalizedAuthorityFiles iterErrors isPrintable files = .error errors ∧
      errors ≠ [] ∧ ∀ e ∈ errors, e.code = codeDuplicate := by
  have hcollects := collects_files iterErrors files
  have he : (collectFiles iterErrors files).errors ≠ [] := fun he => hids (hcollects.errors.mp he).2
  refine ⟨authorityError (collectFiles iterErrors files).errors, if_pos he, ?_, ?_⟩
  · obtain ⟨e, hmem⟩ := List.exists_mem_of_ne_nil _ he
    exact List.ne_nil_of_mem (mem_sortBy.mpr hmem)
  · intro e hmem
    exact hcollects.codes hsound e (mem_sortBy.mp hmem)

/-- Equally sound files whose rules say the same, in whatever order, load to the same. -/
theorem load_congr (hsound : (∀ f ∈ files, Sound iterErrors f) ↔ ∀ f ∈ files', Sound iterErrors f)
    (hrules : (∀ f ∈ files, Sound iterErrors f) →
      (files.flatMap (rulesOf iterErrors)).Perm (files'.flatMap (rulesOf iterErrors))) :
    (loadNormalizedAuthorityFiles iterErrors isPrintable files).toOption =
      (loadNormalizedAuthorityFiles iterErrors isPrintable files').toOption := by
  apply Option.ext
  intro set
  rw [toOption_eq_some, toOption_eq_some, load_eq_ok_iff, load_eq_ok_iff]
  by_cases hall : ∀ f ∈ files, Sound iterErrors f
  · have hperm := hrules hall
    have hloadable : Loadable iterErrors files ↔ Loadable iterErrors files' := by
      constructor
      · rintro ⟨-, hids, hselectors⟩
        refine ⟨hsound.mp hall, (hperm.map _).nodup_iff.mp hids, ?_⟩
        intro a ha b hb
        exact hselectors a (hperm.mem_iff.mpr ha) b (hperm.mem_iff.mpr hb)
      · rintro ⟨-, hids, hselectors⟩
        refine ⟨hall, (hperm.map _).nodup_iff.mpr hids, ?_⟩
        intro a ha b hb
        exact hselectors a (hperm.mem_iff.mp ha) b (hperm.mem_iff.mp hb)
    simp only [hloadable, hperm.mem_iff]
  · constructor
    · rintro ⟨h, -⟩
      exact absurd h.sound hall
    · rintro ⟨h, -⟩
      exact absurd (hsound.mpr h.sound) hall

end Load
end CollibraGovernance.Authority
