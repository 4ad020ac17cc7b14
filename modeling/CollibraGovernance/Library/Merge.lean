import CollibraGovernance.Library.Dict
import CollibraGovernance.Library.Outcome
import CollibraGovernance.Library.StableSort

/-! Grouping equally keyed parts, and merging each group when its payloads agree. -/
namespace CollibraGovernance.Library

section Distinct
variable {α : Type*} [DecidableEq α] {κ : Type*} [LinearOrder κ]

/-- `list(dict.fromkeys(xs))`: every member once, in order of first occurrence. -/
def distinct (xs : List α) : List α := (Dict.index id (fun _ => ()) xs).keys

@[simp] theorem mem_distinct {xs : List α} {x : α} : x ∈ distinct xs ↔ x ∈ xs := by
  simp [distinct, Dict.mem_keys_index]

theorem distinct_nodup (xs : List α) : (distinct xs).Nodup := Dict.keys_nodup _

theorem length_distinct_le_one {xs : List α} :
    (distinct xs).length ≤ 1 ↔ ∀ a ∈ xs, ∀ b ∈ xs, a = b := by
  constructor
  · intro h a ha b hb
    have ha' := mem_distinct.mpr ha
    have hb' := mem_distinct.mpr hb
    match hd : distinct xs with
    | [] => rw [hd] at ha'; cases ha'
    | [x] =>
      rw [hd, List.mem_singleton] at ha' hb'
      exact ha'.trans hb'.symm
    | _ :: _ :: _ => rw [hd] at h; exact absurd h (by simp)
  · intro h
    match hd : distinct xs with
    | [] => exact Nat.zero_le _
    | [x] => exact Nat.le_refl _
    | x :: y :: rest =>
      have hnodup := distinct_nodup xs
      have hmem : ∀ z ∈ x :: y :: rest, z ∈ xs := fun z hz => mem_distinct.mp (hd ▸ hz)
      rw [hd] at hnodup
      have hsame := h x (hmem x (by simp)) y (hmem y (by simp))
      simp [hsame] at hnodup

/-- What is listed over and over is one member. -/
theorem distinct_eq_singleton {xs : List α} {x : α} (hx : x ∈ xs) (h : ∀ y ∈ xs, y = x) :
    distinct xs = [x] := by
  have hlength := length_distinct_le_one.mpr (fun a ha b hb => (h a ha).trans (h b hb).symm)
  have hmem := mem_distinct.mpr hx
  match hd : distinct xs with
  | [] => rw [hd] at hmem; cases hmem
  | [y] =>
    rw [hd, List.mem_singleton] at hmem
    rw [hmem]
  | _ :: _ :: _ => rw [hd] at hlength; exact absurd hlength (by simp)

/-- Members are counted by any key that tells them apart. -/
theorem length_distinct_map {β : Type*} [DecidableEq β] {f : α → β} (hf : Function.Injective f) (xs : List α) :
    (distinct (xs.map f)).length = (distinct xs).length := by
  have hperm : (distinct (xs.map f)).Perm ((distinct xs).map f) := by
    rw [List.perm_ext_iff_of_nodup (distinct_nodup _) ((distinct_nodup xs).map hf)]
    intro y
    simp only [mem_distinct, List.mem_map]
  rw [hperm.length_eq, List.length_map]

/-- `sorted(dict.fromkeys(xs), key=key)` -/
def sortedDistinct (key : α → κ) (xs : List α) : List α := sortBy key (distinct xs)

@[simp] theorem mem_sortedDistinct {key : α → κ} {xs : List α} {x : α} :
    x ∈ sortedDistinct key xs ↔ x ∈ xs := by
  simp [sortedDistinct]

theorem sortedDistinct_nodup (key : α → κ) (xs : List α) : (sortedDistinct key xs).Nodup :=
  (sortBy_perm key _).nodup_iff.mpr (distinct_nodup xs)

/-- The arrangement depends on the set of members alone. -/
theorem sortedDistinct_congr {key : α → κ} (hkey : Function.Injective key) {xs ys : List α}
    (h : ∀ x, x ∈ xs ↔ x ∈ ys) : sortedDistinct key xs = sortedDistinct key ys := by
  have hperm : (distinct xs).Perm (distinct ys) := by
    rw [List.perm_ext_iff_of_nodup (distinct_nodup xs) (distinct_nodup ys)]
    intro x
    rw [mem_distinct, mem_distinct, h]
  exact sortBy_congr_perm hperm (fun _ _ _ _ hab => hkey hab)

theorem sortedDistinct_idem {key : α → κ} (hkey : Function.Injective key) (xs : List α) :
    sortedDistinct key (sortedDistinct key xs) = sortedDistinct key xs :=
  sortedDistinct_congr hkey (fun _ => mem_sortedDistinct)

end Distinct

/-- A non-empty family: the member listed first and the later ones. -/
structure Group (α : Type*) where
  base : α
  others : List α

namespace Group
variable {α : Type*}

def members (g : Group α) : List α := g.base :: g.others

def append (g : Group α) (x : α) : Group α := { g with others := g.others ++ [x] }

@[simp] theorem members_append (g : Group α) (x : α) : (g.append x).members = g.members ++ [x] := rfl

lemma base_mem (g : Group α) : g.base ∈ g.members := List.mem_cons_self ..

end Group

section GroupBy
variable {α κ : Type*} [DecidableEq κ]

/-- `groups.setdefault(key(x), []).append(x)` -/
def addToGroup (key : α → κ) (d : Dict κ (Group α)) (x : α) : Dict κ (Group α) :=
  match d.get? (key x) with
  | none => d.set (key x) ⟨x, []⟩
  | some g => d.set (key x) (g.append x)

/-- Equally keyed members, in order of first occurrence of their key. -/
def groupBy (key : α → κ) (xs : List α) : Dict κ (Group α) := xs.foldl (addToGroup key) .empty

lemma groupBy_append_singleton (key : α → κ) (xs : List α) (x : α) :
    groupBy key (xs ++ [x]) = addToGroup key (groupBy key xs) x := by
  simp [groupBy, List.foldl_append]

theorem members_groupBy (key : α → κ) (xs : List α) (k : κ) :
    (((groupBy key xs).get? k).map Group.members).getD [] = xs.filter (fun x => key x = k) := by
  induction xs using List.reverseRecOn with
  | nil => rfl
  | append_singleton xs x ih =>
    rw [groupBy_append_singleton, addToGroup, List.filter_append, ← ih]
    by_cases hk : key x = k
    · subst hk
      cases hg : (groupBy key xs).get? (key x) with
      | none => simp [Group.members]
      | some g => simp
    · have hk' : k ≠ key x := Ne.symm hk
      cases hg : (groupBy key xs).get? (key x) with
      | none => simp [Dict.get?_set_of_ne, hk', hk]
      | some g => simp [Dict.get?_set_of_ne, hk', hk]

/-- A group holds exactly the listed members with its key, in listing order. -/
theorem mem_entries_groupBy {key : α → κ} {xs : List α} {e : κ × Group α}
    (h : e ∈ (groupBy key xs).entries) : e.2.members = xs.filter (fun x => key x = e.1) := by
  have hget : (groupBy key xs).get? e.1 = some e.2 := Dict.get?_eq_some.mpr h
  rw [← members_groupBy, hget]
  rfl

theorem mem_keys_groupBy {key : α → κ} {xs : List α} {k : κ} :
    k ∈ (groupBy key xs).keys ↔ ∃ x ∈ xs, key x = k := by
  have hmembers := members_groupBy key xs k
  constructor
  · intro hk
    obtain ⟨g, hg⟩ := Dict.mem_keys_iff.mp hk
    rw [hg] at hmembers
    have hbase := g.base_mem
    rw [show g.members = _ from hmembers, List.mem_filter, decide_eq_true_eq] at hbase
    exact ⟨g.base, hbase⟩
  · rintro ⟨x, hx, rfl⟩
    by_contra hk
    rw [Dict.get?_eq_none.mpr hk] at hmembers
    have hmem : x ∈ xs.filter (fun y => key y = key x) := List.mem_filter.mpr ⟨hx, by simp⟩
    rw [← hmembers] at hmem
    cases hmem

/-- One family listed in two orders has the same groups, seen by a view that the order does not touch. -/
theorem groupBy_same_of_perm {β : Type*} {view : Group α → β} {key : α → κ} {xs ys : List α} (h : xs.Perm ys)
    (hview : ∀ (k : κ) (g g' : Group α), g.members = xs.filter (fun x => key x = k) →
      g'.members = ys.filter (fun x => key x = k) → view g = view g') :
    ((groupBy key xs).mapValues view).Same ((groupBy key ys).mapValues view) := by
  intro k
  rw [Dict.get?_mapValues, Dict.get?_mapValues]
  cases hx : (groupBy key xs).get? k with
  | none =>
    cases hy : (groupBy key ys).get? k with
    | none => rfl
    | some g' =>
      obtain ⟨y, hy, hk⟩ := mem_keys_groupBy.mp (Dict.mem_keys_iff.mpr ⟨g', hy⟩)
      exact absurd (mem_keys_groupBy.mpr ⟨y, h.mem_iff.mpr hy, hk⟩) (Dict.get?_eq_none.mp hx)
  | some g =>
    cases hy : (groupBy key ys).get? k with
    | none =>
      obtain ⟨x, hx, hk⟩ := mem_keys_groupBy.mp (Dict.mem_keys_iff.mpr ⟨g, hx⟩)
      exact absurd (mem_keys_groupBy.mpr ⟨x, h.mem_iff.mp hx, hk⟩) (Dict.get?_eq_none.mp hy)
    | some g' =>
      have hg := mem_entries_groupBy (Dict.get?_eq_some.mp hx)
      have hg' := mem_entries_groupBy (Dict.get?_eq_some.mp hy)
      exact congrArg some (hview k g g' hg hg')

end GroupBy

/-- How parts of one kind are merged: equally keyed parts must agree on their payload, and their
tags are united. -/
structure Merging (α κ π τ : Type) where
  key : α → κ
  payload : α → π
  tags : α → List τ
  /-- The part with its tags replaced by the arrangement of the given ones. -/
  retag : α → List τ → α
  key_retag : ∀ a ts, key (retag a ts) = key a
  payload_retag : ∀ a ts, payload (retag a ts) = payload a
  mem_tags_retag : ∀ a ts t, tags a ⊆ ts → (t ∈ tags (retag a ts) ↔ t ∈ ts)
  retag_congr : ∀ a b ts us, key a = key b → payload a = payload b → tags a ⊆ ts → tags b ⊆ us →
    (∀ t, t ∈ ts ↔ t ∈ us) → retag a ts = retag b us
  retag_self : ∀ a, retag a (tags a) = a

namespace Merging
variable {ε α κ π τ : Type} [DecidableEq κ] (M : Merging α κ π τ)

/-- No two equally keyed parts carry different payloads. -/
def Coherent (parts : List α) : Prop :=
  ∀ a ∈ parts, ∀ b ∈ parts, M.key a = M.key b → M.payload a = M.payload b

/-- The part with the tags of all equally keyed parts. -/
def united (parts : List α) (a : α) : α :=
  M.retag a ((parts.filter (fun b => M.key b = M.key a)).flatMap M.tags)

/-- Two families with the same keyed payloads and the same keyed tags. -/
structure SameContent (parts parts' : List α) : Prop where
  forward : ∀ a ∈ parts, ∃ b ∈ parts', M.key b = M.key a ∧ M.payload b = M.payload a
  backward : ∀ b ∈ parts', ∃ a ∈ parts, M.key a = M.key b ∧ M.payload a = M.payload b
  tags : ∀ k t, (∃ a ∈ parts, M.key a = k ∧ t ∈ M.tags a) ↔
    ∃ b ∈ parts', M.key b = k ∧ t ∈ M.tags b

section Content
variable {M} {parts parts' : List α}

omit [DecidableEq κ] in
theorem SameContent.symm (h : M.SameContent parts parts') : M.SameContent parts' parts :=
  ⟨h.backward, h.forward, fun k t => (h.tags k t).symm⟩

omit [DecidableEq κ] in
theorem SameContent.trans {parts'' : List α} (h : M.SameContent parts parts')
    (h' : M.SameContent parts' parts'') : M.SameContent parts parts'' where
  forward a ha := by
    obtain ⟨b, hb, hbk, hbp⟩ := h.forward a ha
    obtain ⟨c, hc, hck, hcp⟩ := h'.forward b hb
    exact ⟨c, hc, by rw [hck, hbk], by rw [hcp, hbp]⟩
  backward c hc := by
    obtain ⟨b, hb, hbk, hbp⟩ := h'.backward c hc
    obtain ⟨a, ha, hak, hap⟩ := h.backward b hb
    exact ⟨a, ha, by rw [hak, hbk], by rw [hap, hbp]⟩
  tags k t := (h.tags k t).trans (h'.tags k t)

omit [DecidableEq κ] in
/-- Listing the same parts in another order, or some of them again, changes nothing. -/
theorem sameContent_of_mem (h : ∀ a, a ∈ parts ↔ a ∈ parts') : M.SameContent parts parts' where
  forward a ha := ⟨a, (h a).mp ha, rfl, rfl⟩
  backward a ha := ⟨a, (h a).mpr ha, rfl, rfl⟩
  tags k t := by simp only [h]

omit [DecidableEq κ] in
theorem SameContent.coherent (h : M.SameContent parts parts') (hc : M.Coherent parts) :
    M.Coherent parts' := by
  intro a ha b hb hab
  obtain ⟨a₀, ha₀, hak, hap⟩ := h.backward a ha
  obtain ⟨b₀, hb₀, hbk, hbp⟩ := h.backward b hb
  rw [← hap, ← hbp]
  exact hc a₀ ha₀ b₀ hb₀ (by rw [hak, hbk, hab])

omit [DecidableEq κ] in
theorem SameContent.mem_keys (h : M.SameContent parts parts') (k : κ) :
    k ∈ parts'.map M.key ↔ k ∈ parts.map M.key := by
  simp only [List.mem_map]
  constructor
  · rintro ⟨b, hb, rfl⟩
    obtain ⟨a, ha, hk, -⟩ := h.backward b hb
    exact ⟨a, ha, hk⟩
  · rintro ⟨a, ha, rfl⟩
    obtain ⟨b, hb, hk, -⟩ := h.forward a ha
    exact ⟨b, hb, hk⟩

omit [DecidableEq κ] in
theorem SameContent.payload_eq (h : M.SameContent parts parts') (hc : M.Coherent parts) {x a : α}
    (hx : x ∈ parts') (ha : a ∈ parts) (hk : M.key a = M.key x) : M.payload a = M.payload x := by
  obtain ⟨b, hb, hbk, hbp⟩ := h.backward x hx
  rw [← hbp]
  exact hc a ha b hb (by rw [hk, hbk])

omit [DecidableEq κ] in
/-- Where no key is repeated, a member carries the tags of all parts of its key. -/
theorem SameContent.mem_tags (h : M.SameContent parts parts') (hnodup : (parts'.map M.key).Nodup)
    {x : α} (hx : x ∈ parts') (t : τ) :
    t ∈ M.tags x ↔ ∃ a ∈ parts, M.key a = M.key x ∧ t ∈ M.tags a := by
  rw [h.tags]
  constructor
  · intro ht
    exact ⟨x, hx, rfl, ht⟩
  · rintro ⟨y, hy, hk, ht⟩
    rwa [List.inj_on_of_nodup_map hnodup hy hx hk] at ht

@[simp] theorem key_united (a : α) : M.key (M.united parts a) = M.key a := M.key_retag _ _
@[simp] theorem payload_united (a : α) : M.payload (M.united parts a) = M.payload a :=
  M.payload_retag _ _

lemma tags_subset {a : α} (ha : a ∈ parts) :
    M.tags a ⊆ (parts.filter (fun b => M.key b = M.key a)).flatMap M.tags :=
  fun _ ht => List.mem_flatMap.mpr ⟨a, List.mem_filter.mpr ⟨ha, decide_eq_true rfl⟩, ht⟩

theorem mem_tags_united {a : α} (ha : a ∈ parts) {t : τ} : t ∈ M.tags (M.united parts a) ↔
    ∃ b ∈ parts, M.key b = M.key a ∧ t ∈ M.tags b := by
  rw [united, M.mem_tags_retag _ _ _ (tags_subset ha)]
  simp only [List.mem_flatMap, List.mem_filter, decide_eq_true_eq, and_assoc]

theorem SameContent.united_eq (h : M.SameContent parts parts') {a b : α} (ha : a ∈ parts)
    (hb : b ∈ parts') (hk : M.key a = M.key b) (hp : M.payload a = M.payload b) :
    M.united parts a = M.united parts' b := by
  apply M.retag_congr _ _ _ _ hk hp (tags_subset ha) (tags_subset hb)
  intro t
  simp only [List.mem_flatMap, List.mem_filter, decide_eq_true_eq, and_assoc]
  rw [h.tags, hk]

lemma base_of_entry {e : κ × Group α} (he : e ∈ (groupBy M.key parts).entries) :
    e.2.base ∈ parts ∧ M.key e.2.base = e.1 := by
  have hbase := e.2.base_mem
  rwa [mem_entries_groupBy he, List.mem_filter, decide_eq_true_eq] at hbase

lemma exists_entry {a : α} (ha : a ∈ parts) : ∃ e ∈ (groupBy M.key parts).entries, e.1 = M.key a :=
  List.mem_map.mp (mem_keys_groupBy.mpr ⟨a, ha, rfl⟩)

end Content

section Merge
variable [DecidableEq π] (conflict : κ → ε) (check : κ → Except ε Unit)

/-- One merged part; a payload that differs from the first one is a conflict. -/
def mergeGroup (g : Group α) : Except ε α :=
  if g.others.all (fun b => M.payload b = M.payload g.base) then
    .ok (M.retag g.base (g.members.flatMap M.tags))
  else .error (conflict (M.key g.base))

/-- The parts merged group by group, each after a check of its key. -/
def mergeAll (parts : List α) : Except ε (List α) :=
  (groupBy M.key parts).entries.mapM (fun e => do
    check e.1
    M.mergeGroup conflict e.2)

variable {M} {conflict} {check} {parts parts' out out' : List α}

lemma mergeGroup_eq_ok {e : κ × Group α} (he : e ∈ (groupBy M.key parts).entries) {x : α} :
    M.mergeGroup conflict e.2 = .ok x ↔
      (∀ b ∈ parts, M.key b = e.1 → M.payload b = M.payload e.2.base) ∧
        x = M.united parts e.2.base := by
  have hmembers := mem_entries_groupBy he
  have hagree : e.2.others.all (fun b => M.payload b = M.payload e.2.base) = true ↔
      ∀ b ∈ parts, M.key b = e.1 → M.payload b = M.payload e.2.base := by
    rw [List.all_eq_true]
    constructor
    · intro h b hb hk
      have hb : b ∈ e.2.members := by
        rw [hmembers]
        exact List.mem_filter.mpr ⟨hb, decide_eq_true hk⟩
      cases List.mem_cons.mp hb with
      | inl h => rw [h]
      | inr hb => exact of_decide_eq_true (h b hb)
    · intro h b hb
      have hb : b ∈ e.2.members := List.mem_cons_of_mem _ hb
      rw [hmembers, List.mem_filter, decide_eq_true_eq] at hb
      exact decide_eq_true (h b hb.1 hb.2)
  have hunited : M.united parts e.2.base = M.retag e.2.base (e.2.members.flatMap M.tags) := by
    rw [united, (base_of_entry he).2, hmembers]
  unfold mergeGroup
  split_ifs with h
  · rw [Except.ok.injEq, hunited, eq_comm]
    exact (and_iff_right (hagree.mp h)).symm
  · constructor
    · intro hx
      cases hx
    · rintro ⟨hx, -⟩
      exact absurd (hagree.mpr hx) h

/-- Merging succeeds exactly when equally keyed parts agree and every key passes its check. -/
theorem exists_mergeAll_iff : (∃ out : List α, M.mergeAll conflict check parts = .ok out) ↔
    M.Coherent parts ∧ ∀ a ∈ parts, check (M.key a) = .ok () := by
  constructor
  · rintro ⟨out, hout⟩
    have hgroups : ∀ a ∈ parts, ∃ e ∈ (groupBy M.key parts).entries, e.1 = M.key a ∧
        check e.1 = .ok () ∧ ∃ x, M.mergeGroup conflict e.2 = .ok x := by
      intro a ha
      obtain ⟨e, he, hk⟩ := exists_entry (M := M) ha
      obtain ⟨x, -, hx⟩ := (mapM_mem hout).2 e he
      obtain ⟨u, hcheck, hx⟩ := bind_eq_ok.mp hx
      exact ⟨e, he, hk, hcheck, x, hx⟩
    refine ⟨?_, ?_⟩
    · intro a ha b hb hab
      obtain ⟨e, he, hk, -, x, hx⟩ := hgroups a ha
      have hagree := ((mergeGroup_eq_ok he).mp hx).1
      rw [hagree a ha hk.symm, hagree b hb (by rw [hk, hab])]
    · intro a ha
      obtain ⟨e, -, hk, hcheck, -⟩ := hgroups a ha
      rw [← hk]
      exact hcheck
  · rintro ⟨hcoherent, hcheck⟩
    apply exists_mapM_ok
    intro e he
    obtain ⟨hbase, hk⟩ := base_of_entry he
    have hagree : ∀ b ∈ parts, M.key b = e.1 → M.payload b = M.payload e.2.base :=
      fun b hb hbk => hcoherent b hb _ hbase (by rw [hbk, hk])
    refine ⟨M.united parts e.2.base, bind_eq_ok.mpr ⟨(), ?_, ?_⟩⟩
    · rw [← hk]
      exact hcheck _ hbase
    · exact (mergeGroup_eq_ok he).mpr ⟨hagree, rfl⟩

/-- The merged family: for each part, the part with the tags of all equally keyed ones. -/
theorem mem_mergeAll (h : M.mergeAll conflict check parts = .ok out) {x : α} :
    x ∈ out ↔ ∃ a ∈ parts, x = M.united parts a := by
  obtain ⟨hcoherent, -⟩ := exists_mergeAll_iff.mp (Exists.intro out h)
  obtain ⟨hfrom, hto⟩ := mapM_mem h
  constructor
  · intro hx
    obtain ⟨e, he, hmerged⟩ := hfrom x hx
    obtain ⟨u, -, hmerged⟩ := bind_eq_ok.mp hmerged
    exact ⟨e.2.base, (base_of_entry he).1, ((mergeGroup_eq_ok he).mp hmerged).2⟩
  · rintro ⟨a, ha, rfl⟩
    obtain ⟨e, he, hk⟩ := exists_entry (M := M) ha
    obtain ⟨y, hy, hmerged⟩ := hto e he
    obtain ⟨u, -, hmerged⟩ := bind_eq_ok.mp hmerged
    obtain ⟨hbase, hbk⟩ := base_of_entry he
    have hkey : M.key a = M.key e.2.base := by rw [hbk, hk]
    have hsame : M.SameContent parts parts := sameContent_of_mem (fun _ => Iff.rfl)
    rw [hsame.united_eq ha hbase hkey (hcoherent a ha _ hbase hkey),
      ← ((mergeGroup_eq_ok he).mp hmerged).2]
    exact hy

theorem mergeAll_keys_nodup (h : M.mergeAll conflict check parts = .ok out) :
    (out.map M.key).Nodup := by
  have hkeys : out.map M.key = (groupBy M.key parts).entries.map Prod.fst := by
    apply mapM_map_of_mem _ h
    intro e he x hx
    obtain ⟨u, -, hx⟩ := bind_eq_ok.mp hx
    rw [((mergeGroup_eq_ok he).mp hx).2, key_united, (base_of_entry he).2]
  rw [hkeys]
  exact (groupBy M.key parts).nodup

/-- Families of the same content merge to the same parts. -/
theorem mergeAll_perm (hsame : M.SameContent parts parts') {check' : κ → Except ε Unit}
    (h : M.mergeAll conflict check parts = .ok out)
    (h' : M.mergeAll conflict check' parts' = .ok out') : out.Perm out' := by
  rw [List.perm_ext_iff_of_nodup (mergeAll_keys_nodup h).of_map (mergeAll_keys_nodup h').of_map]
  intro x
  rw [mem_mergeAll h, mem_mergeAll h']
  constructor
  · rintro ⟨a, ha, rfl⟩
    obtain ⟨b, hb, hk, hp⟩ := hsame.forward a ha
    exact ⟨b, hb, hsame.united_eq ha hb hk.symm hp.symm⟩
  · rintro ⟨b, hb, rfl⟩
    obtain ⟨a, ha, hk, hp⟩ := hsame.backward b hb
    exact ⟨a, ha, hsame.symm.united_eq hb ha hk.symm hp.symm⟩

/-- Families of the same content merge to the same family, once it is put in key order. -/
theorem sortBy_mergeAll_congr {ρ : Type} [LinearOrder ρ] {rank : κ → ρ}
    (hrank : Function.Injective rank) (hsame : M.SameContent parts parts')
    {check' : κ → Except ε Unit} (h : M.mergeAll conflict check parts = .ok out)
    (h' : M.mergeAll conflict check' parts' = .ok out') :
    sortBy (fun a => rank (M.key a)) out = sortBy (fun a => rank (M.key a)) out' := by
  apply sortBy_congr_perm (mergeAll_perm hsame h h')
  intro a ha b hb hab
  exact List.inj_on_of_nodup_map (mergeAll_keys_nodup h) ha hb (hrank hab)

/-- A merged family has the content of its parts. -/
theorem sameContent_mergeAll (h : M.mergeAll conflict check parts = .ok out) :
    M.SameContent out parts where
  forward x hx := by
    obtain ⟨a, ha, rfl⟩ := (mem_mergeAll h).mp hx
    exact ⟨a, ha, (key_united a).symm, (payload_united a).symm⟩
  backward a ha := ⟨M.united parts a, (mem_mergeAll h).mpr ⟨a, ha, rfl⟩, key_united a,
    payload_united a⟩
  tags k t := by
    constructor
    · rintro ⟨x, hx, rfl, ht⟩
      obtain ⟨a, ha, rfl⟩ := (mem_mergeAll h).mp hx
      obtain ⟨b, hb, hk, ht⟩ := (mem_tags_united ha).mp ht
      exact ⟨b, hb, by rw [hk, key_united], ht⟩
    · rintro ⟨b, hb, rfl, ht⟩
      exact ⟨_, (mem_mergeAll h).mpr ⟨b, hb, rfl⟩, key_united b,
        (mem_tags_united hb).mpr ⟨b, hb, rfl, ht⟩⟩

end Merge
end Merging

/-! Merging parts that are nothing but their key and their tags. -/
namespace Merging
variable {α κ τ : Type} [DecidableEq κ] (M : Merging α κ Unit τ)

/-- One part for each key, with the tags of all parts of that key. -/
def collapse (parts : List α) : List α :=
  (groupBy M.key parts).entries.map (fun e => M.retag e.2.base (e.2.members.flatMap M.tags))

variable {M} {parts parts' : List α}

/-- Without payloads there are no conflicts. -/
lemma mergeAll_collapse (parts : List α) :
    M.mergeAll (fun _ => ()) (fun _ => .ok ()) parts = .ok (M.collapse parts) := by
  apply mapM_eq_map
  intro e he
  rw [ok_bind, mergeGroup, if_pos (by simp)]

theorem collapse_keys_nodup (parts : List α) : ((M.collapse parts).map M.key).Nodup :=
  mergeAll_keys_nodup (mergeAll_collapse parts)

theorem sameContent_collapse (parts : List α) : M.SameContent (M.collapse parts) parts :=
  sameContent_mergeAll (mergeAll_collapse parts)

theorem collapse_perm (hsame : M.SameContent parts parts') :
    (M.collapse parts).Perm (M.collapse parts') :=
  mergeAll_perm hsame (mergeAll_collapse parts) (mergeAll_collapse parts')

end Merging
end CollibraGovernance.Library
