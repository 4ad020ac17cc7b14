import Mathlib.Data.List.Induction
import Mathlib.Data.List.Nodup
import Mathlib.Data.List.Perm.Basic
import Mathlib.Data.List.Dedup

/-! Finite maps that keep the order in which their keys were first inserted. -/
namespace CollibraGovernance.Library

/-- Writing a present key replaces its value in place; a new key goes to the end. -/
structure Dict (κ ν : Type*) where
  entries : List (κ × ν)
  nodup : (entries.map Prod.fst).Nodup

namespace Dict
variable {κ ν α : Type*}

def empty : Dict κ ν := ⟨[], List.nodup_nil⟩

def keys (d : Dict κ ν) : List κ := d.entries.map Prod.fst
def values (d : Dict κ ν) : List ν := d.entries.map Prod.snd

@[simp] theorem keys_empty : (empty : Dict κ ν).keys = [] := rfl
@[simp] theorem entries_empty : (empty : Dict κ ν).entries = [] := rfl

theorem keys_nodup (d : Dict κ ν) : d.keys.Nodup := d.nodup

lemma entries_nodup (d : Dict κ ν) : d.entries.Nodup := List.Nodup.of_map _ d.nodup

theorem ext {d e : Dict κ ν} (h : d.entries = e.entries) : d = e := by
  obtain ⟨es, hn⟩ := d
  cases h
  rfl

variable [DecidableEq κ]

/-- Look a key up. -/
def get? (d : Dict κ ν) (k : κ) : Option ν :=
  (d.entries.find? (fun e => e.1 = k)).map Prod.snd

/-- One write on the underlying entries. -/
def setEntry (k : κ) (v : ν) : List (κ × ν) → List (κ × ν)
  | [] => [(k, v)]
  | e :: rest => if e.1 = k then (k, v) :: rest else e :: setEntry k v rest

lemma map_fst_setEntry (k : κ) (v : ν) (es : List (κ × ν)) :
    (setEntry k v es).map Prod.fst =
      if k ∈ es.map Prod.fst then es.map Prod.fst else es.map Prod.fst ++ [k] := by
  induction es with
  | nil => simp [setEntry]
  | cons e rest ih =>
    by_cases h : e.1 = k
    · simp [setEntry, h]
    · have h' : k ≠ e.1 := Ne.symm h
      simp only [setEntry, h, if_false, List.map_cons, ih, List.mem_cons, h', false_or]
      split_ifs <;> rfl

/-- `d[k] = v`. -/
def set (d : Dict κ ν) (k : κ) (v : ν) : Dict κ ν where
  entries := setEntry k v d.entries
  nodup := by
    rw [map_fst_setEntry]
    split_ifs with h
    · exact d.nodup
    · exact List.nodup_append.mpr ⟨d.nodup, List.nodup_singleton k, by
        rintro a ha b hb rfl
        exact h ((List.mem_singleton.mp hb) ▸ ha)⟩

@[simp] theorem get?_empty (k : κ) : (empty : Dict κ ν).get? k = none := rfl

theorem keys_set (d : Dict κ ν) (k : κ) (v : ν) :
    (d.set k v).keys = if k ∈ d.keys then d.keys else d.keys ++ [k] :=
  map_fst_setEntry k v d.entries

@[simp] theorem mem_keys_set {d : Dict κ ν} {k k' : κ} {v : ν} :
    k' ∈ (d.set k v).keys ↔ k' = k ∨ k' ∈ d.keys := by
  rw [keys_set]
  split_ifs with h
  · constructor
    · exact Or.inr
    · rintro (rfl | h')
      · exact h
      · exact h'
  · simp [or_comm]

theorem get?_eq_some {d : Dict κ ν} {k : κ} {v : ν} :
    d.get? k = some v ↔ (k, v) ∈ d.entries := by
  obtain ⟨es, hn⟩ := d
  simp only [get?]
  induction es with
  | nil => simp
  | cons e rest ih =>
    obtain ⟨hne, hrest⟩ := List.nodup_cons.mp hn
    by_cases h : e.1 = k
    · have hk : (k, v) ∉ rest := by
        intro hm
        exact hne (h ▸ List.mem_map_of_mem (f := Prod.fst) hm)
      rw [List.find?_cons_of_pos (by simpa using h)]
      constructor
      · intro he
        have he' : e.2 = v := by simpa using he
        exact List.mem_cons.mpr (Or.inl (by rw [← h, ← he']))
      · intro hm
        rcases List.mem_cons.mp hm with rfl | hm
        · rfl
        · exact absurd hm hk
    · rw [List.find?_cons_of_neg (by simpa using h), ih hrest]
      constructor
      · exact List.mem_cons_of_mem _
      · intro hm
        rcases List.mem_cons.mp hm with rfl | hm
        · exact absurd rfl h
        · exact hm

theorem get?_eq_none {d : Dict κ ν} {k : κ} : d.get? k = none ↔ k ∉ d.keys := by
  simp only [get?, keys, Option.map_eq_none_iff, List.find?_eq_none, List.mem_map, not_exists,
    not_and, decide_eq_true_eq]

theorem mem_keys_iff {d : Dict κ ν} {k : κ} : k ∈ d.keys ↔ ∃ v, d.get? k = some v := by
  constructor
  · intro h
    cases hg : d.get? k with
    | none => exact absurd h (get?_eq_none.mp hg)
    | some v => exact ⟨v, rfl⟩
  · rintro ⟨v, hv⟩
    exact List.mem_map_of_mem (f := Prod.fst) (get?_eq_some.mp hv)

/-- `k in d` -/
def contains (d : Dict κ ν) (k : κ) : Bool := (d.get? k).isSome

theorem contains_iff {d : Dict κ ν} {k : κ} : d.contains k = true ↔ k ∈ d.keys := by
  rw [mem_keys_iff, contains, Option.isSome_iff_exists]

lemma find?_setEntry (k k' : κ) (v : ν) (es : List (κ × ν)) :
    ((setEntry k v es).find? (fun e => e.1 = k')).map Prod.snd =
      if k' = k then some v else (es.find? (fun e => e.1 = k')).map Prod.snd := by
  induction es with
  | nil =>
    by_cases h : k' = k
    · simp [setEntry, h]
    · simp [setEntry, h, Ne.symm h]
  | cons e rest ih =>
    by_cases he : e.1 = k
    · by_cases h : k' = k
      · simp [setEntry, he, h]
      · have hk : ¬ k = k' := Ne.symm h
        have hek : ¬ e.1 = k' := by rw [he]; exact hk
        simp [setEntry, he, h, hk]
    · by_cases h : k' = k
      · subst h
        simp only [if_true] at ih
        simp [setEntry, he, ih]
      · simp only [h, if_false] at ih ⊢
        by_cases hek : e.1 = k'
        · simp [setEntry, hek, h]
        · simp [setEntry, he, hek, ih]

theorem get?_set (d : Dict κ ν) (k k' : κ) (v : ν) :
    (d.set k v).get? k' = if k' = k then some v else d.get? k' := find?_setEntry k k' v d.entries

@[simp] theorem get?_set_self (d : Dict κ ν) (k : κ) (v : ν) : (d.set k v).get? k = some v := by
  simp [get?_set]

theorem get?_set_of_ne (d : Dict κ ν) {k k' : κ} (v : ν) (h : k' ≠ k) :
    (d.set k v).get? k' = d.get? k' := by simp [get?_set, h]

theorem mem_entries_set {d : Dict κ ν} {k : κ} {v : ν} {e : κ × ν} :
    e ∈ (d.set k v).entries ↔ e = (k, v) ∨ (e.1 ≠ k ∧ e ∈ d.entries) := by
  obtain ⟨k', v'⟩ := e
  rw [← get?_eq_some, get?_set]
  split_ifs with h
  · subst h
    simp [eq_comm]
  · simp [get?_eq_some, h]

/-- A new key goes to the end. -/
theorem entries_set_of_notMem {d : Dict κ ν} {k : κ} (v : ν) (h : k ∉ d.keys) :
    (d.set k v).entries = d.entries ++ [(k, v)] := by
  obtain ⟨es, hn⟩ := d
  simp only [keys] at h
  simp only [set]
  clear hn
  induction es with
  | nil => rfl
  | cons e rest ih =>
    simp only [List.map_cons, List.mem_cons, not_or] at h
    simp [setEntry, Ne.symm h.1, ih h.2]

/-- A present key keeps its place. -/
theorem entries_set_of_get? {d : Dict κ ν} {k : κ} {v₀ : ν} (v : ν) (h : d.get? k = some v₀) :
    ∃ pre post, d.entries = pre ++ (k, v₀) :: post ∧
      (d.set k v).entries = pre ++ (k, v) :: post := by
  obtain ⟨es, hn⟩ := d
  rw [get?_eq_some] at h
  simp only [set]
  induction es with
  | nil => cases h
  | cons e rest ih =>
    obtain ⟨hne, hrest⟩ := List.nodup_cons.mp hn
    by_cases he : e.1 = k
    · rcases List.mem_cons.mp h with rfl | hmem
      · exact ⟨[], rest, rfl, by simp [setEntry]⟩
      · exact absurd (he ▸ List.mem_map_of_mem (f := Prod.fst) hmem) hne
    · have hmem : (k, v₀) ∈ rest := by
        rcases List.mem_cons.mp h with rfl | hmem
        · exact absurd rfl he
        · exact hmem
      obtain ⟨pre, post, hpre, hset⟩ := ih hrest hmem
      refine ⟨e :: pre, post, ?_, ?_⟩
      · rw [List.cons_append, hpre]
      · simp only [setEntry, he, if_false, List.cons_append, hset]

/-- Rewriting a present key leaves a selection of keys alone when the selection treats both values
alike. -/
theorem map_fst_filter_set {d : Dict κ ν} {k : κ} {v v₀ : ν} {p : κ × ν → Bool}
    (hget : d.get? k = some v₀) (hp : p (k, v) = p (k, v₀)) :
    ((d.set k v).entries.filter p).map Prod.fst = (d.entries.filter p).map Prod.fst := by
  obtain ⟨es, hn⟩ := d
  rw [get?_eq_some] at hget
  simp only [set]
  induction es with
  | nil => cases hget
  | cons e rest ih =>
    obtain ⟨hne, hrest⟩ := List.nodup_cons.mp hn
    by_cases he : e.1 = k
    · rcases List.mem_cons.mp hget with rfl | hmem
      · simp only [setEntry, if_true, List.filter_cons, hp]
        split_ifs <;> rfl
      · exact absurd (he ▸ List.mem_map_of_mem (f := Prod.fst) hmem) hne
    · have hmem : (k, v₀) ∈ rest := by
        rcases List.mem_cons.mp hget with rfl | hmem
        · exact absurd rfl he
        · exact hmem
      simp only [setEntry, he, if_false, List.filter_cons]
      split_ifs
      · rw [List.map_cons, List.map_cons, ih hrest hmem]
      · exact ih hrest hmem

/-- `d.pop(k, None)` -/
def erase (d : Dict κ ν) (k : κ) : Dict κ ν where
  entries := d.entries.filter (fun e => e.1 ≠ k)
  nodup := (List.filter_sublist.map Prod.fst).nodup d.nodup

lemma mem_entries_erase {d : Dict κ ν} {k : κ} {e : κ × ν} :
    e ∈ (d.erase k).entries ↔ e.1 ≠ k ∧ e ∈ d.entries := by
  simp only [erase, List.mem_filter, decide_eq_true_eq, and_comm]

theorem get?_erase (d : Dict κ ν) (k k' : κ) :
    (d.erase k).get? k' = if k' = k then none else d.get? k' := by
  refine Option.ext ?_
  intro v
  split_ifs with h
  · rw [get?_eq_some, mem_entries_erase]
    simp [h]
  · rw [get?_eq_some, get?_eq_some, mem_entries_erase]
    simp [h]

/-- The map `{key(x): val(x) for x in xs}`: the last occurrence of a key wins. -/
def index (key : α → κ) (val : α → ν) (xs : List α) : Dict κ ν :=
  xs.foldl (fun d x => d.set (key x) (val x)) empty

variable {key : α → κ} {val : α → ν}

@[simp] theorem index_nil : index key val [] = empty := rfl

theorem index_append_singleton (xs : List α) (x : α) :
    index key val (xs ++ [x]) = (index key val xs).set (key x) (val x) := by
  simp [index, List.foldl_append]

/-- Looking a key up in an index finds the last element that carries it. -/
theorem get?_index (k : κ) (xs : List α) :
    (index key val xs).get? k = ((xs.filter (fun x => key x = k)).getLast?).map val := by
  induction xs using List.reverseRecOn with
  | nil => rfl
  | append_singleton xs x ih =>
    rw [index_append_singleton, get?_set, ih, List.filter_append]
    by_cases h : key x = k
    · simp [h]
    · simp [h, Ne.symm h]

theorem mem_keys_index {k : κ} {xs : List α} :
    k ∈ (index key val xs).keys ↔ ∃ x ∈ xs, key x = k := by
  induction xs using List.reverseRecOn with
  | nil => simp
  | append_singleton xs x ih =>
    rw [index_append_singleton, mem_keys_set, ih]
    constructor
    · rintro (rfl | ⟨y, hy, rfl⟩)
      · exact ⟨x, by simp, rfl⟩
      · exact ⟨y, by simp [hy], rfl⟩
    · rintro ⟨y, hy, rfl⟩
      rcases List.mem_append.mp hy with hy | hy
      · exact Or.inr ⟨y, hy, rfl⟩
      · exact Or.inl (by rw [List.mem_singleton.mp hy])

/-- Every entry of an index comes from one of the listed elements. -/
theorem exists_of_mem_index {e : κ × ν} {xs : List α} (h : e ∈ (index key val xs).entries) :
    ∃ x ∈ xs, key x = e.1 ∧ val x = e.2 := by
  induction xs using List.reverseRecOn with
  | nil => simp at h
  | append_singleton xs x ih =>
    rw [index_append_singleton, mem_entries_set] at h
    rcases h with rfl | ⟨-, h⟩
    · exact ⟨x, by simp, rfl, rfl⟩
    · obtain ⟨y, hy, hk⟩ := ih h
      exact ⟨y, by simp [hy], hk⟩

/-- Elements with pairwise distinct keys are all kept, in their order. -/
theorem entries_index_of_nodup {xs : List α} (h : (xs.map key).Nodup) :
    (index key val xs).entries = xs.map (fun x => (key x, val x)) := by
  induction xs using List.reverseRecOn with
  | nil => rfl
  | append_singleton xs x ih =>
    rw [List.map_append, List.nodup_append] at h
    obtain ⟨hxs, -, hdisj⟩ := h
    have hx : key x ∉ (index key val xs).keys := by
      rw [mem_keys_index]
      rintro ⟨y, hy, hyx⟩
      exact hdisj (key y) (List.mem_map_of_mem hy) (key x) (by simp) hyx
    rw [index_append_singleton, entries_set_of_notMem _ hx, ih hxs, List.map_append]
    rfl

theorem get?_index_of_nodup {xs : List α} (h : (xs.map key).Nodup) {x : α} (hx : x ∈ xs) :
    (index key val xs).get? (key x) = some (val x) := by
  rw [get?_eq_some, entries_index_of_nodup h]
  exact List.mem_map_of_mem (f := fun x => (key x, val x)) hx

/-- An index of elements under distinct keys finds the element with a given key. -/
theorem get?_index_id_eq_some {xs : List α} (h : (xs.map key).Nodup) {k : κ} {x : α} :
    (index key id xs).get? k = some x ↔ x ∈ xs ∧ key x = k := by
  rw [get?_eq_some, entries_index_of_nodup h, List.mem_map]
  simp only [id_eq, Prod.mk.injEq]
  constructor
  · rintro ⟨_, hx, rfl, rfl⟩
    exact ⟨hx, rfl⟩
  · rintro ⟨hx, rfl⟩
    exact ⟨x, hx, rfl, rfl⟩

/-- Apply a function to every value. -/
def mapValues {μ : Type*} (f : ν → μ) (d : Dict κ ν) : Dict κ μ where
  entries := d.entries.map (fun e => (e.1, f e.2))
  nodup := by
    rw [List.map_map]
    exact d.nodup

theorem get?_mapValues {μ : Type*} (f : ν → μ) (d : Dict κ ν) (k : κ) :
    (d.mapValues f).get? k = (d.get? k).map f := by
  unfold get? mapValues
  simp only [List.find?_map, Option.map_map]
  rfl

/-- Indexing transformed values transforms the index. -/
theorem index_mapValues {μ : Type*} (f : ν → μ) (xs : List α) :
    index key (f ∘ val) xs = (index key val xs).mapValues f := by
  induction xs using List.reverseRecOn with
  | nil => rfl
  | append_singleton xs x ih =>
    rw [index_append_singleton, index_append_singleton, ih]
    apply ext
    simp only [set, mapValues, Function.comp_apply]
    generalize (index key val xs).entries = es
    induction es with
    | nil => rfl
    | cons e rest ih =>
      by_cases he : e.1 = key x <;> simp [setEntry, he, ih]

/-- Indexing a mapped list composes the map with key and value. -/
theorem index_map {α' : Type*} (g : α' → α) (xs : List α') :
    index key val (xs.map g) = index (key ∘ g) (val ∘ g) xs := by
  unfold index
  rw [List.foldl_map]
  rfl

/-- Two maps agree as finite functions. -/
def Same (d e : Dict κ ν) : Prop := ∀ k, d.get? k = e.get? k

theorem same_iff_forall_keys {d e : Dict κ ν} :
    d.Same e ↔ ∀ k ∈ d.keys ++ e.keys, d.get? k = e.get? k := by
  constructor
  · intro h k _
    exact h k
  · intro h k
    by_cases hk : k ∈ d.keys ++ e.keys
    · exact h k hk
    · rw [List.mem_append, not_or] at hk
      rw [get?_eq_none.mpr hk.1, get?_eq_none.mpr hk.2]

instance [DecidableEq ν] (d e : Dict κ ν) : Decidable (d.Same e) :=
  decidable_of_iff _ same_iff_forall_keys.symm

theorem Same.refl (d : Dict κ ν) : d.Same d := fun _ => rfl
theorem Same.symm {d e : Dict κ ν} (h : d.Same e) : e.Same d := fun k => (h k).symm
theorem Same.trans {d e f : Dict κ ν} (h : d.Same e) (h' : e.Same f) : d.Same f :=
  fun k => (h k).trans (h' k)

/-- Maps that agree as finite functions list the same entries, up to order. -/
theorem Same.perm {d e : Dict κ ν} (h : d.Same e) : d.entries.Perm e.entries := by
  rw [List.perm_ext_iff_of_nodup d.entries_nodup e.entries_nodup]
  rintro ⟨k, v⟩
  rw [← get?_eq_some, ← get?_eq_some, h k]

/-- Listings of one family in two orders index the same way when equal keys mean equal elements. -/
theorem same_index_of_perm {xs ys : List α} (h : xs.Perm ys)
    (hkey : ∀ a ∈ xs, ∀ b ∈ xs, key a = key b → a = b) :
    (index key val xs).Same (index key val ys) := by
  have last : ∀ zs : List α, (∀ z ∈ zs, z ∈ xs) → ∀ z ∈ zs,
      (zs.filter (fun x => key x = key z)).getLast? = some z := by
    intro zs hzs z hz
    have hne : zs.filter (fun x => key x = key z) ≠ [] :=
      List.ne_nil_of_mem (List.mem_filter.mpr ⟨hz, by simp⟩)
    rw [List.getLast?_eq_some_getLast hne]
    obtain ⟨hm, hk⟩ := List.mem_filter.mp (List.getLast_mem hne)
    exact congrArg some (hkey _ (hzs _ hm) _ (hzs _ hz) (by simpa using hk))
  intro k
  rw [get?_index, get?_index]
  by_cases hk : ∃ x ∈ xs, key x = k
  · obtain ⟨x, hx, rfl⟩ := hk
    rw [last xs (fun _ hz => hz) x hx, last ys (fun _ hz => h.mem_iff.mpr hz) x (h.mem_iff.mp hx)]
  · have none_left : xs.filter (fun x => key x = k) = [] := by
      rw [List.filter_eq_nil_iff]
      intro a ha hak
      exact hk ⟨a, ha, by simpa using hak⟩
    have none_right : ys.filter (fun x => key x = k) = [] := by
      rw [List.filter_eq_nil_iff]
      intro a ha hak
      exact hk ⟨a, h.mem_iff.mpr ha, by simpa using hak⟩
    rw [none_left, none_right]

theorem get?_index_append (k : κ) (xs ys : List α) :
    (index key val (xs ++ ys)).get? k = ((index key val ys).get? k).or ((index key val xs).get? k) := by
  rw [get?_index, get?_index, get?_index, List.filter_append, List.getLast?_append, Option.map_or]

/-- Indexing the entries of a map gives the map. -/
theorem index_entries (d : Dict κ ν) : index Prod.fst Prod.snd d.entries = d := by
  apply ext
  rw [entries_index_of_nodup d.nodup]
  exact List.map_id _

section Injective
variable {κ' μ : Type*} [DecidableEq κ'] {f : κ → κ'} (hf : Function.Injective f) (g : ν → μ)
include hf

/-- Renaming the keys apart renames them in the index. -/
theorem get?_index_of_injective (k : κ) (xs : List α) :
    (index (f ∘ key) (g ∘ val) xs).get? (f k) = ((index key val xs).get? k).map g := by
  rw [get?_index, get?_index, Option.map_map]
  simp only [Function.comp_apply, hf.eq_iff]

/-- Elements may be indexed under new keys at once or after an index under their own keys. -/
theorem index_reindex (xs : List α) : (index (f ∘ key) (g ∘ val) xs).Same
    (index (f ∘ Prod.fst) (g ∘ Prod.snd) (index key val xs).entries) := by
  intro k
  by_cases hk : ∃ j, f j = k
  · obtain ⟨j, rfl⟩ := hk
    rw [get?_index_of_injective hf, get?_index_of_injective hf, index_entries]
  · have hne : ∀ j, f j ≠ k := fun j hj => hk ⟨j, hj⟩
    rw [get?_eq_none.mpr, get?_eq_none.mpr]
    · rw [mem_keys_index]
      rintro ⟨x, -, hx⟩
      exact hne _ hx
    · rw [mem_keys_index]
      rintro ⟨x, -, hx⟩
      exact hne _ hx

end Injective

/-- Looking the keys of one map up in another finds the entries whose key both share. -/
theorem join_perm {μ : Type*} (d : Dict κ ν) (r : Dict κ μ) :
    (d.keys.filterMap (fun k => (r.get? k).map (fun v => (k, v)))).Perm
      (r.entries.filter (fun e => d.contains e.1)) := by
  have hnodup : (d.keys.filterMap (fun k => (r.get? k).map (fun v => (k, v)))).Nodup := by
    refine List.Nodup.filterMap ?_ d.keys_nodup
    intro k k' b hk hk'
    obtain ⟨v, -, rfl⟩ := Option.map_eq_some_iff.mp hk
    obtain ⟨v', -, h⟩ := Option.map_eq_some_iff.mp hk'
    exact (congrArg Prod.fst h).symm
  rw [List.perm_ext_iff_of_nodup hnodup (r.entries_nodup.filter _)]
  rintro ⟨k, v⟩
  simp only [List.mem_filterMap, Option.map_eq_some_iff, List.mem_filter, contains_iff,
    Prod.mk.injEq]
  constructor
  · rintro ⟨k', hk, w, hw, rfl, rfl⟩
    exact ⟨get?_eq_some.mp hw, hk⟩
  · rintro ⟨hv, hk⟩
    exact ⟨k, hk, v, get?_eq_some.mpr hv, rfl, rfl⟩

/-- Matched entries and entries without a partner together list the whole map. -/
theorem join_append_rest_perm {μ : Type*} (d : Dict κ ν) (r : Dict κ μ) :
    (d.keys.filterMap (fun k => (r.get? k).map (fun v => (k, v))) ++
      r.entries.filter (fun e => !d.contains e.1)).Perm r.entries := by
  refine ((join_perm d r).append_right _).trans ?_
  exact List.filter_append_perm (fun e => d.contains e.1) r.entries

end Dict
end CollibraGovernance.Library
