import CollibraGovernance.Library.PyJson

/-! Which documents a schema accepts, keyword by keyword. -/
namespace CollibraGovernance.Library
namespace JsonSchema

/-- What a validator reports: the failed keyword and where. -/
structure Failure where
  validator : String
  absolutePath : List String

/-- `"type": "string"` with `minLength` -/
def text (minLength : Nat) : Json → Bool
  | .str s => minLength ≤ s.toList.length
  | _ => false

/-- `"type": "string"` with `enum` or `const` -/
def texts (allowed : List String) : Json → Bool
  | .str s => allowed.contains s
  | _ => false

/-- `"type": "array"` with `items` -/
def array (items : Json → Bool) : Json → Bool
  | .arr js => js.all items
  | _ => false

/-- `"const"` -/
def constant (value : Json) (j : Json) : Bool := j = value

/-- `"type": "null"` -/
def isNull (j : Json) : Bool := constant .null j

/-- A schema that accepts every value. -/
def anything (_ : Json) : Bool := true

/-- `"type": "integer"` with `minimum` -/
def integer (minimum : Int) : Json → Bool
  | .bool _ => false
  | j => j.number.any (fun n => minimum ≤ n)

/-- `"type": "integer"` with `const` -/
def integerConst (value : Int) : Json → Bool
  | .bool _ => false
  | j => j.number = some value

/-- `"type": "string"` with `pattern` -/
def matching (pattern : String → Bool) : Json → Bool
  | .str s => pattern s
  | _ => false

/-- `"type": "array"` with `minItems`, `maxItems` and `items` -/
def sized (least : Nat) (most : Option Nat) (items : Json → Bool) : Json → Bool
  | .arr js => least ≤ js.length && most.all (fun n => js.length ≤ n) && js.all items
  | _ => false

/-- `"oneOf"` -/
def oneOf (schemas : List (Json → Bool)) (j : Json) : Bool := schemas.countP (fun accepts => accepts j) = 1

/-- A property of an object schema. -/
structure Property where
  name : String
  required : Bool
  accepts : Json → Bool

/-- `"type": "object"` without additional properties. -/
def object (properties : List Property) : Json → Bool
  | .obj members =>
    members.all (fun m => properties.any (fun p => p.name = m.1 && p.accepts m.2)) &&
      properties.all (fun p => !p.required || (Json.lookup members p.name).isSome)
  | _ => false

lemma array_iff {items : Json → Bool} {j : Json} :
    array items j = true ↔ ∃ js, j = .arr js ∧ ∀ x ∈ js, items x = true := by
  cases j <;> simp [array]

lemma object_iff {properties : List Property} {j : Json} : object properties j = true ↔
    ∃ members, j = .obj members ∧
      (∀ m ∈ members, ∃ p ∈ properties, p.name = m.1 ∧ p.accepts m.2 = true) ∧
      ∀ p ∈ properties, p.required = true → (Json.lookup members p.name).isSome = true := by
  cases j with
  | obj members =>
    simp only [object, Bool.and_eq_true, List.all_eq_true, List.any_eq_true, decide_eq_true_eq,
      Bool.or_eq_true, Bool.not_eq_true', Json.obj.injEq, exists_eq_left']
    apply and_congr_right
    intro _
    constructor
    · intro h p hp hrequired
      cases h p hp with
      | inl hnot => rw [hrequired] at hnot; cases hnot
      | inr hsome => exact hsome
    · intro h p hp
      cases hrequired : p.required with
      | false => exact Or.inl rfl
      | true => exact Or.inr (h p hp hrequired)
  | _ => simp [object]

lemma sized_iff {least : Nat} {most : Option Nat} {items : Json → Bool} {js : List Json} :
    sized least most items (.arr js) = true ↔
      least ≤ js.length ∧ (∀ n ∈ most, js.length ≤ n) ∧ ∀ j ∈ js, items j = true := by
  cases most <;> simp [sized, and_assoc]

/-- Of two schemas that exclude each other one is enough. -/
lemma oneOf_pair {left right : Json → Bool} {j : Json} :
    oneOf [left, right] j = true ↔ (left j = true ∧ right j = false) ∨ (left j = false ∧ right j = true) := by
  cases hl : left j <;> cases hr : right j <;> simp [oneOf, hl, hr]

/-- The order of the members does not matter. -/
theorem object_perm {properties : List Property} {members members' : List (String × Json)}
    (h : members.Perm members') : object properties (.obj members) = object properties (.obj members') := by
  have hkeys := fun key => (h.map Prod.fst).mem_iff (a := key)
  rw [Bool.eq_iff_iff, object_iff, object_iff]
  simp only [Json.obj.injEq, exists_eq_left', h.mem_iff, Json.isSome_lookup, hkeys]

/-- A required member of an accepted object is there, and is accepted. -/
theorem lookup_of_object {properties : List Property} {members : List (String × Json)}
    (h : object properties (.obj members) = true) (hnames : (properties.map Property.name).Nodup)
    {p : Property} (hp : p ∈ properties) (hrequired : p.required = true) :
    ∃ v, Json.lookup members p.name = some v ∧ p.accepts v = true := by
  obtain ⟨_, hobj, haccepts, hpresent⟩ := object_iff.mp h
  cases hobj
  obtain ⟨v, hv⟩ := Option.isSome_iff_exists.mp (hpresent p hp hrequired)
  obtain ⟨p', hp', hname, haccept⟩ := haccepts _ (Json.mem_of_lookup hv)
  rw [List.inj_on_of_nodup_map hnames hp' hp hname] at haccept
  exact ⟨v, hv, haccept⟩

lemma accepts_get {properties : List Property} {members : List (String × Json)}
    (h : object properties (.obj members) = true) (hnames : (properties.map Property.name).Nodup) {p : Property}
    (hp : p ∈ properties) (hrequired : p.required = true) : p.accepts (Json.get members p.name) = true := by
  obtain ⟨v, hv, haccept⟩ := lookup_of_object h hnames hp hrequired
  rwa [Json.get_of_lookup hv]

/-- An accepted object has one member for each required property, and no other. -/
theorem members_perm {properties : List Property} {members : List (String × Json)}
    (h : object properties (.obj members) = true) (hkeys : (members.map Prod.fst).Nodup)
    (hnames : (properties.map Property.name).Nodup) (hrequired : ∀ p ∈ properties, p.required = true) :
    members.Perm (properties.map (fun p => (p.name, Json.get members p.name))) := by
  have hlisted : ((properties.map (fun p => (p.name, Json.get members p.name))).map Prod.fst).Nodup := by
    rwa [List.map_map]
  rw [List.perm_ext_iff_of_nodup (hkeys.of_map _) (hlisted.of_map _)]
  rintro ⟨key, v⟩
  obtain ⟨_, hobj, haccepts, -⟩ := object_iff.mp h
  cases hobj
  rw [List.mem_map]
  constructor
  · intro hmem
    obtain ⟨p, hp, hname, -⟩ := haccepts _ hmem
    exact ⟨p, hp, Prod.ext hname (Json.get_of_lookup ((Json.lookup_eq_some_iff hkeys).mpr (hname ▸ hmem)))⟩
  · rintro ⟨p, hp, heq⟩
    obtain ⟨rfl, rfl⟩ := Prod.mk.inj heq
    obtain ⟨v, hv, -⟩ := lookup_of_object h hnames hp (hrequired p hp)
    rw [Json.get_of_lookup hv]
    exact Json.mem_of_lookup hv

/-- An accepted object is written like one with the same keys exactly when their values are. -/
theorem normalize_eq_iff {properties : List Property} {mapping members : List (String × Json)}
    (h : object properties (.obj mapping) = true) (hkeys : (mapping.map Prod.fst).Nodup)
    (hrequired : ∀ p ∈ properties, p.required = true)
    (hsame : (members.map Prod.fst).Perm (properties.map Property.name)) (hnodup : (members.map Prod.fst).Nodup) :
    (Json.obj mapping).normalize = (Json.obj members).normalize ↔
      ∀ m ∈ members, (Json.get mapping m.1).normalize = m.2.normalize := by
  constructor
  · intro heq m hm
    rw [Json.normalize_obj_eq, Json.normalize_obj_eq, Json.obj.injEq] at heq
    have hget := congrArg (fun ms => Json.get ms m.1) heq
    simp only [Json.get_sortedMembers] at hget
    rwa [Json.get_of_lookup ((Json.lookup_eq_some_iff hnodup).mpr hm)] at hget
  · intro hvalues
    have hperm := members_perm h hkeys (hsame.nodup_iff.mp hnodup) hrequired
    have hlisted : (properties.map (fun p => (p.name, Json.get mapping p.name))).Perm
        (members.map (fun m => (m.1, Json.get mapping m.1))) := by
      have hmap := hsame.map (fun name => (name, Json.get mapping name))
      rw [List.map_map, List.map_map] at hmap
      exact hmap.symm
    rw [Json.normalize_obj_perm hkeys (hperm.trans hlisted)]
    apply Json.normalize_obj_congr
    rw [List.map_map]
    exact List.map_congr_left fun m hm => Prod.ext rfl (hvalues m hm)

/-- Without the member of its last property an accepted object is accepted by the other ones. -/
theorem object_without {properties : List Property} {p : Property} {members : List (String × Json)}
    (h : object (properties ++ [p]) (.obj members) = true) (hnew : p.name ∉ properties.map Property.name) :
    object properties (.obj (members.filter (fun m => m.1 ≠ p.name))) = true := by
  obtain ⟨_, hobj, haccepts, hpresent⟩ := object_iff.mp h
  cases hobj
  refine object_iff.mpr ⟨_, rfl, ?_, ?_⟩
  · intro m hm
    obtain ⟨hm, hne⟩ := List.mem_filter.mp hm
    obtain ⟨q, hq, hname, haccept⟩ := haccepts m hm
    rcases List.mem_append.mp hq with hq | hq
    · exact ⟨q, hq, hname, haccept⟩
    · rw [List.mem_singleton.mp hq] at hname
      exact absurd hname.symm (of_decide_eq_true hne)
  · intro q hq hrequired
    have hne : q.name ≠ p.name := fun heq => hnew (heq ▸ List.mem_map_of_mem hq)
    have hfound := hpresent q (List.mem_append_left _ hq) hrequired
    rw [Json.isSome_lookup] at hfound ⊢
    obtain ⟨m, hm, hkey⟩ := List.mem_map.mp hfound
    exact List.mem_map.mpr ⟨m, List.mem_filter.mpr ⟨hm, decide_eq_true (hkey ▸ hne)⟩, hkey⟩

/-- Exchanging the value of one member leaves an object accepted exactly when the new value is. -/
theorem object_exchange {properties : List Property} (hnames : (properties.map Property.name).Nodup)
    {p : Property} (hp : p ∈ properties) {before after : List (String × Json)} {v w : Json}
    (hv : p.accepts v = true) :
    object properties (.obj (before ++ (p.name, w) :: after)) = true ↔
      object properties (.obj (before ++ (p.name, v) :: after)) = true ∧ p.accepts w = true := by
  have hkeys : ∀ x, (before ++ (p.name, x) :: after).map Prod.fst =
      before.map Prod.fst ++ p.name :: after.map Prod.fst := by simp
  have haccepts : ∀ x, (∃ p' ∈ properties, p'.name = p.name ∧ p'.accepts x = true) ↔
      p.accepts x = true := by
    intro x
    constructor
    · rintro ⟨p', hp', hname, haccept⟩
      rwa [List.inj_on_of_nodup_map hnames hp' hp hname] at haccept
    · intro haccept
      exact ⟨p, hp, rfl, haccept⟩
  simp only [object_iff, Json.obj.injEq, exists_eq_left', Json.isSome_lookup, hkeys,
    List.forall_mem_append, List.forall_mem_cons, haccepts, hv, true_and]
  tauto

end JsonSchema
end CollibraGovernance.Library
