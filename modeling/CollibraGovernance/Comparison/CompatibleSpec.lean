import CollibraGovernance.Comparison.Compatible
import CollibraGovernance.Comparison.WellFormed

/-! The properties of well-formed elements have values that a comparison may write. -/
namespace CollibraGovernance.Comparison
open Library Domain Identity

section Identities

lemma pathTexts_segments (path : List Segment) :
    pathTexts (path.map (fun s => Json.str s.val)) = some (path.map Segment.val) := by
  rw [pathTexts]
  induction path with
  | nil => rfl
  | cons s rest ih => simp [ih]

/-- An identity is read back from its document. -/
theorem parseIdentityDict_toDict (i : ComparisonObjectIdentity) : parseIdentityDict i.toDict = some i := by
  have hkeys : hasExactly [("kind", Json.str i.kind.text),
      ("path", .arr (i.path.map (fun s => .str s.val)))] ["kind", "path"] = true := by
    simp [hasExactly, Json.lookup]
  have hkind : Json.get [("kind", Json.str i.kind.text), ("path", .arr (i.path.map (fun s => .str s.val)))]
      "kind" = .str i.kind.text := by
    simp [Json.get]
  have hitems : Json.get [("kind", Json.str i.kind.text), ("path", .arr (i.path.map (fun s => .str s.val)))]
      "path" = .arr (i.path.map (fun s => .str s.val)) := by
    simp [Json.get, Json.lookup]
  rw [ComparisonObjectIdentity.toDict, parseIdentityDict, if_pos hkeys, hkind, hitems]
  simp only [pathTexts_segments, Option.bind_some, ComparisonObjectIdentity.create_self]
  rfl

lemma take_path_of_parent {i : ComparisonObjectIdentity} {table : ComparisonObjectIdentity}
    (hkind : table.kind = .table) (hparent : i.expectedParent = some table) : i.path.take 2 = table.path := by
  cases i <;> cases hparent <;> first | rfl | cases hkind

lemma table_of_parent {i table : ComparisonObjectIdentity} (hparent : i.expectedParent = some table)
    (hkind : i.kind = .column ∨ i.kind = .primaryKey ∨ i.kind = .foreignKey ∨ i.kind = .relationship) :
    table.kind = .table := by
  cases i <;> cases hparent <;> simp_all [ComparisonObjectIdentity.kind]

end Identities

section Columns
variable {table : ComparisonObjectIdentity} {columns : List ComparisonObjectIdentity}

lemma validColumnItems_same (htable : table.kind = .table)
    (hcolumns : ∀ c ∈ columns, c.kind = .column ∧ c.expectedParent = some table)
    {shared : Option (List Segment)} (hshared : ∀ s ∈ shared, s = table.path) :
    validColumnItems none true shared (columns.map identityRef) = true := by
  induction columns generalizing shared with
  | nil => rfl
  | cons c rest ih =>
    obtain ⟨⟨hkind, hparent⟩, hrest⟩ := List.forall_mem_cons.mp hcolumns
    have htake := take_path_of_parent htable hparent
    rw [List.map_cons, validColumnItems, identityRef, parseIdentityDict_toDict]
    simp only [hkind, htake, ne_eq, not_true, if_false, Option.any_none, if_true, Bool.false_eq_true]
    cases shared with
    | none => exact ih hrest (fun s hs => (Option.some.inj hs).symm)
    | some s =>
      simp only [hshared s rfl, decide_true, Bool.true_and]
      exact ih hrest (fun s hs => (Option.some.inj hs).symm)

lemma validColumnItems_required (htable : table.kind = .table)
    (hcolumns : ∀ c ∈ columns, c.kind = .column ∧ c.expectedParent = some table) :
    validColumnItems (some table.path) false none (columns.map identityRef) = true := by
  induction columns with
  | nil => rfl
  | cons c rest ih =>
    obtain ⟨⟨hkind, hparent⟩, hrest⟩ := List.forall_mem_cons.mp hcolumns
    have htake := take_path_of_parent htable hparent
    rw [List.map_cons, validColumnItems, identityRef, parseIdentityDict_toDict]
    simp only [hkind, htake, ne_eq, not_true, if_false, Option.any_some, decide_false, Bool.false_eq_true]
    exact ih hrest

/-- The columns of a table are a valid list of columns, alone and next to the table. -/
lemma validColumnIdentityList_of (htable : table.kind = .table) (hcolumns : ColumnsOf table columns) :
    validColumnIdentityList (.arr (columns.map identityRef)) true none true = true ∧
      validColumnIdentityList (.arr (columns.map identityRef)) true (some table.path) false = true := by
  have hne : (columns.map identityRef).isEmpty = false := by
    rw [List.isEmpty_eq_false_iff]
    simpa using hcolumns.1
  constructor
  · simp only [validColumnIdentityList, hne, Bool.and_false, Bool.not_false, Bool.true_and]
    exact validColumnItems_same htable hcolumns.2 (by simp)
  · simp only [validColumnIdentityList, hne, Bool.and_false, Bool.not_false, Bool.true_and]
    exact validColumnItems_required htable hcolumns.2

end Columns

section Values
variable {i : ComparisonObjectIdentity} {p : String}

lemma compatible_present {v : CanonicalValue} (hp : isTechnicalAttributePointer p = false)
    (hpath : comparisonChangePropertyCompatibleWithKind i.kind p = true)
    (hv : validFixedValue p v.val i = true) :
    comparableChangeValueCompatible i p (ComparablePropertyValue.present v).toDict = true := by
  simp [comparableChangeValueCompatible, ComparablePropertyValue.toDict, Json.get, Json.lookup, hp, hpath, hv]

/-- A technical attribute may have any value, or none. -/
lemma compatible_technical (hp : isTechnicalAttributePointer p = true) (v : ComparablePropertyValue) :
    comparableChangeValueCompatible i p v.toDict = true := by
  cases v <;>
    simp [comparableChangeValueCompatible, ComparablePropertyValue.toDict, Json.get, Json.lookup, hp]

lemma nonWhitespaceString_of {s : String} (h : isBlank s = false) : nonWhitespaceString (.str s) = true := by
  have hne : strip s ≠ "" := by
    intro heq
    rw [strip_eq_empty_iff, h] at heq
    cases heq
  simp [nonWhitespaceString, hne]

lemma validOwnershipValue_of (o : Option Ownership) : validOwnershipValue (ownershipValue o).val = true := by
  cases o with
  | none => rfl
  | some o =>
    have hkeys : SortedBy id ["owner_name", "owner_type"] := by decide
    have hnormal : (ownershipToDict (some o)).normalize =
        .obj [("owner_name", .str o.ownerName), ("owner_type", .str o.ownerType)] := by
      rw [ownershipToDict, Ownership.toDict, Json.normalize_obj_of_sorted]
      · rfl
      · exact hkeys
    have hval : (ownershipValue (some o)).val = (ownershipToDict (some o)).normalize := rfl
    rw [hval, hnormal]
    simp [validOwnershipValue, hasExactly, Json.lookup, Json.get, nonWhitespaceString_of o.ownerName_nonblank,
      nonWhitespaceString_of o.ownerType_nonblank]

lemma basePointers_not_technical (kind : GovernedObjectKind) :
    ∀ p ∈ basePointers kind, isTechnicalAttributePointer p = false := by
  cases kind <;> decide

/-- A property that a change may name has a value that it may have. -/
theorem validFixedValue_of {e : Element ComparisonObjectIdentity} (hplaced : Placed e) (hwell : WellFormed e)
    {v : CanonicalValue} (hv : (p, .present v) ∈ baseEntries e)
    (hpath : comparisonChangePropertyCompatibleWithKind e.id.kind p = true) :
    validFixedValue p v.val e.id = true := by
  rw [← hplaced.kind] at hpath
  cases e with
  | dataSource i n s d o a =>
    obtain ⟨hname, ow, rfl⟩ := hwell
    rw [elementKind] at hpath
    simp only [baseEntries, List.mem_cons, Prod.mk.injEq, List.not_mem_nil, or_false] at hv
    rcases hv with ⟨rfl, hv⟩ | ⟨rfl, hv⟩ | ⟨rfl, hv⟩ | ⟨rfl, hv⟩
    · cases hv
      exact nonWhitespaceString_of hname
    · exact absurd hpath (by decide)
    · rfl
    · cases hv
      exact validOwnershipValue_of ow
  | database i parent n d o =>
    obtain ⟨hname, ow, rfl⟩ := hwell
    simp only [baseEntries, List.mem_cons, Prod.mk.injEq, List.not_mem_nil, or_false] at hv
    rcases hv with ⟨rfl, hv⟩ | ⟨rfl, hv⟩ | ⟨rfl, hv⟩
    · cases hv
      exact nonWhitespaceString_of hname
    · rfl
    · cases hv
      exact validOwnershipValue_of ow
  | schema i parent n d o =>
    obtain ⟨-, ow, rfl⟩ := hwell
    rw [elementKind] at hpath
    simp only [baseEntries, List.mem_cons, Prod.mk.injEq, List.not_mem_nil, or_false] at hv
    rcases hv with ⟨rfl, hv⟩ | ⟨rfl, hv⟩ | ⟨rfl, hv⟩
    · exact absurd hpath (by decide)
    · rfl
    · cases hv
      exact validOwnershipValue_of ow
  | table i parent n d o a =>
    obtain ⟨-, ow, rfl⟩ := hwell
    rw [elementKind] at hpath
    simp only [baseEntries, List.mem_cons, Prod.mk.injEq, List.not_mem_nil, or_false] at hv
    rcases hv with ⟨rfl, hv⟩ | ⟨rfl, hv⟩ | ⟨rfl, hv⟩
    · exact absurd hpath (by decide)
    · rfl
    · cases hv
      exact validOwnershipValue_of ow
  | column i parent n dataType ordinalPosition z d a =>
    obtain ⟨-, htype, hordinal⟩ := hwell
    rw [elementKind] at hpath
    simp only [baseEntries, List.mem_cons, Prod.mk.injEq, List.not_mem_nil, or_false] at hv
    rcases hv with ⟨rfl, hv⟩ | ⟨rfl, hv⟩ | ⟨rfl, hv⟩ | ⟨rfl, hv⟩ | ⟨rfl, hv⟩
    · exact absurd hpath (by decide)
    · cases hv
      exact nonWhitespaceString_of htype
    · cases hv
      exact decide_eq_true hordinal
    · cases hv
      rfl
    · rfl
  | primaryKey i table n columns =>
    obtain ⟨-, hcolumns⟩ := hwell
    have htable : table.kind = .table :=
      table_of_parent hplaced.parent.symm (Or.inr (Or.inl hplaced.kind.symm))
    have htake : i.path.take 2 = table.path := take_path_of_parent htable hplaced.parent.symm
    rw [elementKind] at hpath
    simp only [baseEntries, List.mem_cons, Prod.mk.injEq, List.not_mem_nil, or_false] at hv
    rcases hv with ⟨rfl, hv⟩ | ⟨rfl, hv⟩
    · exact absurd hpath (by decide)
    · cases hv
      change validColumnIdentityList (Json.arr (columns.map identityRef)).normalize true
        (some (i.path.take 2)) false = true
      rw [normalize_identityRefs, htake]
      exact (validColumnIdentityList_of htable hcolumns).2
  | foreignKey i table n columns referencedTable referencedColumns =>
    obtain ⟨-, hcolumns, hreferenced, hreferencedColumns⟩ := hwell
    have htable : table.kind = .table :=
      table_of_parent hplaced.parent.symm (Or.inr (Or.inr (Or.inl hplaced.kind.symm)))
    have htake : i.path.take 2 = table.path := take_path_of_parent htable hplaced.parent.symm
    rw [elementKind] at hpath
    simp only [baseEntries, List.mem_cons, Prod.mk.injEq, List.not_mem_nil, or_false] at hv
    rcases hv with ⟨rfl, hv⟩ | ⟨rfl, hv⟩ | ⟨rfl, hv⟩ | ⟨rfl, hv⟩
    · exact absurd hpath (by decide)
    · cases hv
      change validColumnIdentityList (Json.arr (columns.map identityRef)).normalize true
        (some (i.path.take 2)) false = true
      rw [normalize_identityRefs, htake]
      exact (validColumnIdentityList_of htable hcolumns).2
    · cases hv
      change validTableIdentity (Json.normalize _) = true
      rw [normalize_identityRef, validTableIdentity, identityRef, parseIdentityDict_toDict]
      exact decide_eq_true hreferenced
    · cases hv
      change validColumnIdentityList (Json.arr (referencedColumns.map identityRef)).normalize true none true = true
      rw [normalize_identityRefs]
      exact (validColumnIdentityList_of hreferenced hreferencedColumns).1
  | relationship i fromTable toTable n key d =>
    obtain ⟨-, hto, hkey⟩ := hwell
    have htable : fromTable.kind = .table :=
      table_of_parent hplaced.parent.symm (Or.inr (Or.inr (Or.inr hplaced.kind.symm)))
    have htake : i.path.take 2 = fromTable.path := take_path_of_parent htable hplaced.parent.symm
    rw [elementKind] at hpath
    simp only [baseEntries, List.mem_cons, Prod.mk.injEq, List.not_mem_nil, or_false] at hv
    rcases hv with ⟨rfl, hv⟩ | ⟨rfl, hv⟩ | ⟨rfl, hv⟩ | ⟨rfl, hv⟩
    · exact absurd hpath (by decide)
    · cases hv
      change validTableIdentity (Json.normalize _) = true
      rw [normalize_identityRef, validTableIdentity, identityRef, parseIdentityDict_toDict]
      exact decide_eq_true hto
    · cases hv
      change validForeignKeyIdentity (Json.normalize _) (some (i.path.take 2)) = true
      rw [normalize_optionRef, htake]
      cases key with
      | none => rfl
      | some k =>
        obtain ⟨hkind, hparent⟩ := hkey k rfl
        have hk : parseIdentityDict (identityRef k) = some k := parseIdentityDict_toDict k
        have hnull : ∃ members, identityRef k = .obj members := ⟨_, rfl⟩
        obtain ⟨members, hmembers⟩ := hnull
        rw [hmembers] at hk
        simp only [Option.map_some, Option.getD_some, hmembers, validForeignKeyIdentity, hk, hkind,
          take_path_of_parent htable hparent, decide_true, Option.all_some, Bool.and_self]
    · rfl

/-- Whatever a change may name, a well-formed element has a value for it that may be written. -/
theorem value_compatible {e : Element ComparisonObjectIdentity} (hplaced : Placed e) (hwell : WellFormed e)
    (hpath : comparisonChangePropertyCompatibleWithKind e.id.kind p = true)
    (hp : p ∈ basePointers e.id.kind ∨ isTechnicalAttributePointer p = true) :
    comparableChangeValueCompatible e.id p (valueOf (comparableProperties e) p).toDict = true := by
  rcases hp with hp | hp
  · have hpointer : p ∈ (baseEntries e).map Prod.fst := by
      rwa [baseEntries_pointers, hplaced.kind]
    obtain ⟨⟨q, v⟩, hv, rfl⟩ := List.mem_map.mp hpointer
    have hget := comparableProperties_base hv
    obtain ⟨w, rfl⟩ := comparableProperties_present hget
    rw [valueOf, hget, Option.getD_some]
    exact compatible_present (basePointers_not_technical _ _ hp) hpath (validFixedValue_of hplaced hwell hv hpath)
  · exact compatible_technical hp _

end Values
end CollibraGovernance.Comparison
