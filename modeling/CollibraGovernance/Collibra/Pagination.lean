import CollibraGovernance.Collibra.LiveSpec
import CollibraGovernance.Library.PyJson

/-! Listing pages until a short one, against any server and against one that honours offset and limit. -/
namespace CollibraGovernance.Collibra.Pagination
open Library LiveCollibraAdapter

/-- Query parameters, by name or as a list of pairs. -/
inductive QueryParams where
  | mapping (params : Dict String Json)
  | sequence (params : List (String × Json))

/-- `_with_pagination` -/
def withPagination (params : QueryParams) (offset limit : Nat) : QueryParams :=
  match params with
  | .mapping params => .mapping ((params.set "offset" (.int offset)).set "limit" (.int limit))
  | .sequence params => .sequence (params ++ [("offset", .int offset), ("limit", .int limit)])

/-- `CollibraAdapterError`, or an exception of another kind. -/
inductive Failure where
  | adapterError (error : CollibraAdapterError)
  | raised (exception : String)

/-- The requests made, and how the listing ends. -/
structure Outcome where
  requests : List QueryParams
  result : Except Failure (List Json)

/-- `isinstance(item, dict)` -/
def isObject : Json → Bool
  | .obj _ => true
  | _ => false

def boundError (path : String) : CollibraAdapterError :=
  ⟨"pagination exceeded hard page bound", "get", none, some path, some "core_rest", none, none⟩

/-- The results that a response lists. -/
def resultsOf (path : String) : Json → Except Failure (List Json)
  | .obj members =>
    match Json.get members "results" with
    | .null => .error (.adapterError ⟨"list response missing results", "get", none, some path, none, none, none⟩)
    | .arr results => .ok results
    | _ =>
      .error (.adapterError ⟨"list response results must be a list", "get", none, some path, none, none, none⟩)
  | _ => .error (.raised "AttributeError")

section Paginate
variable (respond : Nat → QueryParams → Except Failure Json) (path : String) (params : QueryParams) (pageSize : Nat)

/-- The loop of `_paginate`: `pages` responses were read, up to `offset`. -/
def paginateFrom (pages offset : Nat) (collected : List Json) (requests : List QueryParams) : Outcome :=
  if pages + 1 > maxPaginationPages then ⟨requests, .error (.adapterError (boundError path))⟩
  else
    let pageParams := withPagination params offset pageSize
    match respond pages pageParams with
    | .error failure => ⟨requests ++ [pageParams], .error failure⟩
    | .ok payload =>
      match resultsOf path payload with
      | .error failure => ⟨requests ++ [pageParams], .error failure⟩
      | .ok results =>
        if results.length < pageSize then
          ⟨requests ++ [pageParams], .ok (collected ++ results.filter isObject)⟩
        else
          paginateFrom (pages + 1) (offset + pageSize) (collected ++ results.filter isObject) (requests ++ [pageParams])
termination_by maxPaginationPages - pages

/-- `_paginate` -/
def paginate : Outcome := paginateFrom respond path params pageSize 0 0 [] []

end Paginate

section Spec
variable {respond : Nat → QueryParams → Except Failure Json} {params : QueryParams} {pageSize : Nat}

/-- Whatever the responses are, no request is made beyond the page bound. -/
lemma length_requests_le (path : String) (left pages offset : Nat) (collected : List Json) (requests : List QueryParams)
    (hleft : pages + left = maxPaginationPages) :
    (paginateFrom respond path params pageSize pages offset collected requests).requests.length ≤
      requests.length + left := by
  induction left generalizing pages offset collected requests with
  | zero =>
    rw [paginateFrom, if_pos (by omega)]
    exact Nat.le_add_right _ _
  | succ left ih =>
    have hone : (requests ++ [withPagination params offset pageSize]).length = requests.length + 1 := List.length_append
    rw [paginateFrom, if_neg (by omega)]
    dsimp only
    split
    · rw [hone]
      omega
    · split
      · rw [hone]
        omega
      · split
        · rw [hone]
          omega
        · refine (ih (pages + 1) _ _ _ (by omega)).trans ?_
          rw [hone]
          omega

/-- The server lists the items by offset and limit, whatever else its responses hold. -/
def Honours (respond : Nat → QueryParams → Except Failure Json) (params : QueryParams) (items : List Json) : Prop :=
  ∀ n offset limit, ∃ members, respond n (withPagination params offset limit) = .ok (.obj members) ∧
    Json.get members "results" = .arr ((items.drop offset).take limit)

/-- The request for a page. -/
def pageRequest (params : QueryParams) (pageSize page : Nat) : QueryParams :=
  withPagination params (page * pageSize) pageSize

/-- From any page on, the rest of the pages is read up to the short one, or up to the bound. -/
lemma paginateFrom_honours (path : String) {items : List Json} (hserver : Honours respond params items)
    (hsize : 0 < pageSize) (left pages : Nat) (requests : List QueryParams) (hleft : pages + left = maxPaginationPages)
    (hpages : pages ≤ items.length / pageSize) :
    paginateFrom respond path params pageSize pages (pages * pageSize)
        ((items.take (pages * pageSize)).filter isObject) requests =
      if items.length / pageSize + 1 ≤ maxPaginationPages then
        ⟨requests ++ (List.range' pages (items.length / pageSize + 1 - pages)).map (pageRequest params pageSize),
          .ok (items.filter isObject)⟩
      else
        ⟨requests ++ (List.range' pages left).map (pageRequest params pageSize),
          .error (.adapterError (boundError path))⟩ := by
  induction left generalizing pages requests with
  | zero =>
    rw [paginateFrom, if_pos (by omega), if_neg (by omega), List.range'_zero, List.map_nil, List.append_nil]
  | succ left ih =>
    obtain ⟨members, hrespond, hresults⟩ := hserver pages (pages * pageSize) pageSize
    have hread : resultsOf path (.obj members) = .ok ((items.drop (pages * pageSize)).take pageSize) := by
      rw [resultsOf, hresults]
    have hoffset : pages * pageSize ≤ items.length := (Nat.le_div_iff_mul_le hsize).mp hpages
    have hcollect : (items.take (pages * pageSize)).filter isObject ++
        ((items.drop (pages * pageSize)).take pageSize).filter isObject =
          (items.take ((pages + 1) * pageSize)).filter isObject := by
      rw [← List.filter_append, Nat.succ_mul, List.take_add]
    rw [paginateFrom, if_neg (by omega)]
    simp only [hrespond, hread, hcollect]
    rw [List.length_take, List.length_drop]
    by_cases hlast : items.length < (pages + 1) * pageSize
    · have hcount : items.length / pageSize = pages := by
        have hlt := (Nat.div_lt_iff_lt_mul hsize).mpr hlast
        omega
      rw [Nat.succ_mul] at hlast
      rw [if_pos (by omega), if_pos (by omega), hcount, Nat.add_sub_cancel_left, List.range'_one,
        List.take_of_length_le (by rw [Nat.succ_mul]; omega)]
      rfl
    · have hmore : pages + 1 ≤ items.length / pageSize := (Nat.le_div_iff_mul_le hsize).mpr (Nat.not_lt.mp hlast)
      have hnext := ih (pages + 1) (requests ++ [pageRequest params pageSize pages]) (by omega) hmore
      rw [Nat.succ_mul] at hlast
      rw [if_neg (by omega), ← Nat.succ_mul]
      refine hnext.trans ?_
      have hrange : List.range' pages (items.length / pageSize + 1 - pages) =
          pages :: List.range' (pages + 1) (items.length / pageSize + 1 - (pages + 1)) := by
        rw [← List.range'_succ]
        congr 1
        omega
      rw [hrange, List.range'_succ, List.map_cons, List.map_cons, List.append_assoc, List.append_assoc]
      rfl

/-- The whole listing against such a server. -/
theorem paginate_honours (path : String) {items : List Json} (hserver : Honours respond params items)
    (hsize : 0 < pageSize) : paginate respond path params pageSize =
      if items.length / pageSize + 1 ≤ maxPaginationPages then
        ⟨(List.range (items.length / pageSize + 1)).map (pageRequest params pageSize), .ok (items.filter isObject)⟩
      else
        ⟨(List.range maxPaginationPages).map (pageRequest params pageSize),
          .error (.adapterError (boundError path))⟩ := by
  have h := paginateFrom_honours path hserver hsize maxPaginationPages 0 [] (Nat.zero_add _) (Nat.zero_le _)
  rw [Nat.zero_mul, List.take_zero, List.filter_nil, List.nil_append, List.nil_append, Nat.sub_zero,
    ← List.range_eq_range', ← List.range_eq_range'] at h
  exact h

/-- The value of a parameter in a request. -/
def intParam (request : QueryParams) (name : String) : Nat :=
  let value := match request with
    | .mapping params => params.get? name
    | .sequence params => (params.reverse.find? fun (p : String × Json) => p.1 = name).map Prod.snd
  match value with
  | some (.int i) => i.toNat
  | _ => 0

/-- A server of the items. -/
def listing (items : List Json) (_ : Nat) (request : QueryParams) : Except Failure Json :=
  .ok (.obj [("results", .arr ((items.drop (intParam request "offset")).take (intParam request "limit")))])

lemma honours_listing (params : QueryParams) (items : List Json) : Honours (listing items) params items := by
  intro n offset limit
  refine ⟨_, rfl, ?_⟩
  cases params with
  | mapping params =>
    have hoffset : intParam (withPagination (.mapping params) offset limit) "offset" = offset := by
      simp [intParam, withPagination, Dict.get?_set]
    have hlimit : intParam (withPagination (.mapping params) offset limit) "limit" = limit := by
      simp [intParam, withPagination]
    rw [hoffset, hlimit]
    rfl
  | sequence params =>
    have hoffset : intParam (withPagination (.sequence params) offset limit) "offset" = offset := by
      simp [intParam, withPagination]
    have hlimit : intParam (withPagination (.sequence params) offset limit) "limit" = limit := by
      simp [intParam, withPagination]
    rw [hoffset, hlimit]
    rfl

/-- The records that the adapter reads are those of the pages, where each is listed as an object. -/
theorem paginate_eq_read {α : Type} (toJson : α → Json) (hobject : ∀ a, isObject (toJson a) = true) (path : String)
    {results : List α} (hserver : Honours respond params (results.map toJson)) :
    (paginate respond path params defaultPageSize).result =
      match LiveCollibraAdapter.paginate path results with
      | .ok page => .ok (page.map toJson)
      | .error error => .error (.adapterError error) := by
  have hobjects : (results.map toJson).filter isObject = results.map toJson := by
    rw [List.filter_eq_self]
    intro item hitem
    obtain ⟨a, -, rfl⟩ := List.mem_map.mp hitem
    exact hobject a
  rw [paginate_honours path hserver (by decide), LiveCollibraAdapter.paginate, List.length_map, hobjects]
  by_cases hbound : results.length / defaultPageSize + 1 ≤ maxPaginationPages
  · rw [if_pos hbound, if_neg (Nat.not_lt.mpr hbound)]
  · rw [if_neg hbound, if_pos (Nat.not_le.mp hbound)]
    rfl

/-- Against a server that honours offset and limit, the listing gives exactly its objects after the floor of the
quotient and one more requests, or the error of the page bound exactly where they are too many; against any
server, it stops within the page bound. -/
theorem pagination_complete (path : String) (params : QueryParams) :
    (∀ respond pageSize items, 0 < pageSize → Honours respond params items →
      paginate respond path params pageSize =
        if items.length / pageSize + 1 ≤ maxPaginationPages then
          ⟨(List.range (items.length / pageSize + 1)).map (pageRequest params pageSize), .ok (items.filter isObject)⟩
        else
          ⟨(List.range maxPaginationPages).map (pageRequest params pageSize),
            .error (.adapterError (boundError path))⟩) ∧
    ∀ respond pageSize, (paginate respond path params pageSize).requests.length ≤ maxPaginationPages := by
  constructor
  · intro respond pageSize items hsize hserver
    exact paginate_honours path hserver hsize
  · intro respond pageSize
    refine (length_requests_le path maxPaginationPages 0 0 [] [] (Nat.zero_add _)).trans ?_
    rw [List.length_nil, Nat.zero_add]

/-- Five entries of a server, one of them no object. -/
def listedDatabases : List Json :=
  [.obj [("id", .str "db-1")], .obj [("id", .str "db-2")], .null, .obj [("id", .str "db-4")],
    .obj [("id", .str "db-5")]]

/-- By twos they are listed after three requests, without the entry that is no object. -/
theorem databases_listed : paginate (listing listedDatabases) "/assets" (.sequence [("name", .str "db")]) 2 =
    ⟨[pageRequest (.sequence [("name", .str "db")]) 2 0, pageRequest (.sequence [("name", .str "db")]) 2 1,
        pageRequest (.sequence [("name", .str "db")]) 2 2],
      .ok [.obj [("id", .str "db-1")], .obj [("id", .str "db-2")], .obj [("id", .str "db-4")],
        .obj [("id", .str "db-5")]]⟩ :=
  (pagination_complete "/assets" (.sequence [("name", .str "db")])).1 (listing listedDatabases) 2 listedDatabases
    (by decide) (honours_listing _ _)

end Spec
end CollibraGovernance.Collibra.Pagination
