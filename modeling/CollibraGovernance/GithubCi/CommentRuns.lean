import CollibraGovernance.GithubCi.Comment

/-! Runs on one pull request: the sticky comment stays unique as long as the search reaches it. -/
namespace CollibraGovernance.GithubCi
open Library

/-- The comments that the search can reach. -/
def searchLimit : Nat := maxPages * perPage

lemma isStickyItem_toJson (c : Comment) : isStickyItem c.toJson = c.sticky := by
  obtain ⟨id, login, body⟩ := c
  cases login with
  | none => rfl
  | some login =>
    cases body with
    | none => exact (Bool.and_false _).symm
    | some body =>
      simp only [Comment.sticky, Option.map_some, Option.some.injEq]
      rfl

lemma find?_isStickyItem (cs : List Comment) :
    (cs.map Comment.toJson).find? isStickyItem = (cs.find? Comment.sticky).map Comment.toJson := by
  rw [List.find?_map]
  congr 2
  funext c
  exact isStickyItem_toJson c

/-- A search of so many pages from one on reads their comments, or meets a fault. -/
lemma searchPages_server (faults : RunFaults) (s : CommentServer) (count page : Nat) (visited : List PageRequest)
    (hvisited : ∀ request ∈ visited, request.page < page + 1) :
    searchPages ((serverApi faults).get s) (List.range' (page + 1) count) visited =
        .ok ((((s.comments.drop (page * perPage)).take (count * perPage)).find? Comment.sticky).map Comment.toJson) ∨
      (∃ failure, searchPages ((serverApi faults).get s) (List.range' (page + 1) count) visited = .error failure) ∧
        ∃ n, faults.get n ≠ none := by
  induction count generalizing page visited with
  | zero =>
    left
    rw [Nat.zero_mul, List.take_zero]
    rfl
  | succ count ih =>
    have hnew : (⟨perPage, page + 1⟩ : PageRequest) ∉ visited := fun hmem => Nat.lt_irrefl _ (hvisited _ hmem)
    rw [List.range'_succ, searchPages, if_neg hnew]
    cases hfault : faults.get (page + 1) with
    | some fault =>
      right
      refine ⟨?_, page + 1, by rw [hfault]; exact Option.some_ne_none _⟩
      simp only [serverApi, hfault]
      cases fault with
      | raised exception => exact ⟨_, rfl⟩
      | refused statusCode isError => exact ⟨_, if_pos isError⟩
    | none =>
      set rest := s.comments.drop (page * perPage) with hrest
      have hread : s.page ⟨perPage, page + 1⟩ = rest.take perPage := rfl
      have hchunk : rest.take ((count + 1) * perPage) =
          rest.take perPage ++ (s.comments.drop ((page + 1) * perPage)).take (count * perPage) := by
        rw [Nat.succ_mul, Nat.add_comm, List.take_add, hrest, List.drop_drop, Nat.succ_mul]
      simp only [serverApi, hfault, hread]
      rw [if_neg (by decide), hchunk, List.find?_append]
      by_cases hempty : rest.take perPage = []
      · have hnil : rest = [] := by
          rcases List.take_eq_nil_iff.mp hempty with h | h
          · exact absurd h (by decide)
          · exact h
        have hnext : s.comments.drop ((page + 1) * perPage) = [] := by
          rw [Nat.succ_mul, ← List.drop_drop, ← hrest, hnil, List.drop_nil]
        left
        rw [hempty, hnext, List.take_nil]
        rfl
      · rw [if_neg (by simpa using hempty), find?_isStickyItem]
        cases hfind : (rest.take perPage).find? Comment.sticky with
        | some c =>
          left
          rfl
        | none =>
          rw [Option.map_none, Option.none_or, List.length_map]
          dsimp only
          by_cases hshort : (rest.take perPage).length < perPage
          · have hlength : rest.length < perPage := by
              rw [List.length_take] at hshort
              omega
            have hnext : s.comments.drop ((page + 1) * perPage) = [] := by
              rw [Nat.succ_mul, ← List.drop_drop, ← hrest, List.drop_eq_nil_iff]
              exact hlength.le
            left
            rw [if_pos hshort, hnext, List.take_nil]
            rfl
          · rw [if_neg hshort]
            refine ih (page + 1) _ fun request hmem => ?_
            rcases List.mem_append.mp hmem with hmem | hmem
            · exact Nat.lt_succ_of_lt (hvisited request hmem)
            · rw [List.mem_singleton.mp hmem]
              exact Nat.lt_succ_self _

/-- The search gives the first sticky comment within its limit, or meets a fault. -/
theorem findStickyComment_server (faults : RunFaults) (s : CommentServer) :
    findStickyComment ((serverApi faults).get s) =
        .ok (((s.comments.take searchLimit).find? Comment.sticky).map Comment.toJson) ∨
      (∃ failure, findStickyComment ((serverApi faults).get s) = .error failure) ∧ ∃ n, faults.get n ≠ none := by
  have h := searchPages_server faults s maxPages 0 [] fun request hmem => absurd hmem List.not_mem_nil
  rwa [Nat.zero_mul, List.drop_zero] at h

lemma commentId_toJson (c : Comment) : commentId c.toJson = .int c.id := rfl

/-- A comment is found again under its id. -/
lemma find?_id (s : CommentServer) {c : Comment} (hc : c ∈ s.comments) :
    s.comments.find? (fun d => Json.int d.id = .int c.id) = some c := by
  have hpred : (fun d : Comment => decide (Json.int d.id = .int c.id)) = fun d => decide (d.id = c.id) := by
    funext d
    simp only [Json.int.injEq, Int.ofNat_inj]
  rw [hpred]
  have hsome : (s.comments.find? fun d => decide (d.id = c.id)).isSome := List.find?_isSome.mpr ⟨c, hc, decide_eq_true rfl⟩
  obtain ⟨d, hd⟩ := Option.isSome_iff_exists.mp hsome
  have hid : d.id = c.id := by simpa using List.find?_some hd
  rw [hd, List.inj_on_of_nodup_map s.ids_nodup (List.mem_of_find?_eq_some hd) hc hid]

/-- What a write leaves, and that it is stored when it reports its status. -/
lemma storeWrite_cases (fault : Option WriteFault) (statusCode : Nat) (before after : CommentServer)
    (status : String) :
    ((storeWrite fault statusCode before after).2 = before ∧
        ∃ failure, checkWrite (storeWrite fault statusCode before after).1 status = .error failure) ∨
      (storeWrite fault statusCode before after).2 = after := by
  match fault with
  | none => exact Or.inr rfl
  | some (.refused errorCode isError) => exact Or.inl ⟨rfl, _, if_pos isError⟩
  | some (.lost true exception) => exact Or.inr rfl
  | some (.lost false exception) => exact Or.inl ⟨rfl, _, rfl⟩

/-- What one run leaves: the comments as they were after a failure; or, where the search finds none, one more
comment; or, where it finds one, that comment with the new body. -/
theorem createOrUpdate_cases (faults : RunFaults) (s : CommentServer) (body : String) :
    ((createOrUpdateComment (serverApi faults) s body).2 = s ∧
        ∃ failure, (createOrUpdateComment (serverApi faults) s body).1 = .error failure) ∨
      ((s.comments.take searchLimit).find? Comment.sticky = none ∧
        (createOrUpdateComment (serverApi faults) s body).2 = s.add (some botLogin) (some body)) ∨
      ∃ c, (s.comments.take searchLimit).find? Comment.sticky = some c ∧
        (createOrUpdateComment (serverApi faults) s body).2 = s.edit c.id body := by
  unfold createOrUpdateComment
  rcases findStickyComment_server faults s with hfound | ⟨⟨failure, hfailed⟩, -⟩
  · rw [hfound]
    cases hfind : (s.comments.take searchLimit).find? Comment.sticky with
    | none =>
      rcases storeWrite_cases faults.write 201 s (s.add (some botLogin) (some body)) "created" with hkept | hstored
      · exact Or.inl hkept
      · exact Or.inr (Or.inl ⟨rfl, hstored⟩)
    | some c =>
      have hmem : c ∈ s.comments := List.mem_of_mem_take (List.mem_of_find?_eq_some hfind)
      simp only [Option.map_some, commentId_toJson, isInt, if_true, serverApi, find?_id s hmem]
      rcases storeWrite_cases faults.write 200 s (s.edit c.id body) "updated" with hkept | hstored
      · exact Or.inl hkept
      · exact Or.inr (Or.inr ⟨c, rfl, hstored⟩)
  · rw [hfailed]
    exact Or.inl ⟨rfl, failure, rfl⟩

/-! ### The sticky comments -/

lemma firstLine_buildCommentBody (reportText : String) : firstLine (buildCommentBody reportText) = commentMarker := by
  have hmarker : ∀ c ∈ commentMarker.toList, (!isLineBoundary c) = true := List.all_eq_true.mp (by decide)
  have htext : ∀ text : String, firstLine (commentMarker ++ "\n" ++ text) = commentMarker := by
    intro text
    rw [firstLine, String.toList_append, String.toList_append, List.append_assoc,
      List.takeWhile_append_of_pos hmarker]
    change String.ofList (commentMarker.toList ++ List.takeWhile _ ('\n' :: text.toList)) = _
    rw [List.takeWhile_cons_of_neg (by decide), List.append_nil, String.ofList_toList]
  exact htext _

namespace CommentServer

def stickies (s : CommentServer) : List Comment := s.comments.filter Comment.sticky

def AtMostOne (s : CommentServer) : Prop := s.stickies.length ≤ 1

/-- No sticky comment is listed behind the search limit. -/
def Reached (s : CommentServer) : Prop := ∀ c ∈ s.comments.drop searchLimit, c.sticky = false

lemma stickies_eq_nil {s : CommentServer} (hreached : s.Reached)
    (h : (s.comments.take searchLimit).find? Comment.sticky = none) : s.stickies = [] := by
  rw [stickies, List.filter_eq_nil_iff]
  intro c hc
  rw [← List.take_append_drop searchLimit s.comments] at hc
  rcases List.mem_append.mp hc with hc | hc
  · exact List.find?_eq_none.mp h c hc
  · rw [hreached c hc]
    decide

lemma stickies_eq_singleton {s : CommentServer} {c : Comment} (hone : s.AtMostOne) (hc : c ∈ s.comments)
    (hsticky : c.sticky = true) : s.stickies = [c] := by
  have hmem : c ∈ s.stickies := List.mem_filter.mpr ⟨hc, hsticky⟩
  obtain ⟨d, hd⟩ := List.length_eq_one_iff.mp (Nat.le_antisymm hone (List.length_pos_of_mem hmem))
  rw [hd] at hmem
  rw [hd, List.mem_singleton.mp hmem]

lemma stickies_add (s : CommentServer) (login body : Option String) :
    (s.add login body).stickies = s.stickies ++ [⟨s.nextId, login, body⟩].filter Comment.sticky := List.filter_append ..

/-- The only sticky comment is the one that was edited, and keeps its place. -/
lemma stickies_edit {s : CommentServer} {c : Comment} (hone : s.AtMostOne) (hc : c ∈ s.comments)
    (hsticky : c.sticky = true) (reportText : String) :
    (s.edit c.id (buildCommentBody reportText)).stickies = [{ c with body := some (buildCommentBody reportText) }] := by
  have hlogin : c.login = some botLogin := of_decide_eq_true (Bool.and_eq_true_iff.mp hsticky).1
  have hkept : ∀ d ∈ s.comments,
      (if d.id = c.id then { d with body := some (buildCommentBody reportText) } else d).sticky = d.sticky := by
    intro d hd
    split_ifs with hid
    · rw [List.inj_on_of_nodup_map s.ids_nodup hd hc hid, hsticky, Comment.sticky, hlogin, Option.map_some,
        firstLine_buildCommentBody]
      rfl
    · rfl
  rw [stickies, edit, List.filter_map]
  have hfilter : s.comments.filter (Comment.sticky ∘ fun d =>
      if d.id = c.id then { d with body := some (buildCommentBody reportText) } else d) = s.stickies :=
    List.filter_congr hkept
  rw [hfilter, stickies_eq_singleton hone hc hsticky, List.map_singleton, if_pos rfl]

lemma atMostOne_delete {s : CommentServer} (hone : s.AtMostOne) (id : Nat) : (s.delete id).AtMostOne := by
  refine le_trans (List.Sublist.length_le ?_) hone
  exact List.filter_sublist.filter Comment.sticky

end CommentServer

/-- What happens on a pull request, one after the other. -/
inductive CommentEvent where
  | run (reportText : String) (faults : RunFaults)
  | add (login body : Option String) (isOther : (Comment.mk 0 login body).sticky = false)
  | delete (id : Nat)

namespace CommentEvent

def apply (s : CommentServer) : CommentEvent → CommentServer
  | .run reportText faults => (publishReport (serverApi faults) s reportText).2
  | .add login body _ => s.add login body
  | .delete id => s.delete id

/-- A run meets the sticky comment within the search limit. -/
def Reached (s : CommentServer) : CommentEvent → Prop
  | .run _ _ => s.Reached
  | .add _ _ _ => True
  | .delete _ => True

end CommentEvent

/-- The server after the events. -/
def afterEvents (s : CommentServer) (events : List CommentEvent) : CommentServer := events.foldl CommentEvent.apply s

/-- Every run meets the sticky comment within the search limit. -/
def AllReached : CommentServer → List CommentEvent → Prop
  | _, [] => True
  | s, event :: events => event.Reached s ∧ AllReached (event.apply s) events

/-- A run that reaches the sticky comment leaves at most one, and the one it wrote when it reports success. -/
theorem run_stickies {s : CommentServer} (hone : s.AtMostOne) (hreached : s.Reached) (reportText : String)
    (faults : RunFaults) :
    ((CommentEvent.run reportText faults).apply s).AtMostOne ∧
      ((publishReport (serverApi faults) s reportText).1 ≠ "failed" →
        ((CommentEvent.run reportText faults).apply s).stickies.map Comment.body = [some (buildCommentBody reportText)]) := by
  have hone_of : ∀ t : CommentServer, t.stickies.map Comment.body = [some (buildCommentBody reportText)] → t.AtMostOne := by
    intro t h
    rw [CommentServer.AtMostOne, ← List.length_map, h]
    exact Nat.le_refl 1
  rw [CommentEvent.apply, publishReport]
  dsimp only
  rcases createOrUpdate_cases faults s (buildCommentBody reportText) with ⟨hkept, failure, hfailed⟩ | ⟨hnone, hadded⟩ |
    ⟨c, hfound, hedited⟩
  · rw [hkept, hfailed]
    exact ⟨hone, fun h => absurd rfl h⟩
  · have hbody : (s.add (some botLogin) (some (buildCommentBody reportText))).stickies.map Comment.body =
        [some (buildCommentBody reportText)] := by
      have hsticky : (Comment.mk s.nextId (some botLogin) (some (buildCommentBody reportText))).sticky = true := by
        rw [Comment.sticky, Option.map_some, firstLine_buildCommentBody]
        rfl
      rw [CommentServer.stickies_add, CommentServer.stickies_eq_nil hreached hnone, List.nil_append,
        List.filter_cons_of_pos hsticky]
      rfl
    rw [hadded]
    exact ⟨hone_of _ hbody, fun _ => hbody⟩
  · have hmem : c ∈ s.comments := List.mem_of_mem_take (List.mem_of_find?_eq_some hfound)
    have hbody : (s.edit c.id (buildCommentBody reportText)).stickies.map Comment.body =
        [some (buildCommentBody reportText)] := by
      rw [CommentServer.stickies_edit hone hmem (List.find?_some hfound)]
      rfl
    rw [hedited]
    exact ⟨hone_of _ hbody, fun _ => hbody⟩

/-- Every event keeps the sticky comment unique. -/
lemma atMostOne_apply {s : CommentServer} (hone : s.AtMostOne) (event : CommentEvent) (hreached : event.Reached s) :
    (event.apply s).AtMostOne := by
  cases event with
  | run reportText faults => exact (run_stickies hone hreached reportText faults).1
  | add login body isOther =>
    have hother : (Comment.mk s.nextId login body).sticky = false := isOther
    rw [CommentEvent.apply, CommentServer.AtMostOne, CommentServer.stickies_add,
      List.filter_cons_of_neg (by rw [hother]; decide), List.filter_nil, List.append_nil]
    exact hone
  | delete id => exact CommentServer.atMostOne_delete hone id

theorem atMostOne_afterEvents {s : CommentServer} (hone : s.AtMostOne) {events : List CommentEvent}
    (hreached : AllReached s events) : (afterEvents s events).AtMostOne := by
  induction events generalizing s with
  | nil => exact hone
  | cons event events ih => exact ih (atMostOne_apply hone event hreached.1) hreached.2

lemma allReached_append {s : CommentServer} {earlier later : List CommentEvent} :
    AllReached s (earlier ++ later) ↔ AllReached s earlier ∧ AllReached (afterEvents s earlier) later := by
  induction earlier generalizing s with
  | nil => exact (and_iff_right trivial).symm
  | cons event earlier ih =>
    rw [List.cons_append, AllReached, AllReached, ih, and_assoc]
    rfl

/-- From at most one sticky comment on, and while the search reaches it at every run, each run that reports success
leaves exactly one, with the body built from its report. -/
theorem sticky_comment_unique {s : CommentServer} (hone : s.AtMostOne) (earlier : List CommentEvent)
    (reportText : String) (faults : RunFaults) (hreached : AllReached s (earlier ++ [.run reportText faults]))
    (hstatus : (publishReport (serverApi faults) (afterEvents s earlier) reportText).1 ≠ "failed") :
    (afterEvents s (earlier ++ [.run reportText faults])).stickies.map Comment.body =
      [some (buildCommentBody reportText)] := by
  obtain ⟨hearlier, hrun, -⟩ := allReached_append.mp hreached
  have h := (run_stickies (atMostOne_afterEvents hone hearlier) hrun reportText faults).2 hstatus
  rwa [afterEvents, List.foldl_append]

def noFaults : RunFaults := ⟨fun _ => none, none⟩

/-- A run without faults whose search finds nothing creates a comment. -/
lemma publishReport_created {s : CommentServer} (h : (s.comments.take searchLimit).find? Comment.sticky = none)
    (reportText : String) : publishReport (serverApi noFaults) s reportText =
      ("created", s.add (some botLogin) (some (buildCommentBody reportText))) := by
  rcases findStickyComment_server noFaults s with hfound | ⟨-, n, hn⟩
  · rw [publishReport, createOrUpdateComment, hfound, h]
    rfl
  · exact absurd rfl hn

/-- A run without faults reports whether its search found a comment. -/
lemma publishReport_status (s : CommentServer) (reportText : String) :
    (publishReport (serverApi noFaults) s reportText).1 =
      if ((s.comments.take searchLimit).find? Comment.sticky).isSome then "updated" else "created" := by
  rcases findStickyComment_server noFaults s with hfound | ⟨-, n, hn⟩
  · rw [publishReport, createOrUpdateComment, hfound]
    cases hfind : (s.comments.take searchLimit).find? Comment.sticky with
    | none => rfl
    | some c =>
      have hmem : c ∈ s.comments := List.mem_of_mem_take (List.mem_of_find?_eq_some hfind)
      simp only [Option.map_some, commentId_toJson, isInt, if_true, serverApi, find?_id s hmem]
      rfl
  · exact absurd rfl hn

lemma reached_of_length {s : CommentServer} (h : s.comments.length ≤ searchLimit) : s.Reached := by
  intro c hc
  rw [List.drop_eq_nil_of_le h] at hc
  exact absurd hc List.not_mem_nil

/-- An event adds one comment at most. -/
lemma length_apply_le (s : CommentServer) (event : CommentEvent) :
    (event.apply s).comments.length ≤ s.comments.length + 1 := by
  have hadd : ∀ login body, (s.add login body).comments.length = s.comments.length + 1 := fun _ _ => List.length_append
  have hedit : ∀ id body, (s.edit id body).comments.length = s.comments.length := fun _ _ => List.length_map _
  cases event with
  | run reportText faults =>
    rw [CommentEvent.apply, publishReport]
    dsimp only
    rcases createOrUpdate_cases faults s (buildCommentBody reportText) with ⟨hkept, -⟩ | ⟨-, hadded⟩ | ⟨c, -, hedited⟩
    · rw [hkept]
      omega
    · rw [hadded, hadd]
    · rw [hedited, hedit]
      omega
  | add login body isOther => exact (hadd login body).le
  | delete id => exact (List.length_filter_le ..).trans (Nat.le_succ _)

/-- While there is room for every event within the search limit, each run reaches the sticky comment. -/
lemma allReached_of_length {s : CommentServer} {events : List CommentEvent}
    (h : s.comments.length + events.length ≤ searchLimit) : AllReached s events := by
  induction events generalizing s with
  | nil => trivial
  | cons event events ih =>
    rw [List.length_cons] at h
    have hstep := length_apply_le s event
    refine ⟨?_, ih (by omega)⟩
    have hreached : s.Reached := reached_of_length (by omega)
    cases event with
    | run reportText faults => exact hreached
    | add login body isOther => trivial
    | delete id => trivial

/-- So many comments of a user. -/
def usersServer (count : Nat) : CommentServer where
  comments := (List.range count).map fun n => ⟨n, some "octocat", some "noted"⟩
  nextId := count
  ids_nodup := by
    rw [List.map_map]
    exact (List.map_id _).symm ▸ List.nodup_range
  ids_lt c hc := by
    obtain ⟨n, hn, rfl⟩ := List.mem_map.mp hc
    exact List.mem_range.mp hn

lemma usersServer_length (count : Nat) : (usersServer count).comments.length = count := by
  rw [usersServer, List.length_map, List.length_range]

lemma usersServer_sticky {count : Nat} : ∀ c ∈ (usersServer count).comments, c.sticky = false := by
  intro c hc
  obtain ⟨n, -, rfl⟩ := List.mem_map.mp hc
  exact Bool.false_and _

lemma usersServer_stickies (count : Nat) : (usersServer count).stickies = [] := by
  rw [CommentServer.stickies, List.filter_eq_nil_iff]
  intro c hc
  rw [usersServer_sticky c hc]
  decide

/-- A first run writes behind the comments of a user, who then deletes one of them. -/
def failedThenDeleted : List CommentEvent := [.run "OVERALL: FAIL" noFaults, .delete 3]

/-- The next run finds the sticky comment on the second page, and gives it the new body. -/
theorem sticky_comment_on_second_page :
    ((afterEvents (usersServer 150) failedThenDeleted).page ⟨perPage, 2⟩).any Comment.sticky = true ∧
    (afterEvents (usersServer 150) (failedThenDeleted ++ [.run "OVERALL: PASS" noFaults])).stickies.map Comment.body =
      [some (buildCommentBody "OVERALL: PASS")] := by
  have hone : (usersServer 150).AtMostOne := by
    rw [CommentServer.AtMostOne, usersServer_stickies]
    exact Nat.zero_le 1
  refine ⟨by decide +kernel, sticky_comment_unique hone failedThenDeleted "OVERALL: PASS" noFaults ?_ ?_⟩
  · exact allReached_of_length (by rw [usersServer_length]; decide)
  · rw [publishReport_status]
    split_ifs <;> decide

/-- As many comments of a user as the search reads. -/
def crowdedServer : CommentServer := usersServer searchLimit

/-- Behind so many comments the sticky one is not found again, and the second run creates another. -/
theorem second_sticky_comment :
    crowdedServer.stickies = [] ∧
    (afterEvents crowdedServer [.run "OVERALL: PASS" noFaults, .run "OVERALL: FAIL" noFaults]).stickies.map Comment.body =
      [some (buildCommentBody "OVERALL: PASS"), some (buildCommentBody "OVERALL: FAIL")] := by
  have hlength : crowdedServer.comments.length = searchLimit := usersServer_length searchLimit
  have hempty : crowdedServer.stickies = [] := usersServer_stickies searchLimit
  have hfind : crowdedServer.comments.find? Comment.sticky = none := by
    rw [List.find?_eq_none]
    intro c hc
    rw [usersServer_sticky c hc]
    decide
  have hsticky : ∀ id text, (Comment.mk id (some botLogin) (some (buildCommentBody text))).sticky = true := by
    intro id text
    rw [Comment.sticky, Option.map_some, firstLine_buildCommentBody]
    rfl
  have hfirst := publishReport_created (s := crowdedServer) (by rw [List.take_of_length_le hlength.le, hfind]) "OVERALL: PASS"
  have hsecond := publishReport_created
    (s := crowdedServer.add (some botLogin) (some (buildCommentBody "OVERALL: PASS")))
    (by rw [CommentServer.add, List.take_append_of_le_length hlength.ge, List.take_of_length_le hlength.le, hfind])
    "OVERALL: FAIL"
  refine ⟨hempty, ?_⟩
  rw [afterEvents, List.foldl_cons, List.foldl_cons, List.foldl_nil, CommentEvent.apply, CommentEvent.apply, hfirst,
    hsecond, CommentServer.stickies_add, CommentServer.stickies_add, hempty, List.nil_append,
    List.filter_cons_of_pos (hsticky _ _), List.filter_cons_of_pos (hsticky _ _)]
  rfl

end CollibraGovernance.GithubCi
