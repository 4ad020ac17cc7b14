import CollibraGovernance.Library.PyJson
import CollibraGovernance.Library.Outcome

/-! The sticky pull-request comment: searched page by page, then created or updated, against a server that
stores what is posted. -/
namespace CollibraGovernance.GithubCi
open Library

def commentMarker : String := "<!-- governance-as-code:pr-report:v1 -->"
def botLogin : String := "github-actions[bot]"
def maxPages : Nat := 20
def perPage : Nat := 100

/-- `CommentError`, or an exception of another kind. -/
inductive CommentFailure where
  | commentError (message : String)
  | raised (exception : String)
  deriving DecidableEq

def safeApiMessage (statusCode : Nat) : String :=
  if statusCode = 403 then "pull request comment API returned 403"
  else if statusCode = 404 then "pull request comment API returned 404"
  else if statusCode = 422 then "pull request comment API returned 422"
  else if 500 ≤ statusCode ∧ statusCode ≤ 599 then "pull request comment API returned a server error"
  else "pull request comment API request failed"

def buildCommentBody (reportText : String) : String :=
  let body := if reportText.toList.getLast? = some '\n' then reportText else reportText ++ "\n"
  commentMarker ++ "\n" ++ body

/-- The line boundaries of `str.splitlines`. -/
def isLineBoundary (c : Char) : Bool :=
  let n := c.toNat
  (0xA ≤ n && n ≤ 0xD) || (0x1C ≤ n && n ≤ 0x1E) || n == 0x85 || n == 0x2028 || n == 0x2029

/-- `body.splitlines()[0] if body else ""` -/
def firstLine (body : String) : String := String.ofList (body.toList.takeWhile fun c => !isLineBoundary c)

structure PageRequest where
  perPage : Nat
  page : Nat
  deriving DecidableEq

/-- A response, with its JSON document where it has one, or an exception of the transport. -/
inductive Reply where
  | response (statusCode : Nat) (json : Option Json)
  | raised (exception : String)

/-- The comment API of one pull request, over the state of its server. -/
structure CommentApi (σ : Type) where
  get : σ → PageRequest → Reply
  post : σ → String → Reply × σ
  patch : σ → Json → String → Reply × σ

/-- A comment of the bot whose first line is the marker. -/
def isStickyItem : Json → Bool
  | .obj members =>
    match Json.get members "user", Json.get members "body" with
    | .obj user, .str body =>
      (match Json.get user "login" with
        | .str login => decide (login = botLogin)
        | _ => false) && decide (firstLine body = commentMarker)
    | _, _ => false
  | _ => false

/-- The search over the pages left, with the requests made so far. -/
def searchPages (get : PageRequest → Reply) : List Nat → List PageRequest → Except CommentFailure (Option Json)
  | [], _ => .ok none
  | page :: pages, visited =>
    let request : PageRequest := ⟨perPage, page⟩
    if request ∈ visited then .ok none
    else
      match get request with
      | .raised exception => .error (.raised exception)
      | .response statusCode json =>
        if statusCode ≥ 400 then .error (.commentError (safeApiMessage statusCode))
        else
          match json with
          | none => .error (.raised "JSONDecodeError")
          | some (.arr items) =>
            if items.isEmpty then .ok none
            else
              match items.find? isStickyItem with
              | some item => .ok (some item)
              | none => if items.length < perPage then .ok none else searchPages get pages (visited ++ [request])
          | some _ => .error (.commentError "pull request comment API returned an unexpected payload")

def findStickyComment (get : PageRequest → Reply) : Except CommentFailure (Option Json) :=
  searchPages get (List.range' 1 maxPages) []

/-- `existing.get("id")` -/
def commentId : Json → Json
  | .obj members => Json.get members "id"
  | _ => .null

/-- `isinstance(value, int)` -/
def isInt : Json → Bool
  | .int _ | .bool _ => true
  | _ => false

def checkWrite (reply : Reply) (status : String) : Except CommentFailure String :=
  match reply with
  | .raised exception => .error (.raised exception)
  | .response statusCode _ =>
    if statusCode ≥ 400 then .error (.commentError (safeApiMessage statusCode)) else .ok status

section Publish
variable {σ : Type} (api : CommentApi σ)

def createOrUpdateComment (s : σ) (body : String) : Except CommentFailure String × σ :=
  match findStickyComment (api.get s) with
  | .error failure => (.error failure, s)
  | .ok none =>
    let write := api.post s body
    (checkWrite write.1 "created", write.2)
  | .ok (some existing) =>
    if isInt (commentId existing) then
      let write := api.patch s (commentId existing) body
      (checkWrite write.1 "updated", write.2)
    else (.error (.commentError "sticky comment id invalid"), s)

/-- The status that a run reports for its comment. -/
def publishReport (s : σ) (reportText : String) : String × σ :=
  let outcome := createOrUpdateComment api s (buildCommentBody reportText)
  (match outcome.1 with
    | .ok status => status
    | .error _ => "failed", outcome.2)

end Publish

/-! ### The server -/

structure Comment where
  id : Nat
  login : Option String
  body : Option String

namespace Comment

def toJson (c : Comment) : Json :=
  .obj [("id", .int c.id),
    ("user", match c.login with
      | some login => .obj [("login", .str login)]
      | none => .null),
    ("body", match c.body with
      | some body => .str body
      | none => .null)]

/-- The comment is by the bot, and its first line is the marker. -/
def sticky (c : Comment) : Bool :=
  decide (c.login = some botLogin) && decide (c.body.map firstLine = some commentMarker)

end Comment

/-- The comments of a pull request in the order they are listed; new ones get ids of their own. -/
structure CommentServer where
  comments : List Comment
  nextId : Nat
  ids_nodup : (comments.map Comment.id).Nodup
  ids_lt : ∀ c ∈ comments, c.id < nextId

namespace CommentServer

/-- The comments with a new one after them. -/
def add (s : CommentServer) (login body : Option String) : CommentServer where
  comments := s.comments ++ [⟨s.nextId, login, body⟩]
  nextId := s.nextId + 1
  ids_nodup := by
    rw [List.map_append, List.nodup_append]
    refine ⟨s.ids_nodup, List.nodup_singleton _, ?_⟩
    intro a ha b hb
    obtain ⟨c, hc, rfl⟩ := List.mem_map.mp ha
    rw [List.map_singleton, List.mem_singleton] at hb
    rw [hb]
    exact Nat.ne_of_lt (s.ids_lt c hc)
  ids_lt c hc := by
    rcases List.mem_append.mp hc with hc | hc
    · exact Nat.lt_succ_of_lt (s.ids_lt c hc)
    · rw [List.mem_singleton.mp hc]
      exact Nat.lt_succ_self _

/-- The comment with the id has a new body. -/
def edit (s : CommentServer) (id : Nat) (body : String) : CommentServer where
  comments := s.comments.map fun c => if c.id = id then { c with body := some body } else c
  nextId := s.nextId
  ids_nodup := by
    have hids : (s.comments.map fun c => if c.id = id then { c with body := some body } else c).map Comment.id =
        s.comments.map Comment.id := by
      rw [List.map_map]
      refine List.map_congr_left fun c _ => ?_
      rw [Function.comp_apply]
      split_ifs <;> rfl
    rw [hids]
    exact s.ids_nodup
  ids_lt c hc := by
    obtain ⟨d, hd, rfl⟩ := List.mem_map.mp hc
    split_ifs
    · exact s.ids_lt d hd
    · exact s.ids_lt d hd

/-- The comments without the one with the id. -/
def delete (s : CommentServer) (id : Nat) : CommentServer where
  comments := s.comments.filter fun c => c.id ≠ id
  nextId := s.nextId
  ids_nodup := s.ids_nodup.sublist (List.filter_sublist.map Comment.id)
  ids_lt c hc := s.ids_lt c (List.mem_filter.mp hc).1

/-- One page of the comments. -/
def page (s : CommentServer) (request : PageRequest) : List Comment :=
  (s.comments.drop ((request.page - 1) * request.perPage)).take request.perPage

end CommentServer

/-- How a request fails: with an error status, or in the transport. -/
inductive RequestFault where
  | refused (statusCode : Nat) (isError : statusCode ≥ 400)
  | raised (exception : String)

def RequestFault.reply : RequestFault → Reply
  | .refused statusCode _ => .response statusCode none
  | .raised exception => .raised exception

/-- How a write fails: refused, or with its answer lost after it was stored or before. -/
inductive WriteFault where
  | refused (statusCode : Nat) (isError : statusCode ≥ 400)
  | lost (stored : Bool) (exception : String)

/-- The faults that one run meets. -/
structure RunFaults where
  get : Nat → Option RequestFault
  write : Option WriteFault

/-- The write is stored unless the fault prevents it. -/
def storeWrite (fault : Option WriteFault) (statusCode : Nat) (before after : CommentServer) : Reply × CommentServer :=
  match fault with
  | none => (.response statusCode none, after)
  | some (.refused errorCode _) => (.response errorCode none, before)
  | some (.lost stored exception) => (.raised exception, if stored then after else before)

/-- The API of the server as a run with these faults meets it. -/
def serverApi (faults : RunFaults) : CommentApi CommentServer where
  get s request :=
    match faults.get request.page with
    | some fault => fault.reply
    | none => .response 200 (some (.arr ((s.page request).map Comment.toJson)))
  post s body := storeWrite faults.write 201 s (s.add (some botLogin) (some body))
  patch s id body :=
    match s.comments.find? (fun c => Json.int c.id = id) with
    | some c => storeWrite faults.write 200 s (s.edit c.id body)
    | none => (.response 404 none, s)

end CollibraGovernance.GithubCi
