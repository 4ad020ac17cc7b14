import CollibraGovernance.Library.Outcome
import CollibraGovernance.Library.Text
import Mathlib.Data.List.Basic
import Mathlib.Data.String.Basic

/-! RFC 6901 pointers: segments joined behind slashes, with `~0` for a tilde and `~1` for a slash. -/
namespace CollibraGovernance.Library

/-- `text.replace(c, new)` for a single character. -/
def replaceChar (c : Char) (new text : List Char) : List Char :=
  text.flatMap (fun d => if d = c then new else [d])

/-- `segment.replace("~", "~0").replace("/", "~1")` -/
def escapeSegment (segment : List Char) : List Char :=
  replaceChar '/' ['~', '1'] (replaceChar '~' ['~', '0'] segment)

/-- The segment an escaped text stands for. -/
def unescapeSegment : List Char → Except String (List Char)
  | [] => .ok []
  | '~' :: '0' :: rest => return '~' :: (← unescapeSegment rest)
  | '~' :: '1' :: rest => return '/' :: (← unescapeSegment rest)
  | '~' :: _ => .error "invalid JSON Pointer escape"
  | c :: rest => return c :: (← unescapeSegment rest)

def pointerText (segments : List String) : String :=
  "/" ++ "/".intercalate (segments.map (fun s => String.ofList (escapeSegment s.toList)))

def parsePointer (pointer : String) : Except String (List String) :=
  match pointer.toList with
  | [] => .error "root pointer is not a valid PropertyPath"
  | '/' :: rest => (rest.splitOn '/').mapM (fun raw => return String.ofList (← unescapeSegment raw))
  | _ :: _ => .error "JSON Pointer must start with '/'"

@[simp] lemma escapeSegment_nil : escapeSegment [] = [] := rfl

/-- A segment is escaped character by character. -/
lemma escapeSegment_cons (c : Char) (rest : List Char) : escapeSegment (c :: rest) =
    (if c = '~' then ['~', '0'] else if c = '/' then ['~', '1'] else [c]) ++ escapeSegment rest := by
  simp only [escapeSegment, replaceChar, List.flatMap_cons, List.flatMap_append]
  congr 1
  by_cases htilde : c = '~'
  · subst htilde
    rfl
  · by_cases hslash : c = '/'
    · subst hslash
      rfl
    · simp [htilde, hslash]

theorem unescapeSegment_escapeSegment (segment : List Char) :
    unescapeSegment (escapeSegment segment) = .ok segment := by
  induction segment with
  | nil => rfl
  | cons c rest ih =>
    rw [escapeSegment_cons]
    by_cases htilde : c = '~'
    · subst htilde
      rw [if_pos rfl, List.cons_append, List.cons_append, List.nil_append, unescapeSegment, ih, ok_bind]
      rfl
    · rw [if_neg htilde]
      by_cases hslash : c = '/'
      · subst hslash
        rw [if_pos rfl, List.cons_append, List.cons_append, List.nil_append, unescapeSegment, ih,
          ok_bind]
        rfl
      · rw [if_neg hslash, List.cons_append, List.nil_append, unescapeSegment, ih, ok_bind]
        · rfl
        all_goals simp [htilde]

lemma slash_not_mem_escapeSegment (segment : List Char) : '/' ∉ escapeSegment segment := by
  induction segment with
  | nil => simp
  | cons c rest ih =>
    rw [escapeSegment_cons, List.mem_append, not_or]
    refine ⟨?_, ih⟩
    split_ifs with htilde hslash
    · decide
    · decide
    · simpa using Ne.symm hslash

/-- Reading a written pointer gives its segments back. -/
theorem parsePointer_pointerText {segments : List String} (h : segments ≠ []) :
    parsePointer (pointerText segments) = .ok segments := by
  set raws := segments.map (fun s => escapeSegment s.toList) with hraws
  have htext : (pointerText segments).toList = '/' :: ['/'].intercalate raws := by
    rw [pointerText, String.toList_append, String.toList_intercalate, List.map_map, hraws]
    simp [Function.comp_def]
  have hsplit : (['/'].intercalate raws).splitOn '/' = raws := by
    apply List.splitOn_intercalate
    · intro raw hraw
      obtain ⟨s, -, rfl⟩ := List.mem_map.mp hraw
      exact slash_not_mem_escapeSegment _
    · simpa [hraws] using h
  rw [parsePointer, htext]
  simp only [hsplit]
  rw [hraws, List.mapM_map, mapM_eq_map (g := id), List.map_id]
  intro s hs
  simp [unescapeSegment_escapeSegment]

theorem pointerText_inj {ss ts : List String} (hs : ss ≠ []) (ht : ts ≠ [])
    (h : pointerText ss = pointerText ts) : ss = ts := by
  have hparse := parsePointer_pointerText hs
  rw [h, parsePointer_pointerText ht] at hparse
  exact (Except.ok.inj hparse).symm

/-- A pointer is read as one segment or more. -/
theorem parsePointer_ne_nil {pointer : String} {segments : List String}
    (h : parsePointer pointer = .ok segments) : segments ≠ [] := by
  unfold parsePointer at h
  split at h
  · cases h
  · rintro rfl
    have hall := mapM_eq_ok.mp h
    rw [List.forall₂_nil_right_iff] at hall
    exact List.splitOnP_ne_nil _ _ hall
  · cases h

/-- Writing what was read from an escaped text gives the text back. -/
theorem escapeSegment_of_unescapeSegment {raw segment : List Char} (hslash : '/' ∉ raw)
    (h : unescapeSegment raw = .ok segment) : escapeSegment segment = raw := by
  fun_induction unescapeSegment raw generalizing segment with
  | case1 =>
    cases h
    rfl
  | case2 rest ih =>
    obtain ⟨tail, htail, hout⟩ := bind_eq_ok.mp h
    cases hout
    have hrest : '/' ∉ rest := fun hmem => hslash (List.mem_cons_of_mem _ (List.mem_cons_of_mem _ hmem))
    rw [escapeSegment_cons, if_pos rfl, ih hrest htail]
    rfl
  | case3 rest ih =>
    obtain ⟨tail, htail, hout⟩ := bind_eq_ok.mp h
    cases hout
    have hrest : '/' ∉ rest := fun hmem => hslash (List.mem_cons_of_mem _ (List.mem_cons_of_mem _ hmem))
    rw [escapeSegment_cons, if_neg (by decide), if_pos rfl, ih hrest htail]
    rfl
  | case4 => cases h
  | case5 c rest hzero hone htilde ih =>
    obtain ⟨tail, htail, hout⟩ := bind_eq_ok.mp h
    cases hout
    rw [List.mem_cons, not_or] at hslash
    rw [escapeSegment_cons, if_neg htilde, if_neg (Ne.symm hslash.1), ih hslash.2 htail]
    rfl

/-- Writing the segments read from a pointer gives the pointer back. -/
theorem pointerText_of_parsePointer {pointer : String} {segments : List String}
    (h : parsePointer pointer = .ok segments) : pointerText segments = pointer := by
  unfold parsePointer at h
  split at h
  · cases h
  · next rest hpointer =>
    have hraws : segments.map (fun s => escapeSegment s.toList) = (rest.splitOn '/').map id := by
      refine mapM_map_of_mem ?_ h
      intro raw hraw segment hsegment
      obtain ⟨cs, hcs, hout⟩ := bind_eq_ok.mp hsegment
      cases hout
      rw [String.toList_ofList, id]
      exact escapeSegment_of_unescapeSegment (not_mem_of_mem_splitOn hraw) hcs
    rw [List.map_id] at hraws
    rw [← String.toList_inj, pointerText, String.toList_append, String.toList_intercalate, List.map_map, hpointer]
    simp only [Function.comp_def, String.toList_ofList, hraws]
    exact congrArg ('/' :: ·) (List.intercalate_splitOn '/')
  · cases h

end CollibraGovernance.Library
