import CollibraGovernance.History.Reload
import CollibraGovernance.Snapshots.WriteLoad

/-! Which histories the schema of their files accepts, and which are read back exactly as they were written. -/
namespace CollibraGovernance.History
open Library Identity Comparison Snapshots

/-! ### The schema on what is written -/

section Schema

lemma contentIdentitySchema_complete {c : ContentIdentity} (h : Complete c) :
    contentIdentitySchema c.toDict.normalize = true := by
  obtain ⟨ha, hv, hd⟩ : c.algorithm ≠ "" ∧ c.hashingContractVersion ≠ "" ∧ c.digest ≠ "" := by
    simpa [Complete, not_or] using h
  rw [normalize_contentIdentity]
  have htext : ∀ {s : String}, s ≠ "" → JsonSchema.text 1 (.str s) = true := fun hne => text_of_ne hne
  simp [contentIdentitySchema, ContentIdentity.toDict, JsonSchema.object, Json.lookup, htext ha, htext hv, htext hd]

/-- Whether a schema of the labels accepts those of a state. -/
def labelsFit (s : HistoryEntryState) : Bool := s.labels.all fun l => labelsSchema (labelsDocument l).normalize

lemma stateSchema_absent {s : HistoryEntryState} (h : Complete s.snapshot) :
    entryStateSchema [] s.toIdentityDict.normalize = (labelsFit s && s.context.document.isNone) := by
  have hsnapshot := contentIdentitySchema_complete h
  rw [HistoryEntryState.toIdentityDict_eq, entryStateSchema, object_normalize, HistoryEntryState.members, labelsFit]
  cases s.labels <;> cases s.context.document <;> simp [JsonSchema.object, Json.lookup, hsnapshot]

lemma stateSchema_context {s : HistoryEntryState} (h : Complete s.snapshot) (schema : Json → Bool) :
    entryStateSchema [⟨"context", true, schema⟩] s.toIdentityDict.normalize =
      (labelsFit s && s.context.document.any schema) := by
  have hsnapshot := contentIdentitySchema_complete h
  have hcontext := normalize_context s.context
  rw [HistoryEntryState.toIdentityDict_eq, entryStateSchema, object_normalize, HistoryEntryState.members, labelsFit]
  cases hdocument : s.context.document with
  | none => cases s.labels <;> simp [JsonSchema.object, Json.lookup, hsnapshot]
  | some j =>
    rw [hdocument] at hcontext
    have hj : j.normalize = j := Option.some.inj hcontext
    cases s.labels <;> simp [JsonSchema.object, Json.lookup, hsnapshot, hj]

lemma pathSchema_text (text : String) : relativePathSchema (.str text) = relativePathPattern text := rfl

/-- Whether the schema of paths accepts the authority paths. -/
def authorityFit (o : HistoryOperator) : Bool :=
  o.authorityPaths.any fun ps => !ps.isEmpty && ps.all relativePathPattern

lemma authoritySchema_written (texts : List String) : JsonSchema.sized 1 none relativePathSchema
    (Json.arr (texts.map .str)).normalize = (!texts.isEmpty && texts.all relativePathPattern) := by
  have hall : (texts.map Json.str).all relativePathSchema = texts.all relativePathPattern := List.all_map
  rw [Json.normalize_arr, HistoryOperator.normalize_texts, JsonSchema.sized, hall]
  cases texts <;> simp

lemma operatorSchema_absent (o : HistoryOperator) : JsonSchema.object [snapshotPathProperty] o.toDict.normalize =
    (relativePathPattern o.snapshotPath && o.observationsPath.isNone && o.authorityPaths.isNone) := by
  have hdict : o.toDict = .obj o.members := rfl
  rw [hdict, object_normalize, HistoryOperator.members]
  cases o.observationsPath <;> cases o.authorityPaths <;>
    simp [JsonSchema.object, Json.lookup, snapshotPathProperty, pathSchema_text]

lemma operatorSchema_provenance (o : HistoryOperator) :
    JsonSchema.object [snapshotPathProperty, observationsPathProperty] o.toDict.normalize =
      (relativePathPattern o.snapshotPath && o.observationsPath.any relativePathPattern && o.authorityPaths.isNone) := by
  have hdict : o.toDict = .obj o.members := rfl
  rw [hdict, object_normalize, HistoryOperator.members]
  cases o.observationsPath <;> cases o.authorityPaths <;>
    simp [JsonSchema.object, Json.lookup, snapshotPathProperty, observationsPathProperty, pathSchema_text]

lemma operatorSchema_full (o : HistoryOperator) :
    JsonSchema.object [snapshotPathProperty, observationsPathProperty, authorityPathsProperty] o.toDict.normalize =
      (relativePathPattern o.snapshotPath && o.observationsPath.any relativePathPattern && authorityFit o) := by
  have hdict : o.toDict = .obj o.members := rfl
  rw [hdict, object_normalize, HistoryOperator.members, authorityFit]
  cases o.observationsPath <;> cases o.authorityPaths <;>
    simp [JsonSchema.object, Json.lookup, snapshotPathProperty, observationsPathProperty, authorityPathsProperty,
      pathSchema_text, authoritySchema_written, -Json.normalize_arr, Bool.and_assoc]

def capturedFit (e : RecordedEntry) : Bool := e.capturedAt.all fun t => capturedAtSchema (.str t)

lemma entrySchema_written (context operator : List JsonSchema.Property) (e : RecordedEntry) :
    entrySchema context operator e.toPersistedDict.normalize =
      (entryStateSchema context e.state.toIdentityDict.normalize &&
        JsonSchema.object operator e.operator.toDict.normalize && capturedFit e) := by
  have hdict : e.toPersistedDict = .obj e.members := rfl
  rw [hdict, entrySchema, object_normalize, RecordedEntry.members, capturedFit]
  generalize entryStateSchema context = stateSchema
  generalize JsonSchema.object operator = operatorSchema
  cases e.capturedAt <;> simp [JsonSchema.object, Json.lookup, Bool.and_comm, Bool.and_left_comm, Bool.and_assoc]

/-- Whether the schema accepts what the entry says. -/
def entryFits (e : RecordedEntry) : Bool :=
  labelsFit e.state && e.operator.locators.all relativePathPattern && capturedFit e

variable {tables : UnicodeTables}

lemma provenanceSchema_full (observations authority conflicts : ContentIdentity) : contextProvenanceSchema
    (.obj [("authority", authority.toDict), ("conflicts", conflicts.toDict), ("observations", observations.toDict)]) =
      false := by
  simp [contextProvenanceSchema, JsonSchema.object]

lemma fullSchema_provenance (observations : ContentIdentity) :
    contextFullSchema (.obj [("observations", observations.toDict)]) = false := by
  simp [contextFullSchema, JsonSchema.object, Json.lookup]

lemma provenanceSchema_self {c : ContentIdentity} (h : Complete c) :
    contextProvenanceSchema (.obj [("observations", c.toDict)]) = true := by
  have hc := contentIdentitySchema_complete h
  rw [normalize_contentIdentity] at hc
  simp [contextProvenanceSchema, JsonSchema.object, Json.lookup, hc]

lemma fullSchema_self {observations authority conflicts : ContentIdentity} (hobservations : Complete observations)
    (hauthority : Complete authority) (hconflicts : Complete conflicts) : contextFullSchema
      (.obj [("authority", authority.toDict), ("conflicts", conflicts.toDict),
        ("observations", observations.toDict)]) = true := by
  have ho := contentIdentitySchema_complete hobservations
  have ha := contentIdentitySchema_complete hauthority
  have hc := contentIdentitySchema_complete hconflicts
  rw [normalize_contentIdentity] at ho ha hc
  simp [contextFullSchema, JsonSchema.object, Json.lookup, ho, ha, hc]

/-- The schema accepts a written entry where it accepts its labels, its locators and its capture time. -/
theorem historyEntrySchema_written {e : RecordedEntry} (h : e.Proper tables) :
    historyEntrySchema e.toPersistedDict.normalize = entryFits e := by
  have hcoupled := h.coupled ""
  have hcontext := h.state.context
  rw [historyEntrySchema, JsonSchema.oneOf, List.countP_cons, List.countP_cons, List.countP_singleton]
  simp only [entryNoContextSchema, entryProvenanceSchema, entryFullSchema, entrySchema_written,
    stateSchema_absent h.state.snapshot, stateSchema_context h.state.snapshot, operatorSchema_absent,
    operatorSchema_provenance, operatorSchema_full, entryFits, HistoryOperator.locators, authorityFit]
  unfold validateOperatorContextCoupling at hcoupled
  cases hform : e.state.context with
  | absent =>
    rw [hform] at hcoupled
    dsimp only at hcoupled
    split_ifs at hcoupled with hnames
    · cases hcoupled
    · obtain ⟨ho, ha⟩ : e.operator.observationsPath = none ∧ e.operator.authorityPaths = none := by simpa using hnames
      simp [HistoryContext.document, ho, ha, Bool.and_assoc]
  | provenance observations =>
    rw [hform] at hcoupled hcontext
    dsimp only at hcoupled
    split_ifs at hcoupled with hnames
    · cases hcoupled
    · obtain ⟨ho, ha⟩ : e.operator.observationsPath ≠ none ∧ e.operator.authorityPaths = none := by simpa using hnames
      obtain ⟨path, ho⟩ := Option.ne_none_iff_exists'.mp ho
      simp [HistoryContext.document, ho, ha, provenanceSchema_self hcontext, fullSchema_provenance, Bool.and_assoc]
  | full observations authority conflicts =>
    rw [hform] at hcoupled hcontext
    dsimp only at hcoupled
    split_ifs at hcoupled with hnames
    · cases hcoupled
    · obtain ⟨ho, ha⟩ : e.operator.observationsPath ≠ none ∧ e.operator.authorityPaths.getD [] ≠ [] := by
        simpa using hnames
      obtain ⟨path, ho⟩ := Option.ne_none_iff_exists'.mp ho
      obtain ⟨paths, hpaths⟩ : ∃ paths, e.operator.authorityPaths = some paths := by
        cases hpaths : e.operator.authorityPaths with
        | none => exact absurd (by rw [hpaths]; rfl) ha
        | some paths => exact ⟨paths, rfl⟩
      rw [hpaths, Option.getD_some] at ha
      rw [Bool.eq_iff_iff]
      simp [HistoryContext.document, ho, hpaths, ha, provenanceSchema_full,
        fullSchema_self hcontext.1 hcontext.2.1 hcontext.2.2, and_assoc]

end Schema
/-! ### The patterns of the schema -/

section Patterns
variable {tables : UnicodeTables}

/-- A text without white space at its end is matched as a whole. -/
lemma lineOf_eq_self {cs : List Char} (h : ∀ c ∈ cs.getLast?, isSpace c = false) : lineOf cs = cs := by
  rw [lineOf, if_neg]
  intro hlast
  exact absurd (h _ hlast) (by decide)

/-- A locator that the normaliser leaves alone. -/
def Settled (locator : String) : Prop := ∀ path, normalizeHistoryRelativePath locator path = .ok locator

/-- Only the error of a refused path depends on its place. -/
lemma normalizePath_place {raw locator : String} (path path' : String)
    (h : normalizeHistoryRelativePath raw path = .ok locator) : normalizeHistoryRelativePath raw path' = .ok locator := by
  obtain ⟨⟨hblank, hraw, htext, hparts, hnamed⟩, rfl⟩ := normalizePath_eq_ok.mp h
  refine normalizePath_eq_ok.mpr ⟨⟨hblank, ?_, ?_, ?_, hnamed⟩, rfl⟩
  · simpa [pathRules] using hraw
  · exact ((lawful_pathRules path').text_iff _).mpr (((lawful_pathRules path).text_iff _).mp htext)
  · intro part hpart
    simpa [pathRules] using hparts part hpart

lemma isNulPart_false {part : List Char} (h : part.map Char.toUpper ≠ ['N', 'U', 'L']) : isNulPart part = false := by
  rw [isNulPart, decide_eq_false_iff_not]
  intro hlower
  refine h ?_
  have hupper := congrArg (List.map Char.toUpper) hlower
  rw [List.map_map] at hupper
  have hsame : (Char.toUpper ∘ Char.toLower) = Char.toUpper := funext toUpper_toLower
  rw [hsame] at hupper
  exact hupper

/-- A settled locator fits the pattern of paths unless it has a line break. -/
theorem relativePathPattern_settled {locator : String} (h : Settled locator) :
    relativePathPattern locator = true ↔ '\n' ∉ locator.toList := by
  obtain ⟨haccepts, heq⟩ := normalizePath_eq_ok.mp (h "")
  have hback : '\\' ∉ pathText locator := fun hmem => (mem_forwardSlashes hmem).1 rfl
  have hfixed := (normalizePath_fixed_iff (lawful_pathRules "") haccepts).mp (by rw [← heq]; exact h "")
  have hparts := haccepts.parts_ok
  obtain ⟨hslashes, habsolute⟩ := joinParts_posixParts_relative hback
  have hjoined : joinParts (posixParts (pathText locator)) = locator.toList := by
    rw [heq, String.toList_ofList, ← heq]
  rw [← heq, hjoined] at hfixed
  rw [hjoined] at hslashes habsolute
  have hline : lineOf locator.toList = locator.toList := lineOf_eq_self (strip_eq_self_iff.mp hfixed.1).2
  have hne : locator.toList ≠ [] := by
    intro hnil
    have hblank := haccepts.nonblank
    rw [isBlank, hnil] at hblank
    cases hblank
  have hunc : locator.toList.take 2 ≠ ['\\', '\\'] := by
    intro htake
    have hmem : '\\' ∈ locator.toList := List.mem_of_mem_take (htake ▸ List.mem_cons_self ..)
    rw [← hslashes] at hmem
    exact (mem_forwardSlashes hmem).1 rfl
  have hnul : (locator.toList.splitOn '/').any isNulPart = false := by
    have hsplit : locator.toList.splitOn '/' = posixParts (pathText locator) := by
      rw [← hjoined, joinParts]
      exact List.splitOn_intercalate _ (fun part hpart => (mem_posixParts hpart).1) haccepts.named
    rw [hsplit, List.any_eq_false]
    intro part hpart
    rw [Bool.not_eq_true]
    exact isNulPart_false (by simpa [pathRules] using hparts part hpart)
  have hdrive : ¬ locator.toList[1]? = some ':' := by
    have hd := hfixed.2
    rwa [hasDrive, decide_eq_false_iff_not] at hd
  rw [relativePathPattern, hline]
  simp [hne, habsolute, hunc, hnul, hdrive]

/-- Case folding of a text of ASCII characters writes its letters small. -/
def FoldsAscii (tables : UnicodeTables) : Prop :=
  ∀ s : String, (∀ c ∈ s.toList, c.toNat < 128) → tables.casefold s = String.ofList (s.toList.map Char.toLower)

lemma reserved_ascii {word : String} (hword : word ∈ reservedLabelKeys) {c : Char} (hc : c ∈ word.toList) :
    c.toNat < 128 := by
  have hall : (reservedLabelKeys.all fun word => word.toList.all fun c => c.toNat < 128) = true := by decide
  exact of_decide_eq_true (List.all_eq_true.mp (List.all_eq_true.mp hall word hword) c hc)

/-- A key whose letters are those of a reserved word is refused when labels are normalised. -/
lemma notReserved (hfold : FoldsAscii tables) {key value : String} (h : labelFault tables key value = none) :
    String.ofList (key.toList.map Char.toLower) ∉ reservedLabelKeys := by
  intro hmem
  have hascii : ∀ c ∈ key.toList, c.toNat < 128 := by
    intro c hc
    refine lt_of_toLower (reserved_ascii hmem ?_)
    rw [String.toList_ofList]
    exact List.mem_map_of_mem hc
  rw [← hfold key hascii] at hmem
  unfold labelFault at h
  split_ifs at h

lemma labelSchema_proper (hfold : FoldsAscii tables) {key value : String} (hkey : strip key = key)
    (h : labelFault tables key value = none) : labelSchema (key, .str value) = true ↔ '\n' ∉ key.toList := by
  have hline : lineOf key.toList = key.toList := lineOf_eq_self (strip_eq_self_iff.mp hkey).2
  have hreserved := notReserved hfold h
  unfold labelFault at h
  split_ifs at h with hempty hfolded hlong hvalue
  rw [not_or] at hempty
  have hkeys : 1 ≤ key.length ∧ key.length ≤ 64 := by
    have hne : key.length ≠ 0 := fun hzero => hempty.1 (String.length_eq_zero_iff.mp hzero)
    rw [maxLabelKeyLen] at hlong
    omega
  have hvalues : 1 ≤ value.length ∧ value.length ≤ 256 := by
    have hne : value.length ≠ 0 := fun hzero => hempty.2 (String.length_eq_zero_iff.mp hzero)
    rw [maxLabelValueLen] at hvalue
    omega
  have hne : key.toList ≠ [] := fun hnil => hempty.1 (String.toList_eq_nil_iff.mp hnil)
  rw [labelSchema, labelKeyPattern, hline]
  simp [hkeys, hvalues, hne, hreserved]

/-- The schema accepts proper labels unless a key has a line break. -/
theorem labelsSchema_proper (hfold : FoldsAscii tables) {labels : Dict String String} (h : LabelsProper tables labels) :
    labelsSchema (labelsDocument labels).normalize = true ↔ ∀ key ∈ labels.keys, '\n' ∉ key.toList := by
  have hcount : (canonicalLabels labels).entries.length ≤ 32 := h.canonical.count
  have hall : ((canonicalLabels labels).entries.map fun e => (e.1, Json.str e.2)).all labelSchema = true ↔
      ∀ key ∈ labels.keys, '\n' ∉ key.toList := by
    rw [List.all_eq_true, List.forall_mem_map]
    constructor
    · intro hfit key hkey
      obtain ⟨e, he, rfl⟩ := List.mem_map.mp hkey
      exact (labelSchema_proper hfold (h.trimmed e he).1 (h.faultless e he)).mp (hfit e (mem_sortBy.mpr he))
    · intro hlines e he
      have he' := mem_sortBy.mp he
      exact (labelSchema_proper hfold (h.trimmed e he').1 (h.faultless e he')).mpr (hlines _ (List.mem_map_of_mem he'))
  rw [normalize_labels, labelsDocument, labelsSchema, List.length_map, Bool.and_eq_true, decide_eq_true_iff, hall]
  exact and_iff_right hcount

lemma timestampEnd_last {digit : Char → Bool} {cs : List Char} (h : timestampEnd digit cs = true) :
    cs.getLast? = some 'Z' := by
  unfold timestampEnd at h
  split at h
  · rfl
  · rename_i rest
    simp only [Bool.and_eq_true, decide_eq_true_eq] at h
    rw [List.getLast?_cons, h.1.2]
    rfl
  · cases h

lemma timestampShape_last {digit : Char → Bool} {cs : List Char} (h : timestampShape digit cs = true) :
    cs.getLast? = some 'Z' := by
  unfold timestampShape at h
  split at h
  · rw [Bool.and_eq_true] at h
    have hlast := timestampEnd_last h.2
    simp only [List.getLast?_cons, hlast]
    rfl
  · cases h

/-- The schema accepts a capture time that is written with the digits of ASCII. -/
lemma capturedAtSchema_stamp {stamp : String} (h : isTimestamp tables stamp = true) :
    capturedAtSchema (.str stamp) = timestampShape Char.isDigit stamp.toList := by
  rw [isTimestamp, Bool.and_eq_true] at h
  have hlast := timestampShape_last h.1
  have hline : lineOf stamp.toList = stamp.toList := by
    rw [lineOf, if_neg]
    rw [hlast]
    decide
  rw [capturedAtSchema, JsonSchema.matching, hline]

end Patterns

/-! ### What is read back as it was written -/

/-- The file keeps the entry as it is: the locators settled and without line breaks, no line break in a label key, and
the digits of the capture time ASCII. -/
structure RecordedEntry.Lasting (e : RecordedEntry) : Prop where
  locators : ∀ p ∈ e.operator.locators, Settled p ∧ '\n' ∉ p.toList
  labels : ∀ l ∈ e.state.labels, ∀ key ∈ l.keys, '\n' ∉ key.toList
  captured : ∀ t ∈ e.capturedAt, timestampShape Char.isDigit t.toList = true

/-- The history with the labels of each entry in the order of their keys. -/
def RecordedHistory.canonical (h : RecordedHistory) : RecordedHistory :=
  { h with entries := h.entries.map fun e => ⟨⟨e.state.canonical, e.operator⟩, e.capturedAt⟩ }

section Reload
variable {tables : UnicodeTables} {sha256 : String → String} {schemaErrors : Json → List JsonSchema.Failure}
  {h : RecordedHistory} {e : RecordedEntry}

lemma entryFits_iff (hfold : FoldsAscii tables) (hproper : e.Proper tables)
    (hsettled : ∀ p ∈ e.operator.locators, Settled p) : entryFits e = true ↔ e.Lasting := by
  have hlabels : labelsFit e.state = true ↔ ∀ l ∈ e.state.labels, ∀ key ∈ l.keys, '\n' ∉ key.toList := by
    rw [labelsFit, all_eq_true_iff]
    exact forall₂_congr fun l hl => labelsSchema_proper hfold (hproper.state.labels l hl)
  have hlocators : e.operator.locators.all relativePathPattern = true ↔
      ∀ p ∈ e.operator.locators, Settled p ∧ '\n' ∉ p.toList := by
    rw [List.all_eq_true]
    exact forall₂_congr fun p hp => by rw [relativePathPattern_settled (hsettled p hp), and_iff_right (hsettled p hp)]
  have hcaptured : capturedFit e = true ↔ ∀ t ∈ e.capturedAt, timestampShape Char.isDigit t.toList = true := by
    rw [capturedFit, all_eq_true_iff]
    exact forall₂_congr fun t ht => by rw [capturedAtSchema_stamp (hproper.captured t ht)]
  rw [entryFits, Bool.and_eq_true, Bool.and_eq_true, hlabels, hlocators, hcaptured]
  exact ⟨fun hfit => ⟨hfit.1.2, hfit.1.1, hfit.2⟩, fun hlasting => ⟨⟨hlasting.labels, hlasting.locators⟩, hlasting.captured⟩⟩

lemma mapM_self_iff {α : Type} {f : α → Checked α} {a : Option α} :
    a.mapM f = .ok a ↔ ∀ p ∈ a, f p = .ok p := by
  cases a with
  | none => simp [pure, Except.pure]
  | some p =>
    rw [Option.mapM_some]
    cases hp : f p with
    | error e =>
      constructor
      · intro h
        cases h
      · intro h
        rw [h p rfl] at hp
        cases hp
    | ok q =>
      constructor
      · intro h p' hp'
        obtain rfl := Option.some.inj hp'
        obtain rfl := Option.some.inj (Except.ok.inj h)
        exact hp
      · intro h
        obtain rfl := Except.ok.inj (hp.symm.trans (h p rfl))
        rfl

lemma settled_iff {locator : String} (path : String) :
    normalizeHistoryRelativePath locator path = .ok locator ↔ Settled locator :=
  ⟨fun h path' => normalizePath_place path path' h, fun h => h path⟩

lemma settledPaths_iff {texts : List String} (path : Nat → String) :
    texts.zipIdx.mapM (fun entry => normalizeHistoryRelativePath entry.1 (path entry.2)) = .ok texts ↔
      ∀ p ∈ texts, Settled p := by
  constructor
  · intro h p hp
    obtain ⟨n, hn⟩ := List.mem_iff_getElem?.mp hp
    exact (settled_iff (path n)).mp ((mapM_zipIdx_get h).2 n p p hn hn)
  · intro h
    have hmap : texts.zipIdx.mapM (fun entry => normalizeHistoryRelativePath entry.1 (path entry.2)) =
        .ok (texts.map id) := mapM_zipIdx_eq_map fun p hp n => h p hp (path n)
    rwa [List.map_id] at hmap

/-- Reading leaves an operator alone exactly where its locators are settled. -/
theorem reread_self_iff {o : HistoryOperator} (path : String) :
    o.reread path = .ok o ↔ ∀ p ∈ o.locators, Settled p := by
  have hparts : o.reread path = .ok o ↔
      normalizeHistoryRelativePath o.snapshotPath (path ++ "/snapshot_path") = .ok o.snapshotPath ∧
      o.observationsPath.mapM (fun text => normalizeHistoryRelativePath text (path ++ "/observations_path")) =
        .ok o.observationsPath ∧
      o.authorityPaths.mapM (fun texts => texts.zipIdx.mapM fun entry =>
        normalizeHistoryRelativePath entry.1 (path ++ "/authority_paths" ++ "/" ++ toString entry.2)) =
        .ok o.authorityPaths := by
    constructor
    · intro h
      obtain ⟨s, hs, h⟩ := bind_eq_ok.mp h
      obtain ⟨b, hb, h⟩ := bind_eq_ok.mp h
      obtain ⟨a, ha, h⟩ := bind_eq_ok.mp h
      obtain rfl := pure_eq_ok.mp h
      exact ⟨hs, hb, ha⟩
    · rintro ⟨hs, hb, ha⟩
      rw [HistoryOperator.reread, hs, ok_bind, hb, ok_bind, ha]
      rfl
  rw [hparts, settled_iff, mapM_self_iff, mapM_self_iff, HistoryOperator.locators]
  simp only [settled_iff, settledPaths_iff fun n => path ++ "/authority_paths" ++ "/" ++ toString n, List.forall_mem_cons,
    List.forall_mem_append, Option.mem_toList, Option.mem_def]
  refine and_congr_right fun _ => and_congr_right fun _ => ?_
  cases o.authorityPaths <;> simp

lemma historySchema_written (hdigest : HexDigest sha256) (h : RecordedHistory) :
    historySchemaAccepts (.obj (Json.sortedMembers (h.members sha256))) =
      h.entries.all fun e => historyEntrySchema e.toPersistedDict.normalize := by
  have hidentity := contentIdentitySchema_complete
    (c := h.history.contentIdentity sha256) (complete_sha256 hdigest _ _)
  have hpolicy : comparisonPolicySchema h.comparisonPolicy.toDict.normalize = true := by
    have hkeys : SortedBy id ["align_database_roots", "align_source_roots"] := by decide
    have hdict : h.comparisonPolicy.toDict.normalize = h.comparisonPolicy.toDict :=
      Json.normalize_obj_self hkeys (by simp)
    rw [hdict]
    rfl
  have hentries : JsonSchema.array historyEntrySchema
      (Json.arr (h.entries.map RecordedEntry.toPersistedDict)).normalize =
      h.entries.all fun e => historyEntrySchema e.toPersistedDict.normalize := by
    rw [Json.normalize_arr, List.map_map, JsonSchema.array, List.all_map]
    rfl
  rw [← Json.normalize_obj_eq, historySchemaAccepts, object_normalize]
  simp [RecordedHistory.members, JsonSchema.object, Json.lookup, JsonSchema.texts, hidentity, hpolicy, hentries,
    -Json.normalize_arr]

/-- Reading leaves a history alone, but for the order of its labels, exactly where its locators are settled. -/
lemma reread_canonical_iff :
    h.reread = .ok h.canonical ↔ ∀ e ∈ h.entries, ∀ p ∈ e.operator.locators, Settled p := by
  constructor
  · intro hread e he
    obtain ⟨-, hentries⟩ := reread_entries hread
    rw [RecordedHistory.canonical, List.forall₂_map_right_iff, List.forall₂_same] at hentries
    obtain ⟨-, -, path, hself⟩ := hentries e he
    exact (reread_self_iff path).mp hself
  · intro hsettled
    have hmap : h.entries.zipIdx.mapM (fun entry : RecordedEntry × Nat =>
        (entry.1.operator.reread ("/entries/" ++ toString entry.2 ++ "/operator")).map
          fun o => (⟨⟨entry.1.state.canonical, o⟩, entry.1.capturedAt⟩ : RecordedEntry)) = .ok (h.canonical.entries) := by
      refine mapM_zipIdx_eq_map fun e he n => ?_
      rw [(reread_self_iff ("/entries/" ++ toString n ++ "/operator")).mpr (hsettled e he)]
      rfl
    rw [RecordedHistory.reread, hmap]
    rfl

lemma validateHistorySchema_ok (hvalidator : ∀ d, schemaErrors d = [] ↔ historySchemaAccepts d = true)
    {payload : List (String × Json)} :
    validateHistorySchema schemaErrors payload = .ok () ↔ historySchemaAccepts (.obj payload) = true := by
  have hempty := List.length_eq_zero_iff (l := sortBy (fun f : JsonSchema.Failure =>
    toLex ("/" ++ "/".intercalate f.absolutePath, f.validator)) (schemaErrors (.obj payload)))
  rw [length_sortBy, List.length_eq_zero_iff, hvalidator] at hempty
  rw [hempty, validateHistorySchema]
  cases sortBy (fun f : JsonSchema.Failure =>
    toLex ("/" ++ "/".intercalate f.absolutePath, f.validator)) (schemaErrors (.obj payload)) with
  | nil => exact ⟨fun _ => rfl, fun _ => rfl⟩
  | cons failure failures =>
    constructor <;> intro h <;> cases h

/-- A history is read back as it was written exactly where each of its entries lasts. -/
theorem load_written_iff (hdigest : HexDigest sha256) (hfold : FoldsAscii tables)
    (hvalidator : ∀ d, schemaErrors d = [] ↔ historySchemaAccepts d = true) (hproper : h.Proper tables) :
    loadHistoryArtifact tables sha256 schemaErrors (written sha256 h) = .ok h.canonical ↔
      ∀ e ∈ h.entries, e.Lasting := by
  have hschema : validateHistorySchema schemaErrors (Json.sortedMembers (h.members sha256)) = .ok () ↔
      ∀ e ∈ h.entries, entryFits e = true := by
    rw [validateHistorySchema_ok hvalidator, historySchema_written hdigest, List.all_eq_true]
    exact forall₂_congr fun e he => by rw [historyEntrySchema_written (hproper.entries e he)]
  rw [loadHistoryArtifact_written hdigest hproper, bind_eq_ok]
  constructor
  · rintro ⟨⟨⟩, hvalid, hread⟩ e he
    exact (entryFits_iff hfold (hproper.entries e he) (reread_canonical_iff.mp hread e he)).mp (hschema.mp hvalid e he)
  · intro hlasting
    have hsettled : ∀ e ∈ h.entries, ∀ p ∈ e.operator.locators, Settled p :=
      fun e he p hp => ((hlasting e he).locators p hp).1
    refine ⟨(), hschema.mpr fun e he => ?_, reread_canonical_iff.mpr hsettled⟩
    exact (entryFits_iff hfold (hproper.entries e he) (hsettled e he)).mpr (hlasting e he)

end Reload

end CollibraGovernance.History
