import CollibraGovernance.History.Models
import CollibraGovernance.Library.RelativePath

/-! The normalisers of relative paths: of the configuration, of histories, and of the workspace in CI. -/
namespace CollibraGovernance
open Library

namespace ConfigContract

def codeSemantic : String := "semantic_validation_failed"

structure DiagnosticError where
  code : String
  path : String
  message : String
  deriving DecidableEq

/-- `ConfigSemanticError` -/
structure ConfigSemanticError where
  errors : List DiagnosticError
  deriving DecidableEq

def semanticError (pointer message : String) : ConfigSemanticError := ⟨[⟨codeSemantic, pointer, message⟩]⟩

def pathRules (pointer : String) : PathRules ConfigSemanticError where
  empty := semanticError pointer "path must be a non-empty relative string"
  refuseRaw _ := none
  refuseText text :=
    if isAbsolute text || hasDrive text then
      some (semanticError pointer "path must be relative to the configuration file directory")
    else none
  refusePart part :=
    if part = ['.', '.'] then
      some (semanticError pointer "path must not escape the configuration file directory")
    else none

/-- POSIX relative path under the directory of the configuration. -/
def normalizeRelativePath (raw pointer : String) : Except ConfigSemanticError String :=
  normalizePath (pathRules pointer) raw

lemma lawful_pathRules (pointer : String) : (pathRules pointer).Lawful where
  raw_mono _ _ _ _ := rfl
  text_iff text := by
    rw [← Bool.or_eq_false_iff]
    simp [pathRules]

end ConfigContract

namespace History

def pathError (path message : String) : Failure := .historyError [⟨codeInvalidHistoryArtifact, path, message⟩]

def pathRules (path : String) : PathRules Failure where
  empty := pathError path "path must be a non-empty relative string"
  refuseRaw raw := if '\x00' ∈ raw then some (pathError path "path must not contain NUL") else none
  refuseText text :=
    if text.take 2 = ['/', '/'] then some (pathError path "UNC paths are not allowed")
    else if isAbsolute text then some (pathError path "absolute paths are not allowed")
    else if hasDrive text then some (pathError path "drive-qualified paths are not allowed")
    else none
  refusePart part :=
    if part.map Char.toUpper = ['N', 'U', 'L'] then some (pathError path "NUL device paths are not allowed") else none

/-- Relative POSIX path from the parent of the history; `..` is allowed. -/
def normalizeHistoryRelativePath (raw path : String) : Checked String := normalizePath (pathRules path) raw

lemma lawful_pathRules (path : String) : (pathRules path).Lawful where
  raw_mono xs ys h hxs := by
    simp only [pathRules, ite_eq_right_iff, reduceCtorEq, imp_false] at hxs ⊢
    intro hmem
    rcases h _ hmem with hslash | hin
    · exact absurd hslash (by decide)
    · exact hxs hin
  text_iff text := by
    have hunc : isAbsolute text = false → text.take 2 ≠ ['/', '/'] := by
      intro hroot htake
      rw [isAbsolute, decide_eq_false_iff_not] at hroot
      have hhead := congrArg List.head? htake
      rw [List.head?_take, if_neg (by decide)] at hhead
      exact hroot hhead
    simp only [pathRules]
    split_ifs with htake hroot hdrive
    · simp only [false_iff, not_and]
      exact fun hroot => absurd htake (hunc hroot)
    · simp [hroot]
    · simp [hdrive]
    · simp [hroot, hdrive]

end History

namespace GithubCi

/-- A rejected path of the action. -/
structure PathValidationError where
  code : String
  message : String
  deriving DecidableEq

def pathRules (field : String) : PathRules PathValidationError where
  empty := ⟨"empty_path", field ++ " must be a non-empty relative path"⟩
  refuseRaw _ := none
  refuseText text :=
    if isAbsolute text || hasDrive text then
      some ⟨"absolute_path", field ++ " must be a workspace-relative path"⟩
    else none
  refusePart part :=
    if part = ['.', '.'] then some ⟨"path_escape", field ++ " must not contain '..' segments"⟩ else none

/-- Workspace-relative POSIX path. -/
def WorkspacePaths.normalizeRelative (raw field : String) : Except PathValidationError String :=
  normalizePath (pathRules field) raw

lemma lawful_pathRules (field : String) : (pathRules field).Lawful where
  raw_mono _ _ _ _ := rfl
  text_iff text := by
    rw [← Bool.or_eq_false_iff]
    simp [pathRules]

end GithubCi

/-- Accepted configuration and workspace paths stay under every root. -/
theorem staysUnder_normalized (raw : String) :
    (∀ pointer path, ConfigContract.normalizeRelativePath raw pointer = .ok path → StaysUnder path) ∧
      ∀ field path, GithubCi.WorkspacePaths.normalizeRelative raw field = .ok path → StaysUnder path := by
  constructor
  · intro pointer path
    refine staysUnder_of_accepts fun part hpart => ?_
    simpa [ConfigContract.pathRules] using hpart
  · intro field path
    refine staysUnder_of_accepts fun part hpart => ?_
    simpa [GithubCi.pathRules] using hpart

/-- For each normaliser, what it accepts is accepted again, unchanged and relative (and stays under every root,
where `..` is refused), exactly where the ends of the input hide neither white space nor a drive. -/
theorem relative_paths_closed_iff (raw : String) :
    (∀ pointer,
      (∀ path, ConfigContract.normalizeRelativePath raw pointer = .ok path →
        ReadsBack (ConfigContract.normalizeRelativePath · pointer) path ∧ StaysUnder path) ↔
      ((ConfigContract.pathRules pointer).Accepts raw → plainEnds raw = true)) ∧
    (∀ pointer,
      (∀ path, History.normalizeHistoryRelativePath raw pointer = .ok path →
        ReadsBack (History.normalizeHistoryRelativePath · pointer) path) ↔
      ((History.pathRules pointer).Accepts raw → plainEnds raw = true)) ∧
    (∀ field,
      (∀ path, GithubCi.WorkspacePaths.normalizeRelative raw field = .ok path →
        ReadsBack (GithubCi.WorkspacePaths.normalizeRelative · field) path ∧ StaysUnder path) ↔
      ((GithubCi.pathRules field).Accepts raw → plainEnds raw = true)) := by
  obtain ⟨hconfig, hworkspace⟩ := staysUnder_normalized raw
  refine ⟨fun pointer => ?_, fun pointer => ?_, fun field => ?_⟩
  · rw [← readsBack_iff (ConfigContract.lawful_pathRules pointer)]
    exact forall₂_congr fun path hpath => and_iff_left (hconfig pointer path hpath)
  · exact readsBack_iff (History.lawful_pathRules pointer) raw
  · rw [← readsBack_iff (GithubCi.lawful_pathRules field)]
    exact forall₂_congr fun path hpath => and_iff_left (hworkspace field path hpath)

/-- A drive behind `./` is accepted once, and the path it gives is refused. -/
theorem hidden_drive_accepted_once :
    ConfigContract.normalizeRelativePath "./C:/a" "/p" = .ok "C:/a" ∧
    ConfigContract.normalizeRelativePath "C:/a" "/p" =
      .error (ConfigContract.semanticError "/p" "path must be relative to the configuration file directory") ∧
    History.normalizeHistoryRelativePath "./C:/a" "/p" = .ok "C:/a" ∧
    History.normalizeHistoryRelativePath "C:/a" "/p" =
      .error (History.pathError "/p" "drive-qualified paths are not allowed") ∧
    GithubCi.WorkspacePaths.normalizeRelative "./C:/a" "p" = .ok "C:/a" ∧
    GithubCi.WorkspacePaths.normalizeRelative "C:/a" "p" =
      .error ⟨"absolute_path", "p must be a workspace-relative path"⟩ ∧
    ConfigContract.normalizeRelativePath "./ a" "/p" = .ok " a" ∧
    ConfigContract.normalizeRelativePath " a" "/p" = .ok "a" := by
  refine ⟨rfl, rfl, rfl, rfl, rfl, rfl, rfl, rfl⟩

end CollibraGovernance
