import ScriptAudit.Proofs.FileTree.Spelling
import ScriptAudit.Proofs.Scan.Accounting

/-!
# Scans from two spellings of a start

Where two starts lead to one directory, their walks come to the same entries. A scan
collects the same from both if the entries are seen under the same names. Only where a
walk cannot enter a directory does a finding quote the path as it is spelled.
-/

namespace ScriptAudit

open Text (Octets)

namespace Scan

/-- Two paths at which a scan finds the same, each seen from a root of its own. -/
structure SeenAlike (tree : FileTree) (root other path otherPath : Path) : Prop where
  status_eq : tree.status path = tree.status otherPath
  language_eq : Language.classify? path = Language.classify? otherPath
  relativeTo_eq : Path.relativeTo root path = Path.relativeTo other otherPath

/-- Two findings of walks from two starts are the same, or both say that the walks could
not enter one directory. The wording quotes the path of the directory then. -/
inductive Agrees (tree : FileTree) (start otherStart : Path) : Finding → Finding → Prop
  | same (finding : Finding) : Agrees tree start otherStart finding finding
  | walkError (file : String) {names : List Octets} {error : OsError}
      (failed : .failed (start.descend names) error ∈ tree.walk start)
      (otherFailed : .failed (otherStart.descend names) error ∈ tree.walk otherStart) :
      Agrees tree start otherStart
        (.unreadable file (walkErrorText (start.descend names) error))
        (.unreadable file (walkErrorText (otherStart.descend names) error))

variable {tree : FileTree} {rules : RuleSet} {root other start otherStart : Path}
  {names : List Octets} {node base : Node}

theorem Agrees.severity_eq
    {first second : Finding}
    (agrees : Agrees tree start otherStart first second) :
    first.severity = second.severity := by
  cases agrees with
  | same => rfl
  | walkError => rfl

/-- Two harvests of as many scripts whose findings agree. -/
structure Harvest.Agrees
    (tree : FileTree)
    (start otherStart : Path)
    (first second : Harvest) : Prop where
  filesScanned_eq : first.filesScanned = second.filesScanned
  findings : List.Forall₂
    (Scan.Agrees tree start otherStart) first.findings second.findings

theorem Harvest.Agrees.refl (harvest : Harvest) :
    harvest.Agrees tree start otherStart harvest where
  filesScanned_eq := rfl
  findings := List.forall₂_same.mpr fun finding _ => .same finding

/-- What agrees part by part agrees as a whole. -/
theorem Harvest.gather_agrees
    {first second : List Harvest}
    (parts : List.Forall₂ (Harvest.Agrees tree start otherStart) first second) :
    (gather first).Agrees tree start otherStart (gather second) := by
  induction parts with
  | nil => exact .refl _
  | cons part _ inductionHypothesis =>
      constructor
      · exact congrArg₂ (· + ·) part.filesScanned_eq inductionHypothesis.filesScanned_eq
      · exact List.rel_append part.findings inductionHypothesis.findings

/-- A visit that comes to an entry contributes the same. -/
theorem SeenAlike.visit_eq
    {path otherPath : Path}
    (alike : SeenAlike tree root other path otherPath)
    (rules : RuleSet) :
    visit tree rules root (.reached path) =
      visit tree rules other (.reached otherPath) := by
  have sameKind : tree.isFile path = tree.isFile otherPath := by
    rw [FileTree.isFile, FileTree.isFile, alike.status_eq]
  have sameContent : tree.read path = tree.read otherPath := by
    rw [FileTree.read, FileTree.read, alike.status_eq]
  rw [visit, visit, sameKind, sameContent, alike.language_eq, alike.relativeTo_eq]

/-- The visits of one entry contribute what agrees. -/
theorem visitsTo_agrees
    (walked : tree.Walked start names node)
    (otherWalked : tree.Walked otherStart names node)
    (alike : SeenAlike tree root other (start.descend names) (otherStart.descend names))
    (rules : RuleSet) :
    List.Forall₂ (Harvest.Agrees tree start otherStart)
      ((FileTree.visitsTo start (names, node)).map (visit tree rules root))
      ((FileTree.visitsTo otherStart (names, node)).map (visit tree rules other)) := by
  have reached :
      (visit tree rules root (.reached (start.descend names))).Agrees
        tree start otherStart
        (visit tree rules other (.reached (otherStart.descend names))) := by
    rw [alike.visit_eq]
    exact .refl _
  unfold FileTree.visitsTo Node.visits
  dsimp only
  split
  · rename_i closed
    obtain ⟨isDirectory, locked⟩ := Bool.and_eq_true_iff.mp closed
    have failed : .failed (start.descend names) .denied ∈ tree.walk start :=
      FileTree.failed_mem_walk_iff.mpr
        (.inr ⟨names, node, walked, isDirectory, locked, rfl, rfl⟩)
    have otherFailed : .failed (otherStart.descend names) .denied ∈
        tree.walk otherStart :=
      FileTree.failed_mem_walk_iff.mpr
        (.inr ⟨names, node, otherWalked, isDirectory, locked, rfl, rfl⟩)
    refine .cons reached (.cons ⟨rfl, .cons ?_ .nil⟩ .nil)
    rw [alike.relativeTo_eq]
    exact .walkError _ failed otherFailed
  · exact .cons reached .nil

/-- Scans from two starts that lead to one place collect what agrees, if all that is
below is seen alike. -/
theorem directory_agrees
    (begins : tree.status start = .ok base)
    (alike : ∀ names, (∀ name ∈ names, Path.IsName name) →
      SeenAlike tree root other (start.descend names) (otherStart.descend names))
    (rules : RuleSet) :
    (directory tree rules root start).Agrees tree start otherStart
      (directory tree rules other otherStart) := by
  have otherBegins : tree.status otherStart = .ok base := by
    rw [← begins]
    exact (alike [] (by simp)).status_eq.symm
  have sameEntries : tree.walkedEntries otherStart = tree.walkedEntries start := by
    rw [FileTree.walkedEntries_of_status_ok begins,
      FileTree.walkedEntries_of_status_ok otherBegins]
  rw [directory, directory, FileTree.walk_eq_visitsTo begins,
    FileTree.walk_eq_visitsTo otherBegins, sameEntries]
  apply Harvest.gather_agrees
  rw [List.map_flatMap, List.map_flatMap, List.flatMap_def, List.flatMap_def]
  apply List.rel_flatten
  rw [List.forall₂_map_left_iff, List.forall₂_map_right_iff, List.forall₂_same]
  intro entry member
  have walked := FileTree.mem_walkedEntries_iff.mp member
  have otherWalked := FileTree.mem_walkedEntries_iff.mp (sameEntries ▸ member)
  exact visitsTo_agrees walked otherWalked
    (alike entry.1 fun _ => walked.isName_of_mem) rules

end Scan
end ScriptAudit
