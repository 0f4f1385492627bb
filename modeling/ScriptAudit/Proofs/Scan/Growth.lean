import ScriptAudit.Proofs.FileTree.Growth
import ScriptAudit.Proofs.Scan.Accounting

/-!
# Scanning a larger tree

A visit contributes at least what it contributed in a smaller tree: where its path led
to something, it still leads there, and where it led nowhere, it contributed nothing.
Since a walk makes the visits that it made before, all findings are found again and in
the same order.
-/

namespace ScriptAudit
namespace Scan

variable {tree larger : FileTree} {start path : Path} {visited : Visit}

/-- What a path led to is contributed again. -/
theorem visit_eq_of_status
    {found : Node}
    (isPart : tree.IsPartOf larger)
    (leads : tree.status path = .ok found)
    (rules : RuleSet)
    (root : Path) :
    visit larger rules root (.reached path) = visit tree rules root (.reached path) := by
  simp only [visit, FileTree.isFile, FileTree.read, leads, isPart.status_eq leads]

/-- A visit finds what it found before. -/
theorem visit_findings_sublist
    (isPart : tree.IsPartOf larger)
    (rules : RuleSet)
    (root : Path)
    (visited : Visit) :
    (visit tree rules root visited).findings.Sublist
      (visit larger rules root visited).findings := by
  cases visited with
  | failed path error => exact List.Sublist.refl _
  | reached path =>
      cases leads : tree.status path with
      | ok found =>
          rw [visit_eq_of_status isPart leads]
      | error error =>
          have noScript : tree.isScript path = false := by
            simp [FileTree.isScript, FileTree.isFile, leads]
          rw [(visit_of_not_isScript noScript rules root).2]
          exact List.nil_sublist _

/-- A script that was read is read again. -/
theorem isScanned_of_isPartOf
    (isPart : tree.IsPartOf larger)
    (isScanned : visited.isScanned tree = true) :
    visited.isScanned larger = true := by
  cases visited with
  | failed path error => cases isScanned
  | reached path =>
      cases leads : tree.status path with
      | ok found =>
          rw [← isScanned]
          simp only [Visit.isScanned, FileTree.isScript, FileTree.isFile,
            FileTree.read, leads, isPart.status_eq leads]
      | error error =>
          simp [Visit.isScanned, FileTree.isScript, FileTree.isFile, leads] at isScanned

/-- A scan of a larger tree finds everything in the same order, and reads no fewer
scripts. -/
theorem directory_of_isPartOf
    {base : Node}
    (isPart : tree.IsPartOf larger)
    (begins : tree.status start = .ok base)
    (rules : RuleSet)
    (root : Path) :
    (directory tree rules root start).findings.Sublist
        (directory larger rules root start).findings ∧
      (directory tree rules root start).filesScanned ≤
        (directory larger rules root start).filesScanned := by
  have moreVisits := isPart.walk_sublist begins
  rw [directory_eq_visits, directory_eq_visits]
  constructor
  · rw [visits_findings, visits_findings]
    have again : ((tree.walk start).flatMap fun visited =>
          (visit tree rules root visited).findings).Sublist
        ((tree.walk start).flatMap fun visited =>
          (visit larger rules root visited).findings) :=
      .flatMap_right _ fun visited _ => visit_findings_sublist isPart rules root visited
    exact again.trans (moreVisits.flatMap _)
  · rw [(visits_counts tree rules root _).1, (visits_counts larger rules root _).1]
    calc (tree.walk start).countP (Visit.isScanned tree)
        ≤ (tree.walk start).countP (Visit.isScanned larger) :=
          List.countP_mono_left fun visited _ => isScanned_of_isPartOf isPart
      _ ≤ (larger.walk start).countP (Visit.isScanned larger) := moreVisits.countP_le

end Scan
end ScriptAudit
