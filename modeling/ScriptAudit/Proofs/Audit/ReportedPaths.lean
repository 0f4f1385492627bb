import ScriptAudit.Proofs.Audit.Spelling
import ScriptAudit.Proofs.Path.Relative

/-!
# Paths in reports

A report names a file by the path that is seen from the skill. A configuration that is
accepted keeps its directory of scripts inside of the skill, so that this path never
leads out of it.
-/

namespace ScriptAudit
namespace Audit

variable {tree : FileTree} {target : Path} {config : Config}

/-- What a walk comes to below the directory of scripts of a valid configuration is seen
from the target. -/
theorem exists_seenFrom
    (valid : config.validate = .ok config)
    (nonempty : target ≠ [])
    {names : List Text.Octets}
    (areNames : ∀ name ∈ names, Path.IsName name) :
    ∃ seen, Path.SeenFrom target (Path.ofString config.scriptsDir) names seen := by
  have stays := (Config.validate_eq_ok_iff.mp valid).1
  simp only [Config.LeavesSkill, not_or, Bool.not_eq_true] at stays
  obtain ⟨named, relative, noParent⟩ := stays
  exact ⟨_, Path.seenFrom_trimmed nonempty (mt Path.ofString_eq_nil_iff.mp named) relative
    noParent areNames⟩

/-- Every finding of a report is made on a visit of the walk. -/
theorem exists_visit_of_mem_reportOn
    {finding : Finding}
    (member : finding ∈ (reportOn tree target config).findings) :
    ∃ visited ∈ tree.walk (scriptsPath target config.scriptsDir),
      finding.file = (Path.relativeTo target visited.path).display := by
  unfold reportOn at member
  split at member
  · rw [Report.aggregate, harvest, Scan.directory_eq_visits, Scan.visits_findings]
      at member
    obtain ⟨visited, isVisited, found⟩ := List.mem_flatMap.mp member
    exact ⟨visited, isVisited, Scan.file_of_mem_visit found⟩
  · cases member

/-- With a valid configuration, whatever leads through names from the directory of
scripts is seen from the target as a path inside of it: removing the target succeeds,
and leaves the components of that directory and the names. A walk comes to such paths
only, and they are what a report shows. No walk starts below a target that does not
exist, as the empty path never does. -/
theorem reported_paths_stay_inside
    (tree : FileTree)
    (target : Path)
    (config : Config)
    (valid : config.validate = .ok config) :
    let scripts := Path.ofString config.scriptsDir
    (tree.pathExists target = true → ∀ names, (∀ name ∈ names, Path.IsName name) →
      ∃ seen, Path.SeenFrom target scripts names seen) ∧
    (∀ visited ∈ tree.walk (target.join scripts),
      ∃ names, (∀ name ∈ names, Path.IsName name) ∧
        visited.path = (target.join scripts).descend names) ∧
    ∀ report, (withConfig tree target config).result = .ok report →
      ∀ finding ∈ report.findings, ∃ visited ∈ tree.walk (target.join scripts),
        ∃ names seen, visited.path = (target.join scripts).descend names ∧
          Path.SeenFrom target scripts names seen ∧ finding.file = seen.display := by
  have seenBelow : tree.pathExists target = true → ∀ names,
      (∀ name ∈ names, Path.IsName name) →
      ∃ seen, Path.SeenFrom target (Path.ofString config.scriptsDir) names seen :=
    fun targetExists names areNames =>
      exists_seenFrom valid (FileTree.ne_nil_of_pathExists targetExists) areNames
  refine ⟨seenBelow, fun visited member => FileTree.exists_descend_of_mem_walk member, ?_⟩
  intro report result finding member
  obtain ⟨targetExists, _, rfl⟩ := result_eq_ok_iff.mp result
  obtain ⟨visited, isVisited, shown⟩ := exists_visit_of_mem_reportOn member
  obtain ⟨names, areNames, leads⟩ := FileTree.exists_descend_of_mem_walk isVisited
  obtain ⟨seen, seenFrom⟩ := seenBelow targetExists names areNames
  refine ⟨visited, isVisited, names, seen, leads, seenFrom, ?_⟩
  rw [shown, leads]
  exact congrArg Path.display seenFrom.relativeTo_eq

theorem reported_paths_stay_inside_dotted :
    let config : Config := ⟨"./lib//tools/.", []⟩
    let name := Path.ofString "run.py"
    config.validate = .ok config ∧ Sample.tree.pathExists Sample.respelled = true ∧
      Path.IsName name ∧
      ∃ seen,
        Path.SeenFrom Sample.respelled (Path.ofString config.scriptsDir) [name] seen ∧
        seen.display = "lib//tools/./run.py" := by
  intro config name
  have valid : config.validate = .ok config := by decide
  have isName : Path.IsName name := by decide
  obtain ⟨seen, seenFrom⟩ :=
    (reported_paths_stay_inside Sample.tree Sample.respelled config valid).1
      Sample.respelled_exists [name] (by simpa using isName)
  refine ⟨valid, Sample.respelled_exists, isName, seen, seenFrom, ?_⟩
  rw [← seenFrom.relativeTo_eq]
  decide

end Audit
end ScriptAudit
