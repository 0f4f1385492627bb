import ScriptAudit.Proofs.FileTree.Locking
import ScriptAudit.Proofs.Scan.Accounting

/-!
# Scanning around a lock

When a node is locked, the visits before and behind it contribute to a scan what they
did before, and the node contributes one finding that it cannot be read.
-/

namespace ScriptAudit

open Text (Octets)

namespace Scan

variable {tree other : FileTree} {rules : RuleSet} {root start path : Path} {node : Node}

/-- What a visit contributes depends on what its path leads to only. -/
theorem visit_congr
    (sameStatus : ∀ found, other.status path = .ok found ↔ tree.status path = .ok found) :
    visit other rules root (.reached path) = visit tree rules root (.reached path) := by
  cases status : tree.status path with
  | ok found =>
      have otherStatus := (sameStatus found).mpr status
      simp only [visit, FileTree.isFile, FileTree.read, status, otherStatus]
  | error error =>
      cases otherStatus : other.status path with
      | ok found =>
          rw [(sameStatus found).mp otherStatus] at status
          cases status
      | error otherError => simp [visit, FileTree.isFile, status, otherStatus]

/-- Visits outside of a location contribute the same when the location is locked. -/
theorem visits_lock
    {base : Node}
    {location : Location}
    {nodes : List Node}
    (begins : tree.status start = .ok base)
    (areWalked : nodes ⊆ tree.walkedNodes base)
    (outside : ∀ node ∈ nodes, ¬ location <+: node.location)
    (proper : location ≠ [])
    (startClear : ¬ tree.PassesThrough start location)
    (linksAvoid : tree.LinksAvoid location) :
    visits (tree.lock location) rules root (FileTree.visitsAt start base nodes) =
      visits tree rules root (FileTree.visitsAt start base nodes) := by
  refine congrArg Harvest.gather (List.map_congr_left fun visited member => ?_)
  obtain ⟨names, node, present, walked, samePath⟩ :=
    FileTree.exists_of_mem_visitsAt begins areWalked member
  cases visited with
  | failed path error => rfl
  | reached path =>
      obtain rfl : path = start.descend names := samePath
      exact visit_congr fun found => walked.status_lock_iff_of_outside proper startClear
        linksAvoid (outside node present)

/-- A locked directory contributes that it could not be entered. -/
theorem visits_locked_directory
    {base : Node}
    {names : List Octets}
    (begins : tree.status start = .ok base)
    (walked : tree.Walked start names node)
    (isDirectory : node.isDirectory = true)
    (locked : node.locked = true) :
    let path := start.descend names
    (visits tree rules root (FileTree.visitsAt start base [node])).filesScanned = 0 ∧
      (visits tree rules root (FileTree.visitsAt start base [node])).findings =
        [.unreadable (Path.relativeTo root path).display
          (walkErrorText path .denied)] := by
  intro path
  have isEntry := FileTree.isDirectory_iff.mp isDirectory
  have leads : tree.status path = .ok node := walked.status_eq (by simp [isEntry])
  have noFile : tree.isFile path = false := by
    rw [← Bool.not_eq_true, FileTree.isFile_iff]
    rintro ⟨other, content, otherLeads, isFile⟩
    obtain rfl := Except.ok.inj (leads.symm.trans otherLeads)
    simp [isEntry] at isFile
  have isVisited : FileTree.visitsAt start base [node] =
      [.reached path, .failed path .denied] := by
    simp [FileTree.visitsAt, FileTree.visitsOf, Node.visits, isDirectory, locked, path,
      walked.walkedPath_eq begins]
  rw [isVisited]
  simp [visits, Harvest.gather, visit, noFile, Harvest.empty, Harvest.cannotWalk]

/-- A locked script contributes that it could not be read. -/
theorem visits_locked_script
    {base : Node}
    {names : List Octets}
    {content : Octets}
    {language : Language}
    (begins : tree.status start = .ok base)
    (walked : tree.Walked start names node)
    (isFile : node.entry = .file content)
    (classified : Language.classify? (start.descend names) = some language)
    (locked : node.locked = true) :
    let path := start.descend names
    (visits tree rules root (FileTree.visitsAt start base [node])).filesScanned = 0 ∧
      (visits tree rules root (FileTree.visitsAt start base [node])).findings =
        [.unreadable (Path.relativeTo root path).display OsError.denied.message] := by
  intro path
  have leads : tree.status path = .ok node := walked.status_eq (by simp [isFile])
  have unreadable : tree.read path = .error .denied := by
    rw [FileTree.read_of_status leads, FileTree.contentOf, locked, if_pos rfl]
  rw [FileTree.visitsAt_file begins walked isFile, visits, List.map_singleton,
    visit_of_read_error (FileTree.isFile_iff.mpr ⟨node, content, leads, isFile⟩)
      classified unreadable]
  simp [Harvest.gather, Harvest.cannotRead, path]

/-! ## The scan as a whole -/

/-- Two lists of findings agree apart from one place. There the first one has what the
visits at or below a path contribute to a scan, and the second one a single finding. -/
def ReplacesBlock
    (tree : FileTree)
    (rules : RuleSet)
    (root start path : Path)
    (original replaced : List Finding)
    (finding : Finding) : Prop :=
  ∃ before inside behind, tree.walk start = before ++ inside ++ behind ∧
    (∀ visited ∈ inside, Path.Within path visited.path) ∧
    (∀ visited ∈ before ++ behind, ¬ Path.Within path visited.path) ∧
    original = (visits tree rules root before).findings ++
      (visits tree rules root inside).findings ++
        (visits tree rules root behind).findings ∧
    replaced = (visits tree rules root before).findings ++ [finding] ++
      (visits tree rules root behind).findings

/-- The number of scripts at or below a path that a walk comes to and that can be
read. -/
def scannedWithin (tree : FileTree) (start path : Path) : Nat :=
  (tree.walk start).countP fun visited =>
    decide (Path.Within path visited.path) && visited.isScanned tree

section

variable {base : Node} {names : List Octets} {finding : Finding}

/-- The visits at or below a node are made in one go. -/
theorem walk_blocks_within
    (begins : tree.status start = .ok base)
    (walked : tree.Walked start names node)
    (nonempty : names ≠ []) :
    let nodes := tree.walkedNodes base
    (∀ visited ∈ FileTree.visitsAt start base (FileTree.within node.location nodes),
      Path.Within (start.descend names) visited.path) ∧
    ∀ visited ∈ FileTree.visitsAt start base (FileTree.before node.location nodes) ++
        FileTree.visitsAt start base (FileTree.behind node.location nodes),
      ¬ Path.Within (start.descend names) visited.path := by
  intro nodes
  constructor
  · intro visited member
    obtain ⟨other, present, isWithin⟩ := FileTree.exists_within_iff begins walked nonempty
      (List.filter_subset_self _) member
    exact isWithin.mpr (by simpa using (List.mem_filter.mp present).2)
  · intro visited member
    rw [← FileTree.visitsAt_append] at member
    have isOutside : ∀ other ∈ FileTree.before node.location nodes ++
        FileTree.behind node.location nodes,
        other ∈ nodes ∧ ¬ node.location <+: other.location := fun other present =>
      FileTree.mem_before_or_behind_iff.mp (List.mem_append.mp present)
    obtain ⟨other, present, isWithin⟩ := FileTree.exists_within_iff begins walked nonempty
      (fun other present => (isOutside other present).1) member
    exact fun within => (isOutside other present).2 (isWithin.mp within)

/-- Locking a node replaces what is contributed at or below it by what the locked node
contributes. -/
theorem directory_lock
    (begins : tree.status start = .ok base)
    (walked : tree.Walked start names node)
    (nonempty : names ≠ [])
    (startClear : ¬ tree.PassesThrough start node.location)
    (linksAvoid : tree.LinksAvoid node.location)
    (noticed :
      let noticed := visits (tree.lock node.location) rules root
        (FileTree.visitsAt start base [node.lockedAt node.location])
      noticed.filesScanned = 0 ∧ noticed.findings = [finding]) :
    let inside := FileTree.visitsAt start base
      (FileTree.within node.location (tree.walkedNodes base))
    let locked := directory (tree.lock node.location) rules root start
    ReplacesBlock tree rules root start (start.descend names)
        (directory tree rules root start).findings locked.findings finding ∧
      locked.filesScanned + inside.countP (Visit.isScanned tree) =
        (directory tree rules root start).filesScanned := by
  intro inside locked
  let nodes := tree.walkedNodes base
  let early := FileTree.visitsAt start base (FileTree.before node.location nodes)
  let late := FileTree.visitsAt start base (FileTree.behind node.location nodes)
  have isOutside : ∀ other, other ∈ FileTree.before node.location nodes ∨
      other ∈ FileTree.behind node.location nodes →
      other ∈ nodes ∧ ¬ node.location <+: other.location := fun other =>
    FileTree.mem_before_or_behind_iff.mp
  have proper : node.location ≠ [] := (walked.encloses begins nonempty).ne_nil
  have sameEarly : visits (tree.lock node.location) rules root early =
      visits tree rules root early :=
    visits_lock begins (fun other present => (isOutside other (.inl present)).1)
      (fun other present => (isOutside other (.inl present)).2) proper
        startClear linksAvoid
  have sameLate : visits (tree.lock node.location) rules root late =
      visits tree rules root late :=
    visits_lock begins (fun other present => (isOutside other (.inr present)).1)
      (fun other present => (isOutside other (.inr present)).2) proper
        startClear linksAvoid
  have walkEq : tree.walk start = early ++ inside ++ late :=
    FileTree.walk_eq_blocks begins node.location
  have lockedWalkEq := FileTree.walk_lock_eq_blocks begins walked nonempty startClear
  obtain ⟨isWithin, outside⟩ := walk_blocks_within begins walked nonempty
  refine ⟨⟨early, inside, late, walkEq, isWithin, outside, ?_, ?_⟩, ?_⟩
  · rw [directory_eq_visits, walkEq, (visits_append ..).2, (visits_append ..).2]
  · simp only [locked]
    rw [directory_eq_visits, lockedWalkEq, (visits_append ..).2, (visits_append ..).2,
      noticed.2, sameEarly, sameLate]
  · simp only [locked]
    rw [directory_eq_visits, directory_eq_visits, lockedWalkEq, walkEq,
      (visits_append ..).1, (visits_append ..).1, (visits_append ..).1,
      (visits_append ..).1, noticed.1, sameEarly,
      sameLate, (visits_counts tree rules root inside).1]
    omega

/-- The scripts at or below a node that are scanned are counted by the visits at or
below it. -/
theorem scannedWithin_eq
    (begins : tree.status start = .ok base)
    (walked : tree.Walked start names node)
    (nonempty : names ≠ []) :
    scannedWithin tree start (start.descend names) =
      (FileTree.visitsAt start base
        (FileTree.within node.location (tree.walkedNodes base))).countP
        (Visit.isScanned tree) := by
  obtain ⟨isWithin, outside⟩ := walk_blocks_within begins walked nonempty
  let counted := fun visited : Visit =>
    decide (Path.Within (start.descend names) visited.path) && visited.isScanned tree
  have noneOutside : ∀ visits : List Visit,
      (∀ visited ∈ visits, ¬ Path.Within (start.descend names) visited.path) →
      visits.countP counted = 0 := fun visits isOutside =>
    List.countP_eq_zero.mpr fun visited member =>
      by simp [counted, isOutside visited member]
  have allWithin : ∀ visits : List Visit,
      (∀ visited ∈ visits, Path.Within (start.descend names) visited.path) →
      visits.countP counted = visits.countP (Visit.isScanned tree) :=
        fun visits areWithin =>
    List.countP_congr fun visited member => by simp [counted, areWithin visited member]
  change (tree.walk start).countP counted = _
  rw [FileTree.walk_eq_blocks begins node.location,
    List.countP_append, List.countP_append,
    noneOutside _ fun visited member => outside visited (List.mem_append_left _ member),
    noneOutside _ fun visited member => outside visited (List.mem_append_right _ member),
    allWithin _ isWithin]
  omega

/-- At or below a script, one file is scanned or none. -/
theorem countP_isScanned_script
    {content : Octets}
    {language : Language}
    (begins : tree.status start = .ok base)
    (walked : tree.Walked start names node)
    (isFile : node.entry = .file content)
    (classified : Language.classify? (start.descend names) = some language) :
    (FileTree.visitsAt start base
        (FileTree.within node.location (tree.walkedNodes base))).countP
        (Visit.isScanned tree) =
      if (tree.read (start.descend names)).isOk then 1 else 0 := by
  have leads := walked.status_eq (by simp [isFile])
  have isScript : tree.isScript (start.descend names) = true := by
    rw [FileTree.isScript,
      FileTree.isFile_iff.mpr ⟨node, content, leads, isFile⟩, classified]
    rfl
  rw [FileTree.within_file_eq begins walked isFile,
    FileTree.visitsAt_file begins walked isFile, List.countP_singleton, Visit.isScanned,
    isScript, Bool.true_and]

end

end Scan
end ScriptAudit
