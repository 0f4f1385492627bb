import ScriptAudit.Proofs.FileTree.Walk
import ScriptAudit.Proofs.Scan.Content

/-!
# The accounts of a scan

Every visit of a walk contributes to a scan in one of five ways: it could not be
made, it came to no regular file, to a file that is no script, to a script that was
read or to one that could not be read. The counts of a scan add up over its visits,
and the findings of a script that was read are those of its text.
-/

namespace ScriptAudit

open Text (Octets)

/-- Whether a path leads to a regular file with the extension of a script. -/
def FileTree.isScript (tree : FileTree) (path : Path) : Bool :=
  tree.isFile path && (Language.classify? path).isSome

namespace Visit

/-- Whether a visit could not be made. -/
def isFailed : Visit → Bool
  | .reached _ => false
  | .failed .. => true

/-- Whether a visit came to a script that can be read. -/
def isScanned (tree : FileTree) : Visit → Bool
  | .reached path => tree.isScript path && (tree.read path).isOk
  | .failed .. => false

/-- Whether a visit came to a script that cannot be read. -/
def isUnreadable (tree : FileTree) : Visit → Bool
  | .reached path => tree.isScript path && !(tree.read path).isOk
  | .failed .. => false

/-- What a visit comes to. -/
inductive Kind (tree : FileTree) : Visit → Prop
  /-- The visit could not be made. -/
  | failed (path : Path) (error : OsError) : Kind tree (.failed path error)
  /-- It came to no regular file or to one that is no script. -/
  | other {path}
      (noScript : tree.isScript path = false) :
      Kind tree (.reached path)
  /-- It came to a script that cannot be read. -/
  | unreadable {path language error}
      (isFile : tree.isFile path = true)
      (classified : Language.classify? path = some language)
      (failure : tree.read path = .error error) :
      Kind tree (.reached path)
  /-- It came to a script that can be read. -/
  | scanned {path language octets}
      (isFile : tree.isFile path = true)
      (classified : Language.classify? path = some language)
      (readable : tree.read path = .ok octets) :
      Kind tree (.reached path)

/-- Every visit comes to one of these. -/
theorem kind (tree : FileTree) (visited : Visit) : Kind tree visited := by
  cases visited with
  | failed path error => exact .failed path error
  | reached path =>
      cases script : tree.isScript path with
      | false => exact .other script
      | true =>
          obtain ⟨isFile, isSome⟩ := Bool.and_eq_true_iff.mp script
          obtain ⟨language, classified⟩ := Option.isSome_iff_exists.mp isSome
          cases readable : tree.read path with
          | ok octets => exact .scanned isFile classified readable
          | error error => exact .unreadable isFile classified readable

end Visit

namespace Scan

variable {tree : FileTree} {rules : RuleSet} {root path : Path} {language : Language}

/-! ## What a single visit contributes -/

/-- A script that can be read contributes the findings in its text. -/
theorem visit_of_read_ok
    {octets : Octets}
    (isFile : tree.isFile path = true)
    (classified : Language.classify? path = some language)
    (readable : tree.read path = .ok octets) :
    visit tree rules root (.reached path) =
      .scanned rules (Path.relativeTo root path).display language octets := by
  simp [visit, isFile, classified, readable]

/-- A script that cannot be read contributes that it cannot. -/
theorem visit_of_read_error
    {error : OsError}
    (isFile : tree.isFile path = true)
    (classified : Language.classify? path = some language)
    (unreadable : tree.read path = .error error) :
    visit tree rules root (.reached path) =
      .cannotRead (Path.relativeTo root path).display error.message := by
  simp [visit, isFile, classified, unreadable]

/-- What is no script contributes nothing that is reported. -/
theorem visit_of_not_isScript
    (noScript : tree.isScript path = false)
    (rules : RuleSet)
    (root : Path) :
    (visit tree rules root (.reached path)).filesScanned = 0 ∧
      (visit tree rules root (.reached path)).findings = [] := by
  cases isFile : tree.isFile path with
  | false => simp [visit, isFile, Harvest.empty]
  | true =>
      have unclassified : Language.classify? path = none := by
        simpa [FileTree.isScript, isFile] using noScript
      simp [visit, isFile, unclassified, Harvest.unsupported]

theorem Harvest.scanned_findings
    (file : String)
    (octets : Octets) :
    (Harvest.scanned rules file language octets).findings =
      content rules file (Text.decodeLossy octets) language := by
  rw [Harvest.scanned, content]

theorem count_low_content
    (file : String)
    (text : List Char) :
    Summary.count .low (content rules file text language) = 0 := by
  refine List.countP_eq_zero.mpr fun finding member => ?_
  simpa using severity_ne_low_of_mem_content member

/-- A visit adds one to the scanned files or one finding of low severity, or
neither. -/
theorem visit_counts
    (tree : FileTree)
    (rules : RuleSet)
    (root : Path)
    (visited : Visit) :
    (visit tree rules root visited).filesScanned =
        (if visited.isScanned tree then 1 else 0) ∧
      Summary.count .low (visit tree rules root visited).findings =
        (if visited.isFailed then 1 else 0) +
          (if visited.isUnreadable tree then 1 else 0) := by
  cases visited.kind tree with
  | failed path error => exact ⟨rfl, rfl⟩
  | other noScript =>
      obtain ⟨noFiles, noFindings⟩ := visit_of_not_isScript noScript rules root
      simp [noFiles, noFindings, noScript, Visit.isScanned, Visit.isFailed,
        Visit.isUnreadable, Summary.count]
  | unreadable isFile classified failure =>
      rw [visit_of_read_error isFile classified failure]
      simp [isFile, classified, failure, FileTree.isScript, Visit.isScanned,
        Visit.isFailed, Visit.isUnreadable, Except.isOk, Except.toBool,
        Harvest.cannotRead, Summary.count, Finding.unreadable]
  | scanned isFile classified readable =>
      rw [visit_of_read_ok isFile classified readable, Harvest.scanned_findings,
        count_low_content]
      simp [isFile, classified, readable, FileTree.isScript, Visit.isScanned,
        Visit.isFailed, Visit.isUnreadable, Except.isOk, Except.toBool, Harvest.scanned]

/-- Everything that a visit contributes is found in the file that it sees from the root.
-/
theorem file_of_mem_visit
    {visited : Visit}
    {finding : Finding}
    (member : finding ∈ (visit tree rules root visited).findings) :
    finding.file = (Path.relativeTo root visited.path).display := by
  cases visited.kind tree with
  | failed path error =>
      obtain rfl := List.mem_singleton.mp member
      rfl
  | other noScript =>
      rw [(visit_of_not_isScript noScript rules root).2] at member
      cases member
  | unreadable isFile classified failure =>
      rw [visit_of_read_error isFile classified failure] at member
      obtain rfl := List.mem_singleton.mp member
      rfl
  | scanned isFile classified readable =>
      rw [visit_of_read_ok isFile classified readable, Harvest.scanned_findings] at member
      obtain ⟨rule, _, line, number, _, _, rfl⟩ := mem_content_iff.mp member
      rfl

/-! ## What a walk contributes -/

theorem Harvest.gather_append (first second : List Harvest) :
    gather (first ++ second) =
      ⟨(gather first).filesScanned + (gather second).filesScanned,
        (gather first).findings ++ (gather second).findings,
        (gather first).events ++ (gather second).events⟩ := by
  induction first with
  | nil => simp [gather]
  | cons part first inductionHypothesis =>
      simp only [gather, Harvest.mk.injEq] at inductionHypothesis
      simp [gather, inductionHypothesis, Nat.add_assoc]

/-- What some visits contribute together. -/
def visits (tree : FileTree) (rules : RuleSet) (root : Path) (visited : List Visit) :
    Harvest :=
  .gather (visited.map (visit tree rules root))

theorem directory_eq_visits
    (tree : FileTree)
    (rules : RuleSet)
    (root start : Path) :
    directory tree rules root start = visits tree rules root (tree.walk start) := rfl

theorem visits_findings
    (tree : FileTree)
    (rules : RuleSet)
    (root : Path)
    (visited : List Visit) :
    (visits tree rules root visited).findings =
      visited.flatMap fun visit => (Scan.visit tree rules root visit).findings := by
  simp only [visits, Harvest.gather, List.flatMap_map]

theorem visits_append
    (tree : FileTree)
    (rules : RuleSet)
    (root : Path)
    (first second : List Visit) :
    (visits tree rules root (first ++ second)).filesScanned =
        (visits tree rules root first).filesScanned +
          (visits tree rules root second).filesScanned ∧
      (visits tree rules root (first ++ second)).findings =
        (visits tree rules root first).findings ++
          (visits tree rules root second).findings := by
  rw [visits, List.map_append, Harvest.gather_append]
  exact ⟨rfl, rfl⟩

/-- The counts add up over the visits, whatever these are. -/
theorem visits_counts
    (tree : FileTree)
    (rules : RuleSet)
    (root : Path)
    (visited : List Visit) :
    (visits tree rules root visited).filesScanned =
        visited.countP (Visit.isScanned tree) ∧
      Summary.count .low (visits tree rules root visited).findings =
        visited.countP Visit.isFailed + visited.countP (Visit.isUnreadable tree) := by
  induction visited with
  | nil => exact ⟨rfl, rfl⟩
  | cons first visited inductionHypothesis =>
      obtain ⟨files, low⟩ := inductionHypothesis
      obtain ⟨firstFiles, firstLow⟩ := visit_counts tree rules root first
      simp only [visits, Harvest.gather, Summary.count, List.map_cons, List.foldr_cons,
        List.flatMap_cons, List.countP_append, List.countP_cons] at *
      omega

/-- A scan accounts for every entry that its walk comes to, once for each, and for every
visit that fails, at a start that leads nowhere or at a locked directory. It is the sum
of what the visits contribute: a script all findings in its text and one file, or that
it cannot be read; a visit that fails that it did; and any other visit nothing. So its
counts are those of the scripts that could and could not be read. -/
theorem directory_accounts_for_walk
    (tree : FileTree)
    (rules : RuleSet)
    (root start : Path) :
    let harvest := directory tree rules root start
    let visited := tree.walk start
    let contribution := visit tree rules root
    (visited.Nodup ∧
      ∃ entries : List (List Octets × Node), entries.Nodup ∧
        (∀ names node, (names, node) ∈ entries ↔ tree.Walked start names node) ∧
        visited.filter Visit.isReached =
          entries.map fun entry => .reached (start.descend entry.1)) ∧
    (∀ path error, .failed path error ∈ visited ↔
      path = start ∧ tree.status start = .error error ∨
        ∃ names directory, tree.Walked start names directory ∧
          directory.isDirectory ∧ directory.locked ∧
          path = start.descend names ∧ error = .denied) ∧
    (harvest.filesScanned =
        visited.foldr (fun visit total => (contribution visit).filesScanned + total) 0 ∧
      harvest.findings = visited.flatMap fun visit => (contribution visit).findings) ∧
    (harvest.filesScanned = visited.countP (Visit.isScanned tree) ∧
      Summary.count .low harvest.findings =
        visited.countP Visit.isFailed + visited.countP (Visit.isUnreadable tree)) ∧
    (∀ path language, .reached path ∈ visited →
      tree.isFile path → Language.classify? path = some language →
      (∃ octets, tree.read path = .ok octets ∧
        (contribution (.reached path)).filesScanned = 1 ∧
        (contribution (.reached path)).findings =
          content rules (Path.relativeTo root path).display
            (Text.decodeLossy octets) language) ∨
      (∃ error, tree.read path = .error error ∧
        (contribution (.reached path)).filesScanned = 0 ∧
        (contribution (.reached path)).findings =
          [.unreadable (Path.relativeTo root path).display error.message])) ∧
    (∀ path, .reached path ∈ visited →
      tree.isFile path = false ∨ Language.classify? path = none →
      (contribution (.reached path)).filesScanned = 0 ∧
        (contribution (.reached path)).findings = []) ∧
    (∀ path error, .failed path error ∈ visited →
      (contribution (.failed path error)).filesScanned = 0 ∧
        (contribution (.failed path error)).findings =
          [.unreadable (Path.relativeTo root path).display
            (walkErrorText path error)]) := by
  intro harvest visited contribution
  refine ⟨⟨tree.walk_nodup start, tree.exists_entries_of_walk start⟩,
    fun path error => FileTree.failed_mem_walk_iff,
      ⟨?_, visits_findings tree rules root visited⟩,
    visits_counts tree rules root visited, ?_, ?_, fun path error _ => ⟨rfl, rfl⟩⟩
  · simp only [harvest, directory, Harvest.gather, List.foldr_map]
    rfl
  · intro path language _ isFile classified
    cases readable : tree.read path with
    | ok octets =>
        left
        refine ⟨octets, rfl, ?_⟩
        simp only [contribution, visit_of_read_ok isFile classified readable]
        exact ⟨rfl, Harvest.scanned_findings _ _⟩
    | error error =>
        right
        refine ⟨error, rfl, ?_⟩
        simp only [contribution, visit_of_read_error isFile classified readable]
        exact ⟨rfl, rfl⟩
  · intro path _ other
    apply visit_of_not_isScript
    rcases other with noFile | unclassified
    · simp [FileTree.isScript, noFile]
    · simp [FileTree.isScript, unclassified]

end Scan
end ScriptAudit
