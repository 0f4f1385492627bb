import ScriptAudit.Proofs.Catalog.ScanOrder
import ScriptAudit.Proofs.FileTree.Order
import ScriptAudit.Proofs.Scan.Accounting

/-!
# The order of findings

What is found has a position: the names that lead to its entry, the place of the rule
among those that are applied, and the number of the line. The findings of a scan are
exactly those that arise at some position, and they stand in the lexicographic order of
their positions. Nothing about the order in which a tree was created has an influence
on it.
-/

namespace ScriptAudit

open Text (Octets)

namespace Scan

/-- What decides the place of a finding in a scan. -/
structure Position where
  /-- The names that lead from the start to the entry. -/
  names : List Octets
  /-- The place of the rule among those that are applied. -/
  rule : Nat
  /-- The number of the line, counted from one. -/
  line : Nat

/-- Findings go by entry, then by rule, then by line. -/
def Position.Precedes (first second : Position) : Prop :=
  first.names < second.names ∨
    first.names = second.names ∧
      (first.rule < second.rule ∨ first.rule = second.rule ∧ first.line < second.line)

/-- How findings arise. An entry that cannot be read gives one finding, which comes from
no rule and no line. -/
inductive Arises (tree : FileTree) (rules : RuleSet) (root start : Path) :
    Position → Finding → Prop
  /-- The start of the walk leads nowhere. -/
  | missing {error}
      (failure : tree.status start = .error error) :
      Arises tree rules root start ⟨[], 0, 0⟩
        (.unreadable (Path.relativeTo root start).display (walkErrorText start error))
  /-- A directory cannot be looked into. -/
  | closed {names directory}
      (walked : tree.Walked start names directory)
      (isDirectory : directory.isDirectory = true)
      (locked : directory.locked = true) :
      Arises tree rules root start ⟨names, 0, 0⟩
        (.unreadable (Path.relativeTo root (start.descend names)).display
          (walkErrorText (start.descend names) .denied))
  /-- A script cannot be read. -/
  | unreadable {names node language error}
      (walked : tree.Walked start names node)
      (isFile : tree.isFile (start.descend names) = true)
      (classified : Language.classify? (start.descend names) = some language)
      (failure : tree.read (start.descend names) = .error error) :
      Arises tree rules root start ⟨names, 0, 0⟩
        (.unreadable (Path.relativeTo root (start.descend names)).display error.message)
  /-- A rule matches a line of a script. -/
  | matched {names node language octets index rule number chars}
      (walked : tree.Walked start names node)
      (isFile : tree.isFile (start.descend names) = true)
      (classified : Language.classify? (start.descend names) = some language)
      (readable : tree.read (start.descend names) = .ok octets)
      (applied : (rules.rulesFor language)[index]? = some rule)
      (present : (Text.lines (Text.decodeLossy octets))[number]? = some chars)
      (isMatch : rule.pattern.isMatch chars.toArray = true) :
      Arises tree rules root start ⟨names, index, number + 1⟩
        (.matched (Path.relativeTo root (start.descend names)).display
          (number + 1) rule.id rule.description rule.tier.severity chars)

variable {tree other : FileTree} {rules : RuleSet} {root start : Path}

/-! ## Hits by rule and line -/

theorem mem_numberedLines_iff
    {text : List Char}
    {line : Pattern.Line}
    {number : Nat} :
    (line, number) ∈ numberedLines text ↔
      ∃ index chars, (Text.lines text)[index]? = some chars ∧ line = chars.toArray ∧
        number = index + 1 := by
  rw [numberedLines, List.mem_zipIdx_iff_le_and_getElem?_sub, List.getElem?_map,
    Option.map_eq_some_iff]
  constructor
  · rintro ⟨positive, chars, present, rfl⟩
    exact ⟨number - 1, chars, present, rfl, by omega⟩
  · rintro ⟨index, chars, present, rfl, rfl⟩
    exact ⟨by omega, chars, present, rfl⟩

/-- The numbers of the items of a list increase. -/
theorem zipIdx_pairwise (items : List α) (first : Nat) :
    (items.zipIdx first).Pairwise fun item later => item.2 < later.2 := by
  refine List.pairwise_map.mp ?_
  rw [List.zipIdx_map_snd]
  exact List.pairwise_lt_range'

/-- The hits of a rule go by line. -/
theorem hitsOf_pairwise (text : List Char) (rule : Rule) :
    (hitsOf (numberedLines text) rule).Pairwise fun first second =>
      first.number < second.number := by
  rw [hitsOf, List.pairwise_filterMap]
  refine (zipIdx_pairwise _ 1).imp ?_
  rintro ⟨line, number⟩ ⟨otherLine, otherNumber⟩ inOrder hit found otherHit otherFound
  obtain rfl := Option.some.inj (Option.ite_none_right_eq_some.mp found).2
  obtain rfl := Option.some.inj (Option.ite_none_right_eq_some.mp otherFound).2
  exact inOrder

/-- The hits of rules in a text, each with the place of its rule. -/
def rankedHits (rules : List Rule) (text : List Char) : List (Nat × Hit) :=
  rules.zipIdx.flatMap fun ranked =>
    (hitsOf (numberedLines text) ranked.1).map fun hit => (ranked.2, hit)

theorem rankedHits_map_snd (rules : List Rule) (text : List Char) :
    (rankedHits rules text).map Prod.snd = hits rules text := by
  have forgotten : ∀ ranked : Rule × Nat,
      ((hitsOf (numberedLines text) ranked.1).map fun hit =>
        (ranked.2, hit)).map Prod.snd = hitsOf (numberedLines text) ranked.1 := by
    intro ranked
    rw [List.map_map]
    exact List.map_id _
  rw [rankedHits, List.map_flatMap, hits]
  simp only [forgotten]
  conv_rhs => rw [← List.zipIdx_map_fst 0 rules, List.flatMap_map]

theorem mem_rankedHits_iff
    {rules : List Rule}
    {text : List Char}
    {index : Nat}
    {hit : Hit} :
    (index, hit) ∈ rankedHits rules text ↔
      ∃ rule number chars, rules[index]? = some rule ∧
        (Text.lines text)[number]? = some chars ∧
        rule.pattern.isMatch chars.toArray = true ∧
        hit = ⟨rule, number + 1, chars.toArray, rule.pattern.verdict chars.toArray⟩ := by
  simp only [rankedHits, List.mem_flatMap, List.mem_map, mem_hitsOf_iff,
    mem_numberedLines_iff]
  constructor
  · rintro ⟨⟨rule, _⟩, ranked, _,
      ⟨_, _, ⟨number, chars, present, rfl, rfl⟩, isMatch, rfl⟩, same⟩
    obtain ⟨rfl, rfl⟩ := Prod.mk.inj same
    exact ⟨rule, number, chars, List.mem_zipIdx_iff_getElem?.mp ranked,
      present, isMatch, rfl⟩
  · rintro ⟨rule, number, chars, applied, present, isMatch, rfl⟩
    exact ⟨(rule, index), List.mem_zipIdx_iff_getElem?.mpr applied, _,
      ⟨_, _, ⟨number, chars, present, rfl, rfl⟩, isMatch, rfl⟩, rfl⟩

/-- Hits go by rule and then by line, and those of the high tier come first. -/
theorem rankedHits_pairwise
    {rules : List Rule}
    (sorted : rules.Pairwise fun first second => first.tier.NotBehind second.tier)
    (text : List Char) :
    (rankedHits rules text).Pairwise fun first second =>
      (first.1 < second.1 ∨ first.1 = second.1 ∧ first.2.number < second.2.number) ∧
        first.2.rule.tier.NotBehind second.2.rule.tier := by
  have tiers : rules.zipIdx.Pairwise fun first second =>
      first.1.tier.NotBehind second.1.tier := by
    rw [← List.zipIdx_map_fst 0 rules, List.pairwise_map] at sorted
    exact sorted
  rw [rankedHits, List.pairwise_flatMap]
  constructor
  · intro ranked _
    rw [List.pairwise_map]
    refine (hitsOf_pairwise text ranked.1).imp_of_mem ?_
    intro first second firstMember secondMember inOrder
    refine ⟨.inr ⟨rfl, inOrder⟩, ?_⟩
    rw [rule_of_mem_hitsOf firstMember, rule_of_mem_hitsOf secondMember]
    exact id
  · refine ((zipIdx_pairwise rules 0).and tiers).imp ?_
    rintro ranked later ⟨inOrder, notBehind⟩ _ firstMember _ secondMember
    obtain ⟨first, firstHit, rfl⟩ := List.mem_map.mp firstMember
    obtain ⟨second, secondHit, rfl⟩ := List.mem_map.mp secondMember
    refine ⟨.inl inOrder, ?_⟩
    rw [rule_of_mem_hitsOf firstHit, rule_of_mem_hitsOf secondHit]
    exact notBehind

/-! ## Findings at an entry -/

/-- The path of a directory leads to no file. -/
theorem isFile_eq_false_of_walked
    {names : List Octets}
    {directory : Node}
    (walked : tree.Walked start names directory)
    (isDirectory : directory.isDirectory = true) :
    tree.isFile (start.descend names) = false := by
  have isEntry := FileTree.isDirectory_iff.mp isDirectory
  have leads := walked.status_eq (by simp [isEntry])
  rw [← Bool.not_eq_true, FileTree.isFile_iff]
  rintro ⟨node, content, otherLeads, isFile⟩
  obtain rfl := Except.ok.inj (leads.symm.trans otherLeads)
  rw [isEntry] at isFile
  cases isFile

/-- What is found at an entry that a walk comes to, with the positions. -/
def placedAt
    (tree : FileTree)
    (rules : RuleSet)
    (root start : Path)
    (entry : List Octets × Node) : List (Position × Finding) :=
  let path := start.descend entry.1
  let file := (Path.relativeTo root path).display
  if entry.2.isDirectory && entry.2.locked then
    [(⟨entry.1, 0, 0⟩, .unreadable file (walkErrorText path .denied))]
  else if !tree.isFile path then []
  else
    match Language.classify? path with
    | none => []
    | some language =>
        match tree.read path with
        | .error error => [(⟨entry.1, 0, 0⟩, .unreadable file error.message)]
        | .ok octets =>
            (rankedHits (rules.rulesFor language) (Text.decodeLossy octets)).map
              fun ranked => (⟨entry.1, ranked.1, ranked.2.number⟩, ranked.2.finding file)

section

variable {names : List Octets} {node : Node} {language : Language}

theorem placedAt_of_closed
    (isDirectory : node.isDirectory = true)
    (locked : node.locked = true) :
    placedAt tree rules root start (names, node) =
      [(⟨names, 0, 0⟩, .unreadable (Path.relativeTo root (start.descend names)).display
        (walkErrorText (start.descend names) .denied))] := by
  simp [placedAt, isDirectory, locked]

theorem placedAt_of_not_isScript
    (isOpen : (node.isDirectory && node.locked) = false)
    (noScript : tree.isScript (start.descend names) = false) :
    placedAt tree rules root start (names, node) = [] := by
  cases isFile : tree.isFile (start.descend names) with
  | false => simp [placedAt, isOpen, isFile]
  | true =>
      have unclassified : Language.classify? (start.descend names) = none := by
        simpa [FileTree.isScript, isFile] using noScript
      simp [placedAt, isOpen, isFile, unclassified]

theorem placedAt_of_read_error
    {error : OsError}
    (isOpen : (node.isDirectory && node.locked) = false)
    (isFile : tree.isFile (start.descend names) = true)
    (classified : Language.classify? (start.descend names) = some language)
    (failure : tree.read (start.descend names) = .error error) :
    placedAt tree rules root start (names, node) =
      [(⟨names, 0, 0⟩, .unreadable (Path.relativeTo root (start.descend names)).display
        error.message)] := by
  simp [placedAt, isOpen, isFile, classified, failure]

theorem placedAt_of_read_ok
    {octets : Octets}
    (isOpen : (node.isDirectory && node.locked) = false)
    (isFile : tree.isFile (start.descend names) = true)
    (classified : Language.classify? (start.descend names) = some language)
    (readable : tree.read (start.descend names) = .ok octets) :
    placedAt tree rules root start (names, node) =
      (rankedHits (rules.rulesFor language) (Text.decodeLossy octets)).map
        fun ranked => (⟨names, ranked.1, ranked.2.number⟩,
          ranked.2.finding (Path.relativeTo root (start.descend names)).display) := by
  simp [placedAt, isOpen, isFile, classified, readable]

/-- A file is no closed directory. -/
theorem isOpen_of_isFile
    (walked : tree.Walked start names node)
    (isFile : tree.isFile (start.descend names) = true) :
    (node.isDirectory && node.locked) = false := by
  cases isDirectory : node.isDirectory with
  | false => rfl
  | true =>
      rw [isFile_eq_false_of_walked walked isDirectory] at isFile
      cases isFile

/-- The visits of an entry contribute what is found at it. -/
theorem placedAt_map_snd (walked : tree.Walked start names node) :
    (placedAt tree rules root start (names, node)).map Prod.snd =
      (FileTree.visitsTo start (names, node)).flatMap fun visited =>
        (visit tree rules root visited).findings := by
  cases isClosed : node.isDirectory && node.locked with
  | true =>
      obtain ⟨isDirectory, locked⟩ := Bool.and_eq_true_iff.mp isClosed
      have noScript : tree.isScript (start.descend names) = false := by
        simp [FileTree.isScript, isFile_eq_false_of_walked walked isDirectory]
      have twice : FileTree.visitsTo start (names, node) =
          [.reached (start.descend names), .failed (start.descend names) .denied] := by
        simp [FileTree.visitsTo, Node.visits, isClosed]
      rw [placedAt_of_closed isDirectory locked, twice, List.flatMap_cons,
        List.flatMap_singleton, (visit_of_not_isScript noScript rules root).2,
        List.nil_append]
      rfl
  | false =>
      have once : FileTree.visitsTo start (names, node) =
          [.reached (start.descend names)] := by
        simp [FileTree.visitsTo, Node.visits, isClosed]
      rw [once, List.flatMap_singleton]
      cases (Visit.reached (start.descend names)).kind tree with
      | other noScript =>
          rw [placedAt_of_not_isScript isClosed noScript,
            (visit_of_not_isScript noScript rules root).2]
          rfl
      | unreadable isFile classified failure =>
          rw [placedAt_of_read_error isClosed isFile classified failure,
            visit_of_read_error isFile classified failure]
          rfl
      | scanned isFile classified readable =>
          rw [placedAt_of_read_ok isClosed isFile classified readable,
            visit_of_read_ok isFile classified readable,
            Harvest.scanned_findings, content,
            ← rankedHits_map_snd, List.map_map, List.map_map]
          exact List.map_congr_left fun ranked _ => rfl

/-- What is found at an entry is what arises there. -/
theorem mem_placedAt_iff
    {position : Position}
    {finding : Finding}
    (walked : tree.Walked start names node) :
    (position, finding) ∈ placedAt tree rules root start (names, node) ↔
      position.names = names ∧ Arises tree rules root start position finding := by
  constructor
  · intro member
    cases isClosed : node.isDirectory && node.locked with
    | true =>
        obtain ⟨isDirectory, locked⟩ := Bool.and_eq_true_iff.mp isClosed
        rw [placedAt_of_closed isDirectory locked, List.mem_singleton] at member
        obtain ⟨rfl, rfl⟩ := Prod.mk.inj member
        exact ⟨rfl, .closed walked isDirectory locked⟩
    | false =>
        cases (Visit.reached (start.descend names)).kind tree with
        | other noScript =>
            rw [placedAt_of_not_isScript isClosed noScript] at member
            cases member
        | unreadable isFile classified failure =>
            rw [placedAt_of_read_error isClosed isFile classified failure,
              List.mem_singleton] at member
            obtain ⟨rfl, rfl⟩ := Prod.mk.inj member
            exact ⟨rfl, .unreadable walked isFile classified failure⟩
        | scanned isFile classified readable =>
            rw [placedAt_of_read_ok isClosed isFile classified readable, List.mem_map]
              at member
            obtain ⟨⟨index, hit⟩, ranked, same⟩ := member
            obtain ⟨rfl, rfl⟩ := Prod.mk.inj same
            obtain ⟨rule, number, chars, applied, present, isMatch, rfl⟩ :=
              mem_rankedHits_iff.mp ranked
            exact ⟨rfl, .matched walked isFile classified readable
              applied present isMatch⟩
  · rintro ⟨rfl, arises⟩
    cases arises with
    | missing failure =>
        obtain ⟨base, begins⟩ := walked.exists_status
        rw [failure] at begins
        cases begins
    | closed otherWalked isDirectory locked =>
        obtain rfl := walked.unique otherWalked
        rw [placedAt_of_closed isDirectory locked]
        exact List.mem_singleton_self _
    | unreadable _ isFile classified failure =>
        rw [placedAt_of_read_error
          (isOpen_of_isFile walked isFile) isFile classified failure]
        exact List.mem_singleton_self _
    | matched _ isFile classified readable applied present isMatch =>
        rw [placedAt_of_read_ok (isOpen_of_isFile walked isFile) isFile
          classified readable, List.mem_map]
        exact ⟨_, mem_rankedHits_iff.mpr ⟨_, _, _, applied, present, isMatch, rfl⟩, rfl⟩

/-- The findings at an entry go by rule and line, those of high severity first. -/
theorem placedAt_pairwise
    (tree : FileTree)
    (rules : RuleSet)
    (root start : Path)
    (names : List Octets)
    (node : Node) :
    (placedAt tree rules root start (names, node)).Pairwise fun first second =>
      first.1.Precedes second.1 ∧
        (second.2.severity = .high → first.2.severity = .high) := by
  cases isClosed : node.isDirectory && node.locked with
  | true =>
      obtain ⟨isDirectory, locked⟩ := Bool.and_eq_true_iff.mp isClosed
      rw [placedAt_of_closed isDirectory locked]
      exact List.pairwise_singleton ..
  | false =>
      cases (Visit.reached (start.descend names)).kind tree with
      | other noScript =>
          rw [placedAt_of_not_isScript isClosed noScript]
          exact List.Pairwise.nil
      | unreadable isFile classified failure =>
          rw [placedAt_of_read_error isClosed isFile classified failure]
          exact List.pairwise_singleton ..
      | @scanned path language octets isFile classified readable =>
          rw [placedAt_of_read_ok isClosed isFile classified readable, List.pairwise_map]
          refine (rankedHits_pairwise (rules.rulesFor_pairwise language) _).imp ?_
          rintro first second ⟨inOrder, notBehind⟩
          refine ⟨.inr ⟨rfl, inOrder⟩, fun isHigh => ?_⟩
          change second.2.rule.tier.severity = .high at isHigh
          change first.2.rule.tier.severity = .high
          rw [Tier.severity_eq_high_iff] at isHigh ⊢
          exact notBehind isHigh

end

/-! ## Findings of a scan -/

/-- Everything that a scan finds, with the positions. -/
def placed (tree : FileTree) (rules : RuleSet) (root start : Path) :
    List (Position × Finding) :=
  match tree.status start with
  | .error error =>
      [(⟨[], 0, 0⟩,
        .unreadable (Path.relativeTo root start).display (walkErrorText start error))]
  | .ok _ => (tree.walkedEntries start).flatMap (placedAt tree rules root start)

theorem placed_map_snd (tree : FileTree) (rules : RuleSet) (root start : Path) :
    (placed tree rules root start).map Prod.snd =
      (directory tree rules root start).findings := by
  rw [directory_eq_visits, visits_findings]
  cases status : tree.status start with
  | error error =>
      rw [placed, status, FileTree.walk_eq, status]
      rfl
  | ok base =>
      rw [placed, status, FileTree.walk_eq_visitsTo status, List.map_flatMap,
        List.flatMap_assoc]
      refine List.flatMap_congr fun entry member => ?_
      exact placedAt_map_snd (FileTree.mem_walkedEntries_iff.mp member)

/-- A scan finds what arises, and nothing else. -/
theorem mem_placed_iff
    {position : Position}
    {finding : Finding} :
    (position, finding) ∈ placed tree rules root start ↔
      Arises tree rules root start position finding := by
  cases status : tree.status start with
  | error error =>
      rw [placed, status, List.mem_singleton]
      constructor
      · intro same
        obtain ⟨rfl, rfl⟩ := Prod.mk.inj same
        exact .missing status
      · intro arises
        have nothing : ∀ names node, ¬ tree.Walked start names node := by
          intro names node walked
          obtain ⟨base, begins⟩ := walked.exists_status
          rw [status] at begins
          cases begins
        cases arises with
        | missing failure =>
            rw [status] at failure
            rw [Except.error.inj failure]
        | closed walked => exact absurd walked (nothing _ _)
        | unreadable walked => exact absurd walked (nothing _ _)
        | matched walked => exact absurd walked (nothing _ _)
  | ok base =>
      rw [placed, status, List.mem_flatMap]
      constructor
      · rintro ⟨entry, member, isPlaced⟩
        exact ((mem_placedAt_iff (FileTree.mem_walkedEntries_iff.mp member)).mp
          isPlaced).2
      · intro arises
        have exists_walked : ∃ node, tree.Walked start position.names node := by
          cases arises with
          | missing failure =>
              rw [status] at failure
              cases failure
          | closed walked => exact ⟨_, walked⟩
          | unreadable walked => exact ⟨_, walked⟩
          | matched walked => exact ⟨_, walked⟩
        obtain ⟨node, walked⟩ := exists_walked
        exact ⟨(position.names, node), FileTree.mem_walkedEntries_iff.mpr walked,
          (mem_placedAt_iff walked).mpr ⟨rfl, arises⟩⟩

/-- Findings stand in the order of their positions, and those of high severity come
first at their entry. -/
theorem placed_pairwise (tree : FileTree) (rules : RuleSet) (root start : Path) :
    (placed tree rules root start).Pairwise fun first second =>
      first.1.Precedes second.1 ∧
        (first.1.names = second.1.names →
          second.2.severity = .high → first.2.severity = .high) := by
  cases status : tree.status start with
  | error error =>
      rw [placed, status]
      exact List.pairwise_singleton ..
  | ok base =>
      rw [placed, status, List.pairwise_flatMap]
      constructor
      · rintro ⟨names, node⟩ _
        refine (placedAt_pairwise tree rules root start names node).imp ?_
        rintro first second ⟨precedes, highFirst⟩
        exact ⟨precedes, fun _ => highFirst⟩
      · refine (tree.walkedEntries_pairwise start).imp_of_mem ?_
        rintro entry later member laterMember inOrder first atEntry second atLater
        obtain ⟨names, _⟩ :=
          (mem_placedAt_iff (FileTree.mem_walkedEntries_iff.mp member)).mp atEntry
        obtain ⟨laterNames, _⟩ :=
          (mem_placedAt_iff (FileTree.mem_walkedEntries_iff.mp laterMember)).mp atLater
        have precedes : first.1.names < second.1.names := by
          rw [names, laterNames]
          exact inOrder
        refine ⟨.inl precedes, fun same => ?_⟩
        rw [same] at precedes
        exact absurd precedes (List.lt_irrefl _)

/-- A scan does not depend on the order in which the nodes of a tree were created. -/
theorem directory_eq_of_sameNodes
    (same : tree.SameNodes other)
    (rules : RuleSet)
    (root start : Path) :
    directory other rules root start = directory tree rules root start := by
  have sameVisit : visit other rules root = visit tree rules root := by
    funext visited
    cases visited with
    | failed path error => rfl
    | reached path =>
        have sameFile : other.isFile path = tree.isFile path := by
          rw [FileTree.isFile, FileTree.isFile, same.status_eq]
        have sameContent : other.read path = tree.read path := by
          rw [FileTree.read, FileTree.read, same.status_eq]
        rw [visit, visit, sameFile, sameContent]
  rw [directory, directory, same.walk_eq, sameVisit]

/-- A scan has one order. Its walk comes to entries in the order of the names that lead
to them, with what stands below an entry right behind it. Its findings are those that
arise, in the order of entries, applied rules and lines. The order in which the tree was
created does not matter. -/
theorem directory_in_canonical_order
    (tree : FileTree)
    (rules : RuleSet)
    (root start : Path) :
    let harvest := directory tree rules root start
    let report := Report.aggregate root harvest.filesScanned harvest.findings
    (∃ entries : List (List Octets × Node),
      entries.Pairwise (fun first second => first.1 < second.1) ∧
      (∀ names node, (names, node) ∈ entries ↔ tree.Walked start names node) ∧
      (tree.walk start).filter Visit.isReached =
        entries.map (fun entry => .reached (start.descend entry.1)) ∧
      ∀ names node, (names, node) ∈ entries →
        ∃ before inside behind, entries = before ++ (names, node) :: inside ++ behind ∧
          (∀ entry ∈ inside, names <+: entry.1) ∧
          ∀ entry ∈ before ++ behind, ¬ names <+: entry.1) ∧
    (∃ placed : List (Position × Finding),
      harvest.findings = placed.map Prod.snd ∧
      report.findings = harvest.findings ∧
      (∀ position finding, (position, finding) ∈ placed ↔
        Arises tree rules root start position finding) ∧
      placed.Pairwise (fun first second => first.1.Precedes second.1) ∧
      placed.Pairwise fun first second => first.1.names = second.1.names →
        second.2.severity = .high → first.2.severity = .high) ∧
    ∀ other : FileTree, other.nodes.Perm tree.nodes → other.working = tree.working →
      directory other rules root start = harvest := by
  intro harvest report
  have inOrder := placed_pairwise tree rules root start
  refine ⟨⟨tree.walkedEntries start, tree.walkedEntries_pairwise start,
      fun _ _ => FileTree.mem_walkedEntries_iff, tree.filter_isReached_walk start,
      fun _ _ member => (FileTree.mem_walkedEntries_iff.mp member).exists_block⟩,
    ⟨placed tree rules root start, (placed_map_snd tree rules root start).symm, rfl,
      fun _ _ => mem_placed_iff, inOrder.imp And.left, inOrder.imp And.right⟩, ?_⟩
  exact fun other perm sameWorking =>
    directory_eq_of_sameNodes ⟨perm, sameWorking⟩ rules root start

end Scan
end ScriptAudit
