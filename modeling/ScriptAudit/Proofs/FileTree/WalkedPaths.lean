import ScriptAudit.Proofs.FileTree.Walk

/-!
# Where the paths of a walk lead

The path of an entry that a walk comes to leads to the start first, then along the
way of the walk to the directory around the entry, and only its last name can be
that of a link. What such a path passes through is therefore known from the start,
from the location of the entry, and from where the entry leads if it is a link.
-/

namespace ScriptAudit

open Text (Octets)

namespace FileTree

/-- A location lies properly above another one. -/
def Encloses (outer inner : Location) : Prop :=
  outer <+: inner ∧ outer ≠ inner

theorem encloses_concat_iff
    {outer inner : Location}
    {name : Octets} :
    Encloses outer (inner ++ [name]) ↔ outer <+: inner := by
  constructor
  · rintro ⟨isPrefix, proper⟩
    exact (List.prefix_concat_iff.mp isPrefix).resolve_left proper
  · intro isPrefix
    refine ⟨isPrefix.trans (List.prefix_append inner [name]), fun same => ?_⟩
    have longer := isPrefix.length_le
    rw [same, List.length_append, List.length_singleton] at longer
    omega

/-- A path leads somewhere and passes through a location on its way. -/
def PassesThrough (tree : FileTree) (path : Path) (location : Location) : Prop :=
  ∃ origin passed found, tree.origin? path = some origin ∧
    tree.Leads linkLimit origin (steps path) passed found ∧ location ∈ passed

/-- A link, looked up in the directory in which it stands, leads to a location or
through it. -/
def LinkReaches (tree : FileTree) (link : Node) (location : Location) : Prop :=
  (∃ target, link.entry = .link target) ∧
    ∃ around name passed found, tree.get? around.location = some around ∧
      link.location = around.location ++ [name] ∧
      tree.Leads linkLimit around [name] passed found ∧
      (location ∈ passed ∨ found.location = location)

variable {tree : FileTree} {start : Path}

theorem not_passesThrough_of_leads
    {path : Path}
    {location : Location}
    {origin found : Node}
    {passed : List Location}
    (starts : tree.origin? path = some origin)
    (leads : tree.Leads linkLimit origin (steps path) passed found)
    (avoids : location ∉ passed) :
    ¬ tree.PassesThrough path location := by
  rintro ⟨other, otherPassed, otherFound, otherStarts, otherLeads, member⟩
  obtain rfl := Option.some.inj (starts.symm.trans otherStarts)
  rw [(leads.unique otherLeads).1] at member
  exact avoids member

/-- Only directories are passed through. -/
theorem Run.exists_directory_of_mem
    {first last : Lookup}
    {passed : List Location}
    {location : Location}
    (run : Run tree first passed last)
    (present : tree.get? first.node.location = some first.node)
    (member : location ∈ passed) :
    ∃ directory, tree.get? location = some directory ∧ directory.isDirectory := by
  induction run with
  | rest lookup => cases member
  | @move first next last passed step run inductionHypothesis =>
      rcases List.mem_cons.mp member with rfl | later
      · refine ⟨first.node, present, ?_⟩
        cases step <;> assumption
      · exact inductionHypothesis (step.get?_location present) later

/-- No path passes through a file. -/
theorem not_passesThrough_file
    {path : Path}
    {node : Node}
    {content : Octets}
    (present : tree.get? node.location = some node)
    (isFile : node.entry = .file content) :
    ¬ tree.PassesThrough path node.location := by
  rintro ⟨origin, passed, found, starts, ⟨left, run⟩, member⟩
  obtain ⟨directory, directoryFound, isDirectory⟩ :=
    run.exists_directory_of_mem (origin?_get?_location starts) member
  rw [present] at directoryFound
  rw [← Option.some.inj directoryFound, isDirectory_iff, isFile] at isDirectory
  cases isDirectory

/-! ## The way to an entry -/

/-- A name under which something stands in a directory leads to it, if this is no
link. -/
theorem step_of_child
    {directory node : Node}
    {name : Octets}
    (isDirectory : directory.isDirectory)
    (unlocked : directory.locked = false)
    (isChild : tree.get? (directory.location ++ [name]) = some node)
    (noLink : ∀ target, node.entry ≠ .link target)
    (links : Nat)
    (rest : List Octets) :
    Step tree ⟨links, directory, name :: rest⟩ ⟨links, node, rest⟩ := by
  have isName : Path.IsName name := (exists_parent isChild).1
  exact .enter isDirectory unlocked ⟨isName.ne_nil, isName.ne_dot,
    isName.ne_dotDot⟩ isChild noLink

theorem Run.links_le
    {first last : Lookup}
    {passed : List Location}
    (run : Run tree first passed last) :
    last.links ≤ first.links := by
  induction run with
  | rest lookup => exact Nat.le_refl lookup.links
  | move step run inductionHypothesis => cases step <;> simp only at * <;> omega

/-- A slash at the end of a path does not change where it leads. -/
theorem Leads.namesOf
    {links : Nat}
    {origin found : Node}
    {path : Path}
    {passed : List Location}
    (leads : tree.Leads links origin (steps path) passed found) :
    ∃ early, early ⊆ passed ∧ tree.Leads links origin path.namesOf early found := by
  rw [steps_eq] at leads
  split at leads
  · obtain ⟨left, run⟩ := leads
    have split : Run tree ((⟨links, origin, path.namesOf⟩ : Lookup).append [[]]) passed
        ⟨left, found, []⟩ := run
    obtain ⟨middle, node, early, later, rfl, front, back⟩ := split.exists_of_append rfl
    cases back with
    | move step rest =>
        cases step with
        | idle directory =>
            cases rest with
            | rest => exact ⟨early, List.subset_append_left early _, left, front⟩
            | move step _ => exact absurd rfl step.names_ne_nil
        | enter _ _ lookedUp _ _ => exact absurd rfl lookedUp.1
        | follow _ _ lookedUp _ _ => exact absurd rfl lookedUp.1
  · rw [List.append_nil] at leads
    exact ⟨passed, List.Subset.refl passed, leads⟩

/-- The way of a walk to an entry that is no link leads through directories that
enclose it. -/
theorem Walked.exists_way
    {names : List Octets}
    {node base : Node}
    (walked : tree.Walked start names node)
    (begins : tree.status start = .ok base)
    (noLink : ∀ target, node.entry ≠ .link target)
    (left : Nat)
    (rest : List Octets) :
    ∃ way, (∀ location ∈ way, Encloses location node.location) ∧
      Run tree ⟨left, base, names ++ rest⟩ way ⟨left, node, rest⟩ := by
  induction walked generalizing rest with
  | start found =>
      obtain rfl := Except.ok.inj (begins.symm.trans found)
      exact ⟨[], by simp, .rest _⟩
  | @child names directory name node walked isDirectory unlocked found
      inductionHypothesis =>
      have isEntry : ∀ target, directory.entry ≠ .link target := by
        simp [isDirectory_iff.mp isDirectory]
      obtain ⟨way, encloses, run⟩ := inductionHypothesis isEntry (name :: rest)
      have step := step_of_child isDirectory unlocked found noLink left rest
      refine ⟨way ++ [directory.location], ?_, ?_⟩
      · rw [location_of_get? found]
        intro location member
        rw [encloses_concat_iff]
        rcases List.mem_append.mp member with earlier | last
        · exact (encloses location earlier).1
        · obtain rfl := List.mem_singleton.mp last
          exact List.prefix_rfl
      · rw [List.append_assoc, List.singleton_append]
        exact run.trans (.move step (.rest _))

/-- The path of an entry below a directory first leads to the directory. On the way
it passes through what the start of the walk passes through and what encloses the
directory. -/
theorem Walked.exists_run
    {names : List Octets}
    {name : Octets}
    {directory : Node}
    (walked : tree.Walked start names directory)
    (isDirectory : directory.isDirectory)
    (isName : Path.IsName name) :
    let path := start.descend (names ++ [name])
    ∃ origin way left, tree.origin? path = some origin ∧ left ≤ linkLimit ∧
      Run tree ⟨linkLimit, origin, steps path⟩ way ⟨left, directory, [name]⟩ ∧
      ∀ location ∈ way, tree.PassesThrough start location ∨
        Encloses location directory.location := by
  intro path
  obtain ⟨base, begins⟩ := walked.exists_status
  obtain ⟨nonempty, origin, passed, starts, leads⟩ := status_eq_ok_iff.mp begins
  obtain ⟨early, isPart, left, run⟩ := leads.namesOf
  have noLink : ∀ target, directory.entry ≠ .link target := by
    simp [isDirectory_iff.mp isDirectory]
  obtain ⟨way, encloses, along⟩ := walked.exists_way begins noLink left [name]
  have areNames : ∀ other ∈ names ++ [name], Path.IsName other := by
    intro other member
    rcases List.mem_append.mp member with earlier | last
    · exact walked.isName_of_mem earlier
    · rwa [List.mem_singleton.mp last]
  refine ⟨origin, early ++ way, left, ?_, run.links_le, ?_, ?_⟩
  · rw [origin?, Path.isAbsolute_descend nonempty areNames]
    exact starts
  · rw [steps_descend (by simp) areNames]
    exact (run.append (names ++ [name])).trans along
  · intro location member
    rcases List.mem_append.mp member with atStart | later
    · exact .inl ⟨origin, passed, base, starts, leads, isPart atStart⟩
    · exact .inr (encloses location later)

/-- A walk that comes to anything below its start begins at a directory. -/
theorem Walked.isDirectory_start
    {names : List Octets}
    {node base : Node}
    (walked : tree.Walked start names node)
    (begins : tree.status start = .ok base)
    (nonempty : names ≠ []) :
    base.isDirectory = true := by
  have found := walked.get?_location
  rw [walked.location_eq begins] at found
  obtain ⟨ancestor, ancestorFound, isDirectory⟩ := exists_ancestor found nonempty
  rw [status_get?_location begins] at ancestorFound
  rwa [Option.some.inj ancestorFound]

/-! ## The end of the way -/

/-- The last name leads to the entry itself, or to where it leads as a link. -/
theorem exists_of_last_run
    {directory node found : Node}
    {name : Octets}
    {links left : Nat}
    {passed : List Location}
    (present : tree.get? directory.location = some directory)
    (isDirectory : directory.isDirectory)
    (unlocked : directory.locked = false)
    (isChild : tree.get? (directory.location ++ [name]) = some node)
    (limited : links ≤ linkLimit)
    (run : Run tree ⟨links, directory, [name]⟩ passed ⟨left, found, []⟩) :
    (∀ location ∈ passed,
      location = directory.location ∨ tree.LinkReaches node location) ∧
      (found = node ∨ tree.LinkReaches node found.location) := by
  by_cases isLink : ∃ target, node.entry = .link target
  · have resolved : tree.Leads linkLimit directory [name] passed found := by
      refine ⟨left + (linkLimit - links), ?_⟩
      have more := run.addLinks (linkLimit - links)
      simp only [Lookup.addLinks, Nat.add_sub_cancel' limited] at more
      exact more
    have reaches : ∀ location, location ∈ passed ∨ found.location = location →
        tree.LinkReaches node location := fun location goes =>
      ⟨isLink, directory, name, passed, found, present,
        location_of_get? isChild, resolved, goes⟩
    exact ⟨fun location member => .inr (reaches location (.inl member)),
      .inr (reaches _ (.inr rfl))⟩
  · have step := step_of_child isDirectory unlocked isChild
      (fun target entry => isLink ⟨target, entry⟩) links []
    obtain ⟨rfl, same⟩ := (Run.move step (.rest _)).eq_of_done rfl run rfl
    have sameNode : found = node := congrArg Lookup.node same
    exact ⟨fun location member => .inl (List.mem_singleton.mp member), .inl sameNode⟩

/-- The path of an entry passes through what its start passes through, through what
encloses the entry and through what the entry reaches as a link. It leads to the
entry or to where the entry leads as a link. -/
theorem Walked.leads_cases
    {names : List Octets}
    {node origin found : Node}
    {passed : List Location}
    (walked : tree.Walked start names node)
    (starts : tree.origin? (start.descend names) = some origin)
    (leads : tree.Leads linkLimit origin (steps (start.descend names)) passed found) :
    (∀ location ∈ passed, tree.PassesThrough start location ∨
        Encloses location node.location ∨ tree.LinkReaches node location) ∧
      (found = node ∨ tree.LinkReaches node found.location) := by
  cases walked with
  | start isStart =>
      refine ⟨fun location member => .inl ⟨origin, passed, found,
        starts, leads, member⟩, ?_⟩
      obtain ⟨nonempty, _⟩ := status_eq_ok_iff.mp isStart
      have reached := status_eq_ok_iff.mpr ⟨nonempty, origin, passed, starts, leads⟩
      exact .inl (Except.ok.inj (reached.symm.trans isStart))
  | @child names directory name _ walked isDirectory unlocked isChild =>
      obtain ⟨other, way, links, otherStarts, limited, run, known⟩ :=
        walked.exists_run isDirectory (exists_parent isChild).1
      obtain rfl := Option.some.inj (starts.symm.trans otherStarts)
      obtain ⟨left, whole⟩ := leads
      obtain ⟨later, rfl, laterRun⟩ := run.continues whole rfl
      obtain ⟨ofPassed, ofFound⟩ := exists_of_last_run walked.get?_location isDirectory
        unlocked isChild limited laterRun
      refine ⟨fun location member => ?_, ofFound⟩
      rw [location_of_get? isChild, encloses_concat_iff]
      rcases List.mem_append.mp member with earlier | last
      · exact (known location earlier).imp_right fun encloses => .inl encloses.1
      · rcases ofPassed location last with rfl | reaches
        · exact .inr (.inl List.prefix_rfl)
        · exact .inr (.inr reaches)

/-- The path of an entry that is no link leads to the entry. -/
theorem Walked.status_eq
    {names : List Octets}
    {node : Node}
    (walked : tree.Walked start names node)
    (noLink : ∀ target, node.entry ≠ .link target) :
    tree.status (start.descend names) = .ok node := by
  cases walked with
  | start found => exact found
  | @child names directory name _ walked isDirectory unlocked isChild =>
      have isName : Path.IsName name := (exists_parent isChild).1
      obtain ⟨origin, way, links, starts, _, run, _⟩ :=
        walked.exists_run isDirectory isName
      have step := step_of_child isDirectory unlocked isChild noLink links []
      refine status_eq_ok_iff.mpr ⟨?_, origin, _, starts, links,
        run.trans (.move step (.rest _))⟩
      rw [Path.descend_append]
      exact Path.join_ne_nil isName _

end FileTree
end ScriptAudit
