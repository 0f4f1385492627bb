import ScriptAudit.Proofs.FileTree.Growth

/-!
# Writing a file

A file can be written where a path leads to a file that is not locked, or to nothing in
a directory that can be looked into. What is written can be read back along the same
path, and nothing else in the tree changes.
-/

namespace ScriptAudit

open Text (Octets)

namespace FileTree

variable {tree written : FileTree} {path : Path} {node : Node} {location : Location}
  {content : Octets}

/-! ## Where a file can be written -/

/-- A path leads to a file that is not locked, or to nothing in a directory that can be
looked into. -/
def IsWritable (tree : FileTree) (path : Path) : Prop :=
  (∃ node old,
    tree.status path = .ok node ∧ node.entry = .file old ∧ node.locked = false) ∨
    ∃ location, tree.place .followed path = .ok (.absent location)

/-- The place to write at is the one that is there, but a directory that is asked for
with a slash is refused. -/
theorem place_created (tree : FileTree) (path : Path) :
    tree.place .created path = tree.place .followed path ∨
      tree.place .created path = .error .isDirectory ∧
        ∀ place, tree.place .followed path = .ok place →
          ∃ directory, place = .present directory ∧ directory.isDirectory = true := by
  unfold place
  split
  · exact .inl rfl
  · unfold follow
    cases tree.origin? path with
    | none => exact .inl rfl
    | some origin =>
        rcases locate_ending .created linkLimit origin (steps path) with
          same | ⟨impossible, _⟩ | ⟨_, refused⟩
        · exact .inl same
        · cases impossible
        · exact .inr refused

/-! ## Names on the way -/

/-- Every name through which a path leads lies between its slashes. -/
theorem slash_notMem_of_mem_steps
    {name : Octets}
    (member : name ∈ steps path) :
    Path.slash ∉ name := by
  rcases List.mem_append.mp member with between | behind
  · obtain ⟨index, found⟩ := List.mem_iff_getElem?.mp (List.mem_of_mem_filter between)
    obtain ⟨_, _, isPiece, -⟩ := Text.exists_isPiece found
    intro contained
    simpa using isPiece.whole Path.slash contained
  · split at behind
    · rw [List.mem_singleton.mp behind]
      exact List.not_mem_nil
    · cases behind

theorem Step.slash_notMem
    {first next : Lookup}
    (step : Step tree first next)
    (names : ∀ name ∈ first.names, Path.slash ∉ name) :
    ∀ name ∈ next.names, Path.slash ∉ name := by
  cases step with
  | follow =>
      intro name member
      rcases List.mem_append.mp member with ofTarget | later
      · exact slash_notMem_of_mem_steps ofTarget
      · exact names name (List.mem_cons_of_mem _ later)
  | _ => exact fun name member => names name (List.mem_cons_of_mem _ member)

theorem Run.slash_notMem
    {first last : Lookup}
    {passed : List Location}
    (run : Run tree first passed last)
    (names : ∀ name ∈ first.names, Path.slash ∉ name) :
    ∀ name ∈ last.names, Path.slash ∉ name := by
  induction run with
  | rest lookup => exact names
  | move step run inductionHypothesis =>
      exact inductionHypothesis (step.slash_notMem names)

/-- A path that is not empty leads through a name or asks for a directory. -/
theorem steps_ne_nil (nonempty : path ≠ []) : steps path ≠ [] := by
  intro none
  obtain ⟨noNames, noSlash⟩ := List.append_eq_nil_iff.mp none
  obtain ⟨front, last, rfl⟩ := (List.eq_nil_or_concat path).resolve_left nonempty
  have noMark : (last == Path.slash) = false := by
    by_contra isSlash
    simp_all
  obtain ⟨piece, listed, member⟩ : ∃ piece ∈
      Path.segments (front.concat last), last ∈ piece :=
    Text.exists_piece_of_mem (by simp) noMark
  have kept : piece ∈ (Path.segments (front.concat last)).filter (· ≠ []) :=
    List.mem_filter.mpr ⟨listed, by simpa using List.ne_nil_of_mem member⟩
  rw [noNames] at kept
  cases kept

/-- A step never ends at a link. -/
theorem Step.not_isLink
    {first next : Lookup}
    (step : Step tree first next)
    (present : tree.get? first.node.location = some first.node)
    (target : Path) :
    next.node.entry ≠ .link target := by
  have ofDirectory : ∀ {node : Node}, node.isDirectory = true →
      node.entry ≠ .link target := by
    intro node isDirectory
    rw [isDirectory_iff.mp isDirectory]
    exact fun impossible => Entry.noConfusion impossible
  cases step with
  | idle directory => exact ofDirectory directory
  | stay directory _ => exact ofDirectory directory
  | @climb links node parent rest directory unlocked found =>
      rcases List.eq_nil_or_concat node.location with atTop | ⟨outer, name, below⟩
      · rw [atTop] at found
        cases found
        exact ofDirectory rfl
      · rw [below, List.concat_eq_append, List.dropLast_concat] at found
        rw [below, List.concat_eq_append] at present
        obtain ⟨_, around, aroundFound, isDirectory⟩ := exists_parent present
        rw [found] at aroundFound
        cases aroundFound
        exact ofDirectory isDirectory
  | enter _ _ _ _ noLink => exact noLink target
  | follow directory =>
      unfold linkOrigin
      split
      · exact ofDirectory rfl
      · exact ofDirectory directory

theorem Run.not_isLink
    {first last : Lookup}
    {passed : List Location}
    (run : Run tree first passed last)
    (present : tree.get? first.node.location = some first.node)
    (noLink : ∀ target, first.node.entry ≠ .link target) :
    ∀ target, last.node.entry ≠ .link target := by
  induction run with
  | rest lookup => exact noLink
  | move step run inductionHypothesis =>
      exact inductionHypothesis (step.get?_location present) (step.not_isLink present)

/-- No link is what a path leads to. -/
theorem not_isLink_of_status
    (found : tree.status path = .ok node)
    (target : Path) :
    node.entry ≠ .link target := by
  obtain ⟨nonempty, origin, passed, starts, left, run⟩ := status_eq_ok_iff.mp found
  have present := origin?_get?_location starts
  generalize ends : (⟨left, node, []⟩ : Lookup) = last at run
  cases run with
  | rest => exact absurd (congrArg Lookup.names ends).symm (steps_ne_nil nonempty)
  | move step run =>
      have noLink :=
        run.not_isLink (step.get?_location present) (step.not_isLink present) target
      rwa [← ends] at noLink

/-! ## What is put -/

theorem get?_put_of_ne
    {other : Location}
    (elsewhere : other ≠ location)
    (entry : Entry) :
    (tree.put location entry).get? other = tree.get? other := by
  refine Option.ext fun node => ?_
  rw [get?_eq_some_iff, get?_eq_some_iff]
  refine or_congr_right (and_congr_left ?_)
  rintro rfl
  unfold put
  split
  · simp only [modify, List.mem_map]
    constructor
    · rintro ⟨old, present, changed⟩
      split at changed
      · rename_i here
        subst changed
        simp [elsewhere] at here
      · exact changed ▸ present
    · intro present
      exact ⟨node, present, by simp [elsewhere]⟩
  · split
    · simp only [add, List.mem_append, List.mem_singleton]
      refine or_iff_left fun added => elsewhere (congrArg Node.location added)
    · exact Iff.rfl

theorem put_working (entry : Entry) :
    (tree.put location entry).working = tree.working := by
  unfold put
  split
  · rfl
  · split <;> rfl

theorem get?_put_of_file
    {old : Octets}
    (found : tree.get? location = some node)
    (isFile : node.entry = .file old) :
    (tree.put location (.file content)).get? location =
      some { node with entry := .file content } := by
  have proper : location ≠ [] := by
    rintro rfl
    cases found
    cases isFile
  have present := mem_of_get? found proper
  have located := location_of_get? found
  have taken : location ∈ tree.nodes.map Node.location :=
    located ▸ List.mem_map_of_mem present
  refine get?_eq_some_iff.mpr (.inr ⟨?_, located⟩)
  rw [put, dif_pos taken]
  refine List.mem_map.mpr ⟨node, present, if_pos ?_⟩
  simp [located, Node.isDirectory, isFile]

/-- An entry that is put where there is room for it and nothing stands is added. -/
theorem put_of_vacant
    (vacant : tree.get? location = none)
    (room : HasRoom tree.nodes location)
    (entry : Entry) :
    tree.IsPartOf (tree.put location entry) ∧
      (tree.put location entry).get? location = some ⟨location, entry, false⟩ := by
  have notTaken : location ∉ tree.nodes.map Node.location := by
    intro taken
    obtain ⟨node, present, rfl⟩ := List.mem_map.mp taken
    rw [get?_location present] at vacant
    cases vacant
  have put_eq : tree.put location entry = tree.add location entry notTaken room := by
    rw [put, dif_neg notTaken, dif_pos room]
  rw [put_eq]
  refine ⟨⟨List.subset_append_left _ _, rfl⟩, get?_eq_some_iff.mpr (.inr ⟨?_, rfl⟩)⟩
  exact List.mem_append_right _ (List.mem_singleton_self _)

/-! ## Writing -/

/-- A file is written in place of the one that is there, or where nothing is. -/
theorem write_eq_ok_iff :
    tree.write path content = .ok written ↔
      (∃ node old, tree.status path = .ok node ∧ node.entry = .file old ∧
        node.locked = false ∧ written = tree.put node.location (.file content)) ∨
      ∃ location, tree.place .followed path = .ok (.absent location) ∧
        written = tree.put location (.file content) := by
  rcases place_created tree path with same | ⟨refused, directories⟩
  · cases placed : tree.place .followed path with
    | error error => simp [write, same, status, nodeAt, placed]
    | ok place =>
        cases place with
        | absent location =>
            have unfolded : tree.write path content =
                .ok (tree.put location (.file content)) := by
              simp only [write, same, placed]
            have nowhere : ∀ node, tree.status path ≠ .ok node := by
              simp [status, nodeAt, placed]
            rw [unfolded]
            constructor
            · rintro ⟨⟩
              exact .inr ⟨location, rfl, rfl⟩
            · rintro (⟨node, _, found, -⟩ | ⟨_, ⟨⟩, rfl⟩)
              · exact absurd found (nowhere node)
              · rfl
        | present node =>
            have found : tree.status path = .ok node := nodeAt_eq_ok_iff.mpr placed
            cases entry : node.entry with
            | directory => simp [write, same, found, placed, entry, Node.isDirectory]
            | link target => exact absurd entry (not_isLink_of_status found target)
            | file old =>
                cases locked : node.locked with
                | true =>
                    simp [write, same, found, placed, entry, locked, Node.isDirectory]
                | false =>
                    have unfolded : tree.write path content =
                        .ok (tree.put node.location (.file content)) := by
                      simp [write, same, placed, entry, locked, Node.isDirectory]
                    rw [unfolded]
                    constructor
                    · rintro ⟨⟩
                      exact .inl ⟨node, old, found, entry, locked, rfl⟩
                    · rintro (⟨_, _, again, -, -, rfl⟩ | ⟨_, ⟨⟩, -⟩)
                      rw [found] at again
                      cases again
                      rfl
  · have notWritten : ∀ written, tree.write path content ≠ .ok written := by
      simp [write, refused]
    refine iff_of_false (notWritten written) ?_
    rintro (⟨node, old, found, isFile, -, -⟩ | ⟨location, absent, -⟩)
    · obtain ⟨directory, ⟨⟩, isDirectory⟩ := directories _ (nodeAt_eq_ok_iff.mp found)
      rw [isDirectory_iff, isFile] at isDirectory
      cases isDirectory
    · obtain ⟨directory, ⟨⟩, -⟩ := directories _ absent

/-- Whether a file can be written does not depend on what is written. -/
theorem write_isOk_iff :
    (∃ written, tree.write path content = .ok written) ↔ tree.IsWritable path := by
  simp only [write_eq_ok_iff, IsWritable]
  constructor
  · rintro ⟨_, ⟨node, old, found, isFile, unlocked, -⟩ | ⟨location, absent, -⟩⟩
    · exact .inl ⟨node, old, found, isFile, unlocked⟩
    · exact .inr ⟨location, absent⟩
  · rintro (⟨node, old, found, isFile, unlocked⟩ | ⟨location, absent⟩)
    · exact ⟨_, .inl ⟨node, old, found, isFile, unlocked, rfl⟩⟩
    · exact ⟨_, .inr ⟨location, absent, rfl⟩⟩

/-- Look-ups go the same way when the content of a file changes. -/
theorem put_mirrors
    {old : Octets}
    (found : tree.get? location = some node)
    (isFile : node.entry = .file old) :
    Mirrors tree (tree.put location (.file content)) fun before image =>
      image = if before = node then { node with entry := .file content } else before where
  found := by
    intro other before there
    by_cases here : other = location
    · subst here
      rw [found] at there
      cases there
      exact ⟨_, get?_put_of_file found isFile, (if_pos rfl).symm⟩
    · have different : before ≠ node := by
        rintro rfl
        exact here ((location_of_get? there).symm.trans (location_of_get? found))
      exact ⟨before, (get?_put_of_ne here _).trans there, (if_neg different).symm⟩
  location_eq := by
    rintro before _ rfl
    split
    · simp_all
    · rfl
  outline_eq := by
    rintro before _ rfl
    split
    · simp_all [Entry.outline]
    · rfl

/-- A path still leads to a file whose content changes. -/
theorem status_put_of_file
    {old : Octets}
    (found : tree.status path = .ok node)
    (isFile : node.entry = .file old) :
    (tree.put node.location (.file content)).status path =
      .ok { node with entry := .file content } := by
  have mirrors : Mirrors tree (tree.put node.location (.file content)) _ :=
    put_mirrors (status_get?_location found) isFile
  obtain ⟨image, imageFound, images⟩ := mirrors.exists_status (put_working _)
    (by
      rintro before _ rfl unlocked
      split
      · simp_all
      · exact unlocked)
    found
  rw [imageFound, images, if_pos rfl]

theorem exists_run_of_place
    {place : Place}
    (placed : tree.place .followed path = .ok place) :
    path ≠ [] ∧ ∃ origin, tree.origin? path = some origin ∧ ∃ passed last,
      Run tree ⟨linkLimit, origin, steps path⟩ passed last ∧ Arrives tree last place := by
  unfold FileTree.place at placed
  split at placed
  · cases placed
  · rename_i nonempty
    refine ⟨nonempty, ?_⟩
    unfold follow at placed
    cases starts : tree.origin? path with
    | none =>
        rw [starts] at placed
        cases placed
    | some origin =>
        rw [starts] at placed
        exact ⟨origin, rfl, exists_run_of_locate placed⟩

theorem holdsDirectory_of_get?
    (present : tree.get? location = some node)
    (directory : node.isDirectory = true) :
    HoldsDirectory tree.nodes location := by
  rcases get?_eq_some_iff.mp present with ⟨atTop, -⟩ | ⟨listed, located⟩
  · exact .inl atTop
  · exact .inr ⟨node, listed, located, directory⟩

/-- A path leads to a file that is put where nothing was. -/
theorem status_put_of_absent
    (absent : tree.place .followed path = .ok (.absent location)) :
    (tree.put location (.file content)).status path =
      .ok ⟨location, .file content, false⟩ := by
  obtain ⟨nonempty, origin, starts, passed, last, run, arrives⟩ :=
    exists_run_of_place absent
  have names : ∀ name ∈ last.names, Path.slash ∉ name :=
    run.slash_notMem fun name => slash_notMem_of_mem_steps
  have present := run.get?_location (origin?_get?_location starts)
  cases arrives with
  | @absent left around name directory unlocked lookedUp vacant =>
      have isName : Path.IsName name :=
        ⟨lookedUp.1, lookedUp.2.1, lookedUp.2.2,
          names name (List.mem_singleton_self name)⟩
      have room : HasRoom tree.nodes (around.location ++ [name]) :=
        hasRoom_of_holds (holdsDirectory_of_get? present directory) isName
      obtain ⟨isPart, added⟩ := put_of_vacant vacant room (.file content)
      obtain ⟨_, rfl, sameRun⟩ := run.transfer isPart.mirrors rfl
        (by rintro other _ rfl _ unlocked; exact unlocked)
      have enters : Step (tree.put (around.location ++ [name]) (.file content))
          ⟨left, around, [name]⟩ ⟨left, ⟨_, .file content, false⟩, []⟩ :=
        .enter directory unlocked lookedUp added fun target isLink => by cases isLink
      exact status_eq_ok_iff.mpr ⟨nonempty, origin, _, isPart.origin?_eq starts, left,
        sameRun.trans (.move enters (.rest _))⟩

/-- What is written can be read back. -/
theorem read_of_write
    (success : tree.write path content = .ok written) :
    written.read path = .ok content := by
  rcases write_eq_ok_iff.mp success with ⟨node, old, found, isFile, unlocked, rfl⟩ |
    ⟨location, absent, rfl⟩
  · rw [read_of_status (status_put_of_file found isFile), contentOf, unlocked]
    rfl
  · rw [read_of_status (status_put_of_absent absent)]
    rfl

/-- Only one location changes when a file is written. -/
theorem exists_location_of_write
    (success : tree.write path content = .ok written) :
    written.working = tree.working ∧
      ∃ location, ∀ other, other ≠ location → written.get? other = tree.get? other := by
  rcases write_eq_ok_iff.mp success with ⟨node, _, _, _, _, rfl⟩ | ⟨location, _, rfl⟩
  · exact ⟨put_working _, node.location,
      fun other elsewhere => get?_put_of_ne elsewhere _⟩
  · exact ⟨put_working _, location, fun other elsewhere => get?_put_of_ne elsewhere _⟩

end FileTree
end ScriptAudit
