import ScriptAudit.Proofs.FileTree.Nodes

/-!
# Look-ups as runs

A look-up stands at a node and has names left to follow. One step takes it to the
directory around, to an entry below or to where a link leads, and a run of steps
leads somewhere when no name is left. `locate` finds a node exactly when such a run
leads to it, so that facts about look-ups are proved for one step and carried over
to runs.
-/

namespace ScriptAudit

open Text (Octets)

/-- A look-up on its way. -/
structure Lookup where
  /-- The number of links that may still be followed. -/
  links : Nat
  /-- The node at which it stands. -/
  node : Node
  /-- The names that are left to follow. -/
  names : List Octets

namespace Lookup

/-- A look-up with more names to follow behind its own. -/
def append (lookup : Lookup) (more : List Octets) : Lookup :=
  { lookup with names := lookup.names ++ more }

/-- A look-up that may follow more links. -/
def addLinks (lookup : Lookup) (more : Nat) : Lookup :=
  { lookup with links := lookup.links + more }

/-- A look-up stands at a locked directory and has a name left to follow. A slash too
many is not a name. -/
def IsDenied (lookup : Lookup) : Prop :=
  lookup.node.isDirectory = true ∧ lookup.node.locked = true ∧
    ∃ name rest, lookup.names = name :: rest ∧ name ≠ []

end Lookup

/-- An entry without the content of a file. -/
def Entry.outline : Entry → Entry
  | .file _ => .file []
  | entry => entry

namespace FileTree

/-- Whether a name is looked up in a directory, unlike the empty one and the two
dots. -/
def IsLookedUp (name : Octets) : Prop :=
  name ≠ [] ∧ name ≠ Path.dot ∧ name ≠ Path.dotDot

instance (name : Octets) : Decidable (IsLookedUp name) :=
  inferInstanceAs (Decidable (_ ∧ _ ∧ _))

/-- The node from which the target of a link is followed. -/
def linkOrigin (around : Node) (target : Path) : Node :=
  if target.isAbsolute then top else around

/-- One step of a look-up that follows every link. -/
inductive Step (tree : FileTree) : Lookup → Lookup → Prop
  /-- A slash too many only asks for a directory. -/
  | idle {links node rest}
      (directory : node.isDirectory) :
      Step tree ⟨links, node, [] :: rest⟩ ⟨links, node, rest⟩
  | stay {links node rest}
      (directory : node.isDirectory)
      (unlocked : node.locked = false) :
      Step tree ⟨links, node, Path.dot :: rest⟩ ⟨links, node, rest⟩
  | climb {links node parent rest}
      (directory : node.isDirectory)
      (unlocked : node.locked = false)
      (found : tree.get? node.location.dropLast = some parent) :
      Step tree ⟨links, node, Path.dotDot :: rest⟩ ⟨links, parent, rest⟩
  | enter {links node name child rest}
      (directory : node.isDirectory)
      (unlocked : node.locked = false)
      (lookedUp : IsLookedUp name)
      (found : tree.get? (node.location ++ [name]) = some child)
      (noLink : ∀ target, child.entry ≠ .link target) :
      Step tree ⟨links, node, name :: rest⟩ ⟨links, child, rest⟩
  | follow {links node name link target rest}
      (directory : node.isDirectory)
      (unlocked : node.locked = false)
      (lookedUp : IsLookedUp name)
      (found : tree.get? (node.location ++ [name]) = some link)
      (isLink : link.entry = .link target) :
      Step tree ⟨links + 1, node, name :: rest⟩
        ⟨links, linkOrigin node target, steps target ++ rest⟩

/-- A run of a look-up with the locations that it passes through on its way to the
last one. -/
inductive Run (tree : FileTree) : Lookup → List Location → Lookup → Prop
  | rest (lookup : Lookup) : Run tree lookup [] lookup
  | move {first next last passed}
      (step : Step tree first next)
      (run : Run tree next passed last) :
      Run tree first (first.node.location :: passed) last

/-- A run that leads from a node along names to another node. -/
def Leads
    (tree : FileTree)
    (links : Nat)
    (node : Node)
    (names : List Octets)
    (passed : List Location)
    (found : Node) : Prop :=
  ∃ left, Run tree ⟨links, node, names⟩ passed ⟨left, found, []⟩

variable {tree : FileTree}

/-! ## Runs are what is located -/

/-- A step changes nothing about what a look-up finds. -/
theorem locate_step
    {first next : Lookup}
    (step : Step tree first next) :
    tree.locate .followed first.links first.node first.names =
      tree.locate .followed next.links next.node next.names := by
  cases step with
  | idle directory => simp [locate, directory]
  | stay directory unlocked => simp [locate, directory, unlocked, Path.dot]
  | climb directory unlocked found =>
      simp [locate, directory, unlocked, found, Path.dot, Path.dotDot]
  | enter directory unlocked lookedUp found noLink =>
      obtain ⟨nonempty, notDot, notDotDot⟩ := lookedUp
      rw [locate]
      simp only [directory, nonempty, unlocked, notDot, notDotDot, found, Bool.not_true,
        Bool.false_eq_true, if_false, reduceCtorEq, decide_false, Bool.false_and]
  | follow directory unlocked lookedUp found isLink =>
      obtain ⟨nonempty, notDot, notDotDot⟩ := lookedUp
      rw [locate]
      simp [directory, nonempty, unlocked, notDot, notDotDot, found, isLink, linkOrigin]

/-- What a look-up finds is found from wherever a run takes it. -/
theorem locate_run
    {first last : Lookup}
    {passed : List Location}
    (run : Run tree first passed last) :
    tree.locate .followed first.links first.node first.names =
      tree.locate .followed last.links last.node last.names := by
  induction run with
  | rest lookup => rfl
  | move step run inductionHypothesis => rw [locate_step step, inductionHypothesis]

/-- A run ends at what is located. -/
theorem locate_of_run
    {first last : Lookup}
    {passed : List Location}
    (run : Run tree first passed last)
    (done : last.names = []) :
    tree.locate .followed first.links first.node first.names =
      .ok (.present last.node) := by
  rw [locate_run run, done, locate]

/-- A look-up that can go no further, and the place at which it has arrived. -/
inductive Arrives (tree : FileTree) : Lookup → Place → Prop
  | present (links : Nat) (node : Node) : Arrives tree ⟨links, node, []⟩ (.present node)
  /-- Nothing stands at the last name. -/
  | absent {links node name}
      (directory : node.isDirectory)
      (unlocked : node.locked = false)
      (lookedUp : IsLookedUp name)
      (vacant : tree.get? (node.location ++ [name]) = none) :
      Arrives tree ⟨links, node, [name]⟩ (.absent (node.location ++ [name]))

/-- How a look-up ends that can go no further. -/
inductive Ends (tree : FileTree) : Lookup → Except OsError Place → Prop
  | arrived {lookup place}
      (arrives : Arrives tree lookup place) :
      Ends tree lookup (.ok place)
  | denied {lookup}
      (isDenied : lookup.IsDenied) :
      Ends tree lookup (.error .denied)
  | refused {lookup error}
      (otherReason : error ≠ .denied) :
      Ends tree lookup (.error error)

/-- Everything that is located, and every refusal, is the end of a run. -/
theorem exists_run_to_end
    (tree : FileTree)
    (links : Nat)
    (node : Node)
    (names : List Octets) :
    ∃ passed last, Run tree ⟨links, node, names⟩ passed last ∧
      Ends tree last (tree.locate .followed links node names) := by
  fun_induction locate tree .followed links node names with
  | case1 links node => exact ⟨_, _, .rest _, .arrived (.present links node)⟩
  | case3 links node rest directory inductionHypothesis =>
      obtain ⟨passed, last, run, ends⟩ := inductionHypothesis
      exact ⟨_, last, .move (.idle (by simpa using directory)) run, ends⟩
  | case4 links node name rest directory nonempty locked =>
      exact ⟨[], _, .rest _,
        .denied ⟨by simpa using directory, locked, name, rest, rfl, nonempty⟩⟩
  | case5 links node rest directory unlocked _ inductionHypothesis =>
      obtain ⟨passed, last, run, ends⟩ := inductionHypothesis
      exact ⟨_, last,
        .move (.stay (by simpa using directory) (by simpa using unlocked)) run, ends⟩
  | case6 links node rest directory unlocked parent above _ _ inductionHypothesis =>
      obtain ⟨passed, last, run, ends⟩ := inductionHypothesis
      exact ⟨_, last, .move
        (.climb (by simpa using directory) (by simpa using unlocked) above) run, ends⟩
  | case9 links node name directory nonempty unlocked notDot notDotDot vacant _ =>
      exact ⟨_, _, .rest _, .arrived (.absent (by simpa using directory)
        (by simpa using unlocked) ⟨nonempty, notDot, notDotDot⟩ vacant)⟩
  | case11 => simp_all
  | case13 node name rest directory nonempty unlocked notDot notDotDot _ link linkFound
      target isLink _ links inductionHypothesis =>
      obtain ⟨passed, last, run, ends⟩ := inductionHypothesis
      exact ⟨_, last, .move (.follow (by simpa using directory) (by simpa using unlocked)
        ⟨nonempty, notDot, notDotDot⟩ linkFound isLink) run, ends⟩
  | case14 links node name rest directory nonempty unlocked notDot notDotDot _ child
      childFound noLink inductionHypothesis =>
      obtain ⟨passed, last, run, ends⟩ := inductionHypothesis
      exact ⟨_, last, .move (.enter (by simpa using directory) (by simpa using unlocked)
        ⟨nonempty, notDot, notDotDot⟩ childFound noLink) run, ends⟩
  | _ => exact ⟨[], _, .rest _, .refused (by decide)⟩

/-- What is located is arrived at by a run. -/
theorem exists_run_of_locate
    {links : Nat}
    {node : Node}
    {names : List Octets}
    {place : Place}
    (located : tree.locate .followed links node names = .ok place) :
    ∃ passed last, Run tree ⟨links, node, names⟩ passed last ∧
      Arrives tree last place := by
  obtain ⟨passed, last, run, ends⟩ := tree.exists_run_to_end links node names
  rw [located] at ends
  cases ends with
  | arrived arrives => exact ⟨passed, last, run, arrives⟩

/-- A node that is located is led to by a run. -/
theorem leads_of_locate
    {links : Nat}
    {node found : Node}
    {names : List Octets}
    (located : tree.locate .followed links node names = .ok (.present found)) :
    ∃ passed, tree.Leads links node names passed found := by
  obtain ⟨passed, last, run, arrives⟩ := exists_run_of_locate located
  cases arrives with
  | present left => exact ⟨passed, left, run⟩

theorem locate_eq_present_iff
    {links : Nat}
    {node found : Node}
    {names : List Octets} :
    tree.locate .followed links node names = .ok (.present found) ↔
      ∃ passed, tree.Leads links node names passed found := by
  constructor
  · exact leads_of_locate
  · rintro ⟨passed, left, run⟩
    exact locate_of_run run rfl

/-! ## Putting runs together and taking them apart -/

theorem Step.deterministic
    {first next other : Lookup}
    (step : Step tree first next)
    (otherStep : Step tree first other) :
    next = other := by
  cases step <;> cases otherStep <;> simp_all [IsLookedUp, Path.dot, Path.dotDot]

theorem Step.names_ne_nil
    {first next : Lookup}
    (step : Step tree first next) :
    first.names ≠ [] := by
  cases step <;> simp

namespace Run

variable {first middle last : Lookup} {passed later : List Location}

theorem trans
    (run : Run tree first passed middle)
    (laterRun : Run tree middle later last) :
    Run tree first (passed ++ later) last := by
  induction run with
  | rest lookup => exact laterRun
  | move step run inductionHypothesis => exact .move step (inductionHypothesis laterRun)

/-- A run that leads to its end goes on where another run from its start stops. -/
theorem continues
    (run : Run tree first passed middle)
    {whole : List Location}
    (wholeRun : Run tree first whole last)
    (done : last.names = []) :
    ∃ later, whole = passed ++ later ∧ Run tree middle later last := by
  induction run generalizing whole with
  | rest lookup => exact ⟨whole, rfl, wholeRun⟩
  | move step run inductionHypothesis =>
      cases wholeRun with
      | rest => exact absurd done step.names_ne_nil
      | move otherStep otherRun =>
          obtain rfl := step.deterministic otherStep
          obtain ⟨later, rfl, laterRun⟩ := inductionHypothesis otherRun
          exact ⟨later, rfl, laterRun⟩

theorem eq_of_done
    (run : Run tree first passed last)
    (done : last.names = []) :
    ∀ {other : Lookup} {otherPassed : List Location},
      Run tree first otherPassed other → other.names = [] →
      otherPassed = passed ∧ other = last := by
  intro other otherPassed otherRun otherDone
  obtain ⟨later, rfl, laterRun⟩ := run.continues otherRun otherDone
  cases laterRun with
  | rest => exact ⟨List.append_nil passed, rfl⟩
  | move step _ => exact absurd done step.names_ne_nil

end Run

/-- A look-up leads to one node only, and by one way. -/
theorem Leads.unique
    {links : Nat}
    {node found other : Node}
    {names : List Octets}
    {passed otherPassed : List Location}
    (leads : tree.Leads links node names passed found)
    (otherLeads : tree.Leads links node names otherPassed other) :
    otherPassed = passed ∧ other = found := by
  obtain ⟨left, run⟩ := leads
  obtain ⟨otherLeft, otherRun⟩ := otherLeads
  obtain ⟨samePassed, sameEnd⟩ := run.eq_of_done rfl otherRun rfl
  exact ⟨samePassed, congrArg Lookup.node sameEnd⟩

theorem Step.append
    {first next : Lookup}
    (step : Step tree first next)
    (more : List Octets) :
    Step tree (first.append more) (next.append more) := by
  cases step with
  | idle directory => exact .idle directory
  | stay directory unlocked => exact .stay directory unlocked
  | climb directory unlocked found => exact .climb directory unlocked found
  | enter directory unlocked lookedUp found noLink =>
      exact .enter directory unlocked lookedUp found noLink
  | follow directory unlocked lookedUp found isLink =>
      simp only [Lookup.append, List.append_assoc]
      exact .follow directory unlocked lookedUp found isLink

theorem Step.addLinks
    {first next : Lookup}
    (step : Step tree first next)
    (more : Nat) :
    Step tree (first.addLinks more) (next.addLinks more) := by
  cases step with
  | idle directory => exact .idle directory
  | stay directory unlocked => exact .stay directory unlocked
  | climb directory unlocked found => exact .climb directory unlocked found
  | enter directory unlocked lookedUp found noLink =>
      exact .enter directory unlocked lookedUp found noLink
  | follow directory unlocked lookedUp found isLink =>
      simp only [Lookup.addLinks, Nat.add_right_comm _ 1 more]
      exact .follow directory unlocked lookedUp found isLink

/-- Names that are left for later do not take part in a step. -/
theorem Step.exists_of_append
    {lookup next : Lookup}
    {more : List Octets}
    (step : Step tree (lookup.append more) next)
    (nonempty : lookup.names ≠ []) :
    ∃ before, next = before.append more ∧ Step tree lookup before := by
  obtain ⟨links, node, names⟩ := lookup
  obtain ⟨name, rest, rfl⟩ := List.exists_cons_of_ne_nil nonempty
  cases step with
  | idle directory => exact ⟨⟨links, node, rest⟩, rfl, .idle directory⟩
  | stay directory unlocked => exact ⟨⟨links, node, rest⟩, rfl, .stay directory unlocked⟩
  | climb directory unlocked found =>
      exact ⟨⟨links, _, rest⟩, rfl, .climb directory unlocked found⟩
  | enter directory unlocked lookedUp found noLink =>
      exact ⟨⟨links, _, rest⟩, rfl, .enter directory unlocked lookedUp found noLink⟩
  | follow directory unlocked lookedUp found isLink =>
      refine ⟨⟨_, _, _ ++ rest⟩, ?_, .follow directory unlocked lookedUp found isLink⟩
      simp [Lookup.append]

namespace Run

variable {first last : Lookup} {passed : List Location}

theorem append
    (run : Run tree first passed last)
    (more : List Octets) :
    Run tree (first.append more) passed (last.append more) := by
  induction run with
  | rest lookup => exact .rest _
  | move step run inductionHypothesis =>
      exact .move (step.append more) inductionHypothesis

theorem addLinks
    (run : Run tree first passed last)
    (more : Nat) :
    Run tree (first.addLinks more) passed (last.addLinks more) := by
  induction run with
  | rest lookup => exact .rest _
  | move step run inductionHypothesis =>
      exact .move (step.addLinks more) inductionHypothesis

/-- A run along names first leads along the front of them. -/
theorem exists_of_append
    {lookup : Lookup}
    {more : List Octets}
    (run : Run tree (lookup.append more) passed last)
    (done : last.names = []) :
    ∃ links node early later, passed = early ++ later ∧
      Run tree lookup early ⟨links, node, []⟩ ∧
      Run tree ⟨links, node, more⟩ later last := by
  generalize whole : lookup.append more = start at run
  induction run generalizing lookup with
  | rest =>
      subst whole
      obtain ⟨noNames, noMore⟩ := List.append_eq_nil_iff.mp done
      subst noMore
      obtain ⟨links, node, names⟩ := lookup
      simp only at noNames
      subst noNames
      exact ⟨links, node, [], [], rfl, .rest _, .rest _⟩
  | move step run inductionHypothesis =>
      subst whole
      rcases eq_or_ne lookup.names [] with noNames | nonempty
      · obtain ⟨links, node, names⟩ := lookup
        simp only at noNames
        subst noNames
        exact ⟨links, node, [], _, rfl, .rest _, .move step run⟩
      · obtain ⟨before, rfl, shorter⟩ := step.exists_of_append nonempty
        obtain ⟨links, node, early, later, rfl, front, back⟩ :=
          inductionHypothesis done rfl
        exact ⟨links, node, _ :: early, later, rfl, .move shorter front, back⟩

end Run

/-! ## Look-ups in two trees -/

/-- A relation between the nodes of two trees that keeps what a look-up sees of
them, apart from locks. -/
structure Mirrors
    (tree other : FileTree)
    (related : Node → Node → Prop) : Prop where
  found : ∀ {location node}, tree.get? location = some node →
    ∃ image, other.get? location = some image ∧ related node image
  location_eq : ∀ {node image}, related node image → image.location = node.location
  outline_eq : ∀ {node image}, related node image →
    image.entry.outline = node.entry.outline

namespace Mirrors

variable {other : FileTree} {related : Node → Node → Prop} {node image : Node}

theorem isDirectory_eq
    (mirrors : Mirrors tree other related)
    (images : related node image) :
    image.isDirectory = node.isDirectory := by
  have same := mirrors.outline_eq images
  unfold Node.isDirectory
  cases entry : node.entry <;> cases imageEntry : image.entry <;>
    simp_all [Entry.outline]

theorem link_iff
    (mirrors : Mirrors tree other related)
    (images : related node image)
    (target : Path) :
    image.entry = .link target ↔ node.entry = .link target := by
  have same := mirrors.outline_eq images
  cases entry : node.entry <;> cases imageEntry : image.entry <;>
    simp_all [Entry.outline]

theorem top_related (mirrors : Mirrors tree other related) : related top top := by
  obtain ⟨image, found, images⟩ := mirrors.found (get?_nil tree)
  rw [get?_nil] at found
  exact Option.some.inj found ▸ images

theorem linkOrigin_related
    (mirrors : Mirrors tree other related)
    (images : related node image)
    (target : Path) :
    related (linkOrigin node target) (linkOrigin image target) := by
  unfold linkOrigin
  split
  · exact mirrors.top_related
  · exact images

end Mirrors

section Modify

variable {change : Node → Node}
  {stays : ∀ node, (change node).location = node.location}
  {remains : ∀ node, node.isDirectory → (change node).isDirectory}

theorem get?_modify_eq_some_iff
    {location : Location}
    {image : Node}
    (fixesTop : change top = top) :
    (tree.modify change stays remains).get? location = some image ↔
      ∃ node, tree.get? location = some node ∧ image = change node := by
  rw [get?_modify fixesTop, Option.map_eq_some_iff]
  simp only [eq_comm]

/-- Changing nodes where they stand is not seen by a look-up, apart from locks. -/
theorem modify_mirrors
    (fixesTop : change top = top)
    (keeps : ∀ node, (change node).entry.outline = node.entry.outline) :
    Mirrors tree (tree.modify change stays remains) fun node image =>
      image = change node where
  found := fun found => ⟨_, (get?_modify_eq_some_iff fixesTop).mpr ⟨_, found, rfl⟩, rfl⟩
  location_eq := fun images => images ▸ stays _
  outline_eq := fun images => images ▸ keeps _

theorem mirrors_modify
    (fixesTop : change top = top)
    (keeps : ∀ node, (change node).entry.outline = node.entry.outline) :
    Mirrors (tree.modify change stays remains) tree fun image node =>
      image = change node where
  found := (get?_modify_eq_some_iff fixesTop).mp
  location_eq := fun images => images ▸ (stays _).symm
  outline_eq := fun images => images ▸ (keeps _).symm

end Modify

/-- A step in one tree is a step in a tree that mirrors it, unless a lock is in the
way. -/
theorem Step.transfer
    {other : FileTree}
    {related : Node → Node → Prop}
    {first next : Lookup}
    {image : Node}
    (step : Step tree first next)
    (mirrors : Mirrors tree other related)
    (images : related first.node image)
    (opens : first.node.locked = false → image.locked = false) :
    ∃ nextImage, related next.node nextImage ∧
      Step other ⟨first.links, image, first.names⟩
        ⟨next.links, nextImage, next.names⟩ := by
  have sameDirectory := mirrors.isDirectory_eq images
  have sameLocation := mirrors.location_eq images
  cases step with
  | idle directory =>
      exact ⟨image, images, .idle (sameDirectory.trans directory)⟩
  | stay directory unlocked =>
      exact ⟨image, images, .stay (sameDirectory.trans directory) (opens unlocked)⟩
  | climb directory unlocked found =>
      obtain ⟨parent, parentFound, parentImages⟩ := mirrors.found found
      exact ⟨parent, parentImages, .climb (sameDirectory.trans directory) (opens unlocked)
        (by rw [sameLocation]; exact parentFound)⟩
  | enter directory unlocked lookedUp found noLink =>
      obtain ⟨child, childFound, childImages⟩ := mirrors.found found
      exact ⟨child, childImages, .enter (sameDirectory.trans directory) (opens unlocked)
        lookedUp (by rw [sameLocation]; exact childFound)
        fun target isLink => noLink target
          ((mirrors.link_iff childImages target).mp isLink)⟩
  | follow directory unlocked lookedUp found isLink =>
      obtain ⟨link, linkFound, linkImages⟩ := mirrors.found found
      exact ⟨_, mirrors.linkOrigin_related images _,
        .follow (sameDirectory.trans directory) (opens unlocked) lookedUp
          (by rw [sameLocation]; exact linkFound)
          ((mirrors.link_iff linkImages _).mpr isLink)⟩

/-- A run in one tree is a run in a tree that mirrors it, as long as no lock stands
at a location that it passes through. -/
theorem Run.transfer
    {other : FileTree}
    {related : Node → Node → Prop}
    {first last : Lookup}
    {passed : List Location}
    {image : Node}
    (run : Run tree first passed last)
    (mirrors : Mirrors tree other related)
    (images : related first.node image)
    (opens : ∀ {node image}, related node image → node.location ∈ passed →
      node.locked = false → image.locked = false) :
    ∃ lastImage, related last.node lastImage ∧
      Run other ⟨first.links, image, first.names⟩ passed
        ⟨last.links, lastImage, last.names⟩ := by
  induction run generalizing image with
  | rest lookup => exact ⟨image, images, .rest _⟩
  | move step run inductionHypothesis =>
      obtain ⟨nextImage, nextImages, nextStep⟩ :=
        step.transfer mirrors images (opens images List.mem_cons_self)
      obtain ⟨lastImage, lastImages, later⟩ := inductionHypothesis nextImages
        fun images member => opens images (List.mem_cons_of_mem _ member)
      refine ⟨lastImage, lastImages, ?_⟩
      rw [← mirrors.location_eq images]
      exact .move nextStep later

/-! ## Paths -/

theorem nodeAt_eq_ok_iff
    {ending : Ending}
    {path : Path}
    {found : Node} :
    tree.nodeAt ending path = .ok found ↔
      tree.place ending path = .ok (.present found) := by
  unfold nodeAt
  split <;> simp_all

/-- A path has a status when it leads somewhere from where it starts. -/
theorem status_eq_ok_iff
    {path : Path}
    {found : Node} :
    tree.status path = .ok found ↔
      path ≠ [] ∧ ∃ origin passed, tree.origin? path = some origin ∧
        tree.Leads linkLimit origin (steps path) passed found := by
  rw [status, nodeAt_eq_ok_iff, place]
  split
  · simp_all
  · rename_i nonempty
    unfold follow
    cases start : tree.origin? path with
    | none => simp
    | some origin => simp [nonempty, locate_eq_present_iff]

/-- Where a path starts in a tree that mirrors another one. -/
theorem Mirrors.exists_origin?
    {other : FileTree}
    {related : Node → Node → Prop}
    {path : Path}
    {node : Node}
    (mirrors : Mirrors tree other related)
    (sameWorking : other.working = tree.working)
    (starts : tree.origin? path = some node) :
    ∃ image, other.origin? path = some image ∧ related node image := by
  unfold origin? at starts ⊢
  split at starts
  · rename_i absolute
    cases starts
    exact ⟨top, if_pos absolute, mirrors.top_related⟩
  · rename_i relative
    rw [if_neg relative, sameWorking]
    exact mirrors.found starts

/-- A path leads to the image of what it leads to, in a tree that mirrors another one
and opens what is open there. -/
theorem Mirrors.exists_status
    {other : FileTree}
    {related : Node → Node → Prop}
    {path : Path}
    {node : Node}
    (mirrors : Mirrors tree other related)
    (sameWorking : other.working = tree.working)
    (opens : ∀ {node image}, related node image → node.locked = false →
      image.locked = false)
    (found : tree.status path = .ok node) :
    ∃ image, other.status path = .ok image ∧ related node image := by
  obtain ⟨nonempty, origin, passed, starts, left, run⟩ := status_eq_ok_iff.mp found
  obtain ⟨originImage, startsImage, originImages⟩ :=
    mirrors.exists_origin? sameWorking starts
  obtain ⟨image, images, imageRun⟩ := run.transfer mirrors originImages
    fun images _ unlocked => opens images unlocked
  exact ⟨image, status_eq_ok_iff.mpr
    ⟨nonempty, originImage, passed, startsImage, left, imageRun⟩, images⟩

theorem pathExists_iff {path : Path} :
    tree.pathExists path = true ↔ ∃ node, tree.status path = .ok node := by
  unfold pathExists
  cases tree.status path <;> simp [Except.isOk, Except.toBool]

theorem isDirectory_of_status
    {path : Path}
    {node : Node}
    (found : tree.status path = .ok node) :
    tree.isDirectory path = node.isDirectory := by
  rw [isDirectory, found]

theorem isDirectory_eq_true_iff {path : Path} :
    tree.isDirectory path = true ↔
      ∃ node, tree.status path = .ok node ∧ node.isDirectory = true := by
  unfold isDirectory
  cases tree.status path <;> simp

theorem isFile_iff {path : Path} :
    tree.isFile path = true ↔
      ∃ node content, tree.status path = .ok node ∧ node.entry = .file content := by
  unfold isFile
  cases tree.status path with
  | error error => simp
  | ok node =>
      obtain ⟨location, entry, locked⟩ := node
      cases entry <;> simp

theorem read_of_status
    {path : Path}
    {node : Node}
    (found : tree.status path = .ok node) :
    tree.read path = contentOf node := by
  rw [read, found]

/-! ## What is wanted at the end -/

theorem suffix_of_cons
    {name : Octets}
    {rest : List Octets}
    (nonempty : name ≠ [])
    (slash : [[]] <:+ name :: rest) :
    [[]] <:+ rest := by
  rcases List.suffix_cons_iff.mp slash with same | later
  · exact absurd (List.cons.inj same).1.symm nonempty
  · exact later

/-- A slash behind a path asks for a directory. -/
theorem isDirectory_of_locate_slash
    {links : Nat}
    {node : Node}
    {names : List Octets}
    {place : Place}
    (slash : [[]] <:+ names)
    (located : tree.locate .followed links node names = .ok place) :
    ∃ directory, place = .present directory ∧ directory.isDirectory = true := by
  fun_induction locate tree .followed links node names with
  | case1 links node => simp at slash
  | case3 links node rest directory inductionHypothesis =>
      rcases List.suffix_cons_iff.mp slash with same | later
      · obtain rfl : [] = rest := (List.cons.inj same).2
        rw [locate] at located
        cases located
        exact ⟨node, rfl, by simpa using directory⟩
      · exact inductionHypothesis later located
  | case5 links node rest _ _ nonempty inductionHypothesis =>
      exact inductionHypothesis (suffix_of_cons nonempty slash) located
  | case6 links node rest _ _ parent _ nonempty _ inductionHypothesis =>
      exact inductionHypothesis (suffix_of_cons nonempty slash) located
  | case9 links node name _ nonempty =>
      exact absurd (suffix_of_cons nonempty slash) (by simp)
  | case13 node name rest _ nonempty _ _ _ _ link _ target _ _ links
      inductionHypothesis =>
      refine inductionHypothesis ?_ located
      exact (suffix_of_cons nonempty slash).trans (List.suffix_append _ _)
  | case14 links node name rest _ nonempty _ _ _ _ child _ _ inductionHypothesis =>
      exact inductionHypothesis (suffix_of_cons nonempty slash) located
  | _ => simp_all

/-- What is wanted at the end makes no difference unless a link stands there that is not
followed, or a directory that is asked for with a slash and not wanted. -/
theorem locate_ending
    (ending : Ending)
    (links : Nat)
    (node : Node)
    (names : List Octets) :
    tree.locate ending links node names = tree.locate .followed links node names ∨
      ending = .itself ∧ (∃ link target,
        tree.locate ending links node names = .ok (.present link) ∧
          link.entry = .link target) ∨
      ending = .created ∧ tree.locate ending links node names = .error .isDirectory ∧
        ∀ place, tree.locate .followed links node names = .ok place →
          ∃ directory, place = .present directory ∧ directory.isDirectory = true := by
  fun_induction locate tree ending links node names with
  | case3 links node rest directory inductionHypothesis =>
      have step : Step tree ⟨links, node, [] :: rest⟩ ⟨links, node, rest⟩ :=
        .idle (by simpa using directory)
      rw [locate_step step]
      exact inductionHypothesis
  | case5 links node rest directory unlocked _ inductionHypothesis =>
      have step : Step tree ⟨links, node, Path.dot :: rest⟩ ⟨links, node, rest⟩ :=
        .stay (by simpa using directory) (by simpa using unlocked)
      rw [locate_step step]
      exact inductionHypothesis
  | case6 links node rest directory unlocked parent above _ _ inductionHypothesis =>
      have step : Step tree ⟨links, node, Path.dotDot :: rest⟩ ⟨links, parent, rest⟩ :=
        .climb (by simpa using directory) (by simpa using unlocked) above
      rw [locate_step step]
      exact inductionHypothesis
  | case8 links node name rest _ _ _ _ _ refused =>
      obtain ⟨rfl, rfl⟩ : ending = .created ∧ rest = [[]] := by simpa using refused
      exact .inr (.inr ⟨rfl, rfl, fun place located =>
        isDirectory_of_locate_slash (List.suffix_cons name [[]]) located⟩)
  | case11 links node name rest directory nonempty unlocked notDot
      notDotDot _ link linkFound target isLink kept =>
      exact .inr (.inl ⟨(by simpa using kept : rest = [] ∧ ending = .itself).2, link,
        target, rfl, isLink⟩)
  | case13 node name rest directory nonempty unlocked notDot notDotDot _ link linkFound
      target isLink _ links inductionHypothesis =>
      have step : Step tree ⟨links + 1, node, name :: rest⟩
          ⟨links, linkOrigin node target, steps target ++ rest⟩ :=
        .follow (by simpa using directory) (by simpa using unlocked)
          ⟨nonempty, notDot, notDotDot⟩ linkFound isLink
      rw [locate_step step]
      exact inductionHypothesis
  | case14 links node name rest directory nonempty unlocked notDot notDotDot _ child
      childFound noLink inductionHypothesis =>
      have step : Step tree ⟨links, node, name :: rest⟩ ⟨links, child, rest⟩ :=
        .enter (by simpa using directory) (by simpa using unlocked)
          ⟨nonempty, notDot, notDotDot⟩ childFound noLink
      rw [locate_step step]
      exact inductionHypothesis
  | _ => unfold locate; simp_all

/-- Not following a link at the end makes no difference unless one is there. -/
theorem locate_itself
    (links : Nat)
    (node : Node)
    (names : List Octets) :
    tree.locate .itself links node names = tree.locate .followed links node names ∨
      ∃ link target, tree.locate .itself links node names = .ok (.present link) ∧
        link.entry = .link target := by
  rcases tree.locate_ending .itself links node names
    with same | ⟨_, isLink⟩ | ⟨impossible, _⟩
  · exact .inl same
  · exact .inr isLink
  · cases impossible

end FileTree
end ScriptAudit
