import ScriptAudit.Proofs.Audit.Failure
import ScriptAudit.Proofs.Audit.Isolation
import ScriptAudit.Proofs.FileTree.Contents
import ScriptAudit.Proofs.FileTree.Growth
import ScriptAudit.Proofs.Path.Components

/-!
# Files that are not scanned

The contents of a file have a say in a report only if the walk comes to an entry with
the extension of a script that leads to the file. Two trees that differ in the contents
of other files only are audited with the same outcome, whatever these files are called.
No file of a skill is taken for a configuration.
-/

namespace ScriptAudit

open Text (Octets)

/-! ## What the scripts of a walk lead to -/

namespace FileTree

/-- A walk comes, below its start, to an entry with the extension of a script that leads
to a location. -/
def ScriptLeadsTo (tree : FileTree) (start : Path) (location : Location) : Prop :=
  ∃ names node found, names ≠ [] ∧ tree.Walked start names node ∧
    (Language.classify? (start.descend names)).isSome = true ∧
    tree.status (start.descend names) = .ok found ∧ found.location = location

/-- The same, where the entry is a link. -/
def LinkedScriptLeadsTo (tree : FileTree) (start : Path) (location : Location) : Prop :=
  ∃ names link target found, names ≠ [] ∧ tree.Walked start names link ∧
    link.entry = .link target ∧
    (Language.classify? (start.descend names)).isSome = true ∧
    tree.status (start.descend names) = .ok found ∧ found.location = location

variable {tree : FileTree} {start : Path} {names : List Octets} {node file : Node}

/-- The extension of an entry is that of its name. -/
theorem Walked.classify?_eq
    {name : Octets}
    (walked : tree.Walked start (names ++ [name]) node) :
    Language.classify? (start.descend (names ++ [name])) = Language.classify? name := by
  have isName : Path.IsName name := walked.isName_of_mem (by simp)
  rw [Path.descend_append]
  exact Language.classify?_join isName (start.descend names)

/-- A script leads to where it stands, unless it is a link. -/
theorem ScriptLeadsTo.cases
    {location : Location}
    (leads : tree.ScriptLeadsTo start location) :
    tree.LinkedScriptLeadsTo start location ∨
      ∃ names name node, tree.Walked start (names ++ [name]) node ∧
        node.location = location ∧ (Language.classify? name).isSome = true := by
  obtain ⟨names, node, found, nonempty, walked, classified, status, located⟩ := leads
  by_cases isLink : ∃ target, node.entry = .link target
  · obtain ⟨target, isTarget⟩ := isLink
    exact .inl ⟨names, node, target, found, nonempty, walked,
      isTarget, classified, status, located⟩
  · have itself := walked.status_eq fun target isTarget => isLink ⟨target, isTarget⟩
    obtain rfl : found = node := Except.ok.inj (status.symm.trans itself)
    obtain ⟨before, name, rfl⟩ := (List.eq_nil_or_concat names).resolve_left nonempty
    rw [List.concat_eq_append] at walked classified
    rw [walked.classify?_eq] at classified
    exact .inr ⟨before, name, found, walked, located, classified⟩

/-- A file that a walk does not come to is not led to, unless by a link. -/
theorem not_scriptLeadsTo_of_not_walked
    (present : file ∈ tree.nodes)
    (noLink : ¬ tree.LinkedScriptLeadsTo start file.location)
    (notWalked : ∀ names, ¬ tree.Walked start names file) :
    ¬ tree.ScriptLeadsTo start file.location := by
  intro leads
  rcases leads.cases with linked | ⟨names, name, node, walked, located, _⟩
  · exact noLink linked
  · have found := walked.get?_location
    rw [located, get?_location present] at found
    obtain rfl := Option.some.inj found
    exact notWalked _ walked

/-- A file without the extension of a script is not led to, unless by a link. -/
theorem not_scriptLeadsTo_of_unsupported
    {name : Octets}
    (named : file.location.getLast? = some name)
    (noLink : ¬ tree.LinkedScriptLeadsTo start file.location)
    (unsupported : Language.classify? name = none) :
    ¬ tree.ScriptLeadsTo start file.location := by
  intro leads
  rcases leads.cases with linked | ⟨names, other, node, walked, located, classified⟩
  · exact noLink linked
  · obtain ⟨base, begins⟩ := walked.exists_status
    rw [← located, walked.location_eq begins, ← List.append_assoc,
      List.getLast?_concat] at named
    rw [Option.some.inj named, unsupported] at classified
    cases classified

theorem not_walked_of_outside
    {base : Node}
    (begins : tree.status start = .ok base)
    (outside : ¬ base.location <+: file.location)
    (names : List Octets) :
    ¬ tree.Walked start names file := by
  intro walked
  apply outside
  rw [walked.location_eq begins]
  exact List.prefix_append base.location names

end FileTree

/-! ## Scans of trees with the same outline -/

namespace Scan

variable {tree other : FileTree} {rules : RuleSet} {root start : Path}
  {names : List Octets} {node base : Node}

/-- A visit contributes the same, unless it comes to a script that leads to a file with
other contents. -/
theorem visit_of_sameOutline
    (same : tree.SameOutline other)
    (walked : tree.Walked start names node)
    (begins : tree.status start = .ok base)
    (isDirectory : base.isDirectory = true)
    (unscanned : ∀ location, other.get? location ≠ tree.get? location →
      ¬ tree.ScriptLeadsTo start location) :
    visit other rules root (.reached (start.descend names)) =
      visit tree rules root (.reached (start.descend names)) := by
  have sameKind := same.isFile_eq (start.descend names)
  cases isFile : tree.isFile (start.descend names) with
  | false => simp [visit, sameKind, isFile]
  | true =>
      cases classified : Language.classify? (start.descend names) with
      | none => simp [visit, sameKind, isFile, classified]
      | some language =>
          obtain ⟨found, content, leads, isContent⟩ := FileTree.isFile_iff.mp isFile
          have nonempty : names ≠ [] := by
            intro empty
            rw [empty, Path.descend_nil, begins] at leads
            rw [Except.ok.inj leads, FileTree.isDirectory_iff, isContent] at isDirectory
            cases isDirectory
          have isScanned : tree.ScriptLeadsTo start found.location :=
            ⟨names, node, found, nonempty, walked, by simp [classified], leads, rfl⟩
          have sameFile : other.get? found.location = tree.get? found.location := by
            by_contra different
            exact unscanned found.location different isScanned
          obtain ⟨image, imageLeads, images⟩ := same.exists_status leads
          obtain rfl : image = found := by
            have imageFound := FileTree.status_get?_location imageLeads
            rw [Node.location_eq_of_outline_eq images, sameFile,
              FileTree.status_get?_location leads] at imageFound
            exact (Option.some.inj imageFound).symm
          rw [visit, visit, sameKind, FileTree.read_of_status leads,
            FileTree.read_of_status imageLeads]

/-- A scan collects the same when only files differ that no script leads to. -/
theorem directory_of_sameOutline
    (same : tree.SameOutline other)
    (begins : tree.status start = .ok base)
    (isDirectory : base.isDirectory = true)
    (unscanned : ∀ location, other.get? location ≠ tree.get? location →
      ¬ tree.ScriptLeadsTo start location)
    (rules : RuleSet)
    (root : Path) :
    directory other rules root start = directory tree rules root start := by
  rw [directory, directory, same.walk_eq begins]
  apply congrArg Harvest.gather
  apply List.map_congr_left
  intro visited member
  cases visited with
  | failed path error => rfl
  | reached path =>
      obtain ⟨names, node, walked, rfl⟩ := FileTree.reached_mem_walk_iff.mp member
      exact visit_of_sameOutline same walked begins isDirectory unscanned

end Scan

namespace Audit

variable {tree other : FileTree} {target : Path} {config : Config}

theorem withConfig_of_sameOutline
    (same : tree.SameOutline other)
    (unscanned : ∀ location, other.get? location ≠ tree.get? location →
      ¬ tree.ScriptLeadsTo (scriptsPath target config.scriptsDir) location) :
    withConfig other target config = withConfig tree target config := by
  have sameDirectory := same.isDirectory_eq (scriptsPath target config.scriptsDir)
  have sameScan : ∀ rules,
      tree.isDirectory (scriptsPath target config.scriptsDir) = true →
      Scan.directory other rules target (scriptsPath target config.scriptsDir) =
        Scan.directory tree rules target (scriptsPath target config.scriptsDir) := by
    intro rules found
    obtain ⟨base, begins, isDirectory⟩ := FileTree.isDirectory_eq_true_iff.mp found
    exact Scan.directory_of_sameOutline same begins isDirectory unscanned rules target
  simp only [scriptsPath] at sameDirectory sameScan
  simp only [withConfig, same.pathExists_eq, sameDirectory]
  split
  · rfl
  · split
    · rfl
    · rename_i rules _
      cases isDirectory : tree.isDirectory
          (target.join (Path.ofString config.scriptsDir)) with
      | false => rfl
      | true => rw [sameScan rules isDirectory]

end Audit

/-! ## Settings inside of the sample -/

namespace Sample

/-- A file of the skill that is called like a configuration. -/
def settings : Location := ["skill", "skillgate.toml"].map Path.ofString

/-- The skill with settings of its own. -/
def withSettings (text : String) : FileTree :=
  tree.add settings (.file (Path.ofString text)) (by decide) (by decide)

theorem nodes_withSettings (text : String) :
    (withSettings text).nodes =
      tree.nodes ++ [⟨settings, .file (Path.ofString text), false⟩] := rfl

theorem isPartOf_withSettings (text : String) : tree.IsPartOf (withSettings text) :=
  ⟨List.subset_append_left _ _, rfl⟩

theorem get?_withSettings
    {location : Location}
    (elsewhere : location ≠ settings)
    (text : String) :
    (withSettings text).get? location = tree.get? location := by
  unfold FileTree.get?
  rw [nodes_withSettings, List.find?_append]
  simp [elsewhere.symm]

theorem get?_settings (text : String) :
    (withSettings text).get? settings =
      some ⟨settings, .file (Path.ofString text), false⟩ :=
  FileTree.get?_eq_some_iff.mpr (.inr ⟨by simp [nodes_withSettings], rfl⟩)

theorem withSettings_sameOutline (first second : String) :
    (withSettings first).SameOutline (withSettings second) where
  get?_outline := by
    intro location
    rcases eq_or_ne location settings with rfl | elsewhere
    · rw [get?_settings, get?_settings]
      rfl
    · rw [get?_withSettings elsewhere, get?_withSettings elsewhere]
  working_eq := rfl

/-- The only link of the skill leads to a script. -/
theorem not_linkedScriptLeadsTo_settings (text : String) :
    ¬ (withSettings text).LinkedScriptLeadsTo start settings := by
  rintro ⟨names, link, path, found, nonempty, walked, isLink, _, leads, located⟩
  obtain ⟨_, origin, passed, starts, leadsTo⟩ := FileTree.status_eq_ok_iff.mp leads
  rcases (walked.leads_cases starts leadsTo).2 with rfl | reaches
  · have itself := walked.get?_location
    rw [located, get?_settings] at itself
    rw [← Option.some.inj itself] at isLink
    cases isLink
  · obtain ⟨around, name, _, _, _, here, _⟩ := reaches.2
    have listed : link ∈ (withSettings text).nodes :=
      FileTree.mem_of_get? walked.get?_location (by simp [here])
    rw [nodes_withSettings, List.mem_append, List.mem_singleton] at listed
    rcases listed with present | rfl
    · obtain rfl := eq_shortcut_of_isLink present isLink
      rw [located] at reaches
      rcases linkReaches_shortcut (isPartOf_withSettings text) reaches with same | same
      · exact absurd same (by decide)
      · exact absurd same (by decide)
    · cases isLink

theorem start_status_withSettings (text : String) :
    (withSettings text).status start = .ok scripts :=
  (isPartOf_withSettings text).status_eq start_status

/-- The settings lie outside of the directory of scripts. -/
theorem not_scriptLeadsTo_settings (text : String) :
    ¬ (withSettings text).ScriptLeadsTo start settings := by
  have present : ⟨settings, .file (Path.ofString text), false⟩ ∈
      (withSettings text).nodes := by
    simp [nodes_withSettings]
  have outside : ¬ scripts.location <+: settings := by decide
  apply FileTree.not_scriptLeadsTo_of_not_walked present
    (not_linkedScriptLeadsTo_settings text)
  intro names
  exact FileTree.not_walked_of_outside (start_status_withSettings text) outside names

end Sample

namespace Audit

/-- What files contain that no script of the skill leads to makes no difference: an
audit has the same outcome and every rendering of its report is the same, whether its
configuration is given, the default one or that of a file. A file to which no link leads
is such a file if it lies outside of the directory of scripts, has no extension of a
script, or is not walked to. -/
theorem unscanned_contents_make_no_difference
    (tree other : FileTree)
    (target : Path)
    (config : Config)
    (same : tree.SameOutline other)
    (unscanned : ∀ location, other.get? location ≠ tree.get? location →
      ¬ tree.ScriptLeadsTo (target.join (Path.ofString config.scriptsDir)) location) :
    let start := target.join (Path.ofString config.scriptsDir)
    withConfig other target config = withConfig tree target config ∧
    (∀ format,
      (withConfig other target config).result.map (fun report => report.render format) =
        (withConfig tree target config).result.map fun report => report.render format) ∧
    (∀ configPath, Config.Applies tree configPath config →
      Config.Applies other configPath config →
      run other target configPath = run tree target configPath) ∧
    (∀ file ∈ tree.nodes, ¬ tree.LinkedScriptLeadsTo start file.location →
      (∀ base, tree.status start = .ok base → ¬ base.location <+: file.location) ∨
        (∀ name, file.location.getLast? = some name → Language.classify? name = none) ∨
        (∀ names, ¬ tree.Walked start names file) →
      ¬ tree.ScriptLeadsTo start file.location) := by
  intro start
  have sameOutcome := withConfig_of_sameOutline same unscanned
  refine ⟨sameOutcome, fun format => by rw [sameOutcome], ?_, ?_⟩
  · intro configPath applies otherApplies
    rw [run_of_applies applies, run_of_applies otherApplies, sameOutcome]
  · intro file present noLink reason
    rcases reason with outside | unsupported | notWalked
    · apply FileTree.not_scriptLeadsTo_of_not_walked present noLink
      intro names walked
      obtain ⟨base, begins⟩ := walked.exists_status
      exact FileTree.not_walked_of_outside begins (outside base begins) names walked
    · obtain ⟨name, named⟩ : ∃ name, file.location.getLast? = some name :=
        Option.ne_none_iff_exists'.mp
          (mt List.getLast?_eq_none_iff.mp (FileTree.location_ne_nil present))
      exact FileTree.not_scriptLeadsTo_of_unsupported named noLink
        (unsupported name named)
    · exact FileTree.not_scriptLeadsTo_of_not_walked present noLink notWalked

theorem unscanned_contents_make_no_difference_sample :
    let harmless := Sample.withSettings ""
    let hostile := Sample.withSettings "[scan]\nscripts_dir = \"docs\"\n"
    harmless.SameOutline hostile ∧
      hostile.get? Sample.settings ≠ harmless.get? Sample.settings ∧
      (∀ location, hostile.get? location ≠ harmless.get? location →
        ¬ harmless.ScriptLeadsTo Sample.start location) ∧
      withConfig hostile Sample.target Sample.config =
        withConfig harmless Sample.target Sample.config ∧
      ∀ format,
        (withConfig hostile Sample.target Sample.config).result.map
            (fun report => report.render format) =
          (withConfig harmless Sample.target Sample.config).result.map
            fun report => report.render format := by
  intro harmless hostile
  have same : harmless.SameOutline hostile := Sample.withSettings_sameOutline _ _
  have unscanned : ∀ location, hostile.get? location ≠ harmless.get? location →
      ¬ harmless.ScriptLeadsTo Sample.start location := by
    intro location different
    rcases eq_or_ne location Sample.settings with rfl | elsewhere
    · exact Sample.not_scriptLeadsTo_settings _
    · apply absurd _ different
      rw [Sample.get?_withSettings elsewhere, Sample.get?_withSettings elsewhere]
  have differ : hostile.get? Sample.settings ≠ harmless.get? Sample.settings := by
    rw [Sample.get?_settings, Sample.get?_settings]
    decide
  obtain ⟨sameOutcome, sameText, _⟩ :=
    unscanned_contents_make_no_difference harmless hostile
    Sample.target Sample.config same unscanned
  exact ⟨same, differ, unscanned, sameOutcome, sameText⟩

end Audit
end ScriptAudit
