import ScriptAudit.Proofs.Audit.Result
import ScriptAudit.Proofs.Text.Decoding

/-!
# When an audit fails

An audit fails for the first of these reasons that applies: its configuration file
cannot be used, its skill does not exist, or it switches off a rule that is not built
in. In all other cases there is a report, whatever the tree holds.
-/

namespace ScriptAudit

/-! ## Configuration files -/

theorem Path.ofString_eq_nil_iff {text : String} :
    Path.ofString text = [] ↔ text = "" := by
  rw [← String.toList_eq_nil_iff]
  cases chars : text.toList with
  | nil => simp [Path.ofString, Text.encode, chars]
  | cons char rest =>
      simp [Path.ofString, Text.encode, chars, String.utf8EncodeChar_ne_nil]

namespace Config

/-- A directory of scripts that may lie outside of the skill. -/
def LeavesSkill (scriptsDir : String) : Prop :=
  scriptsDir = "" ∨ (Path.ofString scriptsDir).isAbsolute = true ∨
    .parent ∈ (Path.ofString scriptsDir).components

/-- The first thing that is wrong with the configuration file at a path. -/
inductive IsUnusable (tree : FileTree) (path : Path) : AuditError → Prop
  /-- It cannot be read. -/
  | unreadable {error : OsError}
      (failure : tree.read path = .error error) :
      IsUnusable tree path (.io (.os error))
  /-- Its octets are not those of a text. -/
  | notText {octets : Text.Octets}
      (holds : tree.read path = .ok octets)
      (noText : ¬∃ chars, octets = Text.encode chars) :
      IsUnusable tree path (.io .notText)
  /-- Its text is no document. -/
  | noDocument {chars : List Char}
      (holds : tree.read path = .ok (Text.encode chars))
      (malformed : Toml.parse? chars = none) :
      IsUnusable tree path .tomlSyntax
  /-- Its document has another shape. -/
  | misshapen {chars : List Char} {fields : List (String × Toml)} {cause : SchemaError}
      (holds : tree.read path = .ok (Text.encode chars))
      (parsed : Toml.parse? chars = some fields)
      (misfit : ofDatum .toml (Toml.toDatum (.table fields)) = .error cause) :
      IsUnusable tree path (.tomlSchema cause)
  /-- Its directory of scripts is rejected. -/
  | outside {chars : List Char} {fields : List (String × Toml)} {config : Config}
      (holds : tree.read path = .ok (Text.encode chars))
      (parsed : Toml.parse? chars = some fields)
      (fits : ofDatum .toml (Toml.toDatum (.table fields)) = .ok config)
      (leaves : LeavesSkill config.scriptsDir) :
      IsUnusable tree path (.config (.scriptsDir config.scriptsDir))

/-- The configuration that an audit uses: the default one, or the one in a file. -/
inductive Applies (tree : FileTree) : Option Path → Config → Prop
  | default : Applies tree none {}
  | file {path : Path} {chars : List Char}
      {fields : List (String × Toml)} {config : Config}
      (holds : tree.read path = .ok (Text.encode chars))
      (parsed : Toml.parse? chars = some fields)
      (fits : ofDatum .toml (Toml.toDatum (.table fields)) = .ok config)
      (stays : ¬LeavesSkill config.scriptsDir) :
      Applies tree (some path) config

theorem staysInside_iff {scriptsDir : String} :
    staysInside scriptsDir = true ↔ ¬LeavesSkill scriptsDir := by
  simp only [staysInside, LeavesSkill, Bool.and_eq_true, Bool.not_eq_true',
    List.isEmpty_eq_false_iff, ne_eq, Path.ofString_eq_nil_iff, List.contains_eq_mem,
    decide_eq_false_iff_not, not_or, Bool.not_eq_true, and_assoc]

variable {tree : FileTree} {path : Path} {config : Config} {error : AuditError}

theorem validate_eq_ok_iff {valid : Config} :
    config.validate = .ok valid ↔ ¬LeavesSkill config.scriptsDir ∧ config = valid := by
  rw [← staysInside_iff, validate]
  cases staysInside config.scriptsDir <;> simp

theorem validate_of_leavesSkill
    (leaves : LeavesSkill config.scriptsDir) :
    config.validate = .error (.config (.scriptsDir config.scriptsDir)) :=
  if_neg (mt staysInside_iff.mp (not_not.mpr leaves))

theorem load_of_holds
    {chars : List Char}
    (holds : tree.read path = .ok (Text.encode chars)) :
    load tree path = ofText chars := by
  have decoded : Text.decode? (Text.encode chars) = some chars :=
    Text.decode?_eq_some_iff.mpr rfl
  simp only [load, holds, ofOctets, decoded]

/-- A configuration file can be used, or there is a first thing that is wrong with it.
-/
theorem load_spec (tree : FileTree) (path : Path) :
    (∃ config, load tree path = .ok config ∧ Applies tree (some path) config) ∨
      ∃ error, load tree path = .error error ∧ IsUnusable tree path error := by
  cases holds : tree.read path with
  | error error => exact .inr ⟨_, by simp only [load, holds], .unreadable holds⟩
  | ok octets =>
      cases decoded : Text.decode? octets with
      | none =>
          refine .inr ⟨_, by simp only [load, holds, ofOctets, decoded],
            .notText holds ?_⟩
          exact Text.decode?_eq_none_iff.mp decoded
      | some chars =>
          obtain rfl := Text.decode?_eq_some_iff.mp decoded
          rw [load_of_holds holds, ofText]
          cases parsed : Toml.parse? chars with
          | none => exact .inr ⟨_, rfl, .noDocument holds parsed⟩
          | some fields =>
              cases fits : ofDatum .toml (Toml.toDatum (.table fields)) with
              | error cause =>
                  exact .inr ⟨_, by simp only [fits], .misshapen holds parsed fits⟩
              | ok config =>
                  simp only [fits, validate]
                  by_cases stays : staysInside config.scriptsDir = true
                  · rw [if_pos stays]
                    exact .inl ⟨_, rfl, .file holds parsed fits
                      (staysInside_iff.mp stays)⟩
                  · rw [if_neg stays]
                    refine .inr ⟨_, rfl, .outside holds parsed fits ?_⟩
                    rwa [staysInside_iff, not_not] at stays

theorem Applies.load_eq
    (applies : Applies tree (some path) config) :
    load tree path = .ok config := by
  cases applies with
  | file holds parsed fits stays =>
      rw [load_of_holds holds]
      simp only [ofText, parsed, fits, validate, if_pos (staysInside_iff.mpr stays)]

theorem IsUnusable.load_eq
    (unusable : IsUnusable tree path error) :
    load tree path = .error error := by
  cases unusable with
  | unreadable failure => simp only [load, failure]
  | notText holds noText =>
      simp only [load, holds, ofOctets, Text.decode?_eq_none_iff.mpr noText]
  | noDocument holds malformed =>
      rw [load_of_holds holds]
      simp only [ofText, malformed]
  | misshapen holds parsed misfit =>
      rw [load_of_holds holds]
      simp only [ofText, parsed, misfit]
  | outside holds parsed fits leaves =>
      rw [load_of_holds holds]
      have outside := mt staysInside_iff.mp (not_not.mpr leaves)
      simp only [ofText, parsed, fits, validate, if_neg outside]

end Config

namespace Audit

/-- The first reason for which an audit fails. -/
inductive Fails (tree : FileTree) (target : Path) : Option Path → AuditError → Prop
  /-- The configuration file cannot be used. -/
  | config {path : Path} {error : AuditError}
      (unusable : Config.IsUnusable tree path error) :
      Fails tree target (some path) error
  /-- The skill does not exist. -/
  | target {configPath : Option Path} {config : Config}
      (applies : Config.Applies tree configPath config)
      (absent : tree.pathExists target = false) :
      Fails tree target configPath (.targetNotFound target.display)
  /-- A rule that is switched off is not built in, and those before it are. -/
  | rule {configPath : Option Path} {config : Config}
      {before after : List String} {id : String}
      (applies : Config.Applies tree configPath config)
      (present : tree.pathExists target = true)
      (listed : config.disabled = before ++ id :: after)
      (known : ∀ earlier ∈ before, earlier ∈ Catalog.builtinIds)
      (unknown : id ∉ Catalog.builtinIds) :
      Fails tree target configPath (.config (.unknownRule id))

variable {tree : FileTree} {target : Path} {configPath : Option Path}

theorem run_of_applies
    {config : Config}
    (applies : Config.Applies tree configPath config) :
    run tree target configPath = withConfig tree target config := by
  cases configPath with
  | none =>
      cases applies
      rfl
  | some path => simp only [run, applies.load_eq]

theorem withConfig_eq_error_iff
    {config : Config}
    {error : AuditError} :
    (withConfig tree target config).result = .error error ↔
      tree.pathExists target = false ∧ error = .targetNotFound target.display ∨
        tree.pathExists target = true ∧
        RuleSet.without config.disabled = .error error := by
  unfold withConfig
  cases tree.pathExists target with
  | false => simp [eq_comm]
  | true =>
      cases RuleSet.without config.disabled with
      | error cause => simp
      | ok rules =>
          simp only [Bool.not_true, Bool.false_eq_true, if_false]
          split <;> simp

/-- An audit fails for the first reason that applies. -/
theorem run_eq_error_iff {error : AuditError} :
    (run tree target configPath).result = .error error ↔
      Fails tree target configPath error := by
  constructor
  · intro failure
    have fromConfig : ∀ {config}, Config.Applies tree configPath config →
        Fails tree target configPath error := by
      intro config applies
      rw [run_of_applies applies, withConfig_eq_error_iff] at failure
      rcases failure with ⟨absent, rfl⟩ | ⟨present, refused⟩
      · exact .target applies absent
      · obtain ⟨before, id, after, listed, known, unknown, rfl⟩ :=
          RuleSet.without_eq_error_iff.mp refused
        exact .rule applies present listed known unknown
    cases configPath with
    | none => exact fromConfig .default
    | some path =>
        rcases Config.load_spec tree path
          with ⟨config, -, applies⟩ | ⟨cause, failed, unusable⟩
        · exact fromConfig applies
        · simp only [run, failed, Except.error.injEq] at failure
          exact failure ▸ .config unusable
  · intro fails
    cases fails with
    | config unusable => simp only [run, unusable.load_eq]
    | target applies absent =>
        rw [run_of_applies applies, withConfig_eq_error_iff]
        exact .inl ⟨absent, rfl⟩
    | rule applies present listed known unknown =>
        rw [run_of_applies applies, withConfig_eq_error_iff]
        exact .inr ⟨present, RuleSet.without_eq_error_iff.mpr
          ⟨_, _, _, listed, known, unknown, rfl⟩⟩

/-- An audit fails exactly for the first of these reasons that applies, and otherwise
there is a report. Of the tree only the configuration file and whether the skill exists
matter for that. -/
theorem fails_only_from_outside
    (tree : FileTree)
    (target : Path)
    (configPath : Option Path) :
    (∀ error, (run tree target configPath).result = .error error ↔
      Fails tree target configPath error) ∧
    ((¬∃ error, Fails tree target configPath error) →
      ∃ report, (run tree target configPath).result = .ok report) ∧
    (∀ other : FileTree,
      (∀ path ∈ configPath, other.read path = tree.read path) →
      other.pathExists target = tree.pathExists target →
      ∀ error, (run other target configPath).result = .error error ↔
        (run tree target configPath).result = .error error) := by
  refine ⟨fun error => run_eq_error_iff, fun unfailing => ?_,
    fun other sameFile sameTarget => ?_⟩
  · cases result : (run tree target configPath).result with
    | ok report => exact ⟨report, rfl⟩
    | error error => exact absurd ⟨error, run_eq_error_iff.mp result⟩ unfailing
  · intro error
    cases configPath with
    | none => simp only [run, withConfig_eq_error_iff, sameTarget]
    | some path =>
        have sameConfig : Config.load other path = Config.load tree path := by
          simp only [Config.load, sameFile path rfl]
        simp only [run, sameConfig]
        cases Config.load tree path with
        | error cause => exact Iff.rfl
        | ok config => simp only [withConfig_eq_error_iff, sameTarget]

end Audit
end ScriptAudit
