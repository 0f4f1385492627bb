import ScriptAudit.CommandLine
import ScriptAudit.Proofs.Audit.Result
import ScriptAudit.Proofs.FileTree.Writing

/-!
# The delivery of a report

A scan from the command line ends in one of four ways: the audit fails, or its report is
printed, written to a file, or refused by the file. The exit code, the standard output
and the tree that is left behind follow from that, and the format decides about nothing
but the text that is delivered.
-/

namespace ScriptAudit

/-- A skill passes exactly when no finding of its report has high severity. -/
theorem Audit.passed_iff_of_run
    {tree : FileTree}
    {target : Path}
    {configPath : Option Path}
    {report : Report}
    (succeeds : (run tree target configPath).result = .ok report) :
    report.passed = true ↔ ∀ finding ∈ report.findings, finding.severity ≠ .high := by
  have ofConfig : ∀ {config}, (withConfig tree target config).result = .ok report →
      (report.passed = true ↔ ∀ finding ∈ report.findings, finding.severity ≠ .high) := by
    intro config succeeds
    obtain ⟨-, -, rfl⟩ := result_eq_ok_iff.mp succeeds
    exact reportOn_passed_iff
  cases configPath with
  | none => exact ofConfig succeeds
  | some path =>
      unfold run at succeeds
      cases loaded : Config.load tree path with
      | error error => simp [loaded] at succeeds
      | ok config => exact ofConfig (by simpa [loaded] using succeeds)

namespace CommandLine

/-- The format that a name stands for, JSON if it is not known. -/
def formatOf (name : String) : Report.Format :=
  (Report.Format.ofName? name).getD .json

/-- Names that differ in letter case only stand for the same format. -/
theorem formatOf_congr
    {first second : String}
    (same : first.toList.map Char.toLower = second.toList.map Char.toLower) :
    formatOf first = formatOf second := by
  unfold formatOf Report.Format.ofName?
  rw [same]

theorem formatOf_of_unknown
    {name : String}
    (unknown : Report.Format.ofName? name = none) :
    formatOf name = .json := by
  rw [formatOf, unknown]
  rfl

theorem chooseFormat_fst (name : String) : (chooseFormat name).1 = formatOf name := by
  unfold chooseFormat formatOf
  cases Report.Format.ofName? name <;> rfl

/-- The text of a report can be delivered: the standard output takes it, and so does a
file that can be written. -/
def IsDelivered (tree : FileTree) (output : Option Path) : Prop :=
  ∀ path ∈ output, tree.IsWritable path

section Endings

variable (tree : FileTree) (target : Path) (config output : Option Path)

/-- The ways in which a scan can end. -/
inductive Ends (format : Report.Format) : Result → Prop
  /-- The audit failed. -/
  | failed {error : AuditError} {warning : String}
      (failure : (Audit.run tree target config).result = .error error) :
      Ends format (CommandLine.failure tree warning error)
  /-- The report was printed. -/
  | printed {report : Report} {warning : String}
      (succeeds : (Audit.run tree target config).result = .ok report)
      (toStdout : output = none) :
      Ends format ⟨verdictCode report, report.render format ++ "\n", warning, tree⟩
  /-- The report was written to a file. -/
  | written {report : Report} {warning : String} {path : Path} {written : FileTree}
      (succeeds : (Audit.run tree target config).result = .ok report)
      (toFile : output = some path)
      (success : tree.write path (Text.encode (report.render format).toList) =
        .ok written) : Ends format ⟨verdictCode report, "", warning, written⟩
  /-- The file could not be written. -/
  | refused {report : Report} {warning : String} {path : Path} {error : OsError}
      (succeeds : (Audit.run tree target config).result = .ok report)
      (toFile : output = some path)
      (failure : tree.write path (Text.encode (report.render format).toList) =
        .error error) : Ends format (CommandLine.failure tree warning (.io (.os error)))

/-- The exit code is given by the audit and by whether its report is delivered. -/
inductive Exits : Nat → Prop
  | delivered {report : Report}
      (succeeds : (Audit.run tree target config).result = .ok report)
      (isDelivered : IsDelivered tree output) :
      Exits (verdictCode report)
  | undelivered {report : Report}
      (succeeds : (Audit.run tree target config).result = .ok report)
      (notDelivered : ¬IsDelivered tree output) :
      Exits 2
  | failed {error : AuditError}
      (failure : (Audit.run tree target config).result = .error error) :
      Exits error.exitCode

end Endings

variable {tree : FileTree} {target : Path} {config output : Option Path}

/-- Every scan ends in one of these ways. -/
theorem scan_ends (tree : FileTree) (target : Path) (options : Options) :
    Ends tree target options.config options.output (formatOf (options.format.getD "json"))
      (scan tree target options) := by
  rw [← chooseFormat_fst]
  unfold scan
  cases audited : (Audit.run tree target options.config).result with
  | error error => exact .failed audited
  | ok report =>
      cases toFile : options.output with
      | none => exact .printed audited rfl
      | some path =>
          dsimp only
          cases success : tree.write path (Text.encode (report.render
              (chooseFormat (options.format.getD "json")).1).toList) with
          | ok written => exact .written audited rfl success
          | error error => exact .refused audited rfl success

/-! ## Exit codes -/

theorem verdictCode_eq_zero_iff {report : Report} :
    verdictCode report = 0 ↔ report.passed = true := by
  unfold verdictCode
  cases report.passed <;> decide

theorem verdictCode_eq_one_iff {report : Report} :
    verdictCode report = 1 ↔ report.passed = false := by
  unfold verdictCode
  cases report.passed <;> decide

namespace Exits

variable {code other : Nat}

/-- The exit code depends on nothing else. -/
theorem eq
    {otherOutput : Option Path}
    (exits : Exits tree target config output code)
    (otherExits : Exits tree target config otherOutput other)
    (sameDelivery : IsDelivered tree otherOutput ↔ IsDelivered tree output) :
    code = other := by
  cases exits <;> cases otherExits <;> simp_all

theorem eq_zero_iff (exits : Exits tree target config output code) :
    code = 0 ↔ ∃ report, (Audit.run tree target config).result = .ok report ∧
      IsDelivered tree output ∧ ∀ finding ∈ report.findings,
      finding.severity ≠ .high := by
  cases exits with
  | delivered succeeds isDelivered =>
      rw [verdictCode_eq_zero_iff, Audit.passed_iff_of_run succeeds]
      simp [succeeds, isDelivered]
  | undelivered succeeds notDelivered => simp [notDelivered]
  | failed failure =>
      rename_i error
      cases error <;> simp [failure, AuditError.exitCode]

theorem eq_one_iff (exits : Exits tree target config output code) :
    code = 1 ↔
      (∃ report, (Audit.run tree target config).result = .ok report ∧
        IsDelivered tree output ∧ ∃ finding ∈ report.findings, finding.severity = .high) ∨
      ∃ name, (Audit.run tree target config).result = .error (.targetNotFound name) := by
  cases exits with
  | delivered succeeds isDelivered =>
      rw [verdictCode_eq_one_iff, ← Bool.not_eq_true, Audit.passed_iff_of_run succeeds]
      simp [succeeds, isDelivered]
  | undelivered succeeds notDelivered => simp [succeeds, notDelivered]
  | failed failure =>
      rename_i error
      cases error <;> simp [failure, AuditError.exitCode]

theorem le_two (exits : Exits tree target config output code) : code ≤ 2 := by
  cases exits with
  | delivered =>
      unfold verdictCode
      split <;> decide
  | undelivered => exact Nat.le_refl 2
  | failed =>
      unfold AuditError.exitCode
      split <;> decide

end Exits

/-! ## What is left behind -/

namespace Ends

variable {format : Report.Format} {result : Result} {path : Path} {report : Report}

theorem exits (ends : Ends tree target config output format result) :
    Exits tree target config output result.exitCode := by
  cases ends with
  | failed failure => exact .failed failure
  | printed succeeds toStdout =>
      exact .delivered succeeds (by simp [IsDelivered, toStdout])
  | written succeeds toFile success =>
      refine .delivered succeeds ?_
      simpa [IsDelivered, toFile] using FileTree.write_isOk_iff.mp ⟨_, success⟩
  | refused succeeds toFile failure =>
      refine .undelivered succeeds fun isDelivered => ?_
      obtain ⟨written, success⟩ := FileTree.write_isOk_iff.mpr (isDelivered _ toFile)
      rw [failure] at success
      cases success

/-- What is delivered depends on the format only. -/
theorem stdout_and_tree_eq
    {other : Result}
    (ends : Ends tree target config output format result)
    (otherEnds : Ends tree target config output format other) :
    result.stdout = other.stdout ∧ result.tree = other.tree := by
  cases ends <;> cases otherEnds <;> simp_all [failure]

theorem of_stdout
    (ends : Ends tree target config none format result)
    (succeeds : (Audit.run tree target config).result = .ok report) :
    result.stdout = report.render format ++ "\n" ∧ result.tree = tree := by
  cases ends <;> simp_all

/-- A file that can be written holds the text of the report. -/
theorem of_file
    (ends : Ends tree target config (some path) format result)
    (isWritable : tree.IsWritable path)
    (succeeds : (Audit.run tree target config).result = .ok report) :
    result.tree.read path = .ok (Text.encode (report.render format).toList) ∧
      ∃ location, ∀ other, other ≠ location →
        result.tree.get? other = tree.get? other := by
  cases ends with
  | failed failure =>
      rw [succeeds] at failure
      cases failure
  | printed _ toStdout => cases toStdout
  | written audited toFile success =>
      cases toFile
      rw [succeeds] at audited
      cases audited
      exact ⟨FileTree.read_of_write success,
        (FileTree.exists_location_of_write success).2⟩
  | refused _ toFile failure =>
      cases toFile
      obtain ⟨written, success⟩ := FileTree.write_isOk_iff.mpr isWritable
      rw [failure] at success
      cases success

theorem stdout_of_file (ends : Ends tree target config (some path) format result) :
    result.stdout = "" := by
  cases ends <;> simp_all [failure]

theorem of_failure
    {error : AuditError}
    (ends : Ends tree target config output format result)
    (failed : (Audit.run tree target config).result = .error error) :
    result.stdout = "" ∧ result.tree = tree := by
  cases ends <;> simp_all [failure]

end Ends

/-- The exit code of a scan tells whether its report was delivered and what the verdict
is, in every format. The text of the report is printed where no file is given. A file
that can be written takes it, and nothing else in the tree changes. Names of formats
that differ in letter case deliver the same, an unknown one delivers JSON, and an audit
that fails leaves nothing behind. -/
theorem scan_delivery
    (tree : FileTree)
    (target : Path)
    (options : Options) :
    let audit := (Audit.run tree target options.config).result
    let scanAs (format : String) (output : Option Path) : Result :=
      scan tree target { options with format := some format, output := output }
    (∀ first second output,
      (scanAs first output).exitCode = (scanAs second output).exitCode) ∧
    (∀ format output,
      ((scanAs format output).exitCode = 0 ↔
        ∃ report, audit = .ok report ∧ IsDelivered tree output ∧
          ∀ finding ∈ report.findings, finding.severity ≠ .high) ∧
      ((scanAs format output).exitCode = 1 ↔
        (∃ report, audit = .ok report ∧ IsDelivered tree output ∧
          ∃ finding ∈ report.findings, finding.severity = .high) ∨
        ∃ name, audit = .error (.targetNotFound name)) ∧
      ((scanAs format output).exitCode ≠ 0 → (scanAs format output).exitCode ≠ 1 →
        (scanAs format output).exitCode = 2)) ∧
    (∀ format report, audit = .ok report →
      (scanAs format none).stdout = report.render (formatOf format) ++ "\n" ∧
        (scanAs format none).tree = tree) ∧
    (∀ format path, tree.IsWritable path →
      (scanAs format (some path)).stdout = "" ∧
        (scanAs format (some path)).exitCode = (scanAs format none).exitCode ∧
        ∀ report, audit = .ok report →
          (scanAs format (some path)).tree.read path =
              .ok (Text.encode (report.render (formatOf format)).toList) ∧
            ∃ location, ∀ other, other ≠ location →
              (scanAs format (some path)).tree.get? other = tree.get? other) ∧
    (∀ first second output,
      first.toList.map Char.toLower = second.toList.map Char.toLower ∨
          Report.Format.ofName? first = none ∧ second = "json" →
        (scanAs first output).stdout = (scanAs second output).stdout ∧
          (scanAs first output).tree = (scanAs second output).tree) ∧
    (∀ format output error, audit = .error error →
      (scanAs format output).stdout = "" ∧ (scanAs format output).tree = tree) := by
  intro audit scanAs
  have ends : ∀ format output, Ends tree target options.config output (formatOf format)
      (scanAs format output) := fun format output =>
    scan_ends tree target { options with format := some format, output := output }
  refine ⟨fun first second output => ?_, fun format output => ?_,
    fun format report => (ends format none).of_stdout, fun format path isWritable => ?_,
    fun first second output alike => ?_,
      fun format output error => (ends format output).of_failure⟩
  · exact (ends first output).exits.eq (ends second output).exits Iff.rfl
  · have exits := (ends format output).exits
    have small := exits.le_two
    refine ⟨exits.eq_zero_iff, exits.eq_one_iff, fun notZero notOne => ?_⟩
    omega
  · refine ⟨(ends format (some path)).stdout_of_file, ?_,
      fun report => (ends format (some path)).of_file isWritable⟩
    refine (ends format (some path)).exits.eq (ends format none).exits ?_
    simp [IsDelivered, isWritable]
  · have sameFormat : formatOf first = formatOf second := by
      rcases alike with sameLetters | ⟨unknown, rfl⟩
      · exact formatOf_congr sameLetters
      · rw [formatOf_of_unknown unknown]
        decide
    exact (ends first output).stdout_and_tree_eq (sameFormat ▸ ends second output)

end CommandLine
end ScriptAudit
