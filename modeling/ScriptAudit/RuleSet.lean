import ScriptAudit.Catalog.Builtin
import ScriptAudit.Error

/-!
# Rule sets

The built-in rules without those that are switched off.
-/

namespace ScriptAudit

/-- The rules that a scan applies. -/
structure RuleSet where
  /-- The ids of the rules that are switched off. -/
  disabled : List String

/-- What is listed about a rule. -/
structure RuleInfo where
  id : String
  language : Language
  severity : Severity
  description : String
  pattern : String
  deriving Repr, DecidableEq

namespace Rule

/-- What is listed about a rule. -/
def info (rule : Rule) : RuleInfo :=
  ⟨rule.id, rule.language, rule.tier.severity, rule.description, rule.pattern.source⟩

end Rule

namespace RuleSet

/-- The built-in rules without some of them. An id that no rule has is an error, so
that a misspelt one cannot leave a rule switched on unnoticed. -/
def without (ids : List String) : Except AuditError RuleSet :=
  match ids.find? fun id => !Catalog.builtin.contains id with
  | some id => .error (.config (.unknownRule id))
  | none => .ok ⟨ids⟩

/-- Whether a rule is applied. -/
def enables (rules : RuleSet) (rule : Rule) : Bool :=
  !rules.disabled.contains rule.id

/-- The rules that are applied to a language, in scan order. -/
def rulesFor (rules : RuleSet) (language : Language) : List Rule :=
  (Catalog.builtin.rulesFor language).filter rules.enables

/-- The list of all rules that are applied. -/
def list (rules : RuleSet) : List RuleInfo :=
  (Catalog.builtin.toList.filter rules.enables).map Rule.info

end RuleSet

namespace RuleInfo

/-- The written form of what is listed about a rule. -/
def toJson (rule : RuleInfo) : Json :=
  .object
    [("id", .string rule.id),
      ("language", .string rule.language.name),
      ("severity", .string rule.severity.name),
      ("description", .string rule.description),
      ("pattern", .string rule.pattern)]

end RuleInfo
end ScriptAudit
