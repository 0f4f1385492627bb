/-!
# Severities

How serious a finding is. Rules belong to one of two tiers; the lowest severity is
kept for files that could not be read.
-/

namespace ScriptAudit

/-- How serious a finding is. -/
inductive Severity
  /-- A file or directory could not be read. -/
  | low
  /-- Advice that does not fail a skill. -/
  | medium
  /-- A construct that fails a skill. -/
  | high
  deriving Repr, DecidableEq

namespace Severity

/-- The name of a severity. -/
def name : Severity → String
  | .low => "LOW"
  | .medium => "MEDIUM"
  | .high => "HIGH"

/-- The position of a severity among all of them. -/
def rank : Severity → Nat
  | .low => 0
  | .medium => 1
  | .high => 2

end Severity

/-- The tier that a rule belongs to. -/
inductive Tier
  | high
  | medium
  deriving Repr, DecidableEq

namespace Tier

/-- The tiers in the order in which their rules are applied. -/
def scanOrder : List Tier :=
  [.high, .medium]

/-- The severity of the findings of a tier's rules. -/
def severity : Tier → Severity
  | .high => .high
  | .medium => .medium

/-- The name of a tier. -/
def name (tier : Tier) : String :=
  tier.severity.name

end Tier
end ScriptAudit
