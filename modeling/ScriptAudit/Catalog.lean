import ScriptAudit.Language
import ScriptAudit.Pattern.Compiled
import ScriptAudit.Severity

/-!
# Rule catalogues

A catalogue is compiled from tables, each of which declares the rules of one
language and tier. Rules are applied tier by tier, in the order of the tables and
of the declarations within a table.
-/

namespace ScriptAudit

/-- A rule as it is declared in a table. -/
structure Declaration where
  id : String
  pattern : String
  description : String
  deriving Repr, DecidableEq

/-- The rules of a language that belong to a tier. -/
structure RuleTable where
  language : Language
  tier : Tier
  rules : List Declaration
  deriving Repr, DecidableEq

/-- A rule that can be applied to lines. -/
structure Rule where
  id : String
  language : Language
  tier : Tier
  description : String
  pattern : Pattern.Compiled

/-- The reasons for which tables make no catalogue. -/
inductive CatalogError
  | duplicate (id : String)
  | malformed (id : String) (cause : Pattern.PatternError)
  deriving Repr, DecidableEq

/-- The wording of a rejected table. -/
def CatalogError.message : CatalogError → String
  | .duplicate id => "duplicate rule id " ++ id
  | .malformed id cause => "rule " ++ id ++ ": " ++ cause.message

/-- Rules in the order in which they are applied. -/
structure Catalog where
  rules : List Rule

namespace Catalog

/-- The declarations of some tables in scan order, each with its language and
tier. -/
def declarations (tables : List RuleTable) :
    List (Language × Tier × Declaration) :=
  Tier.scanOrder.flatMap fun tier =>
    (tables.filter fun table => table.tier = tier).flatMap fun table =>
      table.rules.map fun rule => (table.language, tier, rule)

/-- Compile declarations one after the other, given the ids of those already
compiled. A repeated id is noticed before its pattern is read. -/
def compileFrom (seen : List String) :
    List (Language × Tier × Declaration) → Except CatalogError (List Rule)
  | [] => .ok []
  | (language, tier, rule) :: rest =>
      if rule.id ∈ seen then .error (.duplicate rule.id)
      else
        match Pattern.Compiled.ofPattern rule.pattern with
        | .error cause => .error (.malformed rule.id cause)
        | .ok pattern =>
            match compileFrom (rule.id :: seen) rest with
            | .error error => .error error
            | .ok rules =>
                .ok (⟨rule.id, language, tier, rule.description, pattern⟩ :: rules)

/-- Compile tables. The first repeated id or malformed pattern in scan order is
an error. -/
def compile (tables : List RuleTable) : Except CatalogError Catalog :=
  (compileFrom [] (declarations tables)).map Catalog.mk

/-- The rules of a language, in scan order. -/
def rulesFor (catalog : Catalog) (language : Language) : List Rule :=
  catalog.rules.filter fun rule => rule.language = language

/-- All rules, grouped by language. -/
def toList (catalog : Catalog) : List Rule :=
  Language.all.flatMap catalog.rulesFor

/-- Whether some rule has an id. -/
def contains (catalog : Catalog) (id : String) : Bool :=
  catalog.toList.any fun rule => rule.id == id

end Catalog
end ScriptAudit
