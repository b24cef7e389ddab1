import Mathlib.Data.List.Lex
import NetOps.Evaluation.Scoring

/-!
# Evaluation.Executor

One rule against one difference (`evaluation/executor.py`, `evaluation/remediation.py`).
-/

namespace NetOps
namespace Evaluation

open Discovery (DateTime PyVal PyDict textOfUuid)
open Compliance (Difference Evidence Recommendation Rule Severity)

namespace RecommendationBuilder

def build (rule : Rule) (difference : Difference) (severity : Severity) : Recommendation where
  summary := s!"Remediate {difference.subjectType} drift for {difference.subjectId}."
  rationale := some (s!"Rule {rule.key} failed with severity " ++
    s!"{severity.label.getD severity.level.value}.")
  steps := ["Validate NetBox source-of-truth data.",
    "Validate live observed device state.",
    "Apply an approved operational change outside this platform.",
    "Run discovery and comparison again."]

end RecommendationBuilder

namespace RuleExecutor

variable (py : Builtins) (now : DateTime)

def ruleType (rule : Rule) : Except EvaluationError RuleType :=
  let value := (rule.expectedState.get? "rule_type").getD (.str RuleType.equals.value)
  match RuleType.ofValue value.text with
  | some ruleType => .ok ruleType
  | none => .error (.ruleEvaluationError s!"Unsupported rule type: {py.repr value}")

/-! ## The handlers -/

def normalize (value : PyVal) : String :=
  match value with
  | .none => ""
  | value => py.casefold (Text.strip value.text)

def isNone : PyVal → Bool
  | .none => true
  | _ => false

def isBlank (value : PyVal) : Bool := isNone value || Text.strip value.text == ""

/-- A handler that answers `False` when a side is `None`. -/
def bothGiven (expected observed : PyVal) (test : String → String → Option Bool) : Option Bool :=
  if isNone expected || isNone observed then some false else test expected.text observed.text

def versionCompare (expected observed : String) : Option Bool := do
  let observed ← py.numbers observed
  let expected ← py.numbers expected
  pure (expected ≤ observed)

/-- `_bool`. -/
def boolOf (value : PyVal) : Option Bool :=
  match value with
  | .bool b => some b
  | .none => none
  | value =>
    let normalized := py.casefold (Text.strip value.text)
    if normalized ∈ ["true", "yes", "enabled", "up", "1"] then some true
    else if normalized ∈ ["false", "no", "disabled", "down", "0"] then some false
    else none

def handle (expected observed : PyVal) : RuleType → Option Bool
  | .equals => some (normalize py expected == normalize py observed)
  | .notEquals => some (normalize py expected != normalize py observed)
  | .exists => some (!isBlank observed)
  | .missing => some (isBlank observed)
  | .regex => bothGiven expected observed py.search
  | .contains => some (Text.hasPart expected.text observed.text)
  | .greaterThan => bothGiven expected observed fun e o => py.floatGt o e
  | .lessThan => bothGiven expected observed fun e o => py.floatGt e o
  | .versionCompare => bothGiven expected observed (versionCompare py)
  | .booleanCompare => some (boolOf py expected == boolOf py observed)

def evaluate (ruleType : RuleType) (expectedState : PyDict) (difference : Difference) :
    Except EvaluationError Bool :=
  let expected := (expectedState.get? "expected").getD difference.expected
  match handle py expected difference.observed ruleType with
  | some passed => .ok passed
  | none => .error (.ruleEvaluationError s!"Rule '{ruleType.value}' failed to evaluate.")

/-! ## Results -/

def outcome (passed : Bool) : String := if passed then "passed" else "failed"

def evidence (rule : Rule) (difference : Difference) (passed : Bool) : Evidence where
  source := "evaluation-engine"
  description := s!"Rule {rule.key} {outcome passed} for {difference.key}."
  reference := some s!"evaluation:{rule.key}:{difference.key}"
  details := [("rule_id", .str (textOfUuid rule.id)), ("rule_key", .str rule.key),
    ("difference_id", .str (textOfUuid difference.id)), ("difference_key", .str difference.key),
    ("expected", difference.expected), ("observed", difference.observed),
    ("passed", .bool passed)]
  capturedAt := now

/-- `_waived`. -/
def waived (rule : Rule) (difference : Difference) (exception : EvaluationException) :
    RuleEvaluationResult where
  ruleId := rule.id
  ruleKey := rule.key
  difference := difference
  status := .waived
  passed := true
  riskScore := 0
  severity := RiskCalculator.severityForScore 0
  evidence := [evidence now rule difference true]
  exception := some exception
  message := some s!"Rule waived by {exception.approvedBy}: {exception.reason}"
  evaluatedAt := now

def passedResult (rule : Rule) (difference : Difference) : RuleEvaluationResult where
  ruleId := rule.id
  ruleKey := rule.key
  difference := difference
  status := .compliant
  passed := true
  riskScore := 0
  severity := RiskCalculator.severityForScore 0
  evidence := [evidence now rule difference true]
  message := some "Rule passed."
  evaluatedAt := now

def failedResult (rule : Rule) (difference : Difference) (riskScore : Int) :
    RuleEvaluationResult where
  ruleId := rule.id
  ruleKey := rule.key
  difference := difference
  status := .nonCompliant
  passed := false
  riskScore := riskScore
  severity := RiskCalculator.severityForScore riskScore
  evidence := [evidence now rule difference false]
  recommendation := some (RecommendationBuilder.build rule difference
    (RiskCalculator.severityForScore riskScore))
  message := some "Rule failed."
  evaluatedAt := now

def execute (rule : Rule) (difference : Difference) (exception : Option EvaluationException) :
    Except EvaluationError RuleEvaluationResult := do
  let ruleType ← ruleType py rule
  match exception with
  | some exception => pure (waived now rule difference exception)
  | none =>
    let passed ← evaluate py ruleType rule.expectedState difference
    if passed then pure (passedResult now rule difference)
    else do
      let riskScore ← RiskCalculator.score py rule difference
      pure (failedResult now rule difference riskScore)

end RuleExecutor
end Evaluation
end NetOps
