import NetOps.Compliance.Models

/-!
# Evaluation.Context

What an evaluation is given and what it answers (`evaluation/context.py`).
-/

namespace NetOps
namespace Evaluation

open Discovery (UUID DateTime PyVal PyDict)
open Compliance (Difference Evidence Recommendation Severity)

/-- What an evaluation raises. -/
inductive EvaluationError where
  | ruleEvaluationError (message : String)
  | ruleRegistrationError (message : String)
  | valueError
  | typeError
  deriving DecidableEq

inductive RuleType where
  | equals
  | notEquals
  | exists
  | missing
  | regex
  | contains
  | greaterThan
  | lessThan
  | versionCompare
  | booleanCompare
  deriving DecidableEq

namespace RuleType

def value : RuleType → String
  | .equals => "equals"
  | .notEquals => "not_equals"
  | .exists => "exists"
  | .missing => "missing"
  | .regex => "regex"
  | .contains => "contains"
  | .greaterThan => "greater_than"
  | .lessThan => "less_than"
  | .versionCompare => "version_compare"
  | .booleanCompare => "boolean_compare"

def all : List RuleType := [.equals, .notEquals, .exists, .missing, .regex, .contains,
  .greaterThan, .lessThan, .versionCompare, .booleanCompare]

/-- `RuleType(text)`; `none` is a `ValueError`. -/
def ofValue (text : String) : Option RuleType := all.find? fun t => t.value == text

end RuleType

inductive EvaluationStatus where
  | compliant
  | nonCompliant
  | waived
  | notApplicable
  | error
  deriving DecidableEq

/-- A `datetime`, with a time zone or without one. -/
inductive PyDateTime where
  | aware (time : DateTime)
  | naive (time : DateTime)
  deriving DecidableEq

structure EvaluationException where
  key : String
  reason : String
  approvedBy : String
  subjectType : Option String := none
  subjectId : Option String := none
  ruleKey : Option String := none
  expiresAt : Option PyDateTime := none

namespace EvaluationException

/-- `expires_at <= datetime.now(UTC)`: an aware and a naive time cannot be compared. -/
def expired (e : EvaluationException) (now : DateTime) : Except EvaluationError Bool :=
  match e.expiresAt with
  | none => .ok false
  | some (.aware time) => .ok (time ≤ now)
  | some (.naive _) => .error .typeError

/-- What the exception names, it names of the rule and the difference. -/
def covers (e : EvaluationException) (ruleKey : String) (d : Difference) : Bool :=
  e.ruleKey.all (· == ruleKey) && e.subjectType.all (· == d.subjectType) &&
    e.subjectId.all (· == d.subjectId)

def appliesTo (e : EvaluationException) (now : DateTime) (ruleKey : String) (d : Difference) :
    Except EvaluationError Bool := do
  let expired ← e.expired now
  if expired then pure false else pure (e.covers ruleKey d)

end EvaluationException

structure RuleEvaluationResult where
  ruleId : UUID
  ruleKey : String
  difference : Difference
  status : EvaluationStatus
  passed : Bool
  riskScore : Int
  severity : Severity
  evidence : List Evidence := []
  recommendation : Option Recommendation := none
  exception : Option EvaluationException := none
  message : Option String := none
  evaluatedAt : DateTime

structure PolicyEvaluationResult where
  policyId : UUID
  policyKey : String
  version : String
  status : EvaluationStatus
  riskScore : Int
  complianceScore : Int
  ruleResults : List RuleEvaluationResult := []

structure EvaluationMetrics where
  totalRules : Nat
  evaluatedRules : Nat
  compliant : Nat
  nonCompliant : Nat
  waived : Nat
  notApplicable : Nat
  errors : Nat
  riskScore : Int
  complianceScore : Int

structure EvaluationDecision where
  status : EvaluationStatus
  riskScore : Int
  complianceScore : Int
  severity : Severity
  recommendations : List Recommendation
  evidence : List Evidence
  ruleResults : List RuleEvaluationResult
  policyResults : List PolicyEvaluationResult
  metrics : EvaluationMetrics
  decidedAt : DateTime

/-- Of the comparison result only the differences are evaluated. -/
structure EvaluationContext where
  differences : List Difference := []
  metadata : PyDict := []
  exceptions : List EvaluationException := []

namespace EvaluationContext

/-- `_text`. -/
def text (context : EvaluationContext) (key : String) : Option String :=
  match context.metadata.getD key with
  | .none => none
  | value => if Text.strip value.text = "" then none else some (Text.strip value.text)

def site (context : EvaluationContext) : Option String := context.text "site"

def deviceRole (context : EvaluationContext) : Option String := context.text "device_role"

def platform (context : EvaluationContext) : Option String := context.text "platform"

def vendor (context : EvaluationContext) : Option String := context.text "vendor"

def deviceType (context : EvaluationContext) : Option String := context.text "device_type"

end EvaluationContext
end Evaluation
end NetOps
