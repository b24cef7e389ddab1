import NetOps.Evaluation.Executor
import NetOps.Evaluation.Policies
import NetOps.Policies.Packages

/-!
# Evaluation.Engine

The evaluation of a comparison (`evaluation/engine.py`): every difference against every applicable
rule, the first exception that applies to the pair waiving it, and the scores and status of all
results and of the results of each policy.
-/

namespace NetOps
namespace Evaluation

open Discovery (UUID DateTime PyVal PyDict)
open Compliance (Difference Rule Policy)
open Policies (PolicyPackage EvaluationRuleRegistry PolicyPackageResolver.resolveWithVersions)

/-- What the engine is set up with, and the time of the evaluation. -/
structure EvaluationEngine where
  py : Builtins
  registry : EvaluationRuleRegistry := {}
  now : DateTime

namespace EvaluationEngine

variable (engine : EvaluationEngine)

/-- `_resolve_policy_packages`: the policies, those of packages last, with the versions of these. -/
def resolvePolicyPackages (policies : List (Policy ⊕ PolicyPackage)) :
    Except EvaluationError (List Policy × Dict UUID String) := do
  let resolved ← PolicyPackageResolver.resolveWithVersions engine.registry
    (policies.filterMap Sum.getRight?)
  pure (policies.filterMap Sum.getLeft? ++ resolved.map Prod.fst,
    .ofList (resolved.map fun e => (e.1.id, e.2)))

/-- A key of the expected state that is not `None` has to be the text. -/
def selects (expectedState : PyDict) (key : String) (text : Option String) : Bool :=
  match expectedState.getD key with
  | .none => true
  | .str wanted => some wanted == text
  | _ => false

def ruleSelects (rule : Rule) (difference : Difference) : Bool :=
  selects rule.expectedState "subject_type" (some difference.subjectType) &&
    selects rule.expectedState "field_name" difference.fieldName &&
    match rule.expectedState.getD "difference_type" with
    | .none => true
    | wanted => wanted.text == difference.differenceType.value

def rulesForDifference (rules : List Rule) (difference : Difference) : List Rule :=
  rules.filter fun rule => ruleSelects rule difference

/-- `_exception_for`: the first exception that applies. -/
def exceptionFor (now : DateTime) (ruleKey : String) (difference : Difference) :
    List EvaluationException → Except EvaluationError (Option EvaluationException)
  | [] => .ok none
  | exception :: rest => do
    let applies ← exception.appliesTo now ruleKey difference
    if applies then pure (some exception) else exceptionFor now ruleKey difference rest

/-- The pairs that are evaluated, in order. -/
def pairs (rules : List Rule) (differences : List Difference) : List (Difference × Rule) :=
  differences.flatMap fun difference =>
    (rulesForDifference rules difference).map fun rule => (difference, rule)

def evaluatePair (exceptions : List EvaluationException) (p : Difference × Rule) :
    Except EvaluationError RuleEvaluationResult := do
  let exception ← exceptionFor engine.now p.2.key p.1 exceptions
  RuleExecutor.execute engine.py engine.now p.2 p.1 exception

/-- `_status`. -/
def statusOf (results : List RuleEvaluationResult) : EvaluationStatus :=
  if results = [] then .notApplicable
  else if results.any (·.status = .nonCompliant) then .nonCompliant
  else if results.all (·.status = .waived) then .waived
  else .compliant

/-- `max(risk_scores, default=0)`. -/
def riskOf (results : List RuleEvaluationResult) : Int := ((results.map (·.riskScore)).max?).getD 0

def scoreOf (results : List RuleEvaluationResult) : Int :=
  ComplianceScoreCalculator.score (results.map (·.riskScore))

/-- `_metrics`. -/
def metricsOf (totalRules : Nat) (results : List RuleEvaluationResult) : EvaluationMetrics where
  totalRules := totalRules
  evaluatedRules := results.length
  compliant := results.countP (·.status = .compliant)
  nonCompliant := results.countP (·.status = .nonCompliant)
  waived := results.countP (·.status = .waived)
  notApplicable := results.countP (·.status = .notApplicable)
  errors := results.countP (·.status = .error)
  riskScore := riskOf results
  complianceScore := scoreOf results

/-- `_policy_results`: the results of each policy, in the order the policies first occur. -/
def policyResults (policyForRule : Dict String Policy) (results : List RuleEvaluationResult)
    (packageVersions : Dict UUID String) : List PolicyEvaluationResult :=
  let grouped : Dict UUID (Policy × List RuleEvaluationResult) :=
    results.foldl (fun groups result =>
      match policyForRule.get? result.ruleKey with
      | none => groups
      | some policy => groups.insert policy.id
          (policy, ((groups.get? policy.id).map Prod.snd).getD [] ++ [result])) .empty
  grouped.values.map fun g => {
    policyId := g.1.id
    policyKey := g.1.name
    version := (packageVersions.get? g.1.id).getD "unknown"
    status := statusOf g.2
    riskScore := riskOf g.2
    complianceScore := scoreOf g.2
    ruleResults := g.2 }

/-- What is evaluated, before the exceptions are looked at. -/
structure Prepared where
  rules : List Rule
  policyForRule : Dict String Policy
  packageVersions : Dict UUID String
  pairs : List (Difference × Rule)

def prepare (context : EvaluationContext) (policies : List (Policy ⊕ PolicyPackage)) :
    Except EvaluationError Prepared := do
  let (policies, packageVersions) ← engine.resolvePolicyPackages policies
  let entries := PolicyEvaluator.applicableRulesWithSource policies context
  let rules := entries.map Prod.fst
  pure {
    rules := rules
    policyForRule := .ofList (entries.map fun e => (e.1.key, e.2))
    packageVersions := packageVersions
    pairs := pairs rules context.differences }

def decision (prepared : Prepared) (results : List RuleEvaluationResult) : EvaluationDecision where
  status := statusOf results
  riskScore := riskOf results
  complianceScore := scoreOf results
  severity := RiskCalculator.severityForScore (riskOf results)
  recommendations := results.filterMap (·.recommendation)
  evidence := results.flatMap (·.evidence)
  ruleResults := results
  policyResults := policyResults prepared.policyForRule results prepared.packageVersions
  metrics := metricsOf prepared.rules.length results
  decidedAt := engine.now

def evaluate (context : EvaluationContext) (policies : List (Policy ⊕ PolicyPackage)) :
    Except EvaluationError EvaluationDecision := do
  let prepared ← engine.prepare context policies
  let results ← prepared.pairs.mapM (engine.evaluatePair context.exceptions)
  pure (engine.decision prepared results)

end EvaluationEngine
end Evaluation
end NetOps
