import NetOps.Evaluation.Aggregates

/-!
# Decision.Engine

The decisions on the results of an evaluation (`decision/engine.py`, `decision/registry.py`). The
engine decides by a cascade of its own; the rules it registers are a table of the same decisions.

* `decided_by_rules`: on what the evaluation engine makes, the cascade decides as the table does,
  and the traces account for every result once.
* `waiver_passes`: one more exception turns decisions from failing to passing, never back.
-/

namespace NetOps
namespace Decision

open Discovery (UUID DateTime)
open Compliance (Policy)
open Policies (PolicyPackage)
open Evaluation

inductive DecisionStatus where
  | pass
  | fail
  | warning
  | unknown
  | notApplicable
  deriving DecidableEq

/-! ## Rules -/

structure DecisionRuleDefinition where
  code : String
  description : String
  status : DecisionStatus
  confidence : Nat
  matchPolicyStatuses : List EvaluationStatus := []
  matchRuleStatuses : List EvaluationStatus := []
  priority : Int := 0
  deriving DecidableEq

/-- A rule that names no status is for any. -/
def DecisionRuleDefinition.Matches (rule : DecisionRuleDefinition) (status : EvaluationStatus) :
    Prop :=
  rule.matchPolicyStatuses = [] ∨ status ∈ rule.matchPolicyStatuses

instance (rule : DecisionRuleDefinition) (status : EvaluationStatus) :
    Decidable (rule.Matches status) :=
  inferInstanceAs (Decidable (_ ∨ _))

def defaultDecisionRuleDefinitions : List DecisionRuleDefinition :=
  [{ code := "policy_not_applicable"
     description := "No policy rules were applicable during evaluation."
     status := .notApplicable
     confidence := 0
     matchPolicyStatuses := [.notApplicable]
     priority := 100 },
   { code := "policy_non_compliant"
     description := "The evaluation result contains non-compliant rule outcomes."
     status := .fail
     confidence := 100
     matchPolicyStatuses := [.nonCompliant]
     priority := 90 },
   { code := "policy_error"
     description := "The evaluation result contains errors and could not reach full compliance."
     status := .warning
     confidence := 50
     matchPolicyStatuses := [.error]
     priority := 80 },
   { code := "policy_pass"
     description :=
       "The evaluation result is compliant or waived and supports a passing decision."
     status := .pass
     confidence := 100
     matchPolicyStatuses := [.compliant, .waived]
     priority := 70 },
   { code := "policy_unknown"
     description := "The evaluation result could not be mapped to a deterministic decision."
     status := .unknown
     confidence := 25
     priority := 0 }]

abbrev DecisionRegistry := Dict String DecisionRuleDefinition

/-- `none` for the `ValueError` of a code that is registered already. -/
def DecisionRegistry.register (registry : DecisionRegistry) (rule : DecisionRuleDefinition) :
    Option DecisionRegistry :=
  if (registry.get? rule.code).isSome then none else some (registry.insert rule.code rule)

/-- One step of `_load_defaults`. -/
def loadDefault (registry : DecisionRegistry) (definition : DecisionRuleDefinition) :
    Option DecisionRegistry :=
  if definition.code ∈ registry.values.map (·.code) then some registry
  else DecisionRegistry.register registry definition

/-- `_load_defaults`. -/
def loadDefaults (registry : DecisionRegistry) : Option DecisionRegistry :=
  defaultDecisionRuleDefinitions.foldlM loadDefault registry

/-- Rules are registered under their codes. -/
def DecisionRegistry.Keyed (registry : DecisionRegistry) : Prop :=
  ∀ code rule, registry.get? code = some rule → rule.code = code

/-- Every rule of the first registry is in the second. -/
def DecisionRegistry.Extends (registry registry' : DecisionRegistry) : Prop :=
  ∀ code rule, registry.get? code = some rule → registry'.get? code = some rule

theorem loadDefault_keyed {registry : DecisionRegistry}
    (h : DecisionRegistry.Keyed registry) (definition : DecisionRuleDefinition) :
    ∃ registry', loadDefault registry definition = some registry' ∧
      DecisionRegistry.Keyed registry' ∧ DecisionRegistry.Extends registry registry' := by
  rw [loadDefault]
  split
  · exact ⟨registry, rfl, h, fun _ _ hrule => hrule⟩
  · next hnew =>
    have hnone : registry.get? definition.code = none := by
      cases hget : registry.get? definition.code with
      | none => rfl
      | some rule =>
        refine absurd (List.mem_map.2 ⟨rule, Dict.mem_values.2 ⟨_, hget⟩, ?_⟩) hnew
        exact h _ _ hget
    rw [DecisionRegistry.register, hnone]
    refine ⟨_, rfl, ?_, ?_⟩
    · intro code rule hrule
      rw [Dict.get?_insert] at hrule
      split at hrule
      · next hcode =>
        cases hrule
        exact hcode.symm
      · exact h code rule hrule
    · intro code rule hrule
      rw [Dict.get?_insert, if_neg]
      · exact hrule
      · rintro rfl
        rw [hnone] at hrule
        cases hrule

/-- The defaults are loaded over any rules that are registered, and replace none of them. -/
theorem loadDefaults_keyed {registry : DecisionRegistry} (h : DecisionRegistry.Keyed registry) :
    ∃ registry', loadDefaults registry = some registry' ∧ DecisionRegistry.Keyed registry' ∧
      DecisionRegistry.Extends registry registry' := by
  rw [loadDefaults]
  generalize defaultDecisionRuleDefinitions = definitions
  induction definitions generalizing registry with
  | nil => exact ⟨registry, rfl, h, fun _ _ hrule => hrule⟩
  | cons definition definitions ih =>
    obtain ⟨first, hfirst, hkeyed, hextends⟩ := loadDefault_keyed h definition
    obtain ⟨last, hlast, hkeyed', hextends'⟩ := ih hkeyed
    refine ⟨last, ?_, hkeyed', fun code rule hrule => hextends' _ _ (hextends _ _ hrule)⟩
    rw [List.foldlM_cons, hfirst]
    exact hlast

example : ∃ registry, loadDefaults .empty = some registry ∧ DecisionRegistry.Keyed registry :=
  (loadDefaults_keyed fun _ _ hrule => by cases hrule).imp fun _ h => ⟨h.1, h.2.1⟩

/-! ## Decisions -/

structure DecisionReason where
  code : String
  message : String
  details : String
  deriving DecidableEq

structure DecisionRule where
  ruleId : UUID
  ruleKey : String
  status : EvaluationStatus
  riskScore : Int
  confidence : Nat
  reason : String

structure DecisionTrace where
  reasons : List DecisionReason := []
  rules : List DecisionRule := []

structure DecisionResult where
  policyId : UUID
  policyVersion : String
  evaluationId : UUID
  evaluationTimestamp : DateTime
  decisionTimestamp : DateTime
  decisionStatus : DecisionStatus
  confidence : Nat
  reasoning : String
  triggeredRules : List String
  evaluatorVersion : String
  trace : DecisionTrace

structure DecisionContext where
  evaluationId : UUID
  evaluationTimestamp : DateTime
  decisionTimestamp : DateTime
  policyResults : List PolicyEvaluationResult := []
  evaluatorVersion : String := "1.0.0"

namespace DecisionEngine

/-- `_determine_status`. -/
def determineStatus (policyResult : PolicyEvaluationResult) : DecisionStatus :=
  if policyResult.ruleResults = [] then .notApplicable
  else if policyResult.ruleResults.any (·.status = .nonCompliant) then .fail
  else if policyResult.ruleResults.any (·.status = .error) then .warning
  else if policyResult.status ∈ [.compliant, .waived] then .pass
  else .unknown

/-- `_confidence` of a decision. -/
def confidence : DecisionStatus → Nat
  | .notApplicable => 0
  | .fail => 100
  | .warning => 50
  | .pass => 100
  | .unknown => 25

/-- `_confidence` of a rule. -/
def ruleConfidence : EvaluationStatus → Nat
  | .notApplicable => 0
  | .nonCompliant => 100
  | .error => 50
  | .compliant => 100
  | .waived => 100

/-- `_rule_reason`. -/
def ruleReason : EvaluationStatus → String
  | .nonCompliant => "Rule evaluated as non-compliant."
  | .error => "Rule evaluation produced an error."
  | .waived => "Rule evaluation was waived."
  | .compliant => "Rule evaluated as compliant."
  | .notApplicable => "Rule was not applicable."

def statusValue : EvaluationStatus → String
  | .compliant => "compliant"
  | .nonCompliant => "non_compliant"
  | .waived => "waived"
  | .notApplicable => "not_applicable"
  | .error => "error"

/-- `_policy_reasons`. -/
def policyReasons (policyResult : PolicyEvaluationResult) : DecisionStatus → List DecisionReason
  | .notApplicable =>
    [⟨"policy_not_applicable", "No policy rules were applicable during evaluation.",
      "The policy did not apply to the evaluated inventory."⟩]
  | .fail =>
    [⟨"policy_failure", "One or more evaluated rules are non-compliant.",
      s!"{policyResult.ruleResults.countP (·.status = .nonCompliant)} rule(s) failed compliance."⟩]
  | .warning =>
    [⟨"policy_warning", "The evaluation encountered errors that prevent a fully passing decision.",
      s!"{policyResult.ruleResults.countP (·.status = .error)} rule(s) returned errors."⟩]
  | .pass =>
    [⟨"policy_pass", "The evaluation result is compliant or waived.",
      "All evaluated rules support a passing decision."⟩]
  | .unknown =>
    [⟨"policy_unknown",
      "The decision engine could not determine a stable decision from evaluation results.",
      s!"Policy evaluation status: {statusValue policyResult.status}."⟩]

def summarizeRule (result : RuleEvaluationResult) : DecisionRule where
  ruleId := result.ruleId
  ruleKey := result.ruleKey
  status := result.status
  riskScore := result.riskScore
  confidence := ruleConfidence result.status
  reason := ruleReason result.status

/-- `_build_decision`. -/
def buildDecision (context : DecisionContext) (policyResult : PolicyEvaluationResult) :
    DecisionResult :=
  let status := determineStatus policyResult
  let reasons := policyReasons policyResult status
  { policyId := policyResult.policyId
    policyVersion := policyResult.version
    evaluationId := context.evaluationId
    evaluationTimestamp := context.evaluationTimestamp
    decisionTimestamp := context.decisionTimestamp
    decisionStatus := status
    confidence := confidence status
    reasoning := " ".intercalate (reasons.map (·.message))
    triggeredRules := policyResult.ruleResults.map (·.ruleKey)
    evaluatorVersion := context.evaluatorVersion
    trace := ⟨reasons, policyResult.ruleResults.map summarizeRule⟩ }

def decide (context : DecisionContext) : List DecisionResult :=
  context.policyResults.map (buildDecision context)

/-! ## Decisions and rules -/

variable {engine : EvaluationEngine} {evaluation : EvaluationContext}
  {policies : List (Policy ⊕ PolicyPackage)} {d d' : EvaluationDecision}
  {before after : List EvaluationException} {exception : EvaluationException}
  {context : DecisionContext}

/-- The default rule of the highest priority that is for a status. -/
structure Applied (status : EvaluationStatus) (rule : DecisionRuleDefinition) : Prop where
  default : rule ∈ defaultDecisionRuleDefinitions
  isFor : rule.Matches status
  highest : ∀ other ∈ defaultDecisionRuleDefinitions, other.Matches status →
    other.priority ≤ rule.priority

/-- What an evaluation makes of a policy: results, none of them an error, and their status. -/
structure Evaluated (a : PolicyEvaluationResult) : Prop where
  results : a.ruleResults ≠ []
  status : a.status = EvaluationEngine.statusOf a.ruleResults
  errors : ∀ r ∈ a.ruleResults, r.status ≠ .error

/-- A rule that is executed passes, fails or is waived. -/
theorem execute_noError {p : Compliance.Difference × Compliance.Rule}
    {found : Option EvaluationException} {r : RuleEvaluationResult}
    (h : RuleExecutor.execute engine.py engine.now p.2 p.1 found = .ok r) : r.status ≠ .error := by
  unfold RuleExecutor.execute at h
  obtain ⟨t, -, h⟩ := Outcomes.bind_ok h
  cases found with
  | some exception =>
    cases h
    exact nofun
  | none =>
    obtain ⟨passed, -, h⟩ := Outcomes.bind_ok h
    split at h
    · cases h
      exact nofun
    · obtain ⟨score, -, h⟩ := Outcomes.bind_ok h
      cases h
      exact nofun

theorem evaluated_of_evaluate (h : engine.evaluate evaluation policies = .ok d)
    {a : PolicyEvaluationResult} (ha : a ∈ d.policyResults) : Evaluated a := by
  obtain ⟨prepared, results, hprepared, hresults, rfl⟩ := EvaluationEngine.evaluate_ok_iff.1 h
  obtain ⟨hne, -, hstatus⟩ := EvaluationEngine.mem_policyResults ha
  refine ⟨hne, hstatus, fun r hr => ?_⟩
  have hperm : ((EvaluationEngine.policyResults prepared.policyForRule results
      prepared.packageVersions).flatMap (·.ruleResults)).Perm results :=
    EvaluationEngine.policyResults_perm (EvaluationEngine.allAttributed hprepared hresults)
  obtain ⟨p, -, hpair⟩ := Outcomes.exists_of_mem hresults
    (hperm.mem_iff.1 (List.mem_flatMap.2 ⟨a, ha, hr⟩))
  obtain ⟨found, -, hexecute⟩ := EvaluationEngine.evaluatePair_found hpair
  exact execute_noError hexecute

/-- The cascade on what is evaluated. -/
theorem determineStatus_evaluated {a : PolicyEvaluationResult} (h : Evaluated a) :
    determineStatus a = if a.status = .nonCompliant then .fail else .pass := by
  have herrors : a.ruleResults.any (·.status = .error) = false := by
    rw [List.any_eq_false]
    intro r hr
    simpa using h.errors r hr
  rw [determineStatus, if_neg h.results, herrors]
  by_cases hfails : a.status = .nonCompliant
  · have hany : a.ruleResults.any (·.status = .nonCompliant) = true := by
      rw [List.any_eq_true]
      simpa using EvaluationEngine.statusOf_nonCompliant.1 (h.status ▸ hfails)
    rw [if_pos hany, if_pos hfails]
  · have hany : ¬ a.ruleResults.any (·.status = .nonCompliant) = true := by
      rw [List.any_eq_true]
      intro hsome
      exact hfails
        (h.status.trans (EvaluationEngine.statusOf_nonCompliant.2 (by simpa using hsome)))
    have hpasses : a.status ∈ [EvaluationStatus.compliant, .waived] := by
      rw [h.status, EvaluationEngine.statusOf, if_neg h.results, if_neg hany]
      split <;> decide
    rw [if_neg hany, if_neg hfails, if_neg Bool.false_ne_true, if_pos hpasses]

theorem determineStatus_cases {a : PolicyEvaluationResult} (h : Evaluated a) :
    determineStatus a = .fail ∨ determineStatus a = .pass := by
  rw [determineStatus_evaluated h]
  split
  · exact .inl rfl
  · exact .inr rfl

/-- A decision fails for a result that does not comply, and for no other reason. -/
theorem determineStatus_fail {a : PolicyEvaluationResult} :
    determineStatus a = .fail ↔ ∃ r ∈ a.ruleResults, r.status = .nonCompliant := by
  have hany : a.ruleResults.any (·.status = .nonCompliant) = true ↔
      ∃ r ∈ a.ruleResults, r.status = .nonCompliant := by simp
  rw [← hany, determineStatus]
  split
  · next hnil => simp [hnil]
  · split
    · next hfails => exact ⟨fun _ => hfails, fun _ => rfl⟩
    · next hfails =>
      refine ⟨fun h => ?_, fun h => absurd h hfails⟩
      split at h
      · cases h
      · split at h <;> cases h

/-- The rule that is applied to the result of an evaluation has the decision on it. -/
theorem exists_applied {a : PolicyEvaluationResult} (h : Evaluated a) :
    ∃ rule, Applied a.status rule ∧ determineStatus a = rule.status ∧
      confidence (determineStatus a) = rule.confidence := by
  have hstatus : a.status ∈ [EvaluationStatus.compliant, .waived, .nonCompliant] := by
    rw [h.status, EvaluationEngine.statusOf, if_neg h.results]
    split
    · decide
    · split <;> decide
  rw [determineStatus_evaluated h]
  generalize a.status = status at hstatus
  have htable : ∃ rule ∈ defaultDecisionRuleDefinitions, rule.Matches status ∧
      (∀ other ∈ defaultDecisionRuleDefinitions, other.Matches status →
        other.priority ≤ rule.priority) ∧
      (if status = .nonCompliant then .fail else .pass) = rule.status ∧
      confidence (if status = .nonCompliant then .fail else .pass) = rule.confidence := by
    revert status
    decide
  obtain ⟨rule, hmem, hfor, hhighest, hsame, hconfidence⟩ := htable
  exact ⟨rule, ⟨hmem, hfor, hhighest⟩, hsame, hconfidence⟩

/-- The decisions on a successful evaluation are, policy by policy, those of the default rule of the
highest priority for the status of the policy's result; they fail if and only if the evaluation is
not compliant, pass otherwise, and their traces have a summary of each rule result once. -/
theorem decided_by_rules (h : engine.evaluate evaluation policies = .ok d)
    (hcontext : context.policyResults = d.policyResults) :
    List.Forall₂ (fun a decision => decision.policyId = a.policyId ∧ ∃ rule, Applied a.status rule ∧
        decision.decisionStatus = rule.status ∧ decision.confidence = rule.confidence)
      d.policyResults (decide context) ∧
    (∀ decision ∈ decide context, decision.decisionStatus ∈ [.pass, .fail]) ∧
    (d.status = .nonCompliant ↔ ∃ decision ∈ decide context, decision.decisionStatus = .fail) ∧
    ((decide context).flatMap (·.trace.rules)).Perm (d.ruleResults.map summarizeRule) := by
  have hevaluated := fun a => evaluated_of_evaluate (a := a) h
  rw [decide, hcontext]
  obtain ⟨prepared, results, hprepared, hresults, rfl⟩ := EvaluationEngine.evaluate_ok_iff.1 h
  have hperm : ((EvaluationEngine.policyResults prepared.policyForRule results
      prepared.packageVersions).flatMap (·.ruleResults)).Perm results :=
    EvaluationEngine.policyResults_perm (EvaluationEngine.allAttributed hprepared hresults)
  refine ⟨?_, ?_, ?_, ?_⟩
  · rw [List.forall₂_map_right_iff, List.forall₂_same]
    intro a ha
    exact ⟨rfl, exists_applied (hevaluated a ha)⟩
  · intro decision hdecision
    obtain ⟨a, ha, rfl⟩ := List.mem_map.1 hdecision
    show determineStatus a ∈ _
    rcases determineStatus_cases (hevaluated a ha) with hfails | hpasses
    · rw [hfails]
      decide
    · rw [hpasses]
      decide
  · show EvaluationEngine.statusOf results = .nonCompliant ↔ _
    rw [EvaluationEngine.statusOf_nonCompliant]
    constructor
    · rintro ⟨r, hr, hfails⟩
      obtain ⟨a, ha, hmem⟩ := List.mem_flatMap.1 (hperm.mem_iff.2 hr)
      exact ⟨_, List.mem_map_of_mem ha, determineStatus_fail.2 ⟨r, hmem, hfails⟩⟩
    · rintro ⟨decision, hdecision, hfails⟩
      obtain ⟨a, ha, rfl⟩ := List.mem_map.1 hdecision
      obtain ⟨r, hr, hstatus⟩ := determineStatus_fail.1 hfails
      exact ⟨r, hperm.mem_iff.1 (List.mem_flatMap.2 ⟨a, ha, hr⟩), hstatus⟩
  · have hsummaries := hperm.map summarizeRule
    rw [List.map_flatMap] at hsummaries
    rw [List.flatMap_map]
    exact hsummaries

/-- Of the comparison with one difference, without exceptions. -/
theorem decided_by_rules_drift : ∃ d, EvaluationEngine.sampleEngine.evaluate
      { EvaluationEngine.driftContext with exceptions := [] ++ [] }
      [.inl EvaluationEngine.namePolicy] = .ok d ∧
    (d.status = .nonCompliant ↔
      ∃ decision ∈ decide ⟨1, 0, 0, d.policyResults, "1.0.0"⟩,
        decision.decisionStatus = .fail) := by
  obtain ⟨d, hd⟩ := EvaluationEngine.evaluate_drift
  have hcontext : (⟨1, 0, 0, d.policyResults, "1.0.0"⟩ : DecisionContext).policyResults =
    d.policyResults := rfl
  exact ⟨d, hd, (decided_by_rules hd hcontext).2.2.1⟩

/-! ## Decisions and waivers -/

/-- The same results of the same policy, but for some that the exception waives. -/
structure PolicyWaived (now : DateTime) (exception : EvaluationException)
    (a a' : PolicyEvaluationResult) : Prop where
  policyId : a'.policyId = a.policyId
  version : a'.version = a.version
  results : List.Forall₂ (EvaluationEngine.Waived now exception) a.ruleResults a'.ruleResults

theorem waived_ruleKey {now : DateTime} {r r' : RuleEvaluationResult}
    (h : EvaluationEngine.Waived now exception r r') : r'.ruleKey = r.ruleKey := by
  rcases h with rfl | ⟨-, rule, -, hkey, rfl⟩
  · rfl
  · exact hkey

theorem waived_attributed {policyForRule : Dict String Policy} {now : DateTime}
    {results results' : List RuleEvaluationResult}
    (h : List.Forall₂ (EvaluationEngine.Waived now exception) results results') :
    List.Forall₂ (fun a a' => a'.1 = a.1 ∧ EvaluationEngine.Waived now exception a.2 a'.2)
      (EvaluationEngine.attributed policyForRule results)
      (EvaluationEngine.attributed policyForRule results') := by
  induction h with
  | nil => exact .nil
  | @cons r r' _ _ hr _ ih =>
    rw [EvaluationEngine.attributed, EvaluationEngine.attributed, List.filterMap_cons,
      List.filterMap_cons, waived_ruleKey hr]
    cases policyForRule.get? r.ruleKey with
    | none => exact ih
    | some policy => exact .cons ⟨rfl, hr⟩ ih

/-- Results that are waived one by one are waived policy by policy. -/
theorem waived_policyResults {policyForRule : Dict String Policy} {now : DateTime}
    {packageVersions : Dict UUID String} {results results' : List RuleEvaluationResult}
    (h : List.Forall₂ (EvaluationEngine.Waived now exception) results results') :
    List.Forall₂ (PolicyWaived now exception)
      (EvaluationEngine.policyResults policyForRule results packageVersions)
      (EvaluationEngine.policyResults policyForRule results' packageVersions) := by
  rw [EvaluationEngine.policyResults_eq, EvaluationEngine.policyResults_eq,
    List.forall₂_map_left_iff, List.forall₂_map_right_iff]
  have hgroups : Dict.Alike (fun g g' => g'.1 = g.1 ∧
      List.Forall₂ (EvaluationEngine.Waived now exception) g.2 g'.2)
      (EvaluationEngine.grouped policyForRule results)
      (EvaluationEngine.grouped policyForRule results') := by
    refine Dict.accumulate_alike (fun a a' ha => by rw [ha.1]) ?_ (waived_attributed h)
    rintro v w a a' hvw ⟨hpolicy, hwaived⟩
    refine ⟨hpolicy, ?_⟩
    cases hvw with
    | none => exact .cons hwaived .nil
    | some hvw => exact List.rel_append hvw.2 (.cons hwaived .nil)
  refine hgroups.values.imp fun g g' hg => ?_
  obtain ⟨hpolicy, hresults⟩ := hg
  exact ⟨by rw [hpolicy], by rw [hpolicy], hresults⟩

/-- The results of the two evaluations, pair by pair. -/
theorem waived_results
    (h : engine.evaluate { evaluation with exceptions := before ++ after } policies = .ok d)
    (h' : engine.evaluate { evaluation with exceptions := before ++ exception :: after } policies =
      .ok d') :
    List.Forall₂ (PolicyWaived engine.now exception) d.policyResults d'.policyResults := by
  obtain ⟨prepared, results, hprepared, hresults, rfl⟩ := EvaluationEngine.evaluate_ok_iff.1 h
  obtain ⟨prepared', results', hprepared', hresults', rfl⟩ := EvaluationEngine.evaluate_ok_iff.1 h'
  rw [hprepared] at hprepared'
  cases hprepared'
  have hasked : EvaluationEngine.Comparable exception ∨
      EvaluationEngine.AllWaived engine.now before prepared.pairs := by
    by_cases hcomparable : EvaluationEngine.Comparable exception
    · exact .inl hcomparable
    · exact .inr (EvaluationEngine.allWaived_of_evaluated hcomparable hresults hresults')
  obtain ⟨inserted, hinserted, hwaived⟩ := EvaluationEngine.evaluatePairs_insert hresults hasked
  have hsame : inserted = results' := by
    have hall := Outcomes.mapM_ok_iff.2 hinserted
    rw [Outcomes.mapM_ok_iff.2 hresults'] at hall
    cases hall
    rfl
  rw [← hsame]
  exact waived_policyResults hwaived

theorem waived_fail {now : DateTime} {results results' : List RuleEvaluationResult}
    (h : List.Forall₂ (EvaluationEngine.Waived now exception) results results')
    (hfails : ∃ r ∈ results', r.status = .nonCompliant) :
    ∃ r ∈ results, r.status = .nonCompliant := by
  induction h with
  | nil => exact hfails
  | cons hr _ ih =>
    rw [List.exists_mem_cons_iff] at hfails ⊢
    refine hfails.imp (fun hstatus => ?_) ih
    rcases hr with rfl | ⟨-, rule, -, -, rfl⟩
    · exact hstatus
    · cases hstatus

theorem waived_ruleKeys {now : DateTime} {results results' : List RuleEvaluationResult}
    (h : List.Forall₂ (EvaluationEngine.Waived now exception) results results') :
    results'.map (·.ruleKey) = results.map (·.ruleKey) := by
  induction h with
  | nil => rfl
  | cons hr _ ih => rw [List.map_cons, List.map_cons, waived_ruleKey hr, ih]

/-- With one more exception at any place, an evaluation that still succeeds is decided policy by
policy as before, over the same rules, but for decisions that failed and now pass. -/
theorem waiver_passes (context : DecisionContext)
    (h : engine.evaluate { evaluation with exceptions := before ++ after } policies = .ok d)
    (h' : engine.evaluate { evaluation with exceptions := before ++ exception :: after } policies =
      .ok d') :
    List.Forall₂ (fun x x' : DecisionResult => x'.policyId = x.policyId ∧
        x'.policyVersion = x.policyVersion ∧ x'.triggeredRules = x.triggeredRules ∧
        (x'.decisionStatus = x.decisionStatus ∨
          x.decisionStatus = .fail ∧ x'.decisionStatus = .pass))
      (decide { context with policyResults := d.policyResults })
      (decide { context with policyResults := d'.policyResults }) := by
  rw [decide, decide, List.forall₂_map_left_iff, List.forall₂_map_right_iff]
  refine (List.forall₂_iff_zip.2 ⟨(waived_results h h').length_eq, ?_⟩)
  intro a a' hzip
  have ha := evaluated_of_evaluate h (List.of_mem_zip hzip).1
  have ha' := evaluated_of_evaluate h' (List.of_mem_zip hzip).2
  obtain ⟨hpolicy, hversion, hresults⟩ := (List.forall₂_iff_zip.1 (waived_results h h')).2 hzip
  refine ⟨hpolicy, hversion, waived_ruleKeys hresults, ?_⟩
  show determineStatus a' = determineStatus a ∨ _ ∧ determineStatus a' = .pass
  have hkept : determineStatus a' = .fail → determineStatus a = .fail := fun hfails =>
    determineStatus_fail.2 (waived_fail hresults (determineStatus_fail.1 hfails))
  rcases determineStatus_cases ha' with hfails' | hpasses'
  · rw [hfails', hkept hfails']
    exact .inl rfl
  · rcases determineStatus_cases ha with hfails | hpasses
    · exact .inr ⟨hfails, hpasses'⟩
    · exact .inl (hpasses'.trans hpasses.symm)

/-- The waiver of the only drift, until a time with a zone. -/
theorem waiver_passes_drift : ∃ d d', EvaluationEngine.sampleEngine.evaluate
      { EvaluationEngine.driftContext with exceptions := [] ++ [] }
      [.inl EvaluationEngine.namePolicy] = .ok d ∧
    EvaluationEngine.sampleEngine.evaluate { EvaluationEngine.driftContext with
        exceptions := [] ++ EvaluationEngine.expiring (some (.aware 2000000)) :: [] }
      [.inl EvaluationEngine.namePolicy] = .ok d' ∧
    List.Forall₂ (fun x x' : DecisionResult => x'.triggeredRules = x.triggeredRules)
      (decide ⟨1, 0, 0, d.policyResults, "1.0.0"⟩)
      (decide ⟨1, 0, 0, d'.policyResults, "1.0.0"⟩) := by
  obtain ⟨d, hd⟩ := EvaluationEngine.evaluate_drift
  obtain ⟨prepared, hprepared, hpairs⟩ := EvaluationEngine.prepare_drift
  have hpair : EvaluationEngine.sampleEngine.evaluatePair
      ([] ++ EvaluationEngine.expiring (some (.aware 2000000)) :: [])
      (EvaluationEngine.nameDrift, EvaluationEngine.nameRule) =
      .ok (RuleExecutor.waived 1000000 EvaluationEngine.nameRule EvaluationEngine.nameDrift
        (EvaluationEngine.expiring (some (.aware 2000000)))) := rfl
  have hresults : List.Forall₂ (fun p r => EvaluationEngine.sampleEngine.evaluatePair
      ([] ++ EvaluationEngine.expiring (some (.aware 2000000)) :: []) p = .ok r) prepared.pairs
      [RuleExecutor.waived 1000000 EvaluationEngine.nameRule EvaluationEngine.nameDrift
        (EvaluationEngine.expiring (some (.aware 2000000)))] := by
    rw [hpairs]
    exact .cons hpair .nil
  have hd' := EvaluationEngine.evaluate_ok_iff.2 ⟨prepared, _, hprepared, hresults, rfl⟩
  exact ⟨d, _, hd, hd', (waiver_passes ⟨1, 0, 0, [], "1.0.0"⟩ hd hd').imp
    fun _ _ hx => hx.2.2.1⟩

end DecisionEngine
end Decision
end NetOps
