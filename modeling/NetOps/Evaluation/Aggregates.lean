import NetOps.Evaluation.Waivers
import NetOps.Groups

/-!
# Evaluation.Aggregates

What a decision says of all results against what it says of those of each policy.

* `policyResults_eq`: the results are gathered by the policy their rule is attributed to.
* `decision_consistent`: the results of the policies partition the results, and risk, status and
  counters of the decision are those of its parts.
-/

namespace NetOps
namespace Evaluation
namespace EvaluationEngine

open Discovery (UUID)
open Compliance (Difference Rule Policy)
open Policies (PolicyPackage)
open Outcomes (bind_ok mapM_ok_iff)

/-! ## Gathering results -/

section Gathering

variable (policyForRule : Dict String Policy)

/-- The results with the policies their rules are attributed to. -/
def attributed (results : List RuleEvaluationResult) : List (Policy × RuleEvaluationResult) :=
  results.filterMap fun r => (policyForRule.get? r.ruleKey).map fun p => (p, r)

/-- One more result of a policy. -/
def addResult (group : Option (Policy × List RuleEvaluationResult))
    (a : Policy × RuleEvaluationResult) : Policy × List RuleEvaluationResult :=
  (a.1, (group.map Prod.snd).getD [] ++ [a.2])

/-- The results of each policy. -/
def grouped (results : List RuleEvaluationResult) :
    Dict UUID (Policy × List RuleEvaluationResult) :=
  Dict.accumulate (fun a => a.1.id) addResult (attributed policyForRule results)

theorem policyResults_eq (results : List RuleEvaluationResult)
    (packageVersions : Dict UUID String) :
    policyResults policyForRule results packageVersions =
      (grouped policyForRule results).values.map fun g => {
        policyId := g.1.id
        policyKey := g.1.name
        version := (packageVersions.get? g.1.id).getD "unknown"
        status := statusOf g.2
        riskScore := riskOf g.2
        complianceScore := scoreOf g.2
        ruleResults := g.2 } := by
  unfold policyResults grouped attributed Dict.accumulate
  dsimp only
  rw [List.foldl_filterMap]
  congr 3
  funext groups result
  cases policyForRule.get? result.ruleKey with
  | none => rfl
  | some policy => rfl

end Gathering

variable {policyForRule : Dict String Policy} {results : List RuleEvaluationResult}
  {packageVersions : Dict UUID String}

/-- A group has the results that are attributed to a policy of its id. -/
theorem get?_grouped {id : UUID} {g : Policy × List RuleEvaluationResult}
    (h : (grouped policyForRule results).get? id = some g) :
    g.2 ≠ [] ∧ ∀ r ∈ g.2, ∃ p, policyForRule.get? r.ruleKey = some p ∧ p.id = id := by
  have hfold : ∀ (as : List (Policy × RuleEvaluationResult)) g,
      as.foldl (fun v a => some (addResult v a)) none = some g →
        as ≠ [] ∧ g.2 = as.map Prod.snd := by
    intro as
    induction as using List.reverseRecOn with
    | nil =>
      intro g hg
      cases hg
    | append_singleton as a ih =>
      intro g hg
      rw [List.foldl_concat] at hg
      cases hg
      refine ⟨by simp, ?_⟩
      cases hall : as.foldl (fun v a => some (addResult v a)) none with
      | none =>
        have hnil : as = [] := by
          by_contra hne
          obtain ⟨init, last, rfl⟩ := (List.eq_nil_or_concat' as).resolve_left hne
          rw [List.foldl_concat] at hall
          cases hall
        simp [addResult, hnil]
      | some g => simp [addResult, (ih g hall).2]
  unfold grouped at h
  rw [Dict.get?_accumulate] at h
  obtain ⟨hne, hall⟩ := hfold _ g h
  refine ⟨by simp [hall, hne], ?_⟩
  intro r hr
  rw [hall] at hr
  obtain ⟨a, ha, rfl⟩ := List.mem_map.1 hr
  obtain ⟨hmem, hid⟩ := List.mem_filter.1 ha
  obtain ⟨r', -, hr'⟩ := List.mem_filterMap.1 hmem
  obtain ⟨p, hp, rfl⟩ := Option.map_eq_some_iff.1 hr'
  exact ⟨p, hp, of_decide_eq_true hid⟩

/-- Every result's rule is attributed to a policy. -/
def AllAttributed (policyForRule : Dict String Policy) (results : List RuleEvaluationResult) :
    Prop :=
  ∀ r ∈ results, ∃ p, policyForRule.get? r.ruleKey = some p

theorem attributed_results (h : AllAttributed policyForRule results) :
    (attributed policyForRule results).map Prod.snd = results := by
  unfold attributed
  induction results with
  | nil => rfl
  | cons r rest ih =>
    obtain ⟨⟨p, hp⟩, hrest⟩ := List.forall_mem_cons.1 h
    simp [hp, ih hrest]

/-! ## The results of the policies -/

theorem policyResults_perm (h : AllAttributed policyForRule results) :
    ((policyResults policyForRule results packageVersions).flatMap (·.ruleResults)).Perm
      results := by
  rw [policyResults_eq, List.flatMap_map]
  have hperm : ((grouped policyForRule results).values.flatMap Prod.snd).Perm
      ((attributed policyForRule results).map Prod.snd) :=
    Dict.flatMap_accumulate_perm Prod.snd Prod.snd fun _ _ => rfl
  rw [attributed_results h] at hperm
  exact hperm

theorem policyResults_apart : (policyResults policyForRule results packageVersions).Pairwise
    fun a b => ∀ r ∈ a.ruleResults, r ∉ b.ruleResults := by
  rw [policyResults_eq, List.pairwise_map]
  unfold Dict.values
  rw [List.pairwise_map]
  have hkeys := (grouped policyForRule results).nodup
  rw [List.Nodup, List.pairwise_map] at hkeys
  refine hkeys.imp_of_mem ?_
  intro e e' he he' hne r hr hr'
  obtain ⟨p, hp, hid⟩ := (get?_grouped (Dict.mem_items.1 he)).2 r hr
  obtain ⟨p', hp', hid'⟩ := (get?_grouped (Dict.mem_items.1 he')).2 r hr'
  rw [hp] at hp'
  cases hp'
  exact hne (hid.symm.trans hid')

/-- The result of a policy has its own aggregates, of at least one result. -/
theorem mem_policyResults {a : PolicyEvaluationResult}
    (h : a ∈ policyResults policyForRule results packageVersions) :
    a.ruleResults ≠ [] ∧ a.riskScore = riskOf a.ruleResults ∧
      a.status = statusOf a.ruleResults := by
  rw [policyResults_eq] at h
  obtain ⟨g, hg, rfl⟩ := List.mem_map.1 h
  obtain ⟨id, hid⟩ := Dict.mem_values.1 hg
  exact ⟨(get?_grouped hid).1, rfl, rfl⟩

/-! ## Aggregates -/

/-- The risk of some results is that of one of them, and no other is greater. -/
theorem riskOf_eq_iff (h : results ≠ []) {risk : Int} : riskOf results = risk ↔
    (∃ r ∈ results, r.riskScore = risk) ∧ ∀ r ∈ results, r.riskScore ≤ risk := by
  have hmax : riskOf results = risk ↔ (results.map (·.riskScore)).max? = some risk := by
    unfold riskOf
    cases hm : (results.map (·.riskScore)).max? with
    | none => simp [List.max?_eq_none_iff, h] at hm
    | some m => simp
  rw [hmax, List.max?_eq_some_iff]
  simp

/-- The greatest risk of the parts is that of the whole. -/
theorem max_riskScores {parts : List PolicyEvaluationResult}
    (hparts : ∀ a ∈ parts, a.ruleResults ≠ [] ∧ a.riskScore = riskOf a.ruleResults)
    (hperm : (parts.flatMap (·.ruleResults)).Perm results) :
    riskOf results = ((parts.map (·.riskScore)).max?).getD 0 := by
  cases hm : (parts.map (·.riskScore)).max? with
  | none =>
    rw [List.max?_eq_none_iff, List.map_eq_nil_iff] at hm
    rw [hm] at hperm
    rw [List.nil_perm.1 hperm]
    rfl
  | some m =>
    obtain ⟨hmem, hle⟩ := List.max?_eq_some_iff.1 hm
    obtain ⟨a, ha, rfl⟩ := List.mem_map.1 hmem
    obtain ⟨hne, hrisk⟩ := hparts a ha
    obtain ⟨⟨r, hr, hequal⟩, -⟩ := (riskOf_eq_iff hne).1 hrisk.symm
    have hr' : r ∈ results := hperm.mem_iff.1 (List.mem_flatMap.2 ⟨a, ha, hr⟩)
    refine (riskOf_eq_iff (List.ne_nil_of_mem hr')).2 ⟨⟨r, hr', hequal⟩, ?_⟩
    intro s hs
    obtain ⟨b, hb, hsb⟩ := List.mem_flatMap.1 (hperm.mem_iff.2 hs)
    obtain ⟨hneb, hriskb⟩ := hparts b hb
    calc s.riskScore ≤ b.riskScore := ((riskOf_eq_iff hneb).1 hriskb.symm).2 s hsb
      _ ≤ a.riskScore := hle _ (List.mem_map_of_mem hb)

theorem counters_total (totalRules : Nat) (results : List RuleEvaluationResult) :
    (metricsOf totalRules results).compliant + (metricsOf totalRules results).nonCompliant +
      (metricsOf totalRules results).waived + (metricsOf totalRules results).notApplicable +
      (metricsOf totalRules results).errors = results.length := by
  unfold metricsOf
  dsimp only
  induction results with
  | nil => rfl
  | cons r rest ih =>
    simp only [List.countP_cons, List.length_cons]
    cases r.status with
    | compliant => simp; omega
    | nonCompliant => simp; omega
    | waived => simp; omega
    | notApplicable => simp; omega
    | error => simp; omega

/-! ## Decisions -/

/-- The decision and its policy results say the same of the results. -/
structure Consistent (d : EvaluationDecision) : Prop where
  partitioned : (d.policyResults.flatMap (·.ruleResults)).Perm d.ruleResults
  apart : d.policyResults.Pairwise fun a b => ∀ r ∈ a.ruleResults, r ∉ b.ruleResults
  risk : d.riskScore = ((d.policyResults.map (·.riskScore)).max?).getD 0
  status : d.status = .nonCompliant ↔ ∃ a ∈ d.policyResults, a.status = .nonCompliant
  counters : d.metrics.compliant + d.metrics.nonCompliant + d.metrics.waived +
    d.metrics.notApplicable + d.metrics.errors = d.metrics.evaluatedRules
  evaluated : d.metrics.evaluatedRules = d.ruleResults.length

variable {engine : EvaluationEngine} {context : EvaluationContext}
  {policies : List (Policy ⊕ PolicyPackage)} {d : EvaluationDecision}

/-- What is evaluated is attributed to the policy its rule was taken from. -/
theorem allAttributed {prepared : Prepared} (hprepared : engine.prepare context policies =
    .ok prepared) (hresults : List.Forall₂ (fun p r => engine.evaluatePair context.exceptions p =
      .ok r) prepared.pairs results) : AllAttributed prepared.policyForRule results := by
  unfold prepare at hprepared
  obtain ⟨resolved, -, hprepared⟩ := bind_ok hprepared
  cases hprepared
  intro r hr
  obtain ⟨p, hp, hpair⟩ := Outcomes.exists_of_mem hresults hr
  obtain ⟨found, -, hexecute⟩ := evaluatePair_found hpair
  obtain ⟨difference, -, hp⟩ := List.mem_flatMap.1 hp
  obtain ⟨rule, hrule, rfl⟩ := List.mem_map.1 hp
  obtain ⟨entry, hentry, rfl⟩ := List.mem_map.1 (List.mem_filter.1 hrule).1
  rw [(execute_result hexecute).ruleKey]
  exact Dict.get?_ofList_isSome
    (List.mem_map_of_mem (f := fun e : Rule × Policy => (e.1.key, e.2)) hentry)

/-- The decision of every evaluation that does not raise is consistent. -/
theorem decision_consistent (h : engine.evaluate context policies = .ok d) : Consistent d := by
  obtain ⟨prepared, results, hprepared, hresults, rfl⟩ := evaluate_ok_iff.1 h
  have hall := allAttributed hprepared hresults
  have hperm : ((policyResults prepared.policyForRule results prepared.packageVersions).flatMap
      (·.ruleResults)).Perm results := policyResults_perm hall
  constructor
  · exact hperm
  · exact policyResults_apart
  · refine max_riskScores (fun a ha => ?_) hperm
    obtain ⟨hne, hrisk, -⟩ := mem_policyResults ha
    exact ⟨hne, hrisk⟩
  · show statusOf results = .nonCompliant ↔ _
    rw [statusOf_nonCompliant]
    constructor
    · rintro ⟨r, hr, hstatus⟩
      obtain ⟨a, ha, hmem⟩ := List.mem_flatMap.1 (hperm.mem_iff.2 hr)
      refine ⟨a, ha, ?_⟩
      rw [(mem_policyResults ha).2.2, statusOf_nonCompliant]
      exact ⟨r, hmem, hstatus⟩
    · rintro ⟨a, ha, hstatus⟩
      rw [(mem_policyResults ha).2.2, statusOf_nonCompliant] at hstatus
      obtain ⟨r, hr, hstatus⟩ := hstatus
      exact ⟨r, hperm.mem_iff.1 (List.mem_flatMap.2 ⟨a, ha, hr⟩), hstatus⟩
  · exact counters_total prepared.rules.length results
  · rfl

/-- Of the comparison with one difference, without exceptions. -/
theorem drift_consistent : ∃ d, sampleEngine.evaluate { driftContext with exceptions := [] ++ [] }
    [.inl namePolicy] = .ok d ∧ Consistent d := by
  obtain ⟨d, hd⟩ := evaluate_drift
  exact ⟨d, hd, decision_consistent hd⟩

end EvaluationEngine
end Evaluation
end NetOps
