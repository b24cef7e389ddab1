import NetOps.Evaluation.Engine
import NetOps.Outcomes

/-!
# Evaluation.Waivers

What one more exception does to an evaluation that succeeds. It is asked about the pairs that no
exception before it waives, and a pair it applies to becomes waived; the other results stay.

* `evaluatePair_insert`: one pair.
* `relaxed_of_results`: scores, status and results of the decision.
* `waivers_iff`: the exception relaxes the decision, unless it expires at a time without a zone
  and is asked about some pair.
-/

namespace NetOps
namespace Evaluation
namespace EvaluationEngine

open Discovery (UUID DateTime PyVal PyDict)
open Compliance (Difference Rule Policy)
open Policies (PolicyPackage)
open Outcomes (bind_ok mapM_ok_iff)

variable {engine : EvaluationEngine} {before after : List EvaluationException}
  {exception : EvaluationException} {p : Difference × Rule}

/-! ## Exceptions -/

/-- The exception can be compared with the time of an evaluation. -/
def Comparable (exception : EvaluationException) : Prop :=
  ∀ time, exception.expiresAt ≠ some (.naive time)

/-- The exception waives the pair. -/
def Applies (now : DateTime) (exception : EvaluationException) (p : Difference × Rule) : Prop :=
  exception.appliesTo now p.2.key p.1 = .ok true

theorem appliesTo_ok (h : Comparable exception) (now : DateTime) (ruleKey : String)
    (difference : Difference) :
    ∃ applies, exception.appliesTo now ruleKey difference = .ok applies := by
  unfold EvaluationException.appliesTo EvaluationException.expired
  cases hexpires : exception.expiresAt with
  | none => exact ⟨_, rfl⟩
  | some time =>
    cases time with
    | aware time =>
      by_cases hle : time ≤ now
      · exact ⟨false, by simp [hle, bind, Except.bind, pure, Except.pure]⟩
      · exact ⟨exception.covers ruleKey difference,
          by simp [hle, bind, Except.bind, pure, Except.pure]⟩
    | naive time => exact absurd hexpires (h time)

theorem appliesTo_error (h : ¬ Comparable exception) (now : DateTime) (ruleKey : String)
    (difference : Difference) :
    exception.appliesTo now ruleKey difference = .error .typeError := by
  unfold Comparable at h
  push Not at h
  obtain ⟨time, htime⟩ := h
  simp [EvaluationException.appliesTo, EvaluationException.expired, htime, bind, Except.bind]

theorem exceptionFor_append (now : DateTime) (ruleKey : String) (difference : Difference)
    (before rest : List EvaluationException) :
    exceptionFor now ruleKey difference (before ++ rest) =
      match exceptionFor now ruleKey difference before with
      | .error e => .error e
      | .ok (some found) => .ok (some found)
      | .ok none => exceptionFor now ruleKey difference rest := by
  induction before with
  | nil => rfl
  | cons first before ih =>
    rw [List.cons_append, exceptionFor, exceptionFor]
    cases first.appliesTo now ruleKey difference with
    | error e => rfl
    | ok applies =>
      cases applies with
      | true => rfl
      | false => exact ih

/-- Among exceptions that all can be asked, one is found if and only if one applies. -/
theorem exceptionFor_isSome {now : DateTime} {found : Option EvaluationException}
    (h : exceptionFor now p.2.key p.1 before = .ok found) :
    found.isSome = true ↔ ∃ e ∈ before, Applies now e p := by
  induction before with
  | nil =>
    cases h
    simp
  | cons first before ih =>
    unfold exceptionFor at h
    obtain ⟨applies, happlies, h⟩ := bind_ok h
    cases applies with
    | true =>
      cases h
      simp [Applies, happlies]
    | false =>
      have hrest := ih h
      simp [Applies, happlies, hrest]

/-! ## One pair -/

/-- The result is the same, or the exception applies and it is waived. -/
def Waived (now : DateTime) (exception : EvaluationException) (r r' : RuleEvaluationResult) :
    Prop :=
  r' = r ∨ exception.appliesTo now r.ruleKey r.difference = .ok true ∧
    ∃ rule : Rule, rule.id = r.ruleId ∧ rule.key = r.ruleKey ∧
      r' = RuleExecutor.waived now rule r.difference exception

/-- What a result says of its pair. -/
structure ResultOf (engine : EvaluationEngine) (p : Difference × Rule)
    (r : RuleEvaluationResult) : Prop where
  ruleId : r.ruleId = p.2.id
  ruleKey : r.ruleKey = p.2.key
  difference : r.difference = p.1
  riskNonneg : 0 ≤ r.riskScore
  riskLe : r.riskScore ≤ 100
  ruleType : ∃ t, RuleExecutor.ruleType engine.py p.2 = .ok t

theorem execute_result {found : Option EvaluationException} {r : RuleEvaluationResult}
    (h : RuleExecutor.execute engine.py engine.now p.2 p.1 found = .ok r) :
    ResultOf engine p r := by
  unfold RuleExecutor.execute at h
  obtain ⟨t, ht, h⟩ := bind_ok h
  cases found with
  | some exception =>
    cases h
    exact ⟨rfl, rfl, rfl, by simp [RuleExecutor.waived], by simp [RuleExecutor.waived], t, ht⟩
  | none =>
    obtain ⟨passed, -, h⟩ := bind_ok h
    split at h
    · cases h
      exact ⟨rfl, rfl, rfl, by simp [RuleExecutor.passedResult],
        by simp [RuleExecutor.passedResult], t, ht⟩
    · obtain ⟨score, hscore, h⟩ := bind_ok h
      cases h
      obtain ⟨hnonneg, hle⟩ := RiskCalculator.score_bounds hscore
      exact ⟨rfl, rfl, rfl, hnonneg, hle, t, ht⟩

theorem execute_waived {found : Option EvaluationException} {r : RuleEvaluationResult}
    (h : RuleExecutor.execute engine.py engine.now p.2 p.1 found = .ok r)
    (exception : EvaluationException) :
    RuleExecutor.execute engine.py engine.now p.2 p.1 (some exception) =
      .ok (RuleExecutor.waived engine.now p.2 p.1 exception) := by
  obtain ⟨t, ht⟩ := (execute_result h).ruleType
  unfold RuleExecutor.execute
  rw [ht]
  rfl

theorem evaluatePair_found {exceptions : List EvaluationException} {r : RuleEvaluationResult}
    (h : engine.evaluatePair exceptions p = .ok r) :
    ∃ found, exceptionFor engine.now p.2.key p.1 exceptions = .ok found ∧
      RuleExecutor.execute engine.py engine.now p.2 p.1 found = .ok r :=
  bind_ok h

theorem evaluatePair_of_found {exceptions : List EvaluationException}
    {found : Option EvaluationException}
    (h : exceptionFor engine.now p.2.key p.1 exceptions = .ok found) :
    engine.evaluatePair exceptions p =
      RuleExecutor.execute engine.py engine.now p.2 p.1 found := by
  unfold evaluatePair
  rw [h]
  rfl

/-- What an exception inserted at a place does to the result of a pair. -/
theorem evaluatePair_insert (exception : EvaluationException) {r : RuleEvaluationResult}
    (h : engine.evaluatePair (before ++ after) p = .ok r) :
    (∃ e ∈ before, Applies engine.now e p) ∧
        engine.evaluatePair (before ++ exception :: after) p = .ok r ∨
      (¬ ∃ e ∈ before, Applies engine.now e p) ∧
        (Comparable exception →
          ∃ r', engine.evaluatePair (before ++ exception :: after) p = .ok r' ∧
          Waived engine.now exception r r') ∧
        (¬ Comparable exception →
          engine.evaluatePair (before ++ exception :: after) p = .error .typeError) := by
  obtain ⟨found, hfound, hexecute⟩ := evaluatePair_found h
  rw [exceptionFor_append] at hfound
  have hnew := exceptionFor_append engine.now p.2.key p.1 before (exception :: after)
  cases hbefore : exceptionFor engine.now p.2.key p.1 before with
  | error e =>
    rw [hbefore] at hfound
    cases hfound
  | ok first =>
    rw [hbefore] at hfound hnew
    have hsome := exceptionFor_isSome hbefore
    cases first with
    | some e =>
      cases hfound
      left
      refine ⟨hsome.1 rfl, ?_⟩
      rw [evaluatePair_of_found hnew]
      exact hexecute
    | none =>
      simp only at hfound hnew
      right
      refine ⟨by simpa using hsome, fun hcomparable => ?_, fun hnot => ?_⟩
      · obtain ⟨applies, happlies⟩ := appliesTo_ok hcomparable engine.now p.2.key p.1
        rw [exceptionFor, happlies] at hnew
        cases applies with
        | true =>
          refine ⟨_, (evaluatePair_of_found hnew).trans (execute_waived hexecute exception), ?_⟩
          obtain ⟨hid, hkey, hdifference, -, -, -⟩ := execute_result hexecute
          right
          rw [hkey, hdifference]
          exact ⟨happlies, p.2, hid.symm, rfl, rfl⟩
        | false =>
          have hsame : exceptionFor engine.now p.2.key p.1 (before ++ exception :: after) =
              .ok found := hnew.trans hfound
          exact ⟨r, (evaluatePair_of_found hsame).trans hexecute, .inl rfl⟩
      · rw [exceptionFor, appliesTo_error hnot] at hnew
        unfold evaluatePair
        rw [hnew]
        rfl

/-! ## All pairs -/

variable {pairs : List (Difference × Rule)} {results results' : List RuleEvaluationResult}

/-- Every pair is waived by one of the exceptions. -/
def AllWaived (now : DateTime) (exceptions : List EvaluationException)
    (pairs : List (Difference × Rule)) : Prop :=
  ∀ p ∈ pairs, ∃ e ∈ exceptions, Applies now e p

theorem evaluatePairs_insert
    (h : List.Forall₂ (fun p r => engine.evaluatePair (before ++ after) p = .ok r) pairs results)
    (hasked : Comparable exception ∨ AllWaived engine.now before pairs) :
    ∃ results', List.Forall₂
        (fun p r => engine.evaluatePair (before ++ exception :: after) p = .ok r) pairs results' ∧
      List.Forall₂ (Waived engine.now exception) results results' := by
  induction h with
  | nil => exact ⟨[], .nil, .nil⟩
  | @cons p r pairs results hpair _ ih =>
    obtain ⟨rest, hrest, hwaived⟩ :=
      ih (hasked.imp_right fun hall q hq => hall q (List.mem_cons_of_mem _ hq))
    rcases evaluatePair_insert exception hpair with ⟨-, hsame⟩ | ⟨hnone, hcompared, -⟩
    · exact ⟨r :: rest, .cons hsame hrest, .cons (.inl rfl) hwaived⟩
    · have hcomparable : Comparable exception := by
        refine hasked.resolve_right fun hall => hnone ?_
        exact hall p List.mem_cons_self
      obtain ⟨r', hr', hstep⟩ := hcompared hcomparable
      exact ⟨r' :: rest, .cons hr' hrest, .cons hstep hwaived⟩

/-- A pair that has to ask an exception that cannot be compared stops the evaluation. -/
theorem allWaived_of_evaluated (hnot : ¬ Comparable exception)
    (h : List.Forall₂ (fun p r => engine.evaluatePair (before ++ after) p = .ok r) pairs results)
    (h' : List.Forall₂ (fun p r => engine.evaluatePair (before ++ exception :: after) p = .ok r)
      pairs results') : AllWaived engine.now before pairs := by
  induction h generalizing results' with
  | nil => exact fun p hp => absurd hp List.not_mem_nil
  | cons hpair _ ih =>
    cases h' with
    | cons hpair' hrest' =>
      intro q hq
      rcases List.mem_cons.1 hq with rfl | hq
      · rcases evaluatePair_insert exception hpair with ⟨hsome, -⟩ | ⟨-, -, herror⟩
        · exact hsome
        · rw [herror hnot] at hpair'
          cases hpair'
      · exact ih hrest' q hq

/-! ## The decision -/

def RiskBounded (results : List RuleEvaluationResult) : Prop :=
  ∀ r ∈ results, 0 ≤ r.riskScore ∧ r.riskScore ≤ 100

theorem riskBounded_of_evaluated {exceptions : List EvaluationException}
    (h : List.Forall₂ (fun p r => engine.evaluatePair exceptions p = .ok r) pairs results) :
    RiskBounded results := by
  induction h with
  | nil => exact fun r hr => absurd hr List.not_mem_nil
  | cons hpair _ ih =>
    obtain ⟨found, -, hexecute⟩ := evaluatePair_found hpair
    have hresult := execute_result hexecute
    exact List.forall_mem_cons.2 ⟨⟨hresult.riskNonneg, hresult.riskLe⟩, ih⟩

theorem riskOf_le {bound : Int} (hbound : 0 ≤ bound) (h : ∀ r ∈ results, r.riskScore ≤ bound) :
    riskOf results ≤ bound := by
  unfold riskOf
  cases hmax : (results.map (·.riskScore)).max? with
  | none => exact hbound
  | some risk =>
    obtain ⟨r, hr, rfl⟩ := List.mem_map.1 (List.max?_mem hmax)
    exact h r hr

theorem le_riskOf {r : RuleEvaluationResult} (h : r ∈ results) : r.riskScore ≤ riskOf results := by
  have hmem : r.riskScore ∈ results.map (·.riskScore) := List.mem_map_of_mem h
  unfold riskOf
  cases hmax : (results.map (·.riskScore)).max? with
  | none => simp [List.max?_eq_none_iff.1 hmax] at hmem
  | some risk => exact (List.max?_le_iff hmax).1 (Int.le_refl risk) _ hmem

theorem riskOf_nonneg (h : RiskBounded results) : 0 ≤ riskOf results := by
  cases results with
  | nil => simp [riskOf]
  | cons r rest => exact (h r List.mem_cons_self).1.trans (le_riskOf List.mem_cons_self)

/-- A waiver lowers the risk of a result, and does not make it non-compliant. -/
theorem Waived.lowers {now : DateTime} {r r' : RuleEvaluationResult}
    (h : Waived now exception r r') (hbound : 0 ≤ r.riskScore) :
    0 ≤ r'.riskScore ∧ r'.riskScore ≤ r.riskScore ∧
      (r'.status = .nonCompliant → r.status = .nonCompliant) := by
  rcases h with rfl | ⟨-, rule, -, -, rfl⟩
  · exact ⟨hbound, Int.le_refl _, id⟩
  · exact ⟨Int.le_refl 0, hbound, nofun⟩

theorem riskOf_mono {now : DateTime} (h : List.Forall₂ (Waived now exception) results results')
    (hbound : RiskBounded results) : riskOf results' ≤ riskOf results := by
  refine riskOf_le (riskOf_nonneg hbound) ?_
  induction h with
  | nil => exact fun r hr => absurd hr List.not_mem_nil
  | cons hstep _ ih =>
    obtain ⟨hfirst, hrest⟩ := List.forall_mem_cons.1 hbound
    refine List.forall_mem_cons.2 ⟨?_, ?_⟩
    · exact (hstep.lowers hfirst.1).2.1.trans (le_riskOf List.mem_cons_self)
    · intro r hr
      refine (ih hrest r hr).trans (riskOf_le ?_ ?_)
      · exact hfirst.1.trans (le_riskOf List.mem_cons_self)
      · exact fun s hs => le_riskOf (List.mem_cons_of_mem _ hs)

theorem sum_mono {now : DateTime} (h : List.Forall₂ (Waived now exception) results results')
    (hbound : RiskBounded results) :
    0 ≤ (results'.map (·.riskScore)).sum ∧
      (results'.map (·.riskScore)).sum ≤ (results.map (·.riskScore)).sum := by
  induction h with
  | nil => simp
  | cons hstep _ ih =>
    obtain ⟨hfirst, hrest⟩ := List.forall_mem_cons.1 hbound
    obtain ⟨hnonneg, hle⟩ := ih hrest
    obtain ⟨hnonneg', hle', -⟩ := hstep.lowers hfirst.1
    simp only [List.map_cons, List.sum_cons]
    omega

theorem scoreOf_mono {now : DateTime} (h : List.Forall₂ (Waived now exception) results results')
    (hbound : RiskBounded results) : scoreOf results ≤ scoreOf results' := by
  obtain ⟨hnonneg, hle⟩ := sum_mono h hbound
  refine ComplianceScoreCalculator.score_antitone ?_ hnonneg hle ?_
  · rw [List.length_map, List.length_map, h.length_eq]
  · intro s hs
    obtain ⟨r, hr, rfl⟩ := List.mem_map.1 hs
    exact (hbound r hr).2

theorem statusOf_nonCompliant :
    statusOf results = .nonCompliant ↔ ∃ r ∈ results, r.status = .nonCompliant := by
  unfold statusOf
  split_ifs with hnil hany hall
  · simp [hnil]
  · simpa using hany
  · simpa using hany
  · simpa using hany

theorem statusOf_kept {now : DateTime} (h : List.Forall₂ (Waived now exception) results results')
    (hbound : RiskBounded results) (hstatus : statusOf results' = .nonCompliant) :
    statusOf results = .nonCompliant := by
  rw [statusOf_nonCompliant] at hstatus ⊢
  induction h with
  | nil => simp at hstatus
  | cons hstep _ ih =>
    obtain ⟨hfirst, hrest⟩ := List.forall_mem_cons.1 hbound
    rw [List.exists_mem_cons_iff] at hstatus ⊢
    exact hstatus.imp (hstep.lowers hfirst.1).2.2 (ih hrest)

/-- The second decision is the first one, relaxed by an exception. -/
structure Relaxed (now : DateTime) (exception : EvaluationException)
    (d d' : EvaluationDecision) : Prop where
  risk : d'.riskScore ≤ d.riskScore
  compliance : d.complianceScore ≤ d'.complianceScore
  status : d.status ≠ .nonCompliant → d'.status ≠ .nonCompliant
  results : List.Forall₂ (Waived now exception) d.ruleResults d'.ruleResults

theorem relaxed_of_results {prepared : Prepared}
    (h : List.Forall₂ (Waived engine.now exception) results results')
    (hbound : RiskBounded results) :
    Relaxed engine.now exception (engine.decision prepared results)
      (engine.decision prepared results') where
  risk := riskOf_mono h hbound
  compliance := scoreOf_mono h hbound
  status := mt (statusOf_kept h hbound)
  results := h

variable {context : EvaluationContext} {policies : List (Policy ⊕ PolicyPackage)}

theorem takeRules_exceptions (exceptions : List EvaluationException) (policy : Policy)
    (seen : List (Rule × Policy)) (rules : List Rule) :
    PolicyEvaluator.takeRules { context with exceptions } policy seen rules =
      PolicyEvaluator.takeRules context policy seen rules := by
  induction rules generalizing seen with
  | nil => rfl
  | cons rule rules ih =>
    unfold PolicyEvaluator.takeRules
    rw [ih, ih]
    rfl

/-- The exceptions are not looked at before the pairs are evaluated. -/
theorem prepare_exceptions (exceptions : List EvaluationException) :
    engine.prepare { context with exceptions } policies = engine.prepare context policies := by
  unfold prepare PolicyEvaluator.applicableRulesWithSource
  simp only [takeRules_exceptions]
  rfl

theorem evaluate_ok_iff {exceptions : List EvaluationException} {d : EvaluationDecision} :
    engine.evaluate { context with exceptions } policies = .ok d ↔
      ∃ prepared results, engine.prepare context policies = .ok prepared ∧
        List.Forall₂ (fun p r => engine.evaluatePair exceptions p = .ok r)
          prepared.pairs results ∧ d = engine.decision prepared results := by
  unfold evaluate
  rw [prepare_exceptions]
  constructor
  · intro h
    obtain ⟨prepared, hprepared, h⟩ := bind_ok h
    obtain ⟨results, hresults, h⟩ := bind_ok h
    cases h
    exact ⟨prepared, results, hprepared, mapM_ok_iff.1 hresults, rfl⟩
  · rintro ⟨prepared, results, hprepared, hresults, rfl⟩
    have hall := mapM_ok_iff.2 hresults
    rw [hprepared]
    show (prepared.pairs.mapM (engine.evaluatePair exceptions) >>= _) = _
    rw [hall]
    rfl

/-- Where an evaluation succeeds, one more exception at any place relaxes its decision, if and only
if it can be compared with the time of the evaluation, or every pair that is evaluated is waived
by an exception before it. -/
theorem waivers_iff {d : EvaluationDecision}
    (h : engine.evaluate { context with exceptions := before ++ after } policies = .ok d) :
    (∃ d', engine.evaluate { context with exceptions := before ++ exception :: after } policies =
        .ok d' ∧ Relaxed engine.now exception d d') ↔
      Comparable exception ∨ ∀ prepared, engine.prepare context policies = .ok prepared →
        AllWaived engine.now before prepared.pairs := by
  obtain ⟨prepared, results, hprepared, hresults, rfl⟩ := evaluate_ok_iff.1 h
  constructor
  · rintro ⟨d', hd', -⟩
    obtain ⟨prepared', results', hprepared', hresults', -⟩ := evaluate_ok_iff.1 hd'
    rw [hprepared] at hprepared'
    cases hprepared'
    by_cases hcomparable : Comparable exception
    · exact .inl hcomparable
    · right
      intro other hother
      rw [hprepared] at hother
      cases hother
      exact allWaived_of_evaluated hcomparable hresults hresults'
  · intro hasked
    obtain ⟨results', hresults', hwaived⟩ :=
      evaluatePairs_insert hresults (hasked.imp_right fun hall => hall prepared hprepared)
    exact ⟨engine.decision prepared results',
      evaluate_ok_iff.2 ⟨prepared, results', hprepared, hresults', rfl⟩,
      relaxed_of_results hwaived (riskBounded_of_evaluated hresults)⟩

/-! ## A naive expiry -/

/-- Python's library on plain texts. -/
def plainBuiltins : Builtins where
  casefold := Text.lower
  repr value := value.text
  int := Text.int?
  search pattern text := some (Text.hasPart pattern text)
  floatGt a b := do
    let a ← Text.int? a
    let b ← Text.int? b
    pure (b < a)
  numbers text := (Text.int? text).map fun n => [n.toNat]

def sampleEngine : EvaluationEngine where
  py := plainBuiltins
  now := 1000000

def nameRule : Rule where
  id := 2
  key := "device-name"
  expectedState := [("field_name", .str "name")]

def namePolicy : Policy where
  id := 1
  name := "naming"
  rules := [nameRule]

def nameDrift : Difference where
  id := 3
  differenceType := .modified
  subjectType := "device"
  subjectId := "sw1"
  fieldName := some "name"
  expected := .str "sw1"
  observed := .str "sw2"

def driftContext : EvaluationContext where
  differences := [nameDrift]

def expiring (expiresAt : Option PyDateTime) : EvaluationException where
  key := "maintenance"
  reason := "maintenance"
  approvedBy := "operations"
  expiresAt := expiresAt

theorem prepare_drift : ∃ prepared, sampleEngine.prepare driftContext [.inl namePolicy] =
    .ok prepared ∧ prepared.pairs = [(nameDrift, nameRule)] := by
  refine ⟨_, rfl, ?_⟩
  rfl

theorem evaluate_drift : ∃ d, sampleEngine.evaluate { driftContext with exceptions := [] ++ [] }
    [.inl namePolicy] = .ok d := by
  obtain ⟨prepared, hprepared, hpairs⟩ := prepare_drift
  have hpair : sampleEngine.evaluatePair ([] ++ []) (nameDrift, nameRule) =
      .ok (RuleExecutor.failedResult 1000000 nameRule nameDrift 50) := rfl
  have hresults : List.Forall₂ (fun p r => sampleEngine.evaluatePair ([] ++ []) p = .ok r)
      prepared.pairs [RuleExecutor.failedResult 1000000 nameRule nameDrift 50] := by
    rw [hpairs]
    exact .cons hpair .nil
  exact ⟨_, evaluate_ok_iff.2 ⟨prepared, _, hprepared, hresults, rfl⟩⟩

/-- A waiver until a time with a zone. -/
theorem waiver_relaxes :
    ∃ d, sampleEngine.evaluate { driftContext with exceptions := [] ++ [] } [.inl namePolicy] =
        .ok d ∧
      ∃ d', sampleEngine.evaluate
          { driftContext with exceptions := [] ++ expiring (some (.aware 2000000)) :: [] }
          [.inl namePolicy] = .ok d' ∧
        Relaxed 1000000 (expiring (some (.aware 2000000))) d d' := by
  obtain ⟨d, hd⟩ := evaluate_drift
  exact ⟨d, hd, (waivers_iff hd).2 (.inl (by simp [Comparable, expiring]))⟩

/-- A waiver until a time without one stops the evaluation. -/
theorem naive_waiver_raises :
    ∃ d, sampleEngine.evaluate { driftContext with exceptions := [] ++ [] } [.inl namePolicy] =
        .ok d ∧
      sampleEngine.evaluate
        { driftContext with exceptions := [] ++ expiring (some (.naive 0)) :: [] }
        [.inl namePolicy] = .error .typeError := by
  obtain ⟨d, hd⟩ := evaluate_drift
  refine ⟨d, hd, ?_⟩
  rfl

end EvaluationEngine
end Evaluation
end NetOps
