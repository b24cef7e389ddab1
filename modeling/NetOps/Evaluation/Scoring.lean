import NetOps.Binary64
import NetOps.Evaluation.Context

/-!
# Evaluation.Scoring

Risk and compliance scores (`evaluation/scoring.py`).

* `RiskCalculator.score_bounds`: a risk score lies between 0 and 100.
* `ComplianceScoreCalculator.score_antitone`: of equally many risk scores, those of the greater sum
  give no greater compliance score.
-/

namespace NetOps
namespace Evaluation

open Discovery (PyVal PyDict)
open Comparison (DifferenceType)
open Compliance (Difference Rule Severity)

/-- What the evaluation asks Python's library about values and texts. Where it raises, the answer is
`none`. -/
structure Builtins where
  casefold : String → String
  repr : PyVal → String
  /-- `int(text)` -/
  int : String → Option Int
  /-- `re.search(pattern, text) is not None` -/
  search : String → String → Option Bool
  /-- `float(a) > float(b)` -/
  floatGt : String → String → Option Bool
  /-- The numbers of a version text: `int` of each run of digits. -/
  numbers : String → Option (List Nat)

namespace RiskCalculator

def clamp (value : Int) : Int := max 0 (min 100 value)

def weight : DifferenceType → Int
  | .missing => 80
  | .conflict => 85
  | .duplicate => 75
  | .modified => 50
  | .unexpected => 45
  | .unsupported => 15
  | .unknown => 25

/-- `score`: the explicit score of the rule, or the weight of the difference. -/
def score (py : Builtins) (rule : Rule) (difference : Difference) : Except EvaluationError Int :=
  match rule.expectedState.getD "risk_score" with
  | .none => .ok (weight difference.differenceType)
  | explicit =>
    match py.int explicit.text with
    | some value => .ok (clamp value)
    | none => .error .valueError

def severityForScore (score : Int) : Severity :=
  let score := clamp score
  if 90 ≤ score then ⟨.critical, score, some "Critical"⟩
  else if 70 ≤ score then ⟨.high, score, some "High"⟩
  else if 40 ≤ score then ⟨.medium, score, some "Medium"⟩
  else if 0 < score then ⟨.low, score, some "Low"⟩
  else ⟨.info, 0, some "Info"⟩

theorem score_bounds {py : Builtins} {rule : Rule} {difference : Difference} {score : Int}
    (h : RiskCalculator.score py rule difference = .ok score) : 0 ≤ score ∧ score ≤ 100 := by
  unfold RiskCalculator.score at h
  split at h
  · cases h
    cases difference.differenceType <;> decide
  · split at h
    · cases h
      unfold clamp
      omega
    · cases h

end RiskCalculator

namespace ComplianceScoreCalculator

open Binary64 (halfEven nearest)

/-- `sum(risk_scores) / len(risk_scores)`, as a float. -/
def averageRisk (riskScores : List Int) : ℚ := nearest (riskScores.sum / riskScores.length)

/-- `score`: `round(100 - average_risk)` between 0 and 100. -/
def score (riskScores : List Int) : Int :=
  if riskScores = [] then 100
  else max 0 (min 100 (halfEven (nearest (100 - averageRisk riskScores))))

theorem sum_le {riskScores : List Int} (h : ∀ s ∈ riskScores, s ≤ 100) :
    riskScores.sum ≤ 100 * riskScores.length := by
  induction riskScores with
  | nil => simp
  | cons s riskScores ih =>
    rw [List.forall_mem_cons] at h
    have hrest := ih h.2
    rw [List.sum_cons, List.length_cons]
    push_cast
    linarith [h.1]

theorem averageRisk_le {riskScores : List Int} (hne : riskScores ≠ [])
    (hnonneg : 0 ≤ riskScores.sum) (h : ∀ s ∈ riskScores, s ≤ 100) :
    averageRisk riskScores ≤ 100 := by
  have hlength : (0 : ℚ) < riskScores.length := by
    exact_mod_cast List.length_pos_iff.2 hne
  have hsum : (riskScores.sum : ℚ) ≤ 100 * riskScores.length := by exact_mod_cast sum_le h
  have hquotient : (riskScores.sum : ℚ) / riskScores.length ≤ (100 : ℕ) := by
    rw [div_le_iff₀ hlength]
    exact_mod_cast hsum
  have hpos : (0 : ℚ) ≤ riskScores.sum / riskScores.length :=
    div_nonneg (by exact_mod_cast hnonneg) hlength.le
  calc averageRisk riskScores ≤ nearest ((100 : ℕ) : ℚ) :=
        Binary64.nearest_mono hpos hquotient
    _ = 100 := by rw [Binary64.nearest_natCast (by norm_num)]; norm_num

/-- The rounding steps keep the order of the sums. -/
theorem score_antitone {xs ys : List Int} (hlength : ys.length = xs.length)
    (hnonneg : 0 ≤ ys.sum) (hsum : ys.sum ≤ xs.sum) (h : ∀ s ∈ xs, s ≤ 100) :
    score xs ≤ score ys := by
  unfold score
  rcases eq_or_ne xs [] with rfl | hne
  · rw [if_pos rfl, if_pos (List.length_eq_zero_iff.1 hlength)]
  · have hne' : ys ≠ [] := by
      rintro rfl
      exact hne (List.length_eq_zero_iff.1 hlength.symm)
    rw [if_neg hne, if_neg hne']
    have hpos : (0 : ℚ) ≤ ys.sum / ys.length :=
      div_nonneg (by exact_mod_cast hnonneg) (Nat.cast_nonneg _)
    have hquotient : (ys.sum : ℚ) / ys.length ≤ xs.sum / xs.length := by
      rw [hlength]
      exact div_le_div_of_nonneg_right (by exact_mod_cast hsum) (Nat.cast_nonneg _)
    have haverage : averageRisk ys ≤ averageRisk xs := Binary64.nearest_mono hpos hquotient
    have hbound := averageRisk_le hne (hnonneg.trans hsum) h
    have hscore : nearest (100 - averageRisk xs) ≤ nearest (100 - averageRisk ys) :=
      Binary64.nearest_mono (sub_nonneg.2 hbound) (sub_le_sub_left haverage 100)
    have hround := Binary64.halfEven_mono hscore
    omega

end ComplianceScoreCalculator
end Evaluation
end NetOps
