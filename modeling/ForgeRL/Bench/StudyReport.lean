import ForgeRL.Library.Buckets
import ForgeRL.Library.Coverage
import ForgeRL.Library.Sampling
import ForgeRL.Bench.Run

namespace ForgeRL

open Library

/-!
# The statistics of a study

`summarize` has one row for each policy, and `paired_intervals` one for each
policy that the adaptive one is compared with.  Every run is counted in one row,
every rate is a proportion of runs, and an interval lies between the smallest
and the largest difference of a task.  The rates and means are the quotients
themselves, before they are rounded to floats.
-/

/-- `router.POLICIES` -/
def Router.POLICIES : List Policy :=
  [.strong_only, .cheap_only, .escalate_on_failure, .static_router, .adaptive]

namespace Study

/-- A run that counts as solved. -/
def SolvedRun (run : EpisodeResult) : Prop := run.status = .completed ∧ run.solved = true

instance (run : EpisodeResult) : Decidable (SolvedRun run) := inferInstanceAs (Decidable (_ ∧ _))

/-- A row of `summarize`, without the latency. -/
structure Summary where
  policy : Policy
  n : ℕ
  planned : ℕ
  solved : ℕ
  solve_rate : Option ℚ
  hidden_test_pass_rate : Option ℚ
  graded_runs : ℕ
  mean_cost_usd : Option ℚ
  mean_tokens : Option ℚ
  token_measured_runs : ℕ
  mean_tool_calls : Option ℚ
  mean_steps : Option ℚ
  mean_regressions : Option ℚ
  success_after_repair_rate : Option ℚ
  repair_eligible_runs : ℕ
  escalation_frequency : Option ℚ
  unnecessary_edits : Option ℚ
  failed_runs : ℕ
  learned_decisions : ℕ
  fallback_decisions : ℕ

/-- The runs with a hidden grading. -/
def gradedRuns (rows : List EpisodeResult) : List EpisodeResult :=
  rows.filter fun run => run.heldout_passed.isSome

def hiddenPassed (rows : List EpisodeResult) : ℕ :=
  ((gradedRuns rows).map fun run => run.heldout_passed.getD 0).sum

def hiddenTotal (rows : List EpisodeResult) : ℕ :=
  ((gradedRuns rows).map EpisodeResult.heldout_total).sum

def repairedRuns (rows : List EpisodeResult) : List EpisodeResult :=
  rows.filter fun run => 1 < run.attempts

def summaryOf (policy : Policy) (planned : ℕ) (rows : List EpisodeResult) : Summary where
  policy := policy
  n := rows.length
  planned := planned
  solved := rows.countP fun run => SolvedRun run
  solve_rate := proportion? (rows.countP fun run => SolvedRun run) rows.length
  hidden_test_pass_rate := proportion? (hiddenPassed rows) (hiddenTotal rows)
  graded_runs := (gradedRuns rows).length
  mean_cost_usd := mean? (rows.map EpisodeResult.cost_usd)
  mean_tokens := mean? ((rows.filterMap EpisodeResult.tokens).map fun tokens => (tokens : ℚ))
  token_measured_runs := rows.countP fun run => run.tokens.isSome
  mean_tool_calls := mean? (rows.map fun run => (run.tool_calls : ℚ))
  mean_steps := mean? (rows.map fun run => (run.attempts : ℚ))
  mean_regressions := mean? (rows.map fun run => (run.regressions_introduced : ℚ))
  success_after_repair_rate :=
    proportion? ((repairedRuns rows).countP fun run => run.success_after_repair)
      (repairedRuns rows).length
  repair_eligible_runs := (repairedRuns rows).length
  escalation_frequency := proportion? (rows.countP fun run => 0 < run.escalations) rows.length
  unnecessary_edits :=
    mean? ((rows.filterMap EpisodeResult.unnecessary_edits).map fun edits => (edits : ℚ))
  failed_runs := rows.countP fun run => run.status ≠ .completed
  learned_decisions := (rows.map EpisodeResult.learned_decisions).sum
  fallback_decisions := (rows.map EpisodeResult.fallback_decisions).sum

def ofPolicy (policy : Policy) (runs : List EpisodeResult) : List EpisodeResult :=
  runs.filter fun run => run.policy = policy

/-- The division of the hidden cases fails: there are graded runs, and none of
them has a hidden case. -/
def Undivided (rows : List EpisodeResult) : Prop := gradedRuns rows ≠ [] ∧ hiddenTotal rows = 0

instance (rows : List EpisodeResult) : Decidable (Undivided rows) :=
  decidable_of_iff ((gradedRuns rows).isEmpty = false ∧ hiddenTotal rows = 0) (by
    unfold Undivided
    rw [List.isEmpty_eq_false_iff])

def summarize (runs : List EpisodeResult) (planned : ℕ) : Except Escape (List Summary) :=
  if Router.POLICIES.any fun policy => Undivided (ofPolicy policy runs) then .error .other
  else .ok (Router.POLICIES.map fun policy => summaryOf policy planned (ofPolicy policy runs))

/-- A row of `paired_intervals`, without its note. -/
structure PairedInterval where
  baseline : Policy
  paired_tasks : ℕ
  solve_rate_difference : Option ℚ
  task_bootstrap_95 : Option (ℚ × ℚ)

/-- `grouped` -/
def groupedRuns (runs : List EpisodeResult) : Nested Text Policy (List ℚ) :=
  Nested.collect (runs.map fun run =>
    (run.task_id, run.policy, if SolvedRun run then (1 : ℚ) else 0))

/-- The difference of one task, if both policies have run. -/
def taskDifference (policy : Policy) (group : Dict Policy (List ℚ)) : Option ℚ :=
  match (Dict.get? group .adaptive).getD [], (Dict.get? group policy).getD [] with
  | [], _ => none
  | _, [] => none
  | adaptive, baseline => some (mean adaptive - mean baseline)

def taskDifferences (runs : List EpisodeResult) (policy : Policy) : List ℚ :=
  (groupedRuns runs).rows.filterMap fun group => taskDifference policy group.2

def pairedInterval (draws : Draws) (policy : Policy) (values : List ℚ) : PairedInterval where
  baseline := policy
  paired_tasks := values.length
  solve_rate_difference := mean? values
  task_bootstrap_95 :=
    if 3 ≤ values.length then
      let drawn := bootstrap draws 2000 values
      some (drawn.getD 49 0, drawn.getD 1949 0)
    else none

/-- `paired_intervals`; every comparison draws from the same seed. -/
def paired_intervals (draws : Draws) (runs : List EpisodeResult) : List PairedInterval :=
  (Router.POLICIES.filter fun policy => policy ≠ .adaptive).map fun policy =>
    pairedInterval draws policy (taskDifferences runs policy)

end Study

end ForgeRL
