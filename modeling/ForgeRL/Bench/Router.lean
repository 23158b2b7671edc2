import ForgeRL.Library.Dict
import Mathlib.Data.Rat.Defs
import Mathlib.Algebra.Order.Ring.Rat

namespace ForgeRL

open Library

/-!
# Routing on observable state

A router sees an observation and nothing else: counts of visible cases, the
counters and caps of the episode, and the role of the current model.  The
legal actions come in a fixed order, and every policy chooses among them.  A
learned policy compares the stored values of the legal actions that its
artifact supports, and falls back to the hand-written rule elsewhere.
-/

inductive Role where
  | cheap
  | strong
deriving DecidableEq, Repr

inductive Action where
  | retry
  | repair
  | escalate
  | rollback
  | stop
  /-- Legal in the verification harness only. -/
  | verify
deriving DecidableEq, Repr

/-- The extra keys of an observation in the verification harness. -/
structure VerificationView where
  feature_version : String
  /-- `verification_passed` and `verification_total`, when they are known. -/
  result : Option (ℕ × ℕ)
  calls : ℕ
  max_verifications : ℕ
deriving DecidableEq, Repr

structure Observation where
  public_passed : ℕ
  public_total : ℕ
  attempts : ℕ
  max_steps : ℕ
  decisions : ℕ
  max_decisions : ℕ
  budget_remaining_usd : ℚ
  current_model : Role
  improvement : ℤ
  can_rollback : Bool
  rollbacks : ℕ
  retries : ℕ
  verification : Option VerificationView
deriving DecidableEq, Repr

/-- The observation without the extra keys. -/
def Observation.core (state : Observation) : Observation := { state with verification := none }

/-- The visible cases all pass, and there are some. -/
def Observation.VisibleGreen (state : Observation) : Prop :=
  state.public_total ≠ 0 ∧ state.public_passed = state.public_total

instance (state : Observation) : Decidable state.VisibleGreen :=
  inferInstanceAs (Decidable (_ ∧ _))

/-- Before the first attempt nothing is retried or escalated. -/
def Observation.Fresh (state : Observation) : Prop :=
  state.attempts = 0 → state.retries = 0 ∧ state.current_model = .cheap

inductive Policy where
  | strong_only
  | cheap_only
  | escalate_on_failure
  | static_router
  | adaptive
  /-- The policy of a training episode; only a selector can drive it. -/
  | exploration
  | supervised_cost
deriving DecidableEq, Repr

/-- `router.POLICIES` -/
def Policy.Released (policy : Policy) : Prop :=
  policy ≠ .exploration ∧ policy ≠ .supervised_cost

instance (policy : Policy) : Decidable policy.Released :=
  inferInstanceAs (Decidable (_ ∧ _))

structure Selection where
  action : Action
  source : String
deriving DecidableEq, Repr

/-- An exception that leaves a method of the harness. -/
inductive Escape where
  | valueError (message : String)
  | unicodeEncodeError
  | runtimeError (message : String)
  | sandboxUnavailable (message : String)
  | cancelled
  | other
deriving DecidableEq, Repr

namespace Router

def featureVersion : String := "forgebench-state-v2"

def allowed_actions (state : Observation) : List Action :=
  if state.VisibleGreen then [.stop]
  else if state.decisions ≥ state.max_decisions ∨ state.attempts ≥ state.max_steps ∨
      state.budget_remaining_usd ≤ 0 then [.stop]
  else
    (if state.retries < 2 then [.retry] else []) ++
    (if state.attempts ≠ 0 then [.repair] else []) ++
    (if state.current_model ≠ .strong then [.escalate] else []) ++
    (if state.can_rollback = true ∧ state.rollbacks < 1 then [.rollback] else []) ++
    [.stop]

/-- `str` of a boolean. -/
def boolText (value : Bool) : String := if value then "True" else "False"

def roleText : Role → String
  | .cheap => "cheap"
  | .strong => "strong"

def encode_state (state : Observation) : String :=
  "|".intercalate [
    featureVersion,
    if state.public_passed = max 1 state.public_total then "all"
      else if 0 < state.public_passed then "some" else "none",
    toString (min state.attempts 3),
    toString (min (state.max_steps - state.attempts) 3),
    roleText state.current_model,
    if state.improvement < 0 then "regressed"
      else if 0 < state.improvement then "improved" else "unchanged",
    boolText state.can_rollback,
    boolText (state.rollbacks ≠ 0),
    if state.budget_remaining_usd ≤ 1 / 4 then "low" else "normal"]

def static_action (state : Observation) : Action :=
  let legal := allowed_actions state
  if legal = [.stop] then .stop
  else if .rollback ∈ legal then .rollback
  else if state.attempts = 0 then .retry
  else if .escalate ∈ legal ∧ (state.improvement ≤ 0 ∨ state.attempts ≥ 2) then .escalate
  else .repair

/-- A fitted artifact.  A value that is missing, not a number or not finite is
no entry. -/
structure Artifact where
  trained : Bool
  feature_version : String
  values : Dict String (Dict Action ℚ)
  action_counts : Dict String (Dict Action ℤ)

/-- The legal actions that an artifact supports, with their values. -/
def Artifact.supported (artifact : Artifact) (state : Observation) : List (Action × ℚ) :=
  let key := encode_state state
  (allowed_actions state).filterMap fun action =>
    let count := ((artifact.action_counts.get? key).bind (·.get? action)).getD 0
    match (artifact.values.get? key).bind (·.get? action) with
    | some value => if 0 < count then some (action, value) else none
    | none => none

/-- The position in `ACTIONS`, which breaks ties between equal values. -/
def rank : Action → ℕ
  | .retry => 0
  | .repair => 1
  | .escalate => 2
  | .rollback => 3
  | .stop => 4
  | .verify => 5

/-- The entry with the larger value, and the earlier action among equals. -/
def better (first second : Action × ℚ) : Action × ℚ :=
  if first.2 < second.2 ∨ (first.2 = second.2 ∧ rank second.1 < rank first.1) then second
  else first

def bestAction : List (Action × ℚ) → Option Action
  | [] => none
  | first :: rest => some (rest.foldl better first).1

/-- The action of a trained artifact of the current feature version. -/
def learnedAction (artifact : Option Artifact) (state : Observation) : Option Action :=
  match artifact with
  | none => none
  | some artifact =>
    if artifact.trained = true ∧ artifact.feature_version = featureVersion then
      bestAction (artifact.supported state)
    else none

def choose_action (policy : Policy) (state : Observation) (artifact : Option Artifact) :
    Except Escape Selection :=
  if ¬ policy.Released then .error (.valueError "Unknown ForgeBench policy")
  else
    let legal := allowed_actions state
    if legal = [.stop] then .ok ⟨.stop, "constraint"⟩
    else
      match policy with
      | .strong_only => .ok ⟨if .escalate ∈ legal then .escalate else .repair, "baseline"⟩
      | .cheap_only => .ok ⟨if state.attempts = 0 then .retry else .repair, "baseline"⟩
      | .escalate_on_failure =>
        .ok ⟨if state.attempts = 0 then .retry
          else if .escalate ∈ legal then .escalate else .repair, "baseline"⟩
      | .adaptive =>
        match learnedAction artifact state with
        | some action => .ok ⟨action, "learned_q"⟩
        | none => .ok ⟨static_action state, "heuristic_fallback"⟩
      | _ => .ok ⟨static_action state, "hand_written"⟩

/-- `pilot.choose_supervised`; a missing artifact is an empty one. -/
def choose_supervised (state : Observation) (artifact : Option Artifact) : Selection :=
  match learnedAction artifact state with
  | some action => ⟨action, "learned_supervised_cost"⟩
  | none => ⟨static_action state, "heuristic_fallback"⟩

/-! ## What a legal action says of the state -/

/-- There is room for another action than `stop`. -/
structure Room (state : Observation) : Prop where
  decisions : state.decisions < state.max_decisions
  attempts : state.attempts < state.max_steps
  budget : 0 < state.budget_remaining_usd

/-- What each action other than `stop` asks of the state. -/
def Asks (state : Observation) : Action → Prop
  | .retry => state.retries < 2
  | .repair => state.attempts ≠ 0
  | .escalate => state.current_model ≠ .strong
  | .rollback => state.can_rollback = true ∧ state.rollbacks < 1
  | .stop => False
  | .verify => False

theorem mem_allowed_actions {state : Observation} {action : Action} :
    action ∈ allowed_actions state ↔
      action = .stop ∨ (¬ state.VisibleGreen ∧ Room state ∧ Asks state action) := by
  unfold allowed_actions
  by_cases green : state.VisibleGreen
  · simp [green]
  · by_cases full : state.decisions ≥ state.max_decisions ∨ state.attempts ≥ state.max_steps ∨
        state.budget_remaining_usd ≤ 0
    · have none_ : ¬ Room state := by
        rintro ⟨decisions, attempts, budget⟩
        rcases full with full | full | full
        · exact absurd decisions (not_lt.mpr full)
        · exact absurd attempts (not_lt.mpr full)
        · exact absurd budget (not_lt.mpr full)
      simp [green, full, none_]
    · have room : Room state := by
        push Not at full
        exact ⟨full.1, full.2.1, full.2.2⟩
      rw [if_neg green, if_neg full]
      cases action <;> simp [green, room, Asks]

/-- A legal action other than `stop` finds room under every cap. -/
theorem room_of_allowed {state : Observation} {action : Action}
    (legal : action ∈ allowed_actions state) (acts : action ≠ .stop) : Room state :=
  ((mem_allowed_actions.mp legal).resolve_left acts).2.1

theorem asks_of_allowed {state : Observation} {action : Action}
    (legal : action ∈ allowed_actions state) (acts : action ≠ .stop) : Asks state action :=
  ((mem_allowed_actions.mp legal).resolve_left acts).2.2

theorem verify_not_allowed (state : Observation) : .verify ∉ allowed_actions state :=
  fun legal => asks_of_allowed legal (by decide)

/-- When every decision is made, only `stop` is legal. -/
theorem allowed_actions_of_decided {state : Observation}
    (decided : state.decisions ≥ state.max_decisions) : allowed_actions state = [.stop] := by
  have full : state.decisions ≥ state.max_decisions ∨ state.attempts ≥ state.max_steps ∨
      state.budget_remaining_usd ≤ 0 := .inl decided
  unfold allowed_actions
  rw [if_pos full, ite_self]

/-! ## The released policies choose legally -/

theorem mem_of_choices {state : Observation} (choices : allowed_actions state ≠ [.stop])
    {action : Action} (asks : Asks state action) : action ∈ allowed_actions state := by
  refine mem_allowed_actions.mpr (.inr ?_)
  by_cases green : state.VisibleGreen
  · exact absurd (if_pos green) choices
  · by_cases full : state.decisions ≥ state.max_decisions ∨ state.attempts ≥ state.max_steps ∨
        state.budget_remaining_usd ≤ 0
    · exact absurd ((if_neg green).trans (if_pos full)) choices
    · push Not at full
      exact ⟨green, ⟨full.1, full.2.1, full.2.2⟩, asks⟩

/-- A first attempt is a legal retry, and a later one a legal repair. -/
theorem attempt_mem {state : Observation} (choices : allowed_actions state ≠ [.stop])
    (fresh : state.Fresh) :
    (if state.attempts = 0 then .retry else .repair) ∈ allowed_actions state := by
  split_ifs with first
  · apply mem_of_choices choices
    rw [Asks, (fresh first).1]
    decide
  · exact mem_of_choices choices first

/-- Without a legal escalation the model is strong, so there was an attempt. -/
theorem repair_mem {state : Observation} (choices : allowed_actions state ≠ [.stop])
    (fresh : state.Fresh) (strong : .escalate ∉ allowed_actions state) :
    .repair ∈ allowed_actions state := by
  apply mem_of_choices choices
  intro first
  apply strong
  apply mem_of_choices choices
  rw [Asks, (fresh first).2]
  decide

theorem static_action_mem {state : Observation} (fresh : state.Fresh) :
    static_action state ∈ allowed_actions state := by
  unfold static_action
  dsimp only
  split_ifs with only_ rolls first escalates
  · rw [only_]
    exact List.mem_singleton_self _
  · exact rolls
  · simpa only [first, if_true] using attempt_mem only_ fresh
  · exact escalates.1
  · simpa only [first, if_false] using attempt_mem only_ fresh

theorem bestAction_mem {entries : List (Action × ℚ)} {action : Action}
    (best : bestAction entries = some action) : ∃ value, (action, value) ∈ entries := by
  have folded (first : Action × ℚ) (rest : List (Action × ℚ)) :
      rest.foldl better first ∈ first :: rest := by
    induction rest generalizing first with
    | nil => exact List.mem_singleton_self _
    | cons next rest ih =>
      have kept : better first next = first ∨ better first next = next := by
        unfold better
        split_ifs
        · exact .inr rfl
        · exact .inl rfl
      rcases List.mem_cons.mp (ih (better first next)) with same | later
      · rw [List.foldl_cons, same]
        rcases kept with same | same <;> simp [same]
      · exact List.mem_cons_of_mem _ (List.mem_cons_of_mem _ later)
  cases entries with
  | nil => cases best
  | cons first rest =>
    cases best
    exact ⟨_, folded first rest⟩

theorem learnedAction_mem {artifact : Option Artifact} {state : Observation} {action : Action}
    (learned : learnedAction artifact state = some action) : action ∈ allowed_actions state := by
  unfold learnedAction at learned
  split at learned
  · cases learned
  · split_ifs at learned
    rcases bestAction_mem learned with ⟨value, member⟩
    rcases List.mem_filterMap.mp member with ⟨legal, allowed, kept⟩
    dsimp only at kept
    split at kept
    · split_ifs at kept
      cases kept
      exact allowed
    · cases kept

theorem choose_supervised_mem (artifact : Option Artifact) {state : Observation}
    (fresh : state.Fresh) : (choose_supervised state artifact).action ∈ allowed_actions state := by
  unfold choose_supervised
  split
  next learned => exact learnedAction_mem learned
  · exact static_action_mem fresh

/-- A released policy chooses a legal action, and never under the name of the
supervised controller. -/
theorem choose_action_released {policy : Policy} {state : Observation}
    (artifact : Option Artifact) (released : policy.Released) (fresh : state.Fresh) :
    ∃ selection, choose_action policy state artifact = .ok selection ∧
      selection.action ∈ allowed_actions state ∧ selection.source ≠ "learned_supervised_cost" := by
  unfold choose_action
  rw [if_neg (not_not.mpr released)]
  dsimp only
  by_cases only_ : allowed_actions state = [.stop]
  · rw [if_pos only_, only_]
    exact ⟨_, rfl, List.mem_singleton_self _, by simp⟩
  · rw [if_neg only_]
    cases policy with
    | strong_only =>
      refine ⟨_, rfl, ?_, by simp⟩
      dsimp only
      split_ifs with escalates
      · exact escalates
      · exact repair_mem only_ fresh escalates
    | cheap_only => exact ⟨_, rfl, attempt_mem only_ fresh, by simp⟩
    | escalate_on_failure =>
      refine ⟨_, rfl, ?_, by simp⟩
      have attempt := attempt_mem only_ fresh
      dsimp only
      split_ifs with first escalates
      · simpa only [first, if_true] using attempt
      · exact escalates
      · simpa only [first, if_false] using attempt
    | static_router => exact ⟨_, rfl, static_action_mem fresh, by simp⟩
    | adaptive =>
      dsimp only
      split
      next action learned => exact ⟨_, rfl, learnedAction_mem learned, by simp⟩
      · exact ⟨_, rfl, static_action_mem fresh, by simp⟩
    | exploration => exact absurd rfl released.1
    | supervised_cost => exact absurd rfl released.2

end Router

end ForgeRL
