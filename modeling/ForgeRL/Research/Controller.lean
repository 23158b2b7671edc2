import ForgeRL.Research.Study
import ForgeRL.Sandbox.Grader
import ForgeRL.Library.RoundTrip
import Mathlib.Tactic.Linarith

namespace ForgeRL.Research

open Library

/-!
# The controller of the first pilot

The controller reads a state as a dictionary: it looks at a few of its keys,
puts a default in the place of a missing one, and refuses a value that is no
finite number.  `fit_q` reads a list of transitions and refuses the first that
does not come from training, lacks a finite reward or takes an action that is
not legal in its state.

The arithmetic of the features is exact.
-/

namespace Controller

def ACTIONS : List String := ["fast", "deliberate", "replan", "stop"]

def FEATURE_VERSION : ℕ := 1

/-- `isinstance(value, (int, float))` and `math.isfinite`, without the booleans. -/
def finite? (value : Json) : Except Failure (Option ℚ) :=
  if Sandbox.TooLarge value then
    .error (.other "OverflowError" "int too large to convert to float")
  else .ok (Sandbox.exactValue? value)

/-- `_number` -/
def number (state : JsonObject) (key : String) (default : Json) : Except Failure ℚ :=
  match finite? ((Json.field? state key).getD default) with
  | .error failure => .error failure
  | .ok none => .error (.valueError ("Invalid state feature: " ++ key))
  | .ok (some value) => .ok value

/-- `int` of a number. -/
def truncate (value : ℚ) : ℤ := if 0 ≤ value then ⌊value⌋ else ⌈value⌉

structure Features where
  ratio : ℚ
  visible_pass : Bool
  attempts : ℤ
  remaining_steps : ℤ
  remaining_cost : ℚ
  improvement : ℚ
  last_action : String
  replan_count : ℤ

/-- `state.get("last_action")`, when it is an action. -/
def lastAction (state : JsonObject) : String :=
  match Json.field? state "last_action" with
  | some (.str name) =>
    (ACTIONS.find? fun action => decide (Text.ofString action = name)).getD "none"
  | _ => "none"

/-- `_features` -/
def features (state : JsonObject) : Except Failure Features := do
  let total := max 0 (← number state "public_total" (.int 0))
  let passed := min total (max 0 (← number state "public_passed" (.int 0)))
  let attempts := max 0 (truncate
    (← number state "attempts" ((Json.field? state "steps").getD (.int 0))))
  let maximum := max 1 (truncate (← number state "max_steps" (.int 3)))
  let max_cost := max (1 / 1000000) (← number state "max_cost_usd" (.float (.finite 1)))
  let used_cost := max 0 (← number state "cost_usd" (.int 0))
  let improvement ← number state "improvement" (.int 0)
  let replan_count := max 0 (truncate (← number state "replan_count" (.int 0)))
  return {
    ratio := if total = 0 then 0 else passed / total
    visible_pass := decide (0 < total ∧ passed = total)
    attempts := attempts
    remaining_steps := max 0 (maximum - attempts)
    remaining_cost := max 0 (1 - used_cost / max_cost)
    improvement := improvement
    last_action := lastAction state
    replan_count := replan_count }

namespace Features

/-- The text of `encode_state`. -/
def encoded (f : Features) : String :=
  "|".intercalate [
    toString FEATURE_VERSION,
    if f.visible_pass = true then "all" else if 0 < f.ratio then "some" else "none",
    toString (min f.attempts 3),
    toString (min f.remaining_steps 3),
    if f.remaining_cost ≤ 3 / 10 then "low"
      else if f.remaining_cost ≤ 6 / 10 then "mid" else "high",
    if 0 < f.improvement then "+" else if f.improvement < 0 then "-" else "0",
    f.last_action,
    toString (min f.replan_count 1)]

/-- The actions of `allowed_actions`. -/
def allowed (f : Features) : List String :=
  if f.visible_pass = true ∨ f.remaining_steps = 0 ∨ f.remaining_cost ≤ 0 then ["stop"]
  else
    ["fast", "deliberate"] ++ (if 0 < f.attempts ∧ f.replan_count = 0 then ["replan"] else []) ++
      ["stop"]

end Features

def encode_state (state : JsonObject) : Except Failure String :=
  (features state).map Features.encoded

def allowed_actions (state : JsonObject) : Except Failure (List String) :=
  (features state).map Features.allowed

/-! ## The transitions of a fit -/

/-- An entry of `normalized`. -/
structure Entry where
  state : String
  action : String
  reward : ℚ
  next_state : String
  next_legal : List String
  terminal : Bool
  task_id : Text

/-- A non-empty string under the key. -/
def provenance? (row : JsonObject) : Option Text :=
  match Json.field? row "task_id" with
  | some (.str id) => if id = [] then none else some id
  | _ => none

/-- An action of the controller under the key. -/
def action? (row : JsonObject) : Option String :=
  match Json.field? row "action" with
  | some (.str name) => ACTIONS.find? fun action => decide (Text.ofString action = name)
  | _ => none

/-- `row[key]` -/
def item (row : JsonObject) (key : String) : Except Failure Json :=
  match Json.field? row key with
  | some value => .ok value
  | none => .error (.other "KeyError" key)

/-- A value with the method `get`. -/
def dictionary : Json → Except Failure JsonObject
  | .obj fields => .ok fields
  | _ => .error (.other "AttributeError" "the state is no dictionary")

/-- `row.get("split") == "train"` -/
def isTraining (row : JsonObject) : Bool :=
  match Json.field? row "split" with
  | some (.str split) => decide (split = Text.ofString "train")
  | _ => false

/-- `row.get("terminal", row.get("done", False))` -/
def terminal (row : JsonObject) : Bool :=
  !((Json.field? row "terminal").getD ((Json.field? row "done").getD (.bool false))).isFalsy

/-- The body of the loop of `fit_q` over its transitions. -/
def normalize (row : JsonObject) : Except Failure Entry :=
  if isTraining row then
    match provenance? row with
    | none => .error (.valueError "Each observed transition needs task_id provenance")
    | some task_id =>
      match action? row with
      | none => .error (.valueError "Invalid observed action")
      | some action =>
        match finite? ((Json.field? row "reward").getD .null) with
        | .error failure => .error failure
        | .ok none => .error (.valueError "Reward must be finite")
        | .ok (some reward) => do
          let state ← item row "state"
          let next_state ← item row "next_state"
          let observed ← dictionary state
          if action ∉ (← allowed_actions observed) then
            .error (.valueError
              "Observed action violates controller budget or stopping constraints")
          else
            let next ← dictionary next_state
            return {
              state := ← encode_state observed
              action := action
              reward := reward
              next_state := ← encode_state next
              next_legal := ← allowed_actions next
              terminal := terminal row
              task_id := task_id }
  else .error (.valueError "Q fitting accepts explicitly labeled train transitions only")

/-- `fit_q` accepts a transition. -/
def Accepts (row : JsonObject) : Prop := ∃ entry, normalize row = .ok entry

end Controller

/-! ## What a tree emits -/

/-- The name of an action. -/
def Action.name : Action → String
  | fast => "fast"
  | deliberate => "deliberate"
  | replan => "replan"
  | stop => "stop"

/-- Millionths of a dollar as dollars. -/
def dollars (cost : ℕ) : Json := .float (.finite (cost / 1000000))

/-- An observation as the dictionary of `observation()`. -/
def Observation.fields (state : Observation) : JsonObject :=
  [("attempts", .int state.attempts), ("max_steps", .int state.max_steps),
    ("public_passed", .int state.public_passed), ("public_total", .int state.public_total),
    ("cost_usd", dollars state.cost_usd), ("max_cost_usd", dollars state.max_cost_usd),
    ("last_action", Json.string ((state.last_action.map Action.name).getD "start")),
    ("improvement", .int state.improvement), ("replan_count", .int state.replan_count)].map
      fun entry => (Text.ofString entry.1, entry.2)

/-- A transition as the dictionary of `save_transition`. -/
def Transition.row (transition : Transition) : JsonObject :=
  [("state", .obj transition.state.fields), ("action", Json.string transition.action.name),
    ("reward", .float (.finite transition.reward)), ("next_state", .obj transition.next_state.fields),
    ("terminal", .bool transition.terminal), ("task_id", Json.string transition.task_id),
    ("split", Json.string transition.split),
    ("route", .arr (transition.route.map fun action => Json.string action.name))].map
      fun entry => (Text.ofString entry.1, entry.2)

namespace Controller

/-- The integers of an observation are those of a machine word. -/
structure Countable (state : Observation) : Prop where
  attempts : state.attempts < 2 ^ 63
  max_steps : state.max_steps < 2 ^ 63
  public_passed : state.public_passed < 2 ^ 63
  public_total : state.public_total < 2 ^ 63
  improvement : state.improvement.natAbs < 2 ^ 63
  replan_count : state.replan_count < 2 ^ 63

theorem number_int {state : JsonObject} {key : String} {default : Json} {value : ℤ}
    (found : Json.field? state key = some (.int value)) (small : value.natAbs < 2 ^ 63) :
    number state key default = .ok value := by
  have fits : ¬ Sandbox.TooLarge (.int value) := not_not.mpr (Binary64.ofInt?_isSome small)
  rw [number, found, Option.getD_some, finite?, if_neg fits]
  rfl

theorem number_dollars {state : JsonObject} {key : String} {default : Json} {cost : ℕ}
    (found : Json.field? state key = some (dollars cost)) :
    number state key default = .ok (cost / 1000000 : ℚ) := by
  have fits : ¬ Sandbox.TooLarge (dollars cost) := id
  rw [number, found, Option.getD_some, finite?, if_neg fits]
  rfl

theorem number_count {state : JsonObject} {key : String} {default : Json} {value : ℕ}
    (found : Json.field? state key = some (.int value)) (small : value < 2 ^ 63) :
    number state key default = .ok (value : ℚ) := by
  rw [number_int found (by rwa [Int.natAbs_natCast]), Int.cast_natCast]

theorem truncate_count (value : ℕ) : truncate value = value := by
  rw [truncate, Int.floor_natCast, Int.ceil_natCast, ite_self]

/-- What the controller sees of an observation. -/
structure Sees (state : Observation) (f : Features) : Prop where
  visible_pass : f.visible_pass = true ↔
    0 < state.public_total ∧ state.public_total ≤ state.public_passed
  remaining_steps : f.remaining_steps = max 0 (max 1 (state.max_steps : ℤ) - state.attempts)
  remaining_cost : f.remaining_cost = max 0 (1 - (state.cost_usd : ℚ) / 1000000 /
    max (1 / 1000000) ((state.max_cost_usd : ℚ) / 1000000))

/-- The keys that the controller reads. -/
theorem field?_observation
    (attempts max_steps passed total cost max_cost last improvement replans : Json) :
    let fields := [("attempts", attempts), ("max_steps", max_steps), ("public_passed", passed),
      ("public_total", total), ("cost_usd", cost), ("max_cost_usd", max_cost),
      ("last_action", last), ("improvement", improvement), ("replan_count", replans)].map
        fun entry => (Text.ofString entry.1, entry.2)
    Json.field? fields "attempts" = some attempts ∧ Json.field? fields "max_steps" = some max_steps ∧
      Json.field? fields "public_passed" = some passed ∧
      Json.field? fields "public_total" = some total ∧ Json.field? fields "cost_usd" = some cost ∧
      Json.field? fields "max_cost_usd" = some max_cost ∧
      Json.field? fields "improvement" = some improvement ∧
      Json.field? fields "replan_count" = some replans := by
  simp only [List.map_cons, Json.field?_cons, Text.ofString_inj, String.reduceEq, if_true,
    if_false, and_self]

theorem features_fields {state : Observation} (countable : Countable state) :
    ∃ f, features state.fields = .ok f ∧ Sees state f := by
  rcases field?_observation (.int state.attempts) (.int state.max_steps) (.int state.public_passed)
    (.int state.public_total) (dollars state.cost_usd) (dollars state.max_cost_usd)
    (Json.string ((state.last_action.map Action.name).getD "start")) (.int state.improvement)
    (.int state.replan_count) with
    ⟨attempts, max_steps, passed, total, cost, max_cost, improvement, replans⟩
  have positive (value : ℕ) : max 0 (value : ℚ) = value := max_eq_right (Nat.cast_nonneg value)
  unfold features
  rw [Observation.fields, number_count total countable.public_total,
    number_count passed countable.public_passed, number_count attempts countable.attempts,
    number_count max_steps countable.max_steps, number_dollars max_cost, number_dollars cost,
    number_int improvement countable.improvement, number_count replans countable.replan_count]
  refine ⟨_, rfl, ?_, ?_, ?_⟩
  · rw [decide_eq_true_eq, positive, positive, Nat.cast_pos, min_eq_left_iff, Nat.cast_le]
  · rw [truncate_count, truncate_count, max_eq_right (Int.natCast_nonneg _)]
  · have used : max 0 (state.cost_usd / 1000000 : ℚ) = state.cost_usd / 1000000 :=
      max_eq_right (div_nonneg (Nat.cast_nonneg _) (by norm_num))
    rw [used]

/-- A state in which a request is still legal. -/
structure Open (state : Observation) : Prop where
  countable : Countable state
  visible : state.public_total = 0 ∨ state.public_passed < state.public_total
  steps : state.attempts < state.max_steps
  cost : state.cost_usd < state.max_cost_usd

theorem allowed_stop (f : Features) : "stop" ∈ f.allowed := by
  unfold Features.allowed
  split <;> simp

/-- Patching is legal in an open state. -/
theorem Open.allowed {state : Observation} (open_ : Open state) {f : Features} (sees : Sees state f)
    {action : Action} (patches : action ∈ PATCH_ACTIONS) : action.name ∈ f.allowed := by
  have hidden : ¬ f.visible_pass = true := by
    rw [sees.visible_pass]
    rintro ⟨some_, all⟩
    rcases open_.visible with none_ | failing
    · omega
    · omega
  have left : ¬ f.remaining_steps = 0 := by
    have more := open_.steps
    rw [sees.remaining_steps]
    omega
  have affordable : ¬ f.remaining_cost ≤ 0 := by
    have cost : (state.cost_usd : ℚ) < state.max_cost_usd := Nat.cast_lt.mpr open_.cost
    have least : (1 : ℚ) ≤ state.max_cost_usd :=
      Nat.one_le_cast.mpr (Nat.one_le_of_lt open_.cost)
    have above : (1 / 1000000 : ℚ) ≤ state.max_cost_usd / 1000000 := by linarith
    have share : (state.cost_usd / 1000000 / (state.max_cost_usd / 1000000) : ℚ) < 1 := by
      rw [div_div_div_cancel_right₀ (by norm_num), div_lt_one (by linarith)]
      exact cost
    rw [sees.remaining_cost, max_eq_right above, not_le, lt_max_iff]
    right
    linarith
  have patchable : ¬ (f.visible_pass = true ∨ f.remaining_steps = 0 ∨ f.remaining_cost ≤ 0) := by
    rintro (pass | done | spent)
    · exact hidden pass
    · exact left done
    · exact affordable spent
  rw [Features.allowed, if_neg patchable]
  rw [PATCH_ACTIONS, List.mem_pair] at patches
  rcases patches with rfl | rfl <;> simp [Action.name]

theorem field?_transition (state action reward next terminal id split route : Json) :
    let row := [("state", state), ("action", action), ("reward", reward), ("next_state", next),
      ("terminal", terminal), ("task_id", id), ("split", split), ("route", route)].map
        fun entry => (Text.ofString entry.1, entry.2)
    Json.field? row "state" = some state ∧ Json.field? row "action" = some action ∧
      Json.field? row "reward" = some reward ∧ Json.field? row "next_state" = some next ∧
      Json.field? row "task_id" = some id ∧ Json.field? row "split" = some split := by
  simp only [List.map_cons, Json.field?_cons, Text.ofString_inj, String.reduceEq, if_true,
    if_false, and_self]

/-- The states and the action of a transition that `fit_q` accepts. -/
theorem accepts_row {transition : Transition} (split : transition.split = "train")
    (named : transition.task_id ≠ "") (state : Countable transition.state)
    (next : Countable transition.next_state)
    (legal : ∀ f, Sees transition.state f → transition.action.name ∈ f.allowed) :
    Accepts transition.row := by
  rcases field?_transition (.obj transition.state.fields) (Json.string transition.action.name)
    (.float (.finite transition.reward)) (.obj transition.next_state.fields)
    (.bool transition.terminal) (Json.string transition.task_id) (Json.string transition.split)
    (.arr (transition.route.map fun action => Json.string action.name)) with
    ⟨before, action, reward, after, id, training⟩
  have train : isTraining transition.row = true := by
    rw [isTraining, Transition.row, training, split]
    exact decide_eq_true rfl
  have provenance : provenance? transition.row = some (Text.ofString transition.task_id) := by
    have some_ : ¬ Text.ofString transition.task_id = [] := fun empty =>
      named (Text.ofString_inj.mp empty)
    rw [provenance?, Transition.row, id]
    exact if_neg some_
  have known : action? transition.row = some transition.action.name := by
    rw [action?, Transition.row, action]
    cases transition.action <;> decide +kernel
  have finite : finite? (.float (.finite transition.reward)) = .ok (some transition.reward) :=
    if_neg fun large => large
  rcases features_fields state with ⟨f, observed, sees⟩
  rcases features_fields next with ⟨g, arrived, _⟩
  have own : item transition.row "state" = .ok (.obj transition.state.fields) := by
    rw [item, Transition.row, before]
  have later : item transition.row "next_state" = .ok (.obj transition.next_state.fields) := by
    rw [item, Transition.row, after]
  have given : Json.field? transition.row "reward" = some (.float (.finite transition.reward)) :=
    reward
  have taken : ¬ transition.action.name ∉ f.allowed := not_not.mpr (legal f sees)
  unfold Accepts normalize
  rw [if_pos train, provenance, known, given, Option.getD_some, finite, own, later]
  simp only [bind, Except.bind, dictionary, allowed_actions, encode_state, observed, arrived,
    Except.map]
  rw [if_neg taken]
  exact ⟨_, rfl⟩

end Controller

end ForgeRL.Research
