import ForgeRL.Bench.Audit
import Mathlib.Algebra.BigOperators.Fin

namespace ForgeRL

open Library

/-!
# The supervised baseline

The baseline scans the audited rows forward and collects an episode until its
terminal row.  Then it goes back over the episode, with the discounted return
from each row on, and files that return under the row's encoded state and its
action.  The value of a pair is the mean of its returns.

Episodes have no marks other than their terminal rows and their task, so a scan
that ended inside an episode, or that met another task before the terminal row,
would mix two episodes; both are refused.

The code computes in floats, so the arithmetic is a parameter.  Sums are taken
from left to right; an interpreter that compensates them rounds less, and sums
as this one where the arithmetic is exact.
-/

namespace Pilot

abbrev Returns := Nested String Action (List ℚ)

def discount : ℚ := 9 / 10

/-- The value of a number that the audit has accepted. -/
def amount (value : Json) : ℚ := (Sandbox.exactValue? value).getD 0

section Fitting

variable (arithmetic : Arithmetic)

/-- One row of the way back over an episode. -/
def fileReturn (filed : ℚ × Returns) (observed : TrainingRow) : ℚ × Returns :=
  let target := arithmetic.round (arithmetic.round (amount observed.reward) +
    arithmetic.round (arithmetic.round discount * filed.1))
  (target, filed.2.append (Router.encode_state observed.state) observed.action target)

def fileEpisode (buckets : Returns) (episode : List TrainingRow) : Returns :=
  (episode.reverse.foldl (fileReturn arithmetic) (0, buckets)).2

/-- The row belongs to another task than the episode that is being collected. -/
def changesTask (episode : List TrainingRow) (row : TrainingRow) : Bool :=
  match episode with
  | [] => false
  | first :: _ => Json.differs row.task_id first.task_id

/-- One row of the scan, which keeps the buckets and the rows of the episode. -/
def scanRow (scanned : Returns × List TrainingRow) (row : TrainingRow) :
    Except Escape (Returns × List TrainingRow) :=
  if changesTask scanned.2 row = true then
    .error (.valueError "Incomplete training episode boundary")
  else
    let episode := scanned.2 ++ [row]
    if row.terminal.isFalsy = true then .ok (scanned.1, episode)
    else .ok (fileEpisode arithmetic scanned.1 episode, [])

def scan : List TrainingRow → Returns × List TrainingRow →
    Except Escape (Returns × List TrainingRow)
  | [], scanned => .ok scanned
  | row :: rows, scanned =>
    match scanRow arithmetic scanned row with
    | .error escape => .error escape
    | .ok next => scan rows next

/-- The fitted baseline, without its fixed texts. -/
structure Supervised where
  artifact : Router.Artifact
  training_digest : String
  gamma : ℚ
  cost_weight : ℚ
  verify_support : ℕ

/-- `fit_supervised`.  The digest of the rows is a parameter. -/
def fit_supervised (catalog : List RepoTask) (digest : List TrainingRow → String)
    (rows : List TrainingRow) : Except Escape Supervised :=
  match Audit.audit_rows catalog rows false with
  | .error escape => .error escape
  | .ok _ =>
    match scan arithmetic rows (∅, []) with
    | .error escape => .error escape
    | .ok (buckets, episode) =>
      if episode.isEmpty = false then .error (.valueError "Unterminated training episode")
      else
        .ok {
          artifact := {
            trained := 12 ≤ rows.length
            feature_version := Router.featureVersion
            values := buckets.mapValues fun _ _ returns => arithmetic.mean returns
            action_counts := buckets.mapValues fun _ _ returns => (returns.length : ℤ) }
          training_digest := digest rows
          gamma := arithmetic.round discount
          cost_weight := 5
          verify_support := 0 }

end Fitting

/-! ## What the values should be -/

/-- Rewards, each discounted once more than the one before it. -/
def discountedSum (rewards : List ℚ) : ℚ :=
  ∑ step : Fin rewards.length, discount ^ (step : ℕ) * rewards.get step

/-- The return from the first of some rows on, when it has the state and the
action. -/
def returnFrom (key : String) (action : Action) : List TrainingRow → Option ℚ
  | [] => none
  | row :: later =>
    if Router.encode_state row.state = key ∧ row.action = action then
      some (discountedSum ((row :: later).map fun observed => amount observed.reward))
    else none

/-- The returns of all occurrences of a pair in an episode, each to the end of
the episode. -/
def occurrences (key : String) (action : Action) (episode : List TrainingRow) : List ℚ :=
  episode.tails.filterMap (returnFrom key action)

/-- An episode ends in its only terminal row and has a single task. -/
structure Complete (episode : List TrainingRow) : Prop where
  ends : ∃ earlier last, episode = earlier ++ [last] ∧
    (∀ row ∈ earlier, row.terminal.isFalsy = true) ∧ last.terminal.isFalsy = false
  single_task : ∀ row ∈ episode, ∀ other ∈ episode, row.task_id = other.task_id

/-- The list ends inside an episode. -/
def EndsInside (rows : List TrainingRow) : Prop :=
  ∃ earlier last, rows = earlier ++ [last] ∧ last.terminal.isFalsy = true

/-- The list changes its task inside an episode: no row from one to another of a
different task is terminal. -/
def ChangesInside (rows : List TrainingRow) : Prop :=
  ∃ before first middle next after, rows = before ++ first :: (middle ++ next :: after) ∧
    (∀ row ∈ first :: middle, row.terminal.isFalsy = true) ∧ next.task_id ≠ first.task_id

variable {arithmetic : Arithmetic}

/-! ## The way back over an episode -/

theorem discountedSum_cons (reward : ℚ) (rewards : List ℚ) :
    discountedSum (reward :: rewards) = reward + discount * discountedSum rewards := by
  unfold discountedSum
  have first := Fin.sum_univ_succ fun step : Fin (rewards.length + 1) =>
    discount ^ (step : ℕ) * (reward :: rewards).get step
  apply first.trans
  rw [Finset.mul_sum]
  congr 1
  · simp
  · apply Finset.sum_congr rfl
    intro step _
    rw [Fin.val_succ, pow_succ', List.get_cons_succ', mul_assoc]

/-- The discounted return from the first of some rows on. -/
def returned (rows : List TrainingRow) : ℚ :=
  discountedSum (rows.map fun observed => amount observed.reward)

/-- The return as the way back computes it, which rounds every step. -/
def roundedReturn (arithmetic : Arithmetic) : List TrainingRow → ℚ
  | [] => 0
  | row :: later =>
    arithmetic.round (arithmetic.round (amount row.reward) +
      arithmetic.round (arithmetic.round discount * roundedReturn arithmetic later))

theorem roundedReturn_of_exact (exact_ : arithmetic.Exact) :
    roundedReturn arithmetic = returned := by
  funext rows
  induction rows with
  | nil => rfl
  | cons row later ih =>
    have next : returned (row :: later) = amount row.reward + discount * returned later :=
      discountedSum_cons _ _
    rw [roundedReturn, ih, next]
    simp only [exact_ _]

/-- Every row of an episode with its keys and the value of the rows from it on. -/
def labelled (value : List TrainingRow → ℚ) : List TrainingRow → List (String × Action × ℚ)
  | [] => []
  | row :: later =>
    (Router.encode_state row.state, row.action, value (row :: later)) :: labelled value later

theorem labelled_cons (value : List TrainingRow → ℚ) (row : TrainingRow)
    (later : List TrainingRow) :
    labelled value (row :: later) =
      (Router.encode_state row.state, row.action, value (row :: later)) ::
        labelled value later := rfl

theorem filed_labelled (key : String) (action : Action) (episode : List TrainingRow) :
    Nested.filed (labelled returned episode) key action = occurrences key action episode := by
  unfold Nested.filed occurrences
  induction episode with
  | nil => rfl
  | cons row later ih =>
    rw [List.tails_cons, List.filterMap_cons, ← ih, labelled_cons]
    unfold returnFrom
    by_cases here : Router.encode_state row.state = key ∧ row.action = action
    · simp [here, returned]
    · simp [here]

/-- What is filed for a pair has the same number, whatever the values. -/
theorem filed_labelled_length (value other : List TrainingRow → ℚ) (key : String)
    (action : Action) (episode : List TrainingRow) :
    (Nested.filed (labelled value episode) key action).length =
      (Nested.filed (labelled other episode) key action).length := by
  unfold Nested.filed
  induction episode with
  | nil => rfl
  | cons row later ih =>
    rw [List.length_map, List.length_map] at ih ⊢
    rw [labelled_cons, labelled_cons, List.filter_cons, List.filter_cons]
    split_ifs
    · rw [List.length_cons, List.length_cons, ih]
    · exact ih

/-- Going back over an episode leaves its return, and has filed the returns of
its rows from the last to the first. -/
theorem foldl_fileReturn (arithmetic : Arithmetic) (buckets : Returns)
    (episode : List TrainingRow) :
    episode.reverse.foldl (fileReturn arithmetic) (0, buckets) =
      (roundedReturn arithmetic episode,
        (labelled (roundedReturn arithmetic) episode).reverse.foldl
          (fun nested item => nested.append item.1 item.2.1 item.2.2) buckets) := by
  induction episode with
  | nil => rfl
  | cons row later ih =>
    rw [List.reverse_cons, List.foldl_append, ih, labelled_cons, List.reverse_cons,
      List.foldl_append]
    rfl

/-- What is filed for some episodes, in the order of the scan. -/
def filings (value : List TrainingRow → ℚ) (episodes : List (List TrainingRow)) :
    List (String × Action × ℚ) :=
  episodes.flatMap fun episode => (labelled value episode).reverse

theorem foldl_fileEpisode (arithmetic : Arithmetic) (episodes : List (List TrainingRow)) :
    episodes.foldl (fileEpisode arithmetic) ∅ =
      Nested.collect (filings (roundedReturn arithmetic) episodes) := by
  unfold filings Nested.collect
  rw [List.foldl_flatMap]
  congr 1
  funext buckets episode
  unfold fileEpisode
  rw [foldl_fileReturn]

/-- What is filed for a pair, up to its order. -/
theorem filed_filings (value : List TrainingRow → ℚ) (key : String) (action : Action)
    (episodes : List (List TrainingRow)) :
    (Nested.filed (filings value episodes) key action).Perm
      (episodes.flatMap fun episode => Nested.filed (labelled value episode) key action) := by
  unfold filings
  induction episodes with
  | nil => rfl
  | cons episode episodes ih =>
    rw [List.flatMap_cons, List.flatMap_cons, Nested.filed_append]
    apply List.Perm.append _ ih
    unfold Nested.filed
    rw [List.filter_reverse, List.map_reverse]
    exact List.reverse_perm _

/-! ## The scan -/

theorem scan_cons (row : TrainingRow) (rows : List TrainingRow)
    (scanned : Returns × List TrainingRow) :
    scan arithmetic (row :: rows) scanned =
      match scanRow arithmetic scanned row with
      | .error escape => .error escape
      | .ok next => scan arithmetic rows next := rfl

theorem scan_append (first rest : List TrainingRow) (scanned : Returns × List TrainingRow) :
    scan arithmetic (first ++ rest) scanned =
      match scan arithmetic first scanned with
      | .error escape => .error escape
      | .ok next => scan arithmetic rest next := by
  induction first generalizing scanned with
  | nil => rfl
  | cons row first ih =>
    rw [List.cons_append, scan_cons, scan_cons]
    cases scanRow arithmetic scanned row with
    | error escape => rfl
    | ok next => exact ih next

theorem scan_cons_ok {row : TrainingRow} {rows : List TrainingRow}
    {scanned left : Returns × List TrainingRow}
    (through : scan arithmetic (row :: rows) scanned = .ok left) :
    ∃ next, scanRow arithmetic scanned row = .ok next ∧ scan arithmetic rows next = .ok left := by
  rw [scan_cons] at through
  cases step : scanRow arithmetic scanned row with
  | error escape =>
    rw [step] at through
    cases through
  | ok next =>
    rw [step] at through
    exact ⟨next, rfl, through⟩

theorem scan_append_ok {first rest : List TrainingRow} {scanned left : Returns × List TrainingRow}
    (through : scan arithmetic (first ++ rest) scanned = .ok left) :
    ∃ next, scan arithmetic first scanned = .ok next ∧ scan arithmetic rest next = .ok left := by
  rw [scan_append] at through
  cases before : scan arithmetic first scanned with
  | error escape =>
    rw [before] at through
    cases through
  | ok next =>
    rw [before] at through
    exact ⟨next, rfl, through⟩

/-- A row that is not terminal joins the episode. -/
theorem scanRow_joins {row : TrainingRow} (goes_on : row.terminal.isFalsy = true)
    {scanned next : Returns × List TrainingRow} (step : scanRow arithmetic scanned row = .ok next) :
    changesTask scanned.2 row = false ∧ next = (scanned.1, scanned.2 ++ [row]) := by
  unfold scanRow at step
  rw [goes_on] at step
  split_ifs at step with changes always
  · cases step
    exact ⟨Bool.not_eq_true _ ▸ changes, rfl⟩
  · exact absurd rfl always

theorem differs_str (first second : Text) :
    Json.differs (.str first) (.str second) = true ↔ first ≠ second := by
  unfold Json.differs Json.equal Json.key?
  simp

/-- All rows are of one task. -/
def OfTask (id : Text) (rows : List TrainingRow) : Prop := ∀ row ∈ rows, row.task_id = .str id

theorem changesTask_of_same {id : Text} {episode : List TrainingRow} (task : OfTask id episode)
    {row : TrainingRow} (same : row.task_id = .str id) : changesTask episode row = false := by
  cases episode with
  | nil => rfl
  | cons first later =>
    show Json.differs row.task_id first.task_id = false
    rw [same, task first List.mem_cons_self, ← Bool.not_eq_true, differs_str]
    exact not_not.mpr rfl

/-- A row that is not terminal joins the episode of its task. -/
theorem scan_earlier {id : Text} {buckets : Returns} {episode earlier : List TrainingRow}
    (collected : OfTask id episode) (task : OfTask id earlier)
    (goes_on : ∀ row ∈ earlier, row.terminal.isFalsy = true) :
    scan arithmetic earlier (buckets, episode) = .ok (buckets, episode ++ earlier) := by
  induction earlier generalizing episode with
  | nil =>
    rw [List.append_nil]
    rfl
  | cons row earlier ih =>
    have here := task row List.mem_cons_self
    have joined : OfTask id (episode ++ [row]) := by
      intro other member
      rcases List.mem_append.mp member with before | now
      · exact collected other before
      · rw [List.mem_singleton.mp now]
        exact here
    have step : scanRow arithmetic (buckets, episode) row = .ok (buckets, episode ++ [row]) := by
      unfold scanRow
      dsimp only
      rw [changesTask_of_same collected here, if_neg Bool.false_ne_true,
        if_pos (goes_on row List.mem_cons_self)]
    have rest := ih joined (fun other member => task other (List.mem_cons_of_mem _ member))
      fun other member => goes_on other (List.mem_cons_of_mem _ member)
    unfold scan
    rw [step]
    dsimp only
    rw [rest, List.append_assoc, List.singleton_append]

/-- A complete episode is filed, and the next one starts empty. -/
theorem scan_complete {id : Text} {episode : List TrainingRow} (complete : Complete episode)
    (task : OfTask id episode) (buckets : Returns) :
    scan arithmetic episode (buckets, []) = .ok (fileEpisode arithmetic buckets episode, []) := by
  rcases complete.ends with ⟨earlier, last, rfl, goes_on, ends⟩
  have before : OfTask id earlier := fun row member => task row (List.mem_append_left _ member)
  have here : last.task_id = .str id := task last (by simp)
  have step : scanRow arithmetic (buckets, earlier) last =
      .ok (fileEpisode arithmetic buckets (earlier ++ [last]), []) := by
    unfold scanRow
    dsimp only
    rw [changesTask_of_same before here, if_neg Bool.false_ne_true, ends,
      if_neg Bool.false_ne_true]
  rw [scan_append, scan_earlier (fun _ absent => by cases absent) before goes_on,
    List.nil_append]
  unfold scan
  dsimp only
  rw [step]
  rfl

/-- Complete episodes are filed one after the other. -/
theorem scan_flatten {episodes : List (List TrainingRow)}
    (complete : ∀ episode ∈ episodes, Complete episode)
    (tasks : ∀ episode ∈ episodes, ∃ id, OfTask id episode) (buckets : Returns) :
    scan arithmetic episodes.flatten (buckets, []) =
      .ok (episodes.foldl (fileEpisode arithmetic) buckets, []) := by
  induction episodes generalizing buckets with
  | nil => rfl
  | cons episode episodes ih =>
    rcases tasks episode List.mem_cons_self with ⟨id, task⟩
    rw [List.flatten_cons, scan_append,
      scan_complete (complete episode List.mem_cons_self) task]
    exact ih (fun other member => complete other (List.mem_cons_of_mem _ member))
      (fun other member => tasks other (List.mem_cons_of_mem _ member)) _

/-! ## What the scan refuses -/

/-- What the scan raises is a `ValueError`. -/
theorem scan_error {rows : List TrainingRow} {scanned : Returns × List TrainingRow}
    {escape : Escape} (refused : scan arithmetic rows scanned = .error escape) :
    ∃ message, escape = .valueError message := by
  induction rows generalizing scanned with
  | nil => cases refused
  | cons row rows ih =>
    unfold scan at refused
    unfold scanRow at refused
    dsimp only at refused
    split_ifs at refused
    · cases refused
      exact ⟨_, rfl⟩
    · exact ih refused
    · exact ih refused

/-- A list that ends inside an episode leaves rows behind. -/
theorem scan_ends_inside {rows : List TrainingRow} (inside : EndsInside rows)
    {scanned left : Returns × List TrainingRow}
    (through : scan arithmetic rows scanned = .ok left) : left.2 ≠ [] := by
  rcases inside with ⟨earlier, last, rfl, goes_on⟩
  rcases scan_append_ok through with ⟨before, _, tail⟩
  rcases scan_cons_ok tail with ⟨next, step, done⟩
  cases done
  rw [(scanRow_joins goes_on step).2]
  simp

/-- Rows that are not terminal leave the first row of the episode in place. -/
theorem scan_head {first : TrainingRow} {later middle : List TrainingRow} {buckets : Returns}
    {left : Returns × List TrainingRow}
    (goes_on : ∀ row ∈ middle, row.terminal.isFalsy = true)
    (through : scan arithmetic middle (buckets, first :: later) = .ok left) :
    ∃ rest, left.2 = first :: rest := by
  induction middle generalizing later with
  | nil =>
    cases through
    exact ⟨later, rfl⟩
  | cons row middle ih =>
    rcases scan_cons_ok through with ⟨next, step, rest⟩
    rw [(scanRow_joins (goes_on row List.mem_cons_self) step).2] at rest
    exact ih (fun other member => goes_on other (List.mem_cons_of_mem _ member)) rest

/-- Only the same text does not differ from a text. -/
theorem eq_of_not_differs {id : Text} {value : Json}
    (same : Json.differs (.str id) value = false) : value = .str id := by
  have equal : Json.equal (.str id) value = true := by
    cases found : Json.equal (.str id) value with
    | true => rfl
    | false =>
      unfold Json.differs at same
      rw [found] at same
      cases same
  apply Audit.eq_str_of_key?
  unfold Json.equal at equal
  exact (of_decide_eq_true (Bool.and_eq_true_iff.mp equal).2).symm

/-- The scan does not get through a change of the task inside an episode. -/
theorem scan_changes_inside {rows : List TrainingRow} (inside : ChangesInside rows)
    (texts : ∀ row ∈ rows, ∃ id, row.task_id = .str id)
    {left : Returns × List TrainingRow} : scan arithmetic rows (∅, []) ≠ .ok left := by
  intro through
  rcases inside with ⟨before, first, middle, next, after, rfl, goes_on, changed⟩
  rcases scan_append_ok through with ⟨⟨buckets, episode⟩, earlier, later⟩
  rcases scan_cons_ok later with ⟨joined, step, rest⟩
  rcases scanRow_joins (goes_on first List.mem_cons_self) step with ⟨kept, rfl⟩
  rcases scan_append_ok rest with ⟨collected, inside, tail⟩
  rcases scan_cons_ok tail with ⟨ended, last, _⟩
  rcases texts first (by simp) with ⟨firstId, ofFirst⟩
  rcases texts next (by simp) with ⟨nextId, ofNext⟩
  -- the first row of the episode, of the task of `first`
  have head : ∃ opening rest, episode ++ [first] = opening :: rest ∧
      opening.task_id = .str firstId := by
    cases episode with
    | nil => exact ⟨first, [], rfl, ofFirst⟩
    | cons opening collected_ =>
      have same : Json.differs first.task_id opening.task_id = false := kept
      rw [ofFirst] at same
      exact ⟨opening, collected_ ++ [first], rfl, eq_of_not_differs same⟩
  rcases head with ⟨opening, rest', opened, ofOpening⟩
  rw [opened] at inside
  rcases scan_head (fun row member => goes_on row (List.mem_cons_of_mem _ member)) inside with
    ⟨others, headed⟩
  have unchanged : changesTask collected.2 next = false := by
    unfold scanRow at last
    split_ifs at last with changes <;> exact Bool.not_eq_true _ ▸ changes
  rw [headed] at unchanged
  have same : Json.differs next.task_id opening.task_id = false := unchanged
  rw [ofNext] at same
  have agree := eq_of_not_differs same
  exact changed (ofNext.trans (agree.symm.trans (ofOpening.trans ofFirst.symm)))

/-! ## The fit -/

/-- The returns of a pair in all episodes. -/
def returnsOf (episodes : List (List TrainingRow)) (key : String) (action : Action) : List ℚ :=
  episodes.flatMap (occurrences key action)

theorem returnsOf_perm {episodes permuted : List (List TrainingRow)}
    (same : permuted.Perm episodes) (key : String) (action : Action) :
    (returnsOf permuted key action).Perm (returnsOf episodes key action) :=
  same.flatMap_right _

/-- The returns that are filed for a pair are those of its occurrences. -/
theorem filed_returned (episodes : List (List TrainingRow)) (key : String) (action : Action) :
    (Nested.filed (filings returned episodes) key action).Perm
      (returnsOf episodes key action) := by
  have filed := filed_filings returned key action episodes
  simp only [filed_labelled] at filed
  exact filed

/-- As many values are filed for a pair as it has occurrences. -/
theorem filed_length (value : List TrainingRow → ℚ) (episodes : List (List TrainingRow))
    (key : String) (action : Action) :
    (Nested.filed (filings value episodes) key action).length =
      (returnsOf episodes key action).length := by
  rw [(filed_filings value key action episodes).length_eq, returnsOf, List.length_flatMap,
    List.length_flatMap]
  congr 1
  apply List.map_congr_left
  intro episode _
  rw [filed_labelled_length value returned, filed_labelled]

/-- A lookup in what the scan has filed: nothing for a pair that does not
occur. -/
theorem filings_map {β : Type} {value : List TrainingRow → ℚ}
    {episodes : List (List TrainingRow)} {key : String} {action : Action} (read : List ℚ → β)
    (alike : read (Nested.filed (filings value episodes) key action) =
      read (returnsOf episodes key action)) :
    ((Nested.collect (filings value episodes)).at? key action).map read =
      if returnsOf episodes key action = [] then none
      else some (read (returnsOf episodes key action)) := by
  have empty : Nested.filed (filings value episodes) key action = [] ↔
      returnsOf episodes key action = [] := by
    rw [← List.length_eq_zero_iff, filed_length, List.length_eq_zero_iff]
  rw [Nested.at?_collect]
  by_cases none_ : returnsOf episodes key action = []
  · rw [if_pos none_, if_pos (empty.mpr none_)]
    rfl
  · rw [if_neg none_, if_neg (mt empty.mp none_), Option.map_some]
    exact congrArg some alike

/-- The value of every pair is the mean of what is filed for it, which in exact
arithmetic is the mean of its returns, and the count of the pair their number. -/
structure MeansReturns (arithmetic : Arithmetic) (episodes : List (List TrainingRow))
    (fitted : Supervised) : Prop where
  filed : ∀ key action, Nested.at? fitted.artifact.values key action =
    ((Nested.collect (filings (roundedReturn arithmetic) episodes)).at? key action).map
      arithmetic.mean
  values : arithmetic.Exact → ∀ key action, Nested.at? fitted.artifact.values key action =
    if returnsOf episodes key action = [] then none
    else some (mean (returnsOf episodes key action))
  counts : ∀ key action, Nested.at? fitted.artifact.action_counts key action =
    if returnsOf episodes key action = [] then none
    else some ((returnsOf episodes key action).length : ℤ)
  full : Nested.Full fitted.artifact.values ∧ Nested.Full fitted.artifact.action_counts

section Fit

variable {catalog : List RepoTask} {episodes : List (List TrainingRow)} {report : Audit.Report}

theorem fit_supervised_of_complete (arithmetic : Arithmetic) (digest : List TrainingRow → String)
    (accepted : Audit.audit_rows catalog episodes.flatten false = .ok report)
    (complete : ∀ episode ∈ episodes, Complete episode) :
    ∃ fitted, fit_supervised arithmetic catalog digest episodes.flatten = .ok fitted ∧
      MeansReturns arithmetic episodes fitted := by
  have pass := (Audit.audit_rows_ok_iff.mp ⟨report, accepted⟩).2
  have tasks : ∀ episode ∈ episodes, ∃ id, OfTask id episode := by
    intro episode member
    rcases (complete episode member).ends with ⟨earlier, last, rfl, _⟩
    have here : last ∈ earlier ++ [last] := by simp
    rcases (pass last (List.mem_flatten.mpr ⟨_, member, here⟩)).task_id with ⟨id, named⟩
    exact ⟨id, fun row listed => ((complete _ member).single_task row listed last here).trans named⟩
  have scanned := @scan_flatten arithmetic episodes complete tasks ∅
  rw [foldl_fileEpisode] at scanned
  unfold fit_supervised
  rw [accepted, scanned]
  dsimp only
  rw [if_neg (by simp)]
  refine ⟨_, rfl, fun key action => Nested.at?_mapValues .., ?_, ?_, ?_⟩
  · intro exact_ key action
    rw [Nested.at?_mapValues, roundedReturn_of_exact exact_,
      ← filings_map mean (mean_perm (filed_returned episodes key action))]
    exact congrArg (Option.map · _) (funext fun returns => Arithmetic.mean_of_exact exact_ returns)
  · intro key action
    rw [Nested.at?_mapValues]
    exact filings_map (fun returns => (returns.length : ℤ)) (congrArg _ (filed_length _ _ _ _))
  · exact ⟨(Nested.Full.collect _).mapValues _, (Nested.Full.collect _).mapValues _⟩

/-- The audit does not see the order of the rows. -/
theorem audit_rows_permuted {rows permuted : List TrainingRow} (same : permuted.Perm rows)
    (accepted : Audit.audit_rows catalog rows false = .ok report) :
    ∃ again, Audit.audit_rows catalog permuted false = .ok again := by
  rcases Audit.audit_rows_ok_iff.mp ⟨report, accepted⟩ with ⟨some_, pass⟩
  apply Audit.audit_rows_ok_iff.mpr
  refine ⟨fun none_ => some_ ?_, fun row member => pass row (same.mem_iff.mp member)⟩
  rw [none_] at same
  exact same.symm.eq_nil

theorem MeansReturns.same {permuted : List (List TrainingRow)} {fitted refitted : Supervised}
    (means : MeansReturns arithmetic episodes fitted)
    (again : MeansReturns arithmetic permuted refitted) (same : permuted.Perm episodes) :
    (arithmetic.Exact → Nested.Same refitted.artifact.values fitted.artifact.values) ∧
      Nested.Same refitted.artifact.action_counts fitted.artifact.action_counts := by
  have empty (key : String) (action : Action) :
      returnsOf permuted key action = [] ↔ returnsOf episodes key action = [] := by
    rw [← List.length_eq_zero_iff, (returnsOf_perm same key action).length_eq,
      List.length_eq_zero_iff]
  constructor
  · intro exact_
    apply Nested.Same.of_at? again.full.1 means.full.1
    intro key action
    rw [again.values exact_, means.values exact_, mean_perm (returnsOf_perm same key action)]
    simp only [empty]
  · apply Nested.Same.of_at? again.full.2 means.full.2
    intro key action
    rw [again.counts, means.counts, (returnsOf_perm same key action).length_eq]
    simp only [empty]

/-- A list that ends inside an episode or changes its task inside one is
refused; after the audit, by a `ValueError`. -/
theorem fit_supervised_refuses (arithmetic : Arithmetic) (catalog : List RepoTask)
    (digest : List TrainingRow → String)
    {rows : List TrainingRow} (inside : EndsInside rows ∨ ChangesInside rows) :
    ∃ escape, fit_supervised arithmetic catalog digest rows = .error escape ∧
      ∀ report, Audit.audit_rows catalog rows false = .ok report →
        ∃ message, escape = .valueError message := by
  unfold fit_supervised
  cases audits : Audit.audit_rows catalog rows false with
  | error escape => exact ⟨escape, rfl, fun report impossible => by cases impossible⟩
  | ok report =>
    dsimp only
    have pass := (Audit.audit_rows_ok_iff.mp ⟨report, audits⟩).2
    cases scans : scan arithmetic rows (∅, []) with
    | error escape =>
      rcases scan_error scans with ⟨message, rfl⟩
      exact ⟨_, rfl, fun _ _ => ⟨message, rfl⟩⟩
    | ok left =>
      rcases inside with ends | changes
      · have behind : left.2.isEmpty = false :=
          List.isEmpty_eq_false_iff.mpr (scan_ends_inside ends scans)
        dsimp only
        rw [if_pos behind]
        exact ⟨_, rfl, fun _ _ => ⟨_, rfl⟩⟩
      · exact absurd scans (scan_changes_inside changes fun row member =>
          (pass row member).task_id)

end Fit

/-- On audited rows that are a sequence of complete episodes, the value of every
encoded state and action is, in exact arithmetic, the mean of the discounted
returns of its occurrences, each to the end of its own episode, with their
number as its count; the order of the episodes does not matter.  A list that
ends inside an episode, or changes its task inside one, is refused. -/
theorem fit_supervised_targets (arithmetic : Arithmetic) (catalog : List RepoTask)
    (digest : List TrainingRow → String) :
    (∀ (episodes : List (List TrainingRow)) (report : Audit.Report),
      Audit.audit_rows catalog episodes.flatten false = .ok report →
      (∀ episode ∈ episodes, Complete episode) →
      ∃ fitted, fit_supervised arithmetic catalog digest episodes.flatten = .ok fitted ∧
        (arithmetic.Exact → ∀ key action, Nested.at? fitted.artifact.values key action =
          if returnsOf episodes key action = [] then none
          else some (mean (returnsOf episodes key action))) ∧
        (∀ key action, Nested.at? fitted.artifact.action_counts key action =
          if returnsOf episodes key action = [] then none
          else some ((returnsOf episodes key action).length : ℤ)) ∧
        ∀ permuted : List (List TrainingRow), permuted.Perm episodes →
          ∃ refitted, fit_supervised arithmetic catalog digest permuted.flatten = .ok refitted ∧
            (arithmetic.Exact → Nested.Same refitted.artifact.values fitted.artifact.values) ∧
            Nested.Same refitted.artifact.action_counts fitted.artifact.action_counts) ∧
    ∀ rows, EndsInside rows ∨ ChangesInside rows →
      ∃ escape, fit_supervised arithmetic catalog digest rows = .error escape ∧
        ∀ report, Audit.audit_rows catalog rows false = .ok report →
          ∃ message, escape = .valueError message := by
  refine ⟨fun episodes report accepted complete => ?_, fun rows =>
    fit_supervised_refuses arithmetic catalog digest⟩
  rcases fit_supervised_of_complete arithmetic digest accepted complete with
    ⟨fitted, fits, means⟩
  refine ⟨fitted, fits, means.values, means.counts, fun permuted same => ?_⟩
  rcases audit_rows_permuted same.flatten accepted with ⟨again, reaccepted⟩
  rcases fit_supervised_of_complete arithmetic digest reaccepted fun episode member =>
    complete episode (same.mem_iff.mp member) with ⟨refitted, refits, remeans⟩
  exact ⟨refitted, refits, means.same remeans same⟩

/-! ## An episode of two rows -/

def repairTask : RepoTask where
  id := Text.ofString "a"
  title := []
  family := []
  split := Text.ofString "train"
  category := []
  description := []
  files := ∅
  reference_files := ∅
  entrypoint := []
  public_cases := []
  hidden_cases := []
  allowed_edit_files := []
  success_criterion := []

theorem complete_retry : Complete [Router.firstRetry, Router.lastRepair] where
  ends := ⟨[Router.firstRetry], Router.lastRepair, rfl, by decide, by decide⟩
  single_task := by
    intro row member other listed
    simp only [List.mem_cons, List.not_mem_nil, or_false] at member listed
    rcases member with rfl | rfl <;> rcases listed with rfl | rfl <;> rfl

theorem passes_of_toBool {tasks : Dict Text RepoTask} {row : TrainingRow}
    (passed : (Audit.checkRow tasks row).toBool = true) : Audit.Passes tasks row := by
  unfold Audit.Passes
  cases check : Audit.checkRow tasks row with
  | ok checked => exact ⟨checked, rfl⟩
  | error escape =>
    rw [check] at passed
    cases passed

theorem fit_supervised_targets_retry :
    ∃ fitted, fit_supervised .rational [repairTask] (fun _ => "")
      [Router.firstRetry, Router.lastRepair] = .ok fitted ∧ Nested.at? fitted.artifact.values
        (Router.encode_state Router.firstRetry.state) .retry = some (19 / 10) := by
  have passes : ∀ row ∈ [Router.firstRetry, Router.lastRepair],
      Audit.Passes (Audit.training [repairTask]) row := by
    intro row member
    simp only [List.mem_cons, List.not_mem_nil, or_false] at member
    rcases member with rfl | rfl <;> exact passes_of_toBool (by decide +kernel)
  rcases Audit.audit_rows_ok_iff.mpr ⟨by simp, passes⟩ with ⟨report, accepted⟩
  rcases (fit_supervised_targets .rational [repairTask] fun _ => "").1
    [[Router.firstRetry, Router.lastRepair]] report accepted (by simp [complete_retry]) with
    ⟨fitted, fits, values, _⟩
  refine ⟨fitted, fits, ?_⟩
  have returns : returnsOf [[Router.firstRetry, Router.lastRepair]]
      (Router.encode_state Router.firstRetry.state) .retry = [19 / 10] := by
    decide +kernel
  rw [values Arithmetic.rational_exact, returns]
  decide +kernel

/-! ## Three episodes of one row -/

/-- A retry that ends its episode. -/
def onlyRetry (reward : ℚ) : TrainingRow :=
  { Router.firstRetry with
    reward := .float (.finite reward)
    terminal := .bool true }

/-- The float nearest to `0.1`. -/
def tenth : ℚ := 3602879701896397 / 2 ^ 55

/-- The float nearest to `0.95`. -/
def mostly : ℚ := 4278419646001971 / 2 ^ 52

theorem complete_onlyRetry (reward : ℚ) : Complete [onlyRetry reward] where
  ends := ⟨[], onlyRetry reward, rfl, fun _ absent => absurd absent List.not_mem_nil, rfl⟩
  single_task := by
    intro row member other listed
    rw [List.mem_singleton.mp member, List.mem_singleton.mp listed]

/-- The retries are audited, and fitted to the mean of what is filed for them. -/
theorem fit_supervised_onlyRetry (rewards : List ℚ)
    (allowed : ∀ reward ∈ rewards, reward = tenth ∨ reward = mostly) (some_ : rewards ≠ []) :
    ∃ report fitted,
      Audit.audit_rows [repairTask] (rewards.map fun reward => [onlyRetry reward]).flatten false =
        .ok report ∧
      fit_supervised .binary64 [repairTask] (fun _ => "")
        (rewards.map fun reward => [onlyRetry reward]).flatten = .ok fitted ∧
      MeansReturns .binary64 (rewards.map fun reward => [onlyRetry reward]) fitted := by
  have passes : ∀ row ∈ (rewards.map fun reward => [onlyRetry reward]).flatten,
      Audit.Passes (Audit.training [repairTask]) row := by
    intro row member
    rcases List.mem_flatten.mp member with ⟨_, listed, inside⟩
    rcases List.mem_map.mp listed with ⟨reward, known, rfl⟩
    rw [List.mem_singleton.mp inside]
    rcases allowed reward known with rfl | rfl <;> exact passes_of_toBool (by decide +kernel)
  have nonempty : (rewards.map fun reward => [onlyRetry reward]).flatten ≠ [] := by
    rcases List.exists_mem_of_ne_nil rewards some_ with ⟨reward, known⟩
    exact List.ne_nil_of_mem (List.mem_flatten.mpr
      ⟨_, List.mem_map.mpr ⟨reward, known, rfl⟩, List.mem_singleton_self _⟩)
  rcases Audit.audit_rows_ok_iff.mpr ⟨nonempty, passes⟩ with ⟨report, accepted⟩
  have complete : ∀ episode ∈ rewards.map fun reward => [onlyRetry reward],
      Complete episode := by
    intro episode listed
    rcases List.mem_map.mp listed with ⟨reward, _, rfl⟩
    exact complete_onlyRetry reward
  rcases fit_supervised_of_complete .binary64 (fun _ => "") accepted complete with
    ⟨fitted, fits, means⟩
  exact ⟨report, fitted, accepted, fits, means⟩

/-- In the arithmetic of the machine the value of a pair is not the mean of its
returns, and it depends on the order of the episodes. -/
theorem fit_supervised_rounded :
    ¬ (∀ (catalog : List RepoTask) (digest : List TrainingRow → String)
        (episodes : List (List TrainingRow)) (report : Audit.Report) (fitted : Supervised),
        Audit.audit_rows catalog episodes.flatten false = .ok report →
        (∀ episode ∈ episodes, Complete episode) →
        fit_supervised .binary64 catalog digest episodes.flatten = .ok fitted →
        ∀ key action, Nested.at? fitted.artifact.values key action =
          if returnsOf episodes key action = [] then none
          else some (mean (returnsOf episodes key action))) ∧
    ¬ (∀ (catalog : List RepoTask) (digest : List TrainingRow → String)
        (episodes permuted : List (List TrainingRow)) (report : Audit.Report)
        (fitted refitted : Supervised),
        Audit.audit_rows catalog episodes.flatten false = .ok report →
        (∀ episode ∈ episodes, Complete episode) → permuted.Perm episodes →
        fit_supervised .binary64 catalog digest episodes.flatten = .ok fitted →
        fit_supervised .binary64 catalog digest permuted.flatten = .ok refitted →
        Nested.Same refitted.artifact.values fitted.artifact.values) := by
  have complete (rewards : List ℚ) : ∀ episode ∈ rewards.map fun reward => [onlyRetry reward],
      Complete episode := by
    intro episode listed
    rcases List.mem_map.mp listed with ⟨reward, _, rfl⟩
    exact complete_onlyRetry reward
  rcases fit_supervised_onlyRetry [tenth, tenth, mostly] (by simp) (by simp) with
    ⟨report, fitted, accepted, fits, means⟩
  rcases fit_supervised_onlyRetry [mostly, tenth, tenth] (by simp) (by simp) with
    ⟨_, refitted, _, refits, remeans⟩
  let key := Router.encode_state Router.firstRetry.state
  have filed (episodes : List (List TrainingRow)) (returns : List ℚ) (some_ : returns ≠ [])
      (same : Nested.filed (filings (roundedReturn .binary64) episodes) key .retry = returns) :
      ((Nested.collect (filings (roundedReturn .binary64) episodes)).at? key .retry).map
        Arithmetic.binary64.mean = some (Arithmetic.binary64.mean returns) := by
    rw [Nested.at?_collect, same, if_neg some_]
    rfl
  have value := (means.filed key .retry).trans
    (filed _ [tenth, tenth, mostly] (by simp) (by decide +kernel))
  have revalue := (remeans.filed key .retry).trans
    (filed _ [mostly, tenth, tenth] (by simp) (by decide +kernel))
  constructor
  · intro exactly
    have occurred : returnsOf ([tenth, tenth, mostly].map fun reward => [onlyRetry reward]) key
        .retry = [tenth, tenth, mostly] := by
      decide +kernel
    have wrong := exactly _ _ _ _ _ accepted (complete _) fits key .retry
    rw [value, occurred] at wrong
    revert wrong
    decide +kernel
  · intro unordered
    have permuted : ([mostly, tenth, tenth].map fun reward => [onlyRetry reward]).Perm
        ([tenth, tenth, mostly].map fun reward => [onlyRetry reward]) := by
      have rotated : ([mostly] ++ [tenth, tenth]).Perm ([tenth, tenth] ++ [mostly]) :=
        List.perm_append_comm
      exact rotated.map _
    have wrong := (unordered _ _ _ _ _ _ _ accepted (complete _) permuted fits refits).at? key
      .retry
    rw [value, revalue] at wrong
    revert wrong
    decide +kernel

end Pilot

end ForgeRL
