import ForgeRL.Research.Account
import ForgeRL.Research.Study

namespace ForgeRL.Research

open Library

/-!
# The spending report

The manifest of a study reports what the collection and the evaluation have
cost.  A branch of a tree bills what its episode has paid, and the bill of a
tree is published when the tree is complete.  So an exception that leaves a tree
takes the bill with it.  Only the step of a branch is inside a `try`.  Outside
are the copies of the episodes, the gradings and the records, which may raise,
and the reading of results and costs, which may not.  An evaluation has all of
its calls inside a `try`, and its record is written after it has been counted.
-/

/-! ## The bill of a tree -/

/-- Something that belongs to the tree of a task. -/
def Occurrence.InTree (task_id : String) : Occurrence → Prop
  | request policy sent _ => policy = .research_tree ∧ sent.task.id = task_id
  | evaluation policy call _ => policy = .research_tree ∧ call.task.id = task_id
  | clone policy task _ => policy = .research_tree ∧ task.id = task_id
  | written (.trace trace) _ => trace.task_id = task_id
  | written (.transition transition) _ => transition.task_id = task_id
  | written _ _ => False

/-- What an episode of a tree does belongs to the tree. -/
theorem Account.Owns.inTree {account : Account} {occurrence : Occurrence}
    (owner : account.Owns occurrence) (policy : account.policy_id = .research_tree) :
    occurrence.InTree account.task.id := by
  cases occurrence with
  | request asking sent outcome => exact ⟨owner.1.trans policy, congrArg Task.id owner.2⟩
  | evaluation asking call outcome => exact ⟨owner.1.trans policy, congrArg Task.id owner.2⟩
  | clone asking task raised => exact ⟨owner.1.trans policy, congrArg Task.id owner.2⟩
  | written record raised => exact owner.elim

/-- Nothing belongs to the trees of two tasks. -/
theorem Occurrence.InTree.unique {occurrence : Occurrence} {first second : String}
    (here : occurrence.InTree first) (there : occurrence.InTree second) : first = second := by
  cases occurrence with
  | request policy sent outcome => exact here.2.symm.trans there.2
  | evaluation policy call outcome => exact here.2.symm.trans there.2
  | clone policy task raised => exact here.2.symm.trans there.2
  | written record raised =>
    cases record with
    | trace trace => exact Eq.trans (Eq.symm here) there
    | transition transition => exact Eq.trans (Eq.symm here) there
    | evaluation run => exact here.elim
    | file name => exact here.elim

namespace Collection

/-- The collection of a task has gone on, and has billed what it has spent. -/
def Billed (task : Task) (before after : Collection) : Prop :=
  ∃ segment, after.log = before.log ++ segment ∧ (∀ occurrence ∈ segment, occurrence.InTree task.id) ∧
    Quiet segment ∧ after.billed_cost = before.billed_cost + spent segment

/-- What leaves a tree is a cancellation, or nothing in it catches it. -/
def Broken (task : Task) (before : Collection) (failure : Failure) (after : Collection) : Prop :=
  failure = .cancelled ∨ ∃ segment, after.log = before.log ++ segment ∧
    (∀ occurrence ∈ segment, occurrence.InTree task.id) ∧
      ∃ occurrence ∈ segment, occurrence.Uncaught

variable {task : Task} {before between after : Collection}

theorem Billed.of_eq (log : after.log = before.log)
    (billed : after.billed_cost = before.billed_cost) : Billed task before after := by
  refine ⟨[], ?_, ?_, .nil, billed⟩
  · rw [List.append_nil, log]
  · exact fun _ member => absurd member List.not_mem_nil

theorem Billed.trans (first : Billed task before between) (second : Billed task between after) :
    Billed task before after := by
  rcases first with ⟨segment, log, inTree, quiet, billed⟩
  rcases second with ⟨more, grown, also, still, paid⟩
  refine ⟨segment ++ more, ?_, ?_, quiet.append still, ?_⟩
  · rw [grown, log, List.append_assoc]
  · intro occurrence member
    rcases List.mem_append.mp member with earlier | later
    · exact inTree occurrence earlier
    · exact also occurrence later
  · rw [paid, billed, spent_append, Nat.add_assoc]

theorem Billed.broken {failure : Failure} (first : Billed task before between)
    (second : Broken task between failure after) : Broken task before failure after := by
  rcases second with cancelled | ⟨more, grown, also, occurrence, member, failed⟩
  · exact .inl cancelled
  · rcases first with ⟨segment, log, inTree, _, _⟩
    refine .inr ⟨segment ++ more, ?_, ?_, occurrence, List.mem_append_right _ member, failed⟩
    · rw [grown, log, List.append_assoc]
    · intro occurrence member
      rcases List.mem_append.mp member with earlier | later
      · exact inTree occurrence earlier
      · exact also occurrence later

/-- What goes on from a billed collection. -/
theorem Billed.ensures {attempt : Attempt Failure Collection} (first : Billed task before between)
    (rest : attempt.Ensures (Billed task between) (Broken task between)) :
    attempt.Ensures (Billed task before) (Broken task before) :=
  rest.mono (fun _ => first.trans) (fun _ _ => first.broken)

end Collection

namespace Tree

open Collection Research.Session

variable (tree : Tree)

/-- An episode of the tree that has started. -/
structure Planted (ep : Episode) : Prop where
  task : ep.task = tree.task
  policy : ep.policy_id = .research_tree
  started : ep.started = true

variable {tree} {ep : Episode} {route : List Action} {c : Collection}

theorem Planted.inTree {segment : List Occurrence} (planted : tree.Planted ep)
    (owned : ∀ occurrence ∈ segment, ep.account.Owns occurrence) :
    ∀ occurrence ∈ segment, occurrence.InTree tree.task.id := by
  intro occurrence member
  have inTree := (owned occurrence member).inTree planted.policy
  rwa [show ep.account.task = tree.task from planted.task] at inTree

theorem Planted.next {after : Session} (planted : tree.Planted ep)
    (advanced : Advanced ⟨ep, c.log⟩ after) : tree.Planted after.episode := by
  rcases advanced with ⟨segment, ran, _⟩
  exact ⟨(congrArg Account.task ran.account).trans planted.task,
    (congrArg Account.policy_id ran.account).trans planted.policy, ran.started planted.started⟩

/-- The difference of the costs of an episode is the bill of what it has done. -/
theorem Planted.billed {after : Session} {billed : Collection} (planted : tree.Planted ep)
    (advanced : Advanced ⟨ep, c.log⟩ after) (log : billed.log = after.log)
    (cost : billed.billed_cost = c.billed_cost + (after.episode.cost_usd - ep.cost_usd)) :
    Billed tree.task c billed := by
  rcases advanced with ⟨segment, ran, quiet⟩
  have paid : after.episode.cost_usd = ep.cost_usd + spent segment :=
    congrArg Account.cost_usd ran.account
  refine ⟨segment, log.trans ran.log, planted.inTree ran.owned, quiet, ?_⟩
  rw [cost, paid, Nat.add_sub_cancel_left]

/-- What costs nothing leaves the bill as it is. -/
theorem Planted.free {after : Session} (planted : tree.Planted ep)
    (free : Free ⟨ep, c.log⟩ after) : Billed tree.task c (c.leave after.log) := by
  apply planted.billed free.advanced rfl
  rw [free.cost, Nat.sub_self]
  rfl

/-- What raises in an episode of the tree leaves the tree. -/
theorem Planted.broken {after : Session} {failure : Failure} (planted : tree.Planted ep)
    (breaks : Episode.Breaks ⟨ep, c.log⟩ after) :
    Broken tree.task c failure (c.leave after.log) := by
  rcases breaks with ⟨segment, ran, uncaught⟩
  exact .inr ⟨segment, ran.log, planted.inTree ran.owned, uncaught⟩

/-- A copy adds nothing to the bill, and where it raises the tree is left. -/
theorem clone_billed (planted : tree.Planted ep) :
    (Episode.clone tree.env ⟨ep, c.log⟩).Ensures
      (fun cloned => Billed tree.task c (c.leave cloned.log) ∧ cloned.episode = ep)
      (fun failure left => Broken tree.task c failure (c.leave left.log)) := by
  apply (Episode.clone_ran tree.env).mono
  · rintro cloned ⟨free, same⟩
    exact ⟨planted.free free, same⟩
  · exact fun failure left breaks => planted.broken breaks

/-- A grading adds nothing to the bill, and where it raises the tree is left. -/
theorem finish_billed (planted : tree.Planted ep) :
    (Episode.finish tree.env ⟨ep, c.log⟩).Ensures
      (fun graded => Billed tree.task c (c.leave graded.log))
      (fun failure left => Broken tree.task c failure (c.leave left.log)) := by
  apply (Episode.finish_ran tree.env).mono
  · exact fun graded free => planted.free free
  · rintro failure left ⟨segment, ran, fails⟩
    exact planted.broken ⟨segment, ran, fails planted.started⟩

/-- A record of the tree adds nothing to the bill, and where it raises the tree
is left. -/
theorem record_billed {record : Record}
    (inTree : ∀ raised, (Occurrence.written record raised).InTree tree.task.id) :
    ((tree.env.record record c.log).within c.leave).Ensures (Billed tree.task c)
      (Broken tree.task c) := by
  have only (raised : Option Failure) :
      ∀ occurrence ∈ [Occurrence.written record raised], occurrence.InTree tree.task.id := by
    intro occurrence member
    rw [List.mem_singleton.mp member]
    exact inTree raised
  unfold Environment.record
  dsimp only
  cases tree.env.write c.log record with
  | none => exact ⟨_, rfl, only none, .singleton (by simp [Occurrence.Uncaught]), rfl⟩
  | some failure => exact .inr ⟨_, rfl, only (some failure), _, List.mem_singleton_self _, rfl⟩

theorem save_trace_billed (kind : String) (route : List Action) (run : EpisodeResult) :
    (tree.save_trace kind route run c).Ensures (Billed tree.task c) (Broken tree.task c) := by
  have kept (traces : List Trace) : Billed tree.task c { c with traces := traces } :=
    .of_eq rfl rfl
  exact (kept _).ensures (record_billed fun _ => rfl)

theorem save_transition_billed (branch : Branch) (reward : ℚ) (next_state : Observation)
    (terminal : Bool) :
    (tree.save_transition (tree.transition branch reward next_state terminal) c).Ensures
      (Billed tree.task c) (Broken tree.task c) := by
  have kept (transitions : List Transition) :
      Billed tree.task c { c with transitions := transitions } := .of_eq rfl rfl
  exact (kept _).ensures (record_billed fun _ => rfl)

theorem closeBranch_billed (branch : Branch) (reward : ℚ) {stepped : Session}
    (planted : tree.Planted stepped.episode) (log : c.log = stepped.log) :
    (tree.closeBranch branch reward stepped c).Ensures (Billed tree.task c)
      (Broken tree.task c) := by
  have ended : (Episode.finish tree.env ⟨stepped.episode, c.log⟩).Ensures
      (fun graded => Billed tree.task c (c.leave graded.log))
      (fun failure left => Broken tree.task c failure (c.leave left.log)) := finish_billed planted
  rw [log] at ended
  unfold closeBranch
  generalize Episode.finish tree.env stepped = outcome at ended ⊢
  cases outcome with
  | thrown failure left => exact ended
  | done graded =>
    have billed : Billed tree.task c (c.leave graded.log) := ended
    apply (billed.ensures (save_trace_billed _ _ _)).andThen
    intro traced saved
    split
    · exact saved.trans (.of_eq rfl rfl)
    · exact saved.ensures (save_transition_billed _ _ _ _)

/-- What the recursive call of `visit` has to do. -/
def Descends (tree : Tree)
    (descend : Episode → List Action → Collection → Attempt Failure Collection) : Prop :=
  ∀ ep route c, tree.Planted ep →
    (descend ep route c).Ensures (Billed tree.task c) (Broken tree.task c)

section Loop

variable {last : Prop} [Decidable last]
  {descend : Episode → List Action → Collection → Attempt Failure Collection}
  (descends : Descends tree descend)

include descends

theorem followBranch_billed (branch : Branch) {stepped : Session} (planted : tree.Planted ep)
    (advanced : Advanced ⟨ep, c.log⟩ stepped) :
    (tree.followBranch last descend branch ep.cost_usd stepped c).Ensures
      (Billed tree.task c) (Broken tree.task c) := by
  have next := planted.next advanced
  have paid (billed : Collection) (log : billed.log = stepped.log)
      (cost : billed.billed_cost = c.billed_cost + (stepped.episode.cost_usd - ep.cost_usd)) :
      Billed tree.task c billed := planted.billed advanced log cost
  unfold followBranch
  dsimp only
  split
  · exact (paid _ rfl rfl).ensures (save_trace_billed _ _ _)
  · split
    · exact (paid _ rfl rfl).ensures (closeBranch_billed branch _ next rfl)
    · have traced := (paid ((c.leave stepped.log).bill
        (stepped.episode.result.cost_usd - ep.cost_usd)) rfl rfl).ensures
          (save_trace_billed "training-transition" (branch.route ++ [branch.action])
            stepped.episode.result)
      exact (traced.andThen fun _ saved => saved.ensures
        (save_transition_billed _ _ _ _)).andThen fun _ saved =>
          saved.ensures (descends _ _ _ next)

/-- A branch bills what its step has spent, also if the step raises. -/
theorem explore_billed (branch : Branch) (planted : tree.Planted ep) :
    (tree.explore last descend ep branch c).Ensures (Billed tree.task c)
      (Broken tree.task c) := by
  have copied : (Episode.clone tree.env ⟨ep, c.log⟩).Ensures
      (fun cloned => Billed tree.task c (c.leave cloned.log) ∧ cloned.episode = ep)
      (fun failure left => Broken tree.task c failure (c.leave left.log)) := clone_billed planted
  unfold explore
  generalize Episode.clone tree.env ⟨ep, c.log⟩ = outcome at copied ⊢
  cases outcome with
  | thrown failure left => exact copied
  | done cloned =>
    rcases cloned with ⟨same, log⟩
    rcases copied with ⟨billed, rfl⟩
    have counted : Billed tree.task c (c.leave log).count := billed.trans (.of_eq rfl rfl)
    apply counted.ensures
    have stepped : (Episode.step tree.env branch.action ⟨same, log⟩).Ensures
        (Advanced ⟨same, log⟩) (fun _ => Advanced ⟨same, log⟩) :=
      Episode.step_advanced tree.env branch.action
    have failed (failure : Failure) {left : Session} (advanced : Advanced ⟨same, log⟩ left) :
        (tree.failBranch (branch.route ++ [branch.action]) same.cost_usd failure left
          (c.leave log).count).Ensures (Billed tree.task (c.leave log).count)
            (Broken tree.task (c.leave log).count) := by
      have paid (spending : Collection) (grown : spending.log = left.log)
          (cost : spending.billed_cost = c.billed_cost + (left.episode.cost_usd - same.cost_usd)) :
          Billed tree.task (c.leave log).count spending := planted.billed advanced grown cost
      exact (paid _ rfl rfl).ensures (save_trace_billed _ _ _)
    dsimp only
    generalize Episode.step tree.env branch.action ⟨same, log⟩ = outcome at stepped ⊢
    cases outcome with
    | done after => exact followBranch_billed descends branch planted stepped
    | thrown failure left =>
      cases failure with
      | cancelled => exact .inl rfl
      | _ => exact failed _ stepped

theorem branches_billed (planted : tree.Planted ep) (actions : List Action) :
    (tree.branches last descend ep route actions c).Ensures (Billed tree.task c)
      (Broken tree.task c) := by
  induction actions generalizing c with
  | nil => exact .of_eq rfl rfl
  | cons action actions ih =>
    unfold branches
    split_ifs
    · exact .of_eq rfl rfl
    · apply (explore_billed descends _ planted).andThen
      intro after billed
      exact billed.ensures ih

end Loop

theorem audit_billed (planted : tree.Planted ep)
    {deeper : Collection → Attempt Failure Collection}
    (continues : ∀ c, (deeper c).Ensures (Billed tree.task c) (Broken tree.task c)) :
    (tree.audit ep route deeper c).Ensures (Billed tree.task c) (Broken tree.task c) := by
  have ended : ((Episode.clone tree.env ⟨ep, c.log⟩).andThen (Episode.finish tree.env)).Ensures
      (fun graded => Billed tree.task c (c.leave graded.log))
      (fun failure left => Broken tree.task c failure (c.leave left.log)) := by
    apply (clone_billed planted).andThen
    rintro ⟨same, log⟩ ⟨billed, rfl⟩
    have graded : (Episode.finish tree.env ⟨same, (c.leave log).log⟩).Ensures
        (fun graded => Billed tree.task (c.leave log) ((c.leave log).leave graded.log))
        (fun failure left =>
          Broken tree.task (c.leave log) failure ((c.leave log).leave left.log)) :=
      finish_billed planted
    exact graded.mono (fun _ => billed.trans) (fun _ _ => billed.broken)
  unfold audit
  dsimp only
  generalize (Episode.clone tree.env ⟨ep, c.log⟩).andThen (Episode.finish tree.env) = outcome
    at ended ⊢
  cases outcome with
  | thrown failure left => exact ended
  | done stopped =>
    have billed : Billed tree.task c (c.leave stopped.log) := ended
    apply (billed.ensures (save_trace_billed _ _ _)).andThen
    intro traced saved
    split
    · exact saved.trans (.of_eq rfl rfl)
    · apply (saved.ensures (save_transition_billed _ _ _ _)).andThen
      intro stored kept
      split
      · exact kept
      · exact kept.ensures (continues _)

/-- A tree bills what it has spent, however deep it is. -/
theorem visit_billed (remaining : ℕ) : Descends tree (tree.visit remaining) := by
  induction remaining with
  | zero =>
    intro ep route c planted
    exact audit_billed planted fun c => .of_eq rfl rfl
  | succ remaining ih =>
    intro ep route c planted
    exact audit_billed planted fun c => branches_billed ih planted PATCH_ACTIONS

end Tree

/-! ## The splits name every task once -/

theorem validateTask_ids {seen later : Seen} {task : Task}
    (accepted : validateTask seen task = .ok later) :
    task.id ∉ seen.ids ∧ later.ids = task.id :: seen.ids := by
  unfold validateTask at accepted
  split_ifs at accepted with supported known
  refine ⟨known, ?_⟩
  split at accepted
  · cases accepted
    rfl
  · split_ifs at accepted
    cases accepted
    rfl

theorem validateTasks_ids {tasks : List Task} {seen later : Seen}
    (accepted : validateTasks seen tasks = .ok later) :
    (tasks.map Task.id).Nodup ∧ ∀ id ∈ tasks.map Task.id, id ∉ seen.ids := by
  induction tasks generalizing seen with
  | nil => exact ⟨List.nodup_nil, fun _ member => absurd member List.not_mem_nil⟩
  | cons task tasks ih =>
    unfold validateTasks at accepted
    cases checked : validateTask seen task with
    | error failure =>
      rw [checked] at accepted
      cases accepted
    | ok between =>
      rw [checked] at accepted
      rcases validateTask_ids checked with ⟨fresh, ids⟩
      rcases ih accepted with ⟨nodup, unseen⟩
      rw [ids] at unseen
      constructor
      · rw [List.map_cons, List.nodup_cons]
        exact ⟨fun member => unseen _ member List.mem_cons_self, nodup⟩
      · intro id member
        rcases List.mem_cons.mp member with rfl | later
        · exact fresh
        · exact fun known => unseen id later (List.mem_cons_of_mem _ known)

theorem validate_splits_ids {tasks : List Task} {splits : List (String × List String)}
    (accepted : validate_splits tasks = .ok splits) (split : String) :
    ((ofSplit split tasks).map Task.id).Nodup := by
  unfold validate_splits at accepted
  cases checked : validateTasks ⟨[], []⟩ tasks with
  | error failure =>
    rw [checked] at accepted
    cases accepted
  | ok seen => exact (validateTasks_ids checked).1.sublist (List.filter_sublist.map _)

/-! ## The bill of a study -/

/-- In the tree of a training task something raises that nothing catches there,
and some request has been charged. -/
def Stranded (log : List Occurrence) : Prop :=
  ∃ task_id, (∃ occurrence ∈ log, occurrence.InTree task_id ∧ occurrence.Uncaught) ∧
    ∃ occurrence ∈ log, occurrence.InTree task_id ∧ 0 < occurrence.cost_usd

/-- Something that belongs to no tree and costs nothing. -/
def Occurrence.Aside (occurrence : Occurrence) : Prop :=
  occurrence.cost_usd = 0 ∧ ∀ task_id, ¬ occurrence.InTree task_id

theorem stranded_concat {log : List Occurrence} {last : Occurrence} (aside : last.Aside) :
    Stranded (log ++ [last]) ↔ Stranded log := by
  have within {holds : Occurrence → Prop} (task_id : String) :
      (∃ occurrence ∈ log ++ [last], occurrence.InTree task_id ∧ holds occurrence) ↔
        ∃ occurrence ∈ log, occurrence.InTree task_id ∧ holds occurrence := by
    constructor
    · rintro ⟨occurrence, member, inTree, held⟩
      rcases List.mem_append.mp member with earlier | now
      · exact ⟨occurrence, earlier, inTree, held⟩
      · rw [List.mem_singleton.mp now] at inTree
        exact absurd inTree (aside.2 task_id)
    · rintro ⟨occurrence, member, inTree, held⟩
      exact ⟨occurrence, List.mem_append_left _ member, inTree, held⟩
  unfold Stranded
  simp only [within]

namespace Study

open Collection Research.Session

namespace Evidence

/-- What the manifest reports. -/
def reported (evidence : Evidence) : ℕ :=
  evidence.collection_cost_usd + evidence.evaluation_cost_usd

/-- Everything that has been spent is in the report, and the trees that have
been collected are those of some tasks. -/
structure Tidy (ids : List String) (evidence : Evidence) : Prop where
  balanced : evidence.reported = spent evidence.log
  quiet : ∀ occurrence ∈ evidence.log, ∀ task_id, occurrence.InTree task_id →
    ¬ occurrence.Uncaught
  known : ∀ occurrence ∈ evidence.log, ∀ task_id, occurrence.InTree task_id → task_id ∈ ids

/-- A tree has been left: its log is there, and its bill is not. -/
def Torn (evidence : Evidence) : Prop :=
  ∃ (ids : List String) (before : Evidence) (task : Task) (segment : List Occurrence),
    before.Tidy ids ∧ task.id ∉ ids ∧ evidence.reported = before.reported ∧
      evidence.log = before.log ++ segment ∧
      (∀ occurrence ∈ segment, occurrence.InTree task.id) ∧
      ∃ occurrence ∈ segment, occurrence.Uncaught

/-- The report is right, unless something is stranded. -/
def Reports (evidence : Evidence) : Prop :=
  evidence.reported = spent evidence.log ↔ ¬ Stranded evidence.log

variable {ids : List String} {evidence : Evidence}

theorem Tidy.reports (tidy : evidence.Tidy ids) : evidence.Reports := by
  apply iff_of_true tidy.balanced
  rintro ⟨task_id, ⟨occurrence, member, inTree, uncaught⟩, _⟩
  exact tidy.quiet occurrence member task_id inTree uncaught

theorem Torn.reports (torn : evidence.Torn) : evidence.Reports := by
  rcases torn with ⟨ids, before, task, segment, tidy, fresh, reported, log, inTree, failure⟩
  have unbilled : evidence.reported = spent evidence.log ↔ ¬ 0 < spent segment := by
    rw [reported, tidy.balanced, log, spent_append]
    omega
  have stranded : Stranded evidence.log ↔ 0 < spent segment := by
    rw [spent_pos_iff, log]
    constructor
    · rintro ⟨task_id, ⟨failed, member, belongs, uncaught⟩, charged, present, also, paid⟩
      -- what raises is in the torn tree, and so the charge is there too
      have within : failed ∈ segment := by
        rcases List.mem_append.mp member with earlier | now
        · exact absurd uncaught (tidy.quiet failed earlier task_id belongs)
        · exact now
      have owner : task_id = task.id := belongs.unique (inTree failed within)
      rcases List.mem_append.mp present with earlier | now
      · exact absurd (owner ▸ tidy.known charged earlier task_id also) fresh
      · exact ⟨charged, now, paid⟩
    · rintro ⟨charged, member, paid⟩
      rcases failure with ⟨failed, within, uncaught⟩
      exact ⟨task.id,
        ⟨failed, List.mem_append_right _ within, inTree failed within, uncaught⟩,
        charged, List.mem_append_right _ member, inTree charged member, paid⟩
  exact unbilled.trans (not_congr stranded).symm

/-- A tree of a new task has been collected, or left without a charge. -/
theorem Tidy.grown {task : Task} {c : Collection} {later : Evidence}
    (tidy : evidence.Tidy ids) (billed : Billed task (.empty evidence.log) c)
    (grown : later.log = c.log) (reported : later.reported = evidence.reported + c.billed_cost) :
    later.Tidy (task.id :: ids) := by
  rcases billed with ⟨segment, extended, inTree, quiet, paid⟩
  have appended : later.log = evidence.log ++ segment := grown.trans extended
  refine ⟨?_, ?_, ?_⟩
  · rw [reported, tidy.balanced, appended, spent_append, paid]
    exact congrArg (_ + ·) (Nat.zero_add _)
  · rw [appended]
    intro occurrence member task_id belongs
    rcases List.mem_append.mp member with earlier | now
    · exact tidy.quiet occurrence earlier task_id belongs
    · exact quiet occurrence now
  · rw [appended]
    intro occurrence member task_id belongs
    rcases List.mem_append.mp member with earlier | now
    · exact List.mem_cons_of_mem _ (tidy.known occurrence earlier task_id belongs)
    · rw [belongs.unique (inTree occurrence now)]
      exact List.mem_cons_self

theorem Tidy.collected {task : Task} {c : Collection} (tidy : evidence.Tidy ids)
    (billed : Billed task (.empty evidence.log) c) :
    (evidence.collected task c).Tidy (task.id :: ids) := by
  apply tidy.grown billed rfl
  have added : (evidence.collected task c).collection_cost_usd =
      evidence.collection_cost_usd + c.billed_cost := by
    unfold collection_cost_usd Evidence.collected
    rw [List.map_append, List.sum_append]
    rfl
  have kept : (evidence.collected task c).evaluation_cost_usd = evidence.evaluation_cost_usd := rfl
  unfold reported
  omega

/-- The log has grown by nothing of a tree, and what that has cost is
reported. -/
theorem Tidy.extended {later : Evidence} {segment : List Occurrence} (tidy : evidence.Tidy ids)
    (log : later.log = evidence.log ++ segment)
    (paid : later.reported = evidence.reported + spent segment)
    (outside : ∀ occurrence ∈ segment, ∀ task_id, ¬ occurrence.InTree task_id) :
    later.Tidy ids := by
  refine ⟨?_, ?_, ?_⟩
  · rw [paid, tidy.balanced, log, spent_append]
  · rw [log]
    intro occurrence member task_id belongs
    rcases List.mem_append.mp member with earlier | now
    · exact tidy.quiet occurrence earlier task_id belongs
    · exact absurd belongs (outside occurrence now task_id)
  · rw [log]
    intro occurrence member task_id belongs
    rcases List.mem_append.mp member with earlier | now
    · exact tidy.known occurrence earlier task_id belongs
    · exact absurd belongs (outside occurrence now task_id)

/-- An evaluation has been added, with its cost. -/
theorem Tidy.evaluated {result : EpisodeResult} {segment : List Occurrence}
    (tidy : evidence.Tidy ids) (paid : result.cost_usd = spent segment)
    (outside : ∀ occurrence ∈ segment, ∀ task_id, ¬ occurrence.InTree task_id) :
    (evidence.evaluated result (evidence.log ++ segment)).Tidy ids := by
  apply tidy.extended rfl ?_ outside
  have added : (evidence.evaluated result (evidence.log ++ segment)).evaluation_cost_usd =
      evidence.evaluation_cost_usd + result.cost_usd := by
    unfold evaluation_cost_usd Evidence.evaluated
    rw [List.map_append, List.sum_append]
    rfl
  have kept : (evidence.evaluated result (evidence.log ++ segment)).collection_cost_usd =
      evidence.collection_cost_usd := rfl
  unfold reported
  omega

end Evidence

open Evidence

variable (study : Study)

/-! ### Records -/

/-- A record of no tree. -/
def Apart : Record → Prop
  | .trace _ | .transition _ => False
  | .evaluation _ | .file _ => True

theorem aside_written {record : Record} (apart : Apart record) (raised : Option Failure) :
    (Occurrence.written record raised).Aside := by
  cases record with
  | trace trace => exact apart.elim
  | transition transition => exact apart.elim
  | evaluation run => exact ⟨rfl, fun _ => id⟩
  | file name => exact ⟨rfl, fun _ => id⟩

/-- A record has been tried. -/
def Recorded (record : Record) (raised : Option Failure) (before after : Evidence) : Prop :=
  after = { before with log := before.log ++ [.written record raised] }

theorem record_recorded (record : Record) (evidence : Evidence) :
    (study.record record evidence).Ensures (Recorded record none evidence)
      (fun failure => Recorded record (some failure) evidence) := by
  unfold Study.record Environment.record
  dsimp only
  cases study.env.write evidence.log record with
  | none => exact rfl
  | some failure => exact rfl

theorem Recorded.tidy {record : Record} {raised : Option Failure} {ids : List String}
    {before after : Evidence} (recorded : Recorded record raised before after)
    (apart : Apart record) (tidy : before.Tidy ids) : after.Tidy ids := by
  have aside := aside_written apart raised
  have log : after.log = before.log ++ [.written record raised] := by rw [recorded]
  refine tidy.extended log ?_ ?_
  · rw [spent_singleton, aside.1, recorded]
    rfl
  · intro occurrence member
    rw [List.mem_singleton.mp member]
    exact aside.2

theorem Recorded.reports {record : Record} {raised : Option Failure}
    {before after : Evidence} (recorded : Recorded record raised before after)
    (apart : Apart record) (reports : before.Reports) : after.Reports := by
  have aside := aside_written apart raised
  rw [recorded]
  unfold Reports
  dsimp only
  rw [stranded_concat aside, spent_append, spent_singleton, aside.1]
  exact reports

theorem record_tidy (record : Record) (apart : Apart record) {ids : List String}
    {evidence : Evidence} (tidy : evidence.Tidy ids) :
    (study.record record evidence).Ensures (Tidy ids) (fun _ => Tidy ids) :=
  (study.record_recorded record evidence).mono (fun _ recorded => recorded.tidy apart tidy)
    (fun _ _ recorded => recorded.tidy apart tidy)

/-! ### Trees -/

/-- The collection of a task: it returns with its bill; or it raises, cancelled,
by something that nothing in it catches, or before it has sent a request. -/
theorem collect_task_tree_billed (task : Task) (log : List Occurrence) :
    (study.collect_task_tree task log).Ensures (Billed task (.empty log))
      (fun failure left => Broken task (.empty log) failure left ∨
        Billed task (.empty log) left ∧ left.billed_cost = 0) := by
  have begun := @Episode.start_advanced study.env
    ⟨Episode.new task .research_tree study.max_steps study.seed, log⟩
  have free {after : Session}
      (free : Free ⟨Episode.new task .research_tree study.max_steps study.seed, log⟩ after) :
      Billed task (.empty log) (.empty after.log) := by
    rcases free with ⟨⟨segment, ran, quiet⟩, cost⟩
    have paid : after.episode.cost_usd = 0 + spent segment :=
      congrArg Account.cost_usd ran.account
    have unspent : spent segment = 0 := by rw [← Nat.zero_add (spent segment), ← paid, cost]; rfl
    refine ⟨segment, ran.log, fun occurrence member => (ran.owned occurrence member).inTree rfl,
      quiet, ?_⟩
    rw [unspent]
    rfl
  unfold collect_task_tree
  split_ifs
  · exact .inr ⟨.of_eq rfl rfl, rfl⟩
  · exact .inr ⟨.of_eq rfl rfl, rfl⟩
  · generalize Episode.start study.env _ = outcome at begun ⊢
    cases outcome with
    | thrown failure left => exact .inr ⟨free begun.1, rfl⟩
    | done started =>
      rcases begun with ⟨advanced, running⟩
      have planted : Tree.Planted ⟨study.env, task, study.cost_weight⟩ started.episode := by
        rcases advanced.advanced with ⟨segment, ran, _⟩
        exact ⟨congrArg Account.task ran.account, congrArg Account.policy_id ran.account, running⟩
      have visited := @Tree.visit_billed ⟨study.env, task, study.cost_weight⟩
        study.max_steps.toNat started.episode [] (.empty started.log) planted
      exact ((free advanced).ensures visited).mono (fun _ => id) (fun _ _ => .inl)

theorem collectAll_tidy {tasks : List Task} {ids : List String} {evidence : Evidence}
    (tidy : evidence.Tidy ids) (nodup : (tasks.map Task.id).Nodup)
    (fresh : ∀ id ∈ tasks.map Task.id, id ∉ ids) :
    (study.collectAll tasks evidence).Ensures (fun after => ∃ ids, after.Tidy ids)
      (fun failure after => failure = .cancelled ∨ after.Reports) := by
  induction tasks generalizing ids evidence with
  | nil => exact ⟨ids, tidy⟩
  | cons task tasks ih =>
    rw [List.map_cons, List.nodup_cons] at nodup
    have new : task.id ∉ ids := fresh task.id List.mem_cons_self
    have collected := study.collect_task_tree_billed task evidence.log
    unfold collectAll
    generalize study.collect_task_tree task evidence.log = outcome at collected ⊢
    cases outcome with
    | thrown failure left =>
      rcases collected with (cancelled | ⟨segment, log, inTree, failed⟩) | ⟨billed, unpaid⟩
      · exact .inl cancelled
      · exact .inr (Torn.reports
          ⟨ids, evidence, task, segment, tidy, new, rfl, log, inTree, failed⟩)
      · refine .inr (tidy.grown billed rfl ?_).reports
        rw [unpaid]
        rfl
    | done c =>
      have kept : (evidence.collected task c).Tidy (task.id :: ids) := tidy.collected collected
      dsimp only
      split_ifs
      · exact ⟨_, kept.balanced, kept.quiet, kept.known⟩
      · apply ih kept nodup.2
        intro id member known
        rcases List.mem_cons.mp known with rfl | earlier
        · exact nodup.1 member
        · exact fresh id (List.mem_cons_of_mem _ member) earlier

/-! ### Evaluations -/

/-- The session has gone on, in whatever way. -/
def Went (before after : Session) : Prop := ∃ segment, Ran before after segment

theorem Went.trans {before between after : Session} (first : Went before between)
    (second : Went between after) : Went before after := by
  rcases first with ⟨segment, ran⟩
  rcases second with ⟨more, runs⟩
  exact ⟨segment ++ more, ran.trans runs⟩

theorem Went.of_advanced {before after : Session} (advanced : Advanced before after) :
    Went before after := by
  rcases advanced with ⟨segment, ran, _⟩
  exact ⟨segment, ran⟩

/-- What goes on from a session that has gone on. -/
theorem Went.ensures {before between : Session} {attempt : Attempt Failure Session}
    (first : Went before between)
    (rest : attempt.Ensures (Went between) (fun _ => Went between)) :
    attempt.Ensures (Went before) (fun _ => Went before) :=
  rest.mono (fun _ => first.trans) (fun _ _ => first.trans)

theorem step_went (action : Action) (session : Session) :
    (Episode.step study.env action session).Ensures (Went session) (fun _ => Went session) :=
  (Episode.step_advanced study.env action).mono (fun _ => Went.of_advanced)
    (fun _ _ => Went.of_advanced)

theorem evaluationSteps_went (policy : Policy) (artifact : JsonObject) (rounds : ℕ)
    (session : Session) :
    (study.evaluationSteps policy artifact rounds session).Ensures (Went session)
      (fun _ => Went session) := by
  have still (session : Session) : Went session session := .of_advanced (Advanced.refl session)
  induction rounds generalizing session with
  | zero => exact still session
  | succ rounds ih =>
    unfold evaluationSteps
    dsimp only
    split
    · exact still session
    · split
      · exact still session
      · split
        · exact study.step_went .stop session
        · split
          · exact still session
          · apply (study.step_went _ session).andThen
            intro stepped went
            split
            · exact went
            · exact went.ensures (ih stepped)

theorem evaluationBody_went (policy : Policy) (artifact : JsonObject) (session : Session) :
    (study.evaluationBody policy artifact session).Ensures (Went session)
      (fun _ => Went session) := by
  have started : (Episode.start study.env session).Ensures (Went session) (fun _ => Went session) :=
    (Episode.start_advanced study.env).mono (fun _ free => .of_advanced free.1.advanced)
      (fun _ _ free => .of_advanced free.1.advanced)
  have stepped : ((Episode.start study.env session).andThen
      (study.evaluationSteps policy artifact study.max_steps.toNat)).Ensures (Went session)
        (fun _ => Went session) :=
    started.andThen fun after went =>
      went.ensures (study.evaluationSteps_went policy artifact _ after)
  apply stepped.andThen
  intro after went
  apply went.ensures
  apply (Episode.finish_ran study.env).mono
  · exact fun _ free => .of_advanced free.advanced
  · rintro _ _ ⟨segment, ran, _⟩
    exact ⟨segment, ran⟩

/-- An evaluation reports what it has spent, however it ends; only a
cancellation leaves it without a result. -/
theorem evaluate_policy_paid (task : Task) (policy : Policy) (artifact : JsonObject)
    (log : List Occurrence) :
    match study.evaluate_policy task policy artifact log with
    | (.ok result, later) => ∃ segment, later = log ++ segment ∧
        (policy ≠ .research_tree →
          ∀ occurrence ∈ segment, ∀ task_id, ¬ occurrence.InTree task_id) ∧
        result.cost_usd = spent segment
    | (.error failure, _) => failure = .cancelled := by
  have went := study.evaluationBody_went policy artifact
    ⟨Episode.new task policy study.max_steps study.seed, log⟩
  have paid {after : Session}
      (went : Went ⟨Episode.new task policy study.max_steps study.seed, log⟩ after) :
      ∃ segment, after.log = log ++ segment ∧
        (policy ≠ .research_tree →
          ∀ occurrence ∈ segment, ∀ task_id, ¬ occurrence.InTree task_id) ∧
        after.episode.cost_usd = spent segment := by
    rcases went with ⟨segment, ran⟩
    have cost : after.episode.cost_usd = 0 + spent segment :=
      congrArg Account.cost_usd ran.account
    refine ⟨segment, ran.log, fun prospective occurrence member task_id inTree => ?_,
      cost.trans (Nat.zero_add _)⟩
    have owner := ran.owned occurrence member
    cases occurrence with
    | written record raised => exact owner
    | _ => exact prospective (owner.1.symm.trans inTree.1)
  unfold evaluate_policy
  dsimp only
  generalize study.evaluationBody policy artifact _ = outcome at went ⊢
  cases outcome with
  | done ended => exact paid went
  | thrown failure left =>
    cases failure with
    | cancelled => rfl
    | _ => exact paid went

theorem evaluateAll_tidy (artifact : JsonObject) {evaluations : List (Task × Policy)}
    {ids : List String} {evidence : Evidence} (tidy : evidence.Tidy ids)
    (prospective : ∀ evaluation ∈ evaluations, evaluation.2 ≠ .research_tree) :
    (study.evaluateAll artifact evaluations evidence).Ensures (Tidy ids)
      (fun failure after => failure = .cancelled ∨ after.Tidy ids) := by
  induction evaluations generalizing evidence with
  | nil => exact ⟨tidy.balanced, tidy.quiet, tidy.known⟩
  | cons evaluation rest ih =>
    rcases evaluation with ⟨task, policy⟩
    have outside : policy ≠ .research_tree := prospective (task, policy) List.mem_cons_self
    have paid := study.evaluate_policy_paid task policy artifact evidence.log
    unfold evaluateAll
    generalize study.evaluate_policy task policy artifact evidence.log = outcome at paid ⊢
    rcases outcome with ⟨outcome, log⟩
    cases outcome with
    | error failure => exact .inl paid
    | ok result =>
      rcases paid with ⟨segment, rfl, apart, cost⟩
      have kept := study.record_tidy (.evaluation result) trivial
        (tidy.evaluated cost (apart outside))
      dsimp only
      generalize study.record (.evaluation result)
        (evidence.evaluated result (evidence.log ++ segment)) = recorded at kept ⊢
      cases recorded with
      | thrown failure left => exact .inr kept
      | done after =>
        have stays : after.Tidy ids := kept
        dsimp only
        split_ifs
        · exact ⟨stays.balanced, stays.quiet, stays.known⟩
        · exact ih stays fun evaluation member =>
            prospective evaluation (List.mem_cons_of_mem _ member)

/-- The evaluations of a study are none of its tree. -/
theorem planned_prospective : ∀ evaluation ∈ study.planned, evaluation.2 ≠ .research_tree := by
  intro evaluation member
  rcases List.mem_flatMap.mp member with ⟨task, _, chosen⟩
  rcases List.mem_map.mp chosen with ⟨policy, shuffled, rfl⟩
  have listed : policy ∈ EVALUATION_POLICIES :=
    (study.shuffle study.seed task.id).property.mem_iff.mp shuffled
  rintro rfl
  exact absurd listed (by decide)

theorem evaluateFitted_tidy (fitted : Json × Option Json) {ids : List String}
    {evidence : Evidence} (tidy : evidence.Tidy ids) :
    (study.evaluateFitted fitted evidence).Ensures (Tidy ids)
      (fun failure after => failure = .cancelled ∨ after.Tidy ids) := by
  have written (name : String) {evidence : Evidence} (tidy : evidence.Tidy ids) :
      (study.record (.file name) evidence).Ensures (Tidy ids)
        (fun failure after => failure = .cancelled ∨ after.Tidy ids) :=
    (study.record_tidy (.file name) trivial tidy).mono (fun _ => id) (fun _ _ => .inr)
  unfold evaluateFitted
  split
  · apply (written "controller.json" tidy).andThen
    intro stored kept
    split
    · have diagnosed : (if fitted.2.isSome then
            study.record (.file "training-diagnostics.json") stored
          else .done stored).Ensures (Tidy ids)
          (fun failure after => failure = .cancelled ∨ after.Tidy ids) := by
        split_ifs
        · exact written _ kept
        · exact kept
      exact diagnosed.andThen fun after still =>
        study.evaluateAll_tidy _ still study.planned_prospective
    · exact .inr kept
  · exact .inr tidy

theorem fitAndEvaluate_tidy {ids : List String} {evidence : Evidence} (tidy : evidence.Tidy ids) :
    (study.fitAndEvaluate evidence).Ensures (Tidy ids)
      (fun failure after => failure = .cancelled ∨ after.Tidy ids) := by
  unfold fitAndEvaluate
  split
  · exact ⟨tidy.balanced, tidy.quiet, tidy.known⟩
  · split
    · exact .inr tidy
    · exact study.evaluateFitted_tidy _ tidy

theorem body_reports {splits : List (String × List String)}
    (accepted : validate_splits study.tasks = .ok splits) {opened : Evidence}
    (fresh : opened.Tidy []) :
    (study.body opened).Ensures Reports
      (fun failure after => failure = .cancelled ∨ after.Reports) := by
  have collected := study.collectAll_tidy fresh (validate_splits_ids accepted "train")
    fun _ _ => List.not_mem_nil
  apply collected.andThen
  rintro evidence ⟨ids, tidy⟩
  apply (study.fitAndEvaluate_tidy tidy).mono
  · exact fun after kept => kept.reports
  · exact fun failure after ends => ends.imp_right Tidy.reports

/-- The last thing that has happened is that a file is not written. -/
def Unwritten (failure : Failure) (history : List Occurrence) : Prop :=
  ∃ name, history.getLast? = some (.written (.file name) (some failure))

/-- What the last manifest reports is right, unless something is stranded; if it
is not written, a file is not. -/
theorem publish_reports {evidence : Evidence} (reports : evidence.Reports) :
    match study.publish evidence with
    | .written manifest history =>
      manifest.collection_cost_usd + manifest.evaluation_cost_usd = spent history ↔
        ¬ Stranded history
    | .raised failure history => Unwritten failure history := by
  have written (name : String) {before : Evidence}
      (kept : before.Reports ∧ before.reported = evidence.reported) :
      (study.record (.file name) before).Ensures
        (fun after => after.Reports ∧ after.reported = evidence.reported)
        (fun failure after => Unwritten failure after.log) := by
    apply (study.record_recorded (.file name) before).mono
    · intro after recorded
      refine ⟨recorded.reports trivial kept.1, ?_⟩
      rw [recorded]
      exact kept.2
    · intro failure after recorded
      rw [recorded]
      exact ⟨name, List.getLast?_concat⟩
  have published := ((written "training-summary.json" ⟨reports, rfl⟩).andThen fun _ =>
    written "benchmark.json").andThen fun _ => written "manifest.json"
  unfold publish
  generalize ((study.record (.file "training-summary.json") evidence).andThen
    (study.record (.file "benchmark.json"))).andThen (study.record (.file "manifest.json")) =
      outcome at published ⊢
  cases outcome with
  | thrown failure left => exact published
  | done left =>
    rcases published with ⟨right, same⟩
    have reported : left.reported = spent left.log ↔ ¬ Stranded left.log := right
    rw [same] at reported
    exact reported

/-- The manifest that has been written reports what has been spent. -/
def Ending.Balanced : Ending → Prop
  | .written manifest history =>
    manifest.collection_cost_usd + manifest.evaluation_cost_usd = spent history
  | .raised _ _ => True

instance (ending : Ending) : Decidable ending.Balanced := by
  unfold Ending.Balanced
  cases ending <;> infer_instance

def smallTask (id split : String) : Task :=
  ⟨id, id, id, split, "", "broken", "repair", [], [], "solution.py"⟩

/-- Every request costs ten millionths, and the sandbox is gone when the first
patch is graded. -/
def smallStudy : Study where
  tasks := [smallTask "a" "train", smallTask "b" "validation", smallTask "c" "test"]
  env :=
    { generate := fun _ _ => .result ⟨"patched", "model", 1, 1, 10⟩
      evaluate := fun _ call =>
        if call.hidden ∧ call.source = "patched" then
          .raised (.sandboxUnavailable "Docker executor is unavailable")
        else .result ⟨0, 1, []⟩
      deepcopy := fun _ => none
      write := fun _ _ => none }
  seed := 17
  max_steps := 1
  cost_weight := 5
  fit_controller := fun _ _ => .ok (.obj [], none)
  selector := fun _ _ _ => .ok "stop"
  shuffle := fun _ _ => ⟨EVALUATION_POLICIES, List.Perm.refl _⟩

end Study

end ForgeRL.Research
