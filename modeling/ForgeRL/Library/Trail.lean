import Mathlib.Data.Finset.Card
import Mathlib.Data.Finset.Basic
import Mathlib.Logic.Relation

namespace Library

/-!
# Searching a finite relation along a trail

The search follows every target of a node and remembers only the nodes of the
trail that led there.  It stops at a node of its own trail.  Without a set of
visited nodes a node is searched once for every trail that reaches it, so what
shrinks is the number of the nodes that are not on the trail.

The recursion is bounded by a depth, which running out is a third way to end.
A depth above the number of nodes never runs out.
-/

universe u

/-- How a search ends. -/
inductive Search where
  | finished
  /-- A node of the trail is met again. -/
  | cyclic
  | tooDeep
  deriving DecidableEq

namespace Search

section Loop

variable {α : Type u} {search : α → Search}

/-- Search for one node after another, up to the first that does not finish. -/
def each (search : α → Search) : List α → Search
  | [] => finished
  | node :: nodes =>
    match search node with
    | finished => each search nodes
    | stopped => stopped

theorem each_eq_finished_iff {nodes : List α} :
    each search nodes = finished ↔ ∀ node ∈ nodes, search node = finished := by
  induction nodes with
  | nil => exact ⟨fun _ _ member => absurd member List.not_mem_nil, fun _ => rfl⟩
  | cons node nodes ih =>
      rw [each, List.forall_mem_cons, ← ih]
      cases search node with
      | finished => exact (and_iff_right rfl).symm
      | cyclic => exact ⟨fun same => (nomatch same), fun both => both.1⟩
      | tooDeep => exact ⟨fun same => (nomatch same), fun both => both.1⟩

/-- A loop that does not finish ends like one of its searches. -/
theorem exists_of_each {nodes : List α} {stopped : Search} (ended : each search nodes = stopped)
    (unfinished : stopped ≠ finished) : ∃ node ∈ nodes, search node = stopped := by
  induction nodes with
  | nil => exact absurd ended.symm unfinished
  | cons node nodes ih =>
      rw [each] at ended
      split at ended
      · rcases ih ended with ⟨later, member, stops⟩
        exact ⟨later, List.mem_cons_of_mem node member, stops⟩
      · exact ⟨node, List.mem_cons_self, ended⟩

end Loop

section Relation

variable {α : Type u} (targets : α → List α)

/-- A node leads to its targets. -/
def Leads (node target : α) : Prop := target ∈ targets node

variable {targets}

/-- Where every way comes to an end, none returns to its beginning. -/
theorem not_circle_of_acc {node : α}
    (accessible : Acc (fun target node => Leads targets node target) node) :
    ¬ Relation.TransGen (Leads targets) node node := by
  induction accessible with
  | intro node _ ih =>
      intro circle
      rcases Relation.TransGen.head'_iff.mp circle with ⟨target, leads, returns⟩
      exact ih target leads (.tail' returns leads)

end Relation

section Trail

variable {α : Type u} [DecidableEq α] (targets : α → List α)

/-- The search from a node at the end of a trail. -/
def visit : ℕ → α → List α → Search
  | 0, _, _ => tooDeep
  | depth + 1, node, trail =>
    if node ∈ trail then cyclic
    else each (fun target => visit depth target (node :: trail)) (targets node)

variable {targets}

/-- A search that finishes has followed every way from its node to the end. -/
theorem acc_of_finished {depth : ℕ} {node : α} {trail : List α}
    (finishes : visit targets depth node trail = finished) :
    Acc (fun target node => Leads targets node target) node := by
  induction depth generalizing node trail with
  | zero => cases finishes
  | succ depth ih =>
      rw [visit] at finishes
      split at finishes
      · cases finishes
      · rw [each_eq_finished_iff] at finishes
        exact .intro node fun target leads => ih (finishes target leads)

/-- A node that is met again closes a cycle, unless it was on the trail from
the beginning. -/
theorem exists_cycle_of_cyclic {depth : ℕ} {node : α} {trail : List α}
    (stops : visit targets depth node trail = cyclic) :
    (∃ earlier ∈ trail, Relation.ReflTransGen (Leads targets) node earlier) ∨
      ∃ again, Relation.ReflTransGen (Leads targets) node again ∧
        Relation.TransGen (Leads targets) again again := by
  induction depth generalizing node trail with
  | zero => cases stops
  | succ depth ih =>
      rw [visit] at stops
      split at stops
      · next onTrail => exact .inl ⟨node, onTrail, .refl⟩
      · rcases exists_of_each stops (by decide) with ⟨target, leads, stopped⟩
        rcases ih stopped with ⟨earlier, member, reaches⟩ | ⟨again, reaches, circle⟩
        · rcases List.mem_cons.mp member with rfl | member
          · exact .inr ⟨earlier, .refl, .head' leads reaches⟩
          · exact .inl ⟨earlier, member, .head leads reaches⟩
        · exact .inr ⟨again, .head leads reaches, circle⟩

/-- A depth above the number of the nodes that are not on the trail does not
run out. -/
theorem visit_ne_tooDeep {nodes : Finset α}
    (closed : ∀ node ∈ nodes, ∀ target ∈ targets node, target ∈ nodes) {depth : ℕ} {node : α}
    {trail : List α} (inside : node ∈ nodes) (deep : (nodes \ trail.toFinset).card < depth) :
    visit targets depth node trail ≠ tooDeep := by
  induction depth generalizing node trail with
  | zero => exact absurd deep (Nat.not_lt_zero _)
  | succ depth ih =>
      intro ran
      rw [visit] at ran
      split at ran
      · cases ran
      · next fresh =>
          rcases exists_of_each ran (by decide) with ⟨target, leads, stopped⟩
          have member : node ∈ nodes \ trail.toFinset := by
            rw [Finset.mem_sdiff, List.mem_toFinset]
            exact ⟨inside, fresh⟩
          have fewer : (nodes \ (node :: trail).toFinset).card < (nodes \ trail.toFinset).card := by
            apply Finset.card_lt_card
            rw [List.toFinset_cons, Finset.sdiff_insert]
            exact Finset.erase_ssubset member
          exact ih (closed node inside target leads) (by omega) stopped

/-- Nodes that are searched from the empty trail meet a cycle exactly when
there is one among them. -/
theorem each_visit_iff {nodes : List α}
    (closed : ∀ node ∈ nodes, ∀ target ∈ targets node, target ∈ nodes) {depth : ℕ}
    (deep : nodes.length < depth) :
    each (fun node => visit targets depth node []) nodes ≠ tooDeep ∧
      (each (fun node => visit targets depth node []) nodes = cyclic ↔
        ∃ node ∈ nodes, Relation.TransGen (Leads targets) node node) := by
  have enough : (nodes.toFinset \ ([] : List α).toFinset).card < depth := by
    rw [List.toFinset_nil, Finset.sdiff_empty]
    exact lt_of_le_of_lt nodes.toFinset_card_le deep
  have inner : ∀ node ∈ nodes.toFinset, ∀ target ∈ targets node, target ∈ nodes.toFinset := by
    intro node member target leads
    rw [List.mem_toFinset] at member ⊢
    exact closed node member target leads
  have bounded : each (fun node => visit targets depth node []) nodes ≠ tooDeep := by
    intro ran
    rcases exists_of_each ran (by decide) with ⟨node, member, stopped⟩
    exact visit_ne_tooDeep inner (List.mem_toFinset.mpr member) enough stopped
  have stays {node other : α} (member : node ∈ nodes)
      (reaches : Relation.ReflTransGen (Leads targets) node other) : other ∈ nodes := by
    induction reaches with
    | refl => exact member
    | tail _ leads ih => exact closed _ ih _ leads
  refine ⟨bounded, ?_, ?_⟩
  · intro stops
    rcases exists_of_each stops (by decide) with ⟨node, member, stopped⟩
    rcases exists_cycle_of_cyclic stopped with ⟨earlier, none_, _⟩ | ⟨again, reaches, circle⟩
    · cases none_
    · exact ⟨again, stays member reaches, circle⟩
  · rintro ⟨node, member, circle⟩
    cases ended : each (fun node => visit targets depth node []) nodes with
    | finished =>
        have accessible := acc_of_finished (each_eq_finished_iff.mp ended node member)
        exact absurd circle (not_circle_of_acc accessible)
    | cyclic => rfl
    | tooDeep => exact absurd ended bounded

end Trail

end Search

end Library
