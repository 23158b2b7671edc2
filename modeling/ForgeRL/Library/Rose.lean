import Mathlib.Data.List.Basic

namespace Library

/-!
# Trees with any number of children

A tree has a label and a list of children.  The walk takes the first tree of a
queue and puts its children behind the others, so it goes through one level of
the tree after another.  Every step takes one node out of the queue for good,
and with as many steps as there are nodes the walk has met every part of the
tree.
-/

universe u

inductive Rose (α : Type u) where
  | node (label : α) (children : List (Rose α))

namespace Rose

variable {α : Type u}

def label : Rose α → α
  | .node label _ => label

def children : Rose α → List (Rose α)
  | .node _ children => children

mutual

/-- The number of nodes. -/
def size : Rose α → ℕ
  | .node _ children => sizes children + 1

def sizes : List (Rose α) → ℕ
  | [] => 0
  | tree :: trees => size tree + sizes trees

end

theorem sizes_append (first second : List (Rose α)) :
    sizes (first ++ second) = sizes first + sizes second := by
  induction first with
  | nil => rw [List.nil_append, sizes, Nat.zero_add]
  | cons tree trees ih => rw [List.cons_append, sizes, sizes, ih, Nat.add_assoc]

/-- A tree is a part of itself, and the parts of a child are parts. -/
inductive Part (part : Rose α) : Rose α → Prop where
  | self : Part part part
  | child {tree below : Rose α} (member : below ∈ tree.children) (inside : Part part below) :
      Part part tree

theorem part_iff {part tree : Rose α} :
    Part part tree ↔ part = tree ∨ ∃ child ∈ tree.children, Part part child := by
  constructor
  · intro inside
    cases inside with
    | self => exact .inl rfl
    | child member inside => exact .inr ⟨_, member, inside⟩
  · rintro (rfl | ⟨child, member, inside⟩)
    · exact .self
    · exact .child member inside

/-- Take trees out of a queue, with their children at its end. -/
def walkFrom : ℕ → List (Rose α) → List (Rose α)
  | 0, _ => []
  | _ + 1, [] => []
  | steps + 1, tree :: queue => tree :: walkFrom steps (queue ++ tree.children)

/-- The nodes of a tree, one level after another. -/
def walk (tree : Rose α) : List (Rose α) := walkFrom tree.size [tree]

/-- With enough steps the walk meets the parts of all trees of the queue. -/
theorem mem_walkFrom_iff {steps : ℕ} {queue : List (Rose α)} (enough : sizes queue ≤ steps)
    (part : Rose α) : part ∈ walkFrom steps queue ↔ ∃ tree ∈ queue, Part part tree := by
  induction steps generalizing queue with
  | zero =>
      cases queue with
      | nil =>
          exact ⟨fun member => absurd member List.not_mem_nil,
            fun ⟨_, member, _⟩ => absurd member List.not_mem_nil⟩
      | cons tree queue =>
          cases tree with
          | node label children =>
              rw [sizes, size] at enough
              omega
  | succ steps ih =>
      cases queue with
      | nil =>
          exact ⟨fun member => absurd member List.not_mem_nil,
            fun ⟨_, member, _⟩ => absurd member List.not_mem_nil⟩
      | cons tree queue =>
          have left : sizes (queue ++ tree.children) ≤ steps := by
            cases tree with
            | node label children =>
                rw [sizes, size] at enough
                rw [sizes_append, Rose.children]
                omega
          have root : (∃ below ∈ tree :: queue, Part part below) ↔
              Part part tree ∨ ∃ below ∈ queue, Part part below := by simp
          have ahead : (∃ below ∈ queue ++ tree.children, Part part below) ↔
              (∃ below ∈ queue, Part part below) ∨ ∃ child ∈ tree.children, Part part child := by
            simp [or_and_right, exists_or]
          rw [walkFrom, List.mem_cons, ih left, ahead, root, @part_iff _ part tree, or_assoc]
          exact or_congr_right or_comm

theorem mem_walk_iff (part tree : Rose α) : part ∈ walk tree ↔ Part part tree := by
  have enough : sizes [tree] ≤ tree.size := Nat.le_of_eq (by rw [sizes, sizes, Nat.add_zero])
  rw [walk, mem_walkFrom_iff enough]
  constructor
  · rintro ⟨root, member, inside⟩
    rwa [← List.mem_singleton.mp member]
  · intro inside
    exact ⟨tree, List.mem_singleton_self tree, inside⟩

end Rose

end Library
