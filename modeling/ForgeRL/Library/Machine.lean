import Mathlib.Data.List.Basic

/-!
# Runs of a deterministic machine

The machine is a total step function on states, driven by a list of inputs.
Interleavings of any number of clients are lists of inputs: each input is one
atomic transaction, and a refused transaction is a step that changes nothing.

The induction over a run is made once, here, in two forms: a property of a
state, and a property that needs every input to be admissible at the state it
meets.
-/

namespace Library

universe u v

variable {σ : Type u} {ι : Type v}

/-- The state after a list of inputs. -/
def run (step : σ → ι → σ) (state : σ) (inputs : List ι) : σ :=
  inputs.foldl step state

section Run

variable (step : σ → ι → σ)

/-- What every step keeps, every run keeps. -/
theorem run_invariant (holds : σ → Prop)
    (kept : ∀ state input, holds state → holds (step state input))
    {state : σ} (start : holds state) (inputs : List ι) :
    holds (run step state inputs) := by
  induction inputs generalizing state with
  | nil => exact start
  | cons input inputs ih => exact ih (kept state input start)

/-- Every input of a run is admissible at the state in which it arrives. -/
def Admissible (allowed : σ → ι → Prop) : σ → List ι → Prop
  | _, [] => True
  | state, input :: inputs => allowed state input ∧ Admissible allowed (step state input) inputs

instance decidableAdmissible (allowed : σ → ι → Prop)
    [decision : ∀ state input, Decidable (allowed state input)] :
    ∀ (state : σ) (inputs : List ι), Decidable (Admissible step allowed state inputs)
  | _, [] => isTrue trivial
  | state, input :: inputs =>
    match decision state input, decidableAdmissible allowed (step state input) inputs with
    | isTrue now, isTrue later => isTrue ⟨now, later⟩
    | isFalse refused, _ => isFalse fun meets => refused meets.1
    | _, isFalse refused => isFalse fun meets => refused meets.2

theorem Admissible.mono {allowed wider : σ → ι → Prop}
    (implied : ∀ state input, allowed state input → wider state input)
    {state : σ} {inputs : List ι} (meets : Admissible step allowed state inputs) :
    Admissible step wider state inputs := by
  induction inputs generalizing state with
  | nil => trivial
  | cons input inputs ih => exact ⟨implied state input meets.1, ih meets.2⟩

/-- A test that does not look at the state is met along any run. -/
theorem Admissible.of_forall {allowed : ι → Prop} {inputs : List ι}
    (meets : ∀ input ∈ inputs, allowed input) (state : σ) :
    Admissible step (fun _ => allowed) state inputs := by
  induction inputs generalizing state with
  | nil => trivial
  | cons input inputs ih =>
      exact ⟨meets input List.mem_cons_self,
        ih (fun other member => meets other (List.mem_cons_of_mem _ member)) _⟩

/-- What every admissible step keeps, every admissible run keeps. -/
theorem run_invariant_of_admissible (holds : σ → Prop) {allowed : σ → ι → Prop}
    (kept : ∀ state input, allowed state input → holds state → holds (step state input))
    {state : σ} (start : holds state) {inputs : List ι}
    (meets : Admissible step allowed state inputs) :
    holds (run step state inputs) := by
  induction inputs generalizing state with
  | nil => exact start
  | cons input inputs ih => exact ih (kept state input meets.1 start) meets.2

end Run

end Library
