import Mathlib.Logic.Basic

/-!
# Attempts

A method of a mutable object returns or raises, and in both cases it leaves the
object in some state: what has been assigned before an exception stays
assigned.  An attempt is such an outcome.  A handler sees the state that the
exception has left.

A postcondition of an attempt has two parts, one for each way out.  The rules
below are those of sequencing, of handling and of weakening.
-/

namespace Library

universe u v w

/-- What a method comes to: the state that it leaves, returning or raising. -/
inductive Attempt (ε : Type u) (σ : Type v) where
  | done (state : σ)
  | thrown (error : ε) (state : σ)

namespace Attempt

variable {ε : Type u} {σ : Type v} {τ : Type w}

def state : Attempt ε σ → σ
  | done state => state
  | thrown _ state => state

/-- Go on where the first method has returned. -/
def andThen (attempt : Attempt ε σ) (next : σ → Attempt ε σ) : Attempt ε σ :=
  match attempt with
  | done state => next state
  | thrown error state => thrown error state

theorem andThen_assoc (attempt : Attempt ε σ) (next last : σ → Attempt ε σ) :
    (attempt.andThen next).andThen last = attempt.andThen fun state => (next state).andThen last := by
  cases attempt <;> rfl

/-- See the state that is left as a part of a larger one. -/
def within (attempt : Attempt ε σ) (place : σ → τ) : Attempt ε τ :=
  match attempt with
  | done state => done (place state)
  | thrown error state => thrown error (place state)

/-- The attempt leaves a state with one property if it returns, and with another
if it raises. -/
def Ensures (attempt : Attempt ε σ) (returns : σ → Prop) (throws : ε → σ → Prop) : Prop :=
  match attempt with
  | done state => returns state
  | thrown error state => throws error state

section Rules

variable {attempt : Attempt ε σ} {returns between : σ → Prop} {throws : ε → σ → Prop}

theorem Ensures.mono {weaker : σ → Prop} {looser : ε → σ → Prop}
    (ensures : attempt.Ensures returns throws)
    (returned : ∀ state, returns state → weaker state)
    (raised : ∀ error state, throws error state → looser error state) :
    attempt.Ensures weaker looser := by
  cases attempt with
  | done state => exact returned state ensures
  | thrown error state => exact raised error state ensures

theorem Ensures.andThen {next : σ → Attempt ε σ} (ensures : attempt.Ensures between throws)
    (goes : ∀ state, between state → (next state).Ensures returns throws) :
    (attempt.andThen next).Ensures returns throws := by
  cases attempt with
  | done state => exact goes state ensures
  | thrown error state => exact ensures

theorem Ensures.within {place : σ → τ} {returns : τ → Prop} {throws : ε → τ → Prop}
    (ensures : attempt.Ensures (fun state => returns (place state))
      (fun error state => throws error (place state))) :
    (attempt.within place).Ensures returns throws := by
  cases attempt with
  | done state => exact ensures
  | thrown error state => exact ensures

/-- A property that holds both ways out holds of the state that is left. -/
theorem Ensures.state (ensures : attempt.Ensures returns (fun _ => returns)) :
    returns attempt.state := by
  cases attempt with
  | done state => exact ensures
  | thrown error state => exact ensures

end Rules

end Attempt

end Library
