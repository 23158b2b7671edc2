import ForgeRL.Library.Coverage

/-!
# Campaigns

A campaign goes through its designs in their order and attempts each of them
once.  An attempt leaves a record or none, and with it the campaign goes on or
ends for a reason.  The records are then those of a beginning of the designs,
whatever the attempts do to the state, and what has not been recorded is what
is missing from the plan.
-/

namespace Library

universe u v w x y

/-- What one attempt comes to. -/
inductive Upshot (ρ : Type u) (ε : Type v) (σ : Type w) where
  | recorded (record : ρ) (state : σ)
  /-- The attempt is recorded, and the campaign ends. -/
  | last (record : ρ) (reason : ε) (state : σ)
  /-- The campaign ends without a record of the attempt. -/
  | lost (reason : ε) (state : σ)

structure Conducted (ρ : Type u) (ε : Type v) (σ : Type w) where
  records : List ρ
  reason : Option ε
  state : σ

section

variable {δ : Type x} {ρ : Type u} {ε : Type v} {σ : Type w} {κ : Type y}

namespace Upshot

def record? : Upshot ρ ε σ → Option ρ
  | recorded record _ => some record
  | last record _ _ => some record
  | lost _ _ => none

def state : Upshot ρ ε σ → σ
  | recorded _ state => state
  | last _ _ state => state
  | lost _ state => state

def reason? : Upshot ρ ε σ → Option ε
  | recorded _ _ => none
  | last _ reason _ => some reason
  | lost reason _ => some reason

end Upshot

/-- Put a record before those of the rest of a campaign. -/
def Conducted.after (record : ρ) (rest : Conducted ρ ε σ) : Conducted ρ ε σ :=
  { rest with records := record :: rest.records }

def campaign (attempt : δ → σ → Upshot ρ ε σ) : List δ → σ → Conducted ρ ε σ
  | [], state => ⟨[], none, state⟩
  | design :: designs, state =>
    match attempt design state with
    | .recorded record later => (campaign attempt designs later).after record
    | .last record reason later => ⟨[record], some reason, later⟩
    | .lost reason later => ⟨[], some reason, later⟩

/-- The record of an attempt bears the name of its design. -/
def Names (attempt : δ → σ → Upshot ρ ε σ) (name : δ → κ) (cell : ρ → κ) : Prop :=
  ∀ design state record, (attempt design state).record? = some record → cell record = name design

section Campaign

variable {attempt : δ → σ → Upshot ρ ε σ} {designs : List δ} {state : σ}

/-! ## The records and the designs -/

/-- A campaign records a beginning of its designs. -/
theorem recorded_beginning {name : δ → κ} {cell : ρ → κ} (names : Names attempt name cell) :
    (campaign attempt designs state).records.map cell <+: designs.map name := by
  induction designs generalizing state with
  | nil => exact List.prefix_refl []
  | cons design designs ih =>
    have named := names design state
    unfold campaign
    cases upshot : attempt design state with
    | recorded record later =>
      rw [upshot] at named
      rw [List.map_cons, ← named record rfl]
      exact (List.prefix_cons_inj _).mpr ih
    | last record reason later =>
      rw [upshot] at named
      refine ⟨designs.map name, ?_⟩
      exact congrArg (fun first => first :: designs.map name) (named record rfl)
    | lost reason later => exact List.nil_prefix

/-- A campaign that does not end early records every design. -/
theorem records_all {name : δ → κ} {cell : ρ → κ} (names : Names attempt name cell)
    (whole : (campaign attempt designs state).reason = none) :
    (campaign attempt designs state).records.map cell = designs.map name := by
  induction designs generalizing state with
  | nil => rfl
  | cons design designs ih =>
    have named := names design state
    unfold campaign at whole ⊢
    cases upshot : attempt design state with
    | recorded record later =>
      rw [upshot] at named whole
      rw [List.map_cons, ← named record rfl, ← ih whole]
      rfl
    | last record reason later =>
      rw [upshot] at whole
      cases whole
    | lost reason later =>
      rw [upshot] at whole
      cases whole

/-! ## Invariants -/

/-- What every attempt keeps, a campaign keeps. -/
theorem campaign_keeps (holds : σ → Prop)
    (kept : ∀ design ∈ designs, ∀ before, holds before → holds (attempt design before).state)
    (start : holds state) : holds (campaign attempt designs state).state := by
  induction designs generalizing state with
  | nil => exact start
  | cons design designs ih =>
    have now := kept design List.mem_cons_self state start
    have later : ∀ other ∈ designs, ∀ before, holds before →
        holds (attempt other before).state := fun other member =>
      kept other (List.mem_cons_of_mem design member)
    unfold campaign
    cases upshot : attempt design state with
    | recorded record after =>
      rw [upshot] at now
      exact ih later now
    | last record reason after =>
      rw [upshot] at now
      exact now
    | lost reason after =>
      rw [upshot] at now
      exact now

/-- A list in the state that grows by the record of an attempt ends with the
records. -/
theorem campaign_view {β : Type*} (view : σ → List β) (shown : ρ → β)
    (grows : ∀ design before, view (attempt design before).state =
      view before ++ ((attempt design before).record?.map shown).toList) :
    view (campaign attempt designs state).state =
      view state ++ (campaign attempt designs state).records.map shown := by
  induction designs generalizing state with
  | nil => exact (List.append_nil _).symm
  | cons design designs ih =>
    have now := grows design state
    unfold campaign
    cases upshot : attempt design state with
    | recorded record later =>
      rw [upshot] at now
      have first : view later = view state ++ [shown record] := now
      show view (campaign attempt designs later).state =
        view state ++ shown record :: (campaign attempt designs later).records.map shown
      rw [ih, first, List.append_assoc]
      rfl
    | last record reason later =>
      rw [upshot] at now
      exact now
    | lost reason later =>
      rw [upshot] at now
      exact now

/-- Every record comes from an attempt at a state that the invariant holds of. -/
theorem exists_attempt (holds : σ → Prop)
    (kept : ∀ design ∈ designs, ∀ before, holds before → holds (attempt design before).state)
    (start : holds state) {record : ρ}
    (member : record ∈ (campaign attempt designs state).records) :
    ∃ design ∈ designs, ∃ before, holds before ∧
      (attempt design before).record? = some record := by
  induction designs generalizing state with
  | nil => cases member
  | cons design designs ih =>
    have now := kept design List.mem_cons_self state start
    have attempted : (attempt design state).record? = some record →
        ∃ other ∈ design :: designs, ∃ before, holds before ∧
          (attempt other before).record? = some record := fun found =>
      ⟨design, List.mem_cons_self, state, start, found⟩
    unfold campaign at member
    cases upshot : attempt design state with
    | recorded first after =>
      rw [upshot] at member now attempted
      rcases List.mem_cons.mp member with rfl | rest
      · exact attempted rfl
      · rcases ih (fun other inside => kept other (List.mem_cons_of_mem design inside)) now rest
          with ⟨other, inside, found⟩
        exact ⟨other, List.mem_cons_of_mem design inside, found⟩
    | last only reason after =>
      rw [upshot] at member attempted
      rcases List.mem_singleton.mp member with rfl
      exact attempted rfl
    | lost reason after =>
      rw [upshot] at member
      cases member

/-- A campaign that does not end early keeps what its recorded attempts keep. -/
theorem whole_keeps (holds : σ → Prop)
    (kept : ∀ design ∈ designs, ∀ before record later, holds before →
      attempt design before = .recorded record later → holds later)
    (start : holds state) (whole : (campaign attempt designs state).reason = none) :
    holds (campaign attempt designs state).state := by
  induction designs generalizing state with
  | nil => exact start
  | cons design designs ih =>
    unfold campaign at whole ⊢
    cases upshot : attempt design state with
    | recorded record later =>
      rw [upshot] at whole
      have now := kept design List.mem_cons_self state record later start upshot
      exact ih (fun other member => kept other (List.mem_cons_of_mem design member)) now whole
    | last record reason later =>
      rw [upshot] at whole
      cases whole
    | lost reason later =>
      rw [upshot] at whole
      cases whole

/-- The reason for which a campaign ends is that of an attempt, which starts
where the recorded ones have left the invariant and leaves the last state; the
record of that attempt is kept. -/
theorem exists_stop (holds : σ → Prop)
    (kept : ∀ design ∈ designs, ∀ before record later, holds before →
      attempt design before = .recorded record later → holds later)
    (start : holds state) {reason : ε}
    (ended : (campaign attempt designs state).reason = some reason) :
    ∃ design ∈ designs, ∃ before, holds before ∧
      (attempt design before).reason? = some reason ∧
      (attempt design before).state = (campaign attempt designs state).state ∧
      ∀ record, (attempt design before).record? = some record →
        record ∈ (campaign attempt designs state).records := by
  induction designs generalizing state with
  | nil => cases ended
  | cons design designs ih =>
    unfold campaign at ended ⊢
    cases upshot : attempt design state with
    | recorded first later =>
      rw [upshot] at ended
      have now := kept design List.mem_cons_self state first later start upshot
      rcases ih (fun other member => kept other (List.mem_cons_of_mem design member)) now ended
        with ⟨other, inside, before, held, stopped, left, listed⟩
      refine ⟨other, List.mem_cons_of_mem design inside, before, held, stopped, left, ?_⟩
      exact fun record found => List.mem_cons_of_mem first (listed record found)
    | last only cause later =>
      rw [upshot] at ended
      refine ⟨design, List.mem_cons_self, state, start, ?_⟩
      rw [upshot]
      refine ⟨ended, rfl, fun record found => ?_⟩
      cases found
      exact List.mem_singleton_self only
    | lost cause later =>
      rw [upshot] at ended
      refine ⟨design, List.mem_cons_self, state, start, ?_⟩
      rw [upshot]
      exact ⟨ended, rfl, fun record found => by cases found⟩

/-- When no attempt goes on after a record of a kind, such a record is the last,
and the campaign has ended for a reason. -/
theorem last_of_kind {kind : ρ → Prop}
    (ends : ∀ design before record later, attempt design before = .recorded record later →
      ¬ kind record)
    {earlier later : List ρ} {record : ρ}
    (split : (campaign attempt designs state).records = earlier ++ record :: later)
    (found : kind record) :
    later = [] ∧ (campaign attempt designs state).reason ≠ none := by
  induction designs generalizing state earlier with
  | nil =>
    cases earlier with
    | nil => cases split
    | cons first earlier => cases split
  | cons design designs ih =>
    unfold campaign at split ⊢
    cases upshot : attempt design state with
    | recorded first after =>
      rw [upshot] at split
      cases earlier with
      | nil =>
        cases split
        exact absurd found (ends design state record after upshot)
      | cons other earlier => exact ih (List.cons.inj split).2
    | last only reason after =>
      rw [upshot] at split
      cases earlier with
      | nil => exact ⟨(List.cons.inj split).2.symm, Option.some_ne_none reason⟩
      | cons other earlier =>
        have impossible := (List.cons.inj split).2
        cases earlier <;> cases impossible
    | lost reason after =>
      rw [upshot] at split
      cases earlier <;> cases split

/-! ## Coverage -/

/-- A campaign that does not end early leaves nothing of the plan missing. -/
theorem missing_of_whole [DecidableEq κ] {π : Type*} {planned : π → κ} {plan : List π}
    {name : δ → κ} {cell : ρ → κ} (names : Names attempt name cell)
    (arranged : (designs.map name).Perm (plan.map planned))
    (whole : (campaign attempt designs state).reason = none) :
    missingRows planned plan ((campaign attempt designs state).records.map cell) = [] := by
  apply List.filter_eq_nil_iff.mpr
  intro row member absent
  rw [records_all names whole] at absent
  exact of_decide_eq_true absent (arranged.mem_iff.mpr (List.mem_map_of_mem member))

end Campaign

end

end Library
