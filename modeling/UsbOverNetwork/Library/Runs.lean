import Mathlib.Data.List.Basic

/-! Finite runs of a partial step function, chosen action by action.
An action that is not possible in a state has no step there, so a run is any
interleaving of the actions of all parties. -/
namespace Runs

variable {σ α : Type} {step : α → σ → Option σ}

inductive Run (step : α → σ → Option σ) : σ → List α → σ → Prop
  | nil (state) : Run step state [] state
  | cons (state action middle actions final)
      (taken : step action state = some middle)
      (rest : Run step middle actions final) :
      Run step state (action::actions) final

/-- A run whose every step is taken in a state where `guard` allows it. -/
inductive GuardedRun (step : α → σ → Option σ) (guard : α → σ → Prop) :
    σ → List α → σ → Prop
  | nil (state) : GuardedRun step guard state [] state
  | cons (state action middle actions final)
      (allowed : guard action state)
      (taken : step action state = some middle)
      (rest : GuardedRun step guard middle actions final) :
      GuardedRun step guard state (action::actions) final

theorem Run.single (action : α) {state next : σ} (taken : step action state = some next) :
    Run step state [action] next :=
  .cons _ _ _ _ _ taken (.nil _)

def execute (step : α → σ → Option σ) : List α → σ → Option σ
  | [], state => some state
  | action::actions, state => (step action state).bind (execute step actions)

theorem run_of_execute (actions : List α) (start final : σ)
    (executed : execute step actions start = some final) : Run step start actions final := by
  induction actions generalizing start with
  | nil => cases Option.some.inj executed; exact .nil _
  | cons action actions ih =>
    simp only [execute] at executed
    cases taken : step action start with
    | none => simp [taken] at executed
    | some middle =>
      rw [taken,Option.bind_some] at executed
      exact .cons _ _ _ _ _ taken (ih middle executed)

theorem Run.unique {actions : List α} {start final other : σ} (run : Run step start actions final)
    (again : Run step start actions other) : final = other := by
  induction run with
  | nil => cases again; rfl
  | cons state action middle actions final taken _ ih =>
    cases again with
    | cons _ _ next _ _ took rest =>
      cases taken.symm.trans took
      exact ih rest

theorem run_of_check (step : α → σ → Option σ) (actions : List α) (start : σ) (check : σ → Bool)
    (passed : (execute step actions start).any check = true) :
    ∃ final, Run step start actions final ∧ check final = true := by
  cases executed : execute step actions start with
  | none => simp [executed] at passed
  | some final =>
    rw [executed,Option.any_some] at passed
    exact ⟨final,run_of_execute actions start final executed,passed⟩

theorem guardedRun_of_check (step : α → σ → Option σ) (guard : α → σ → Prop)
    (allowed : α → σ → Bool) (sound : ∀ action state, allowed action state = true → guard action state)
    (actions : List α) (start : σ) (check : σ → Bool)
    (passed : (execute (fun action state => if allowed action state then step action state else none)
      actions start).any check = true) :
    ∃ final, GuardedRun step guard start actions final ∧ check final = true := by
  obtain ⟨final,run,checked⟩ := run_of_check _ actions start check passed
  refine ⟨final,?_,checked⟩
  clear passed checked
  induction run with
  | nil => exact .nil _
  | cons state action middle actions final taken _ ih =>
    split at taken
    next yes => exact .cons _ _ _ _ _ (sound action state yes) taken ih
    next _ => cases taken

theorem Run.guarded {guard : α → σ → Prop} {start final : σ} {actions : List α}
    (run : Run step start actions final) (allowed : ∀ action ∈ actions, ∀ state, guard action state) :
    GuardedRun step guard start actions final := by
  induction run with
  | nil => exact .nil _
  | cons state action middle actions final taken _ ih =>
    obtain ⟨first,rest⟩ := List.forall_mem_cons.mp allowed
    exact .cons _ _ _ _ _ (first state) taken (ih rest)

theorem GuardedRun.run {guard : α → σ → Prop} {start final : σ} {actions : List α}
    (guarded : GuardedRun step guard start actions final) : Run step start actions final := by
  induction guarded with
  | nil => exact .nil _
  | cons _ _ _ _ _ _ taken _ ih => exact .cons _ _ _ _ _ taken ih

theorem GuardedRun.invariant {guard : α → σ → Prop} (holds : σ → Prop)
    (kept : ∀ action state next, guard action state → holds state →
      step action state = some next → holds next)
    {start final : σ} {actions : List α}
    (guarded : GuardedRun step guard start actions final) (initially : holds start) :
    holds final := by
  induction guarded with
  | nil => exact initially
  | cons _ _ _ _ _ allowed taken _ ih => exact ih (kept _ _ _ allowed initially taken)

theorem Run.invariant (holds : σ → Prop)
    (kept : ∀ action state next, holds state → step action state = some next → holds next)
    {start final : σ} {actions : List α}
    (run : Run step start actions final) (initially : holds start) : holds final := by
  induction run with
  | nil => exact initially
  | cons _ _ _ _ _ taken _ ih => exact ih (kept _ _ _ initially taken)

/-- A weight that every step keeps or lowers, and every counted one lowers,
bounds the number of counted steps. -/
theorem Run.bounded (weight : σ → Nat) (counted : α → Bool) (holds : σ → Prop)
    (kept : ∀ action state next, holds state → step action state = some next → holds next)
    (lowered : ∀ action state next, holds state → step action state = some next →
      weight next + (if counted action then 1 else 0) ≤ weight state)
    {start final : σ} {actions : List α} (run : Run step start actions final)
    (initially : holds start) : actions.countP counted + weight final ≤ weight start := by
  induction run with
  | nil => simp
  | cons state action middle actions final taken _ ih =>
    have rest := ih (kept _ _ _ initially taken)
    have first := lowered _ _ _ initially taken
    rw [List.countP_cons]
    omega

theorem GuardedRun.bounded {guard : α → σ → Prop} (weight : σ → Nat) (counted : α → Bool)
    (holds : σ → Prop)
    (kept : ∀ action state next, guard action state → holds state →
      step action state = some next →
        holds next ∧ weight next + (if counted action then 1 else 0) ≤ weight state)
    {start final : σ} {actions : List α} (guarded : GuardedRun step guard start actions final)
    (initially : holds start) : holds final ∧ actions.countP counted + weight final ≤ weight start := by
  induction guarded with
  | nil => exact ⟨initially,by simp⟩
  | cons state action middle actions final allowed taken _ ih =>
    obtain ⟨still,first⟩ := kept _ _ _ allowed initially taken
    obtain ⟨last,rest⟩ := ih still
    refine ⟨last,?_⟩
    rw [List.countP_cons]
    omega

theorem Run.append {start middle final : σ} {first second : List α}
    (head : Run step start first middle) (tail : Run step middle second final) :
    Run step start (first ++ second) final := by
  induction head with
  | nil => exact tail
  | cons _ _ _ _ _ taken _ ih => exact .cons _ _ _ _ _ taken (ih tail)

/-- Two runs of one system in lockstep: if related states take related steps
by the same action, a whole run is matched by a run of the same actions. -/
theorem Run.lockstep (related : σ → σ → Prop)
    (matched : ∀ action state next seen, related state seen → step action state = some next →
      ∃ after, step action seen = some after ∧ related next after)
    {start final : σ} {actions : List α} (run : Run step start actions final)
    {seen : σ} (initially : related start seen) :
    ∃ after, Run step seen actions after ∧ related final after := by
  induction run generalizing seen with
  | nil => exact ⟨seen,.nil _,initially⟩
  | cons state action middle actions final taken _ ih =>
    obtain ⟨reached,head,between⟩ := matched _ _ _ _ initially taken
    obtain ⟨after,tail,last⟩ := ih between
    exact ⟨after,.cons _ _ _ _ _ head tail,last⟩

/-- Simulation: if each step is matched by some run of another system that
keeps the states related, a whole run is matched too. -/
theorem Run.simulate {τ β : Type} {other : β → τ → Option τ} (related : σ → τ → Prop)
    (matched : ∀ action state next seen, related state seen → step action state = some next →
      ∃ actions after, Run other seen actions after ∧ related next after)
    {start final : σ} {actions : List α} (run : Run step start actions final)
    {seen : τ} (initially : related start seen) :
    ∃ actions after, Run other seen actions after ∧ related final after := by
  induction run generalizing seen with
  | nil => exact ⟨[],seen,.nil _,initially⟩
  | cons state action middle actions final taken _ ih =>
    obtain ⟨first,reached,head,between⟩ := matched _ _ _ _ initially taken
    obtain ⟨rest,after,tail,last⟩ := ih between
    exact ⟨first ++ rest,after,head.append tail,last⟩

/-- If each step leaves a part of the state as it is or takes one allowed step
of another system there, a run is a run of that system there. -/
theorem Run.stutter {τ β : Type} {other : β → τ → Option τ} {guard : β → τ → Prop} (part : σ → τ)
    (matched : ∀ action state next, step action state = some next → part next = part state ∨
      ∃ act, guard act (part state) ∧ other act (part state) = some (part next))
    {start final : σ} {actions : List α} (run : Run step start actions final) :
    ∃ acts, GuardedRun other guard (part start) acts (part final) := by
  induction run with
  | nil state => exact ⟨[],.nil _⟩
  | cons state action middle actions final taken _ ih =>
    obtain ⟨acts,rest⟩ := ih
    rcases matched _ _ _ taken with same | ⟨act,allowed,moved⟩
    · exact ⟨acts,same ▸ rest⟩
    · exact ⟨act::acts,.cons _ _ _ _ _ allowed moved rest⟩

/-- A state and a note beside it that no step reads. -/
structure Noted (σ ν : Type) where
  state : σ
  note : ν

def noting {ν : Type} (step : α → σ → Option σ) (take : α → σ → σ → ν → ν) (action : α)
    (noted : Noted σ ν) : Option (Noted σ ν) :=
  (step action noted.state).map fun next => ⟨next,take action noted.state next noted.note⟩

theorem noting_taken {ν : Type} {take : α → σ → σ → ν → ν} {action : α} {noted next : Noted σ ν}
    (stepped : noting step take action noted = some next) :
    ∃ state, step action noted.state = some state ∧
      next = ⟨state,take action noted.state state noted.note⟩ := by
  obtain ⟨state,taken,same⟩ := Option.map_eq_some_iff.mp stepped
  exact ⟨state,taken,same.symm⟩

theorem noting_of_step {ν : Type} (take : α → σ → σ → ν → ν) {action : α} {state next : σ}
    (taken : step action state = some next) (note : ν) :
    noting step take action ⟨state,note⟩ = some ⟨next,take action state next note⟩ := by
  rw [noting,taken,Option.map_some]

/-- A history, newest event first, in which each event is allowed after what
came before it. -/
def Disciplined {ε : Type} (allowed : ε → List ε → Prop) : List ε → Prop
  | [] => True
  | event::earlier => allowed event earlier ∧ Disciplined allowed earlier

theorem disciplined_append {ε : Type} {allowed : ε → List ε → Prop} {recent earlier : List ε}
    (harmless : ∀ between event after, recent = after ++ event::between →
      allowed event (between ++ earlier)) :
    Disciplined allowed (recent ++ earlier) ↔ Disciplined allowed earlier := by
  induction recent with
  | nil => exact Iff.rfl
  | cons event between ih =>
    have first : allowed event (between ++ earlier) := harmless between event [] rfl
    have rest := ih fun inside other after split => harmless inside other (event::after) (by simp [split])
    exact ⟨fun all => rest.mp all.2,fun old => ⟨first,rest.mpr old⟩⟩

/-- Where each step keeps a property exactly when its guard holds, a run keeps
it exactly when all its steps are guarded. -/
theorem Run.guarded_iff (guard : α → σ → Prop) (holds known : σ → Prop)
    (kept : ∀ action state next, known state → step action state = some next → known next)
    (exactly : ∀ action state next, known state → step action state = some next →
      (holds next ↔ holds state ∧ guard action state))
    {start final : σ} {actions : List α} (run : Run step start actions final) (initially : known start) :
    holds final ↔ holds start ∧ GuardedRun step guard start actions final := by
  induction run with
  | nil state => exact ⟨fun good => ⟨good,.nil _⟩,And.left⟩
  | cons state action middle actions final taken _ ih =>
    rw [ih (kept _ _ _ initially taken),exactly _ _ _ initially taken]
    constructor
    · rintro ⟨⟨good,allowed⟩,rest⟩
      exact ⟨good,.cons _ _ _ _ _ allowed taken rest⟩
    · rintro ⟨good,guarded⟩
      cases guarded with
      | cons _ _ other _ _ allowed again rest =>
        rw [taken] at again
        cases again
        exact ⟨⟨good,allowed⟩,rest⟩

end Runs
