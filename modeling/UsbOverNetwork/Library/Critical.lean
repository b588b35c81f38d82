import Mathlib.Logic.Function.Basic
import UsbOverNetwork.Library.Runs

/-! Operations behind a mutex. The code of an operation runs step by step between
taking the mutex and giving it back, while the other threads go on outside. If
the code of each operation keeps to an assertion at each of its points, every run
is one of the same calls done in one step each. -/
namespace Critical
open Runs

/-- Where a thread is with its calls. A thread in the critical section is still
waiting for the result. -/
inductive Status (κ ρ : Type)
  | outside
  | waiting (call : κ)
  | leaving (result : ρ)
deriving DecidableEq

/-- What a thread does outside: it calls, takes a result back, or does
something that is no call. -/
inductive Outer (κ ρ ω : Type)
  | call (call : κ)
  | back (result : ρ)
  | meanwhile (act : ω)

namespace Outer

variable {κ ρ ω : Type}

def before : Outer κ ρ ω → Status κ ρ
  | .call _ => .outside
  | .back result => .leaving result
  | .meanwhile _ => .outside

def after : Outer κ ρ ω → Status κ ρ
  | .call asked => .waiting asked
  | .back _ => .outside
  | .meanwhile _ => .outside

theorem before_not_waiting (outer : Outer κ ρ ω) (asked : κ) : outer.before ≠ .waiting asked := by
  cases outer <;> simp [before]

end Outer

/-- The code between taking the mutex and giving it back. -/
structure Code (ι κ ρ π σ : Type) where
  start : κ → π
  step : ι → π → σ → π × σ
  /-- Nothing is left to do but to give the mutex back and return this. -/
  result : π → Option ρ
  /-- The shared state as the call gives it back with the mutex. -/
  release : ι → κ → ρ → σ → σ

structure Threads (ι κ ρ π σ : Type) where
  shared : σ
  status : ι → Status κ ρ
  /-- The thread that has the mutex, and where it is. -/
  inside : Option (ι × π)

/-- The same threads where a call is one step. -/
structure Atomic (ι κ ρ α : Type) where
  shared : α
  status : ι → Status κ ρ

inductive Action (ι κ ρ ω : Type)
  | outer (thread : ι) (outer : Outer κ ρ ω)
  | enter (thread : ι)
  | step (thread : ι)
  | leave (thread : ι)

variable {ι κ ρ ω π σ α : Type}

/-- Taking the mutex and a step in the middle of the code show nothing. -/
def Action.shown : Action ι κ ρ ω → Bool
  | .outer _ _ => true
  | .enter _ => false
  | .step _ => false
  | .leave _ => true

variable [DecidableEq ι] [DecidableEq κ] [DecidableEq ρ]

def step (code : Code ι κ ρ π σ) (effect : ι → Outer κ ρ ω → σ → Option σ) :
    Action ι κ ρ ω → Threads ι κ ρ π σ → Option (Threads ι κ ρ π σ)
  | .outer thread outer,s =>
    if s.status thread = outer.before then
      (effect thread outer s.shared).map fun shared =>
        {s with shared, status := Function.update s.status thread outer.after}
    else none
  | .enter thread,s =>
    match s.inside,s.status thread with
    | none,.waiting call => some {s with inside := some (thread,code.start call)}
    | _,_ => none
  | .step thread,s =>
    match s.inside with
    | none => none
    | some (owner,pc) =>
      if owner = thread ∧ code.result pc = none then
        let (pc,shared) := code.step owner pc s.shared
        some {s with shared, inside := some (owner,pc)}
      else none
  | .leave thread,s =>
    match s.inside,s.status thread with
    | some (owner,pc),.waiting call =>
      match code.result pc with
      | some result =>
        if owner = thread then
          some ⟨code.release thread call result s.shared,
            Function.update s.status thread (.leaving result),none⟩
        else none
      | none => none
    | _,_ => none

def atomicStep (effect : ι → Outer κ ρ ω → α → Option α) (perform : ι → κ → α → ρ × α) :
    Action ι κ ρ ω → Atomic ι κ ρ α → Option (Atomic ι κ ρ α)
  | .outer thread outer,s =>
    if s.status thread = outer.before then
      (effect thread outer s.shared).map fun shared =>
        ⟨shared,Function.update s.status thread outer.after⟩
    else none
  | .leave thread,s =>
    match s.status thread with
    | .waiting call =>
      let (result,shared) := perform thread call s.shared
      some ⟨shared,Function.update s.status thread (.leaving result)⟩
    | _ => none
  | .enter _,_ => none
  | .step _,_ => none

/-- What has to be shown of the code: `rest` relates the two shared states while
nobody has the mutex, `within` while a thread is at this point of this call. -/
structure Correct (code : Code ι κ ρ π σ) (effect : ι → Outer κ ρ ω → σ → Option σ)
    (abstract : ι → Outer κ ρ ω → α → Option α) (perform : ι → κ → α → ρ × α)
    (known : Atomic ι κ ρ α → Prop) (rest : α → σ → Prop) (within : ι → κ → π → α → σ → Prop) :
    Prop where
  kept : ∀ action A B, known A → atomicStep abstract perform action A = some B → known B
  enters : ∀ A s thread call, known A → A.status thread = .waiting call → rest A.shared s →
    within thread call (code.start call) A.shared s
  advances : ∀ thread call pc a s, within thread call pc a s → code.result pc = none →
    within thread call (code.step thread pc s).1 a (code.step thread pc s).2
  leaves : ∀ thread call pc a s result, within thread call pc a s → code.result pc = some result →
    (perform thread call a).1 = result ∧
      rest (perform thread call a).2 (code.release thread call result s)
  rest_outer : ∀ A s next thread outer, known A → A.status thread = outer.before →
    rest A.shared s → effect thread outer s = some next →
      ∃ a, abstract thread outer A.shared = some a ∧ rest a next
  within_outer : ∀ A s next thread outer owner call pc, known A →
    A.status thread = outer.before → A.status owner = .waiting call → owner ≠ thread →
      within owner call pc A.shared s → effect thread outer s = some next →
      ∃ a, abstract thread outer A.shared = some a ∧ within owner call pc a next

section Refinement

variable (rest : α → σ → Prop) (within : ι → κ → π → α → σ → Prop)

/-- While a call is under way, the other side has not done it yet. -/
def Inside (A : Atomic ι κ ρ α) (s : Threads ι κ ρ π σ) : Prop :=
  match s.inside with
  | none => rest A.shared s.shared
  | some (owner,pc) => ∃ call, s.status owner = .waiting call ∧ within owner call pc A.shared s.shared

structure Related (known : Atomic ι κ ρ α → Prop) (A : Atomic ι κ ρ α) (s : Threads ι κ ρ π σ) :
    Prop where
  known : known A
  status : A.status = s.status
  inside : Inside rest within A s

end Refinement

variable {code : Code ι κ ρ π σ} {effect : ι → Outer κ ρ ω → σ → Option σ}
  {abstract : ι → Outer κ ρ ω → α → Option α} {perform : ι → κ → α → ρ × α}
  {known : Atomic ι κ ρ α → Prop} {rest : α → σ → Prop} {within : ι → κ → π → α → σ → Prop}
  {A : Atomic ι κ ρ α} {s next : Threads ι κ ρ π σ}

namespace Correct

theorem outer_matched (correct : Correct code effect abstract perform known rest within)
    (related : Related rest within known A s) {thread : ι} {outer : Outer κ ρ ω}
    (stepped : step code effect (.outer thread outer) s = some next) :
    ∃ B, atomicStep abstract perform (.outer thread outer) A = some B ∧
      Related rest within known B next := by
  simp only [step] at stepped
  split at stepped
  next ready =>
    obtain ⟨shared,taken,same⟩ := Option.map_eq_some_iff.mp stepped
    subst same
    have asked : A.status thread = outer.before := by
      rw [related.status]
      exact ready
    have inside := related.inside
    have followed : ∃ a, abstract thread outer A.shared = some a ∧
        Inside rest within ⟨a,Function.update A.status thread outer.after⟩
          {s with shared, status := Function.update s.status thread outer.after} := by
      unfold Inside at inside ⊢
      cases holds : s.inside with
      | none =>
        rw [holds] at inside
        exact correct.rest_outer A _ _ thread outer related.known asked inside taken
      | some taker =>
        obtain ⟨owner,pc⟩ := taker
        rw [holds] at inside
        obtain ⟨call,waits,at_point⟩ := inside
        have other : owner ≠ thread := by
          intro same
          subst same
          exact outer.before_not_waiting call (ready.symm.trans waits)
        obtain ⟨a,effected,still⟩ :=
          correct.within_outer A _ _ thread outer owner call pc related.known asked
            ((congrFun related.status owner).trans waits) other at_point taken
        exact ⟨a,effected,call,(Function.update_of_ne other _ _).trans waits,still⟩
    obtain ⟨a,effected,still⟩ := followed
    have moved : atomicStep abstract perform (.outer thread outer) A =
        some ⟨a,Function.update A.status thread outer.after⟩ := by
      simp only [atomicStep,if_pos asked,effected,Option.map_some]
    refine ⟨_,moved,correct.kept _ _ _ related.known moved,?_,still⟩
    rw [related.status]
  next => cases stepped

theorem enter_matched (correct : Correct code effect abstract perform known rest within)
    (related : Related rest within known A s) {thread : ι}
    (stepped : step code effect (.enter thread) s = some next) :
    Related rest within known A next := by
  simp only [step] at stepped
  split at stepped
  next call free waits =>
    cases stepped
    have inside := related.inside
    simp only [Inside,free] at inside
    refine ⟨related.known,related.status,call,waits,?_⟩
    apply correct.enters A _ _ _ related.known _ inside
    rw [related.status]
    exact waits
  next => cases stepped

theorem step_matched (correct : Correct code effect abstract perform known rest within)
    (related : Related rest within known A s) {thread : ι}
    (stepped : step code effect (.step thread) s = some next) :
    Related rest within known A next := by
  simp only [step] at stepped
  split at stepped
  next => cases stepped
  next owner pc here =>
    split at stepped
    next mine =>
      cases stepped
      have inside := related.inside
      simp only [Inside,here] at inside
      obtain ⟨call,waits,at_point⟩ := inside
      exact ⟨related.known,related.status,call,waits,correct.advances _ _ _ _ _ at_point mine.2⟩
    next => cases stepped

theorem leave_matched (correct : Correct code effect abstract perform known rest within)
    (related : Related rest within known A s) {thread : ι}
    (stepped : step code effect (.leave thread) s = some next) :
    ∃ B, atomicStep abstract perform (.leave thread) A = some B ∧
      Related rest within known B next := by
  simp only [step] at stepped
  split at stepped
  next owner pc call here waits =>
    split at stepped
    next result ended =>
      split at stepped
      next mine =>
        subst mine
        cases stepped
        have inside := related.inside
        simp only [Inside,here] at inside
        obtain ⟨same,asked,at_point⟩ := inside
        cases waits.symm.trans asked
        obtain ⟨returned,free⟩ := correct.leaves _ _ _ _ _ _ at_point ended
        have moved : atomicStep abstract perform (.leave owner) A =
            some ⟨(perform owner call A.shared).2,Function.update A.status owner (.leaving result)⟩ := by
          simp only [atomicStep,(congrFun related.status owner).trans waits,returned]
        refine ⟨_,moved,correct.kept _ _ _ related.known moved,?_,free⟩
        rw [related.status]
      next => cases stepped
    next => cases stepped
  next => cases stepped

/-- Every run is a run of the atomic calls: the same calls and results in the
same order, each call done once between the two. -/
theorem refines (correct : Correct code effect abstract perform known rest within)
    {actions : List (Action ι κ ρ ω)} (run : Run (step code effect) s actions next)
    (related : Related rest within known A s) :
    ∃ B, Run (atomicStep abstract perform) A (actions.filter Action.shown) B ∧
      Related rest within known B next := by
  induction run generalizing A with
  | nil => exact ⟨A,.nil _,related⟩
  | cons state action middle actions final taken _ ih =>
    cases action with
    | outer thread outer =>
      obtain ⟨B,moved,between⟩ := correct.outer_matched related taken
      obtain ⟨C,rest,last⟩ := ih between
      exact ⟨C,.cons _ _ _ _ _ moved rest,last⟩
    | enter thread => exact ih (correct.enter_matched related taken)
    | step thread => exact ih (correct.step_matched related taken)
    | leave thread =>
      obtain ⟨B,moved,between⟩ := correct.leave_matched related taken
      obtain ⟨C,rest,last⟩ := ih between
      exact ⟨C,.cons _ _ _ _ _ moved rest,last⟩

end Correct

/-- The code gets to its end by steps of its own. -/
inductive Code.Leaves (code : Code ι κ ρ π σ) (thread : ι) : π → σ → Prop
  | ended (pc s) (result : ρ) (finished : code.result pc = some result) : Code.Leaves code thread pc s
  | step (pc s) (going : code.result pc = none)
      (rest : Code.Leaves code thread (code.step thread pc s).1 (code.step thread pc s).2) :
      Code.Leaves code thread pc s

theorem Code.Leaves.released {thread : ι} {pc : π} {shared : σ} (leaves : code.Leaves thread pc shared)
    (status : ι → Status κ ρ) {call : κ} (waits : status thread = .waiting call) :
    ∃ turns after, Run (Critical.step code effect) ⟨shared,status,some (thread,pc)⟩
      (List.replicate turns (Action.step thread) ++ [.leave thread]) after ∧ after.inside = none := by
  induction leaves with
  | ended pc shared result finished =>
    have left : Critical.step code effect (.leave thread) ⟨shared,status,some (thread,pc)⟩ =
        some ⟨code.release thread call result shared,
          Function.update status thread (.leaving result),none⟩ := by
      simp only [Critical.step,waits,finished,if_true]
    exact ⟨0,_,.single _ left,rfl⟩
  | step pc shared going _ ih =>
    obtain ⟨turns,after,run,free⟩ := ih
    have taken : Critical.step code effect (.step thread) ⟨shared,status,some (thread,pc)⟩ =
        some ⟨(code.step thread pc shared).2,status,some (thread,(code.step thread pc shared).1)⟩ := by
      simp only [Critical.step,going,and_self,if_true]
    exact ⟨turns+1,after,.cons _ _ _ _ _ taken run,free⟩

end Critical
