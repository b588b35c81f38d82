import Mathlib.Data.Fintype.Basic
import Mathlib.Data.Finset.Max
import Mathlib.Algebra.Order.BigOperators.Group.Finset
import UsbOverNetwork.Library.Runs

/-! Threads that take and give back recursive locks. Where each takes them in the
order of a rank, there is no deadlock: in every state that is reached some thread
can go on, until all of them have come to their ends. -/
namespace LockOrder
open Runs

inductive Event (ℓ : Type)
  | take (lock : ℓ)
  | give (lock : ℓ)
deriving DecidableEq

/-- What each thread has left to do, and the locks it holds, one as often as it took it. -/
structure Threads (ι ℓ : Type) where
  program : ι → List (Event ℓ)
  held : ι → List ℓ

variable {ι ℓ : Type}

section Step

variable [Fintype ι] [DecidableEq ι] [DecidableEq ℓ]

/-- A thread that finds a lock with another one cannot go on. -/
def step (thread : ι) (s : Threads ι ℓ) : Option (Threads ι ℓ) :=
  match s.program thread with
  | [] => none
  | .take lock::rest =>
    if ∀ other, other ≠ thread → lock ∉ s.held other then
      some ⟨Function.update s.program thread rest,
        Function.update s.held thread (lock::s.held thread)⟩
    else none
  | .give lock::rest =>
    some ⟨Function.update s.program thread rest,
      Function.update s.held thread ((s.held thread).erase lock)⟩

end Step

section Order

variable [DecidableEq ℓ] (rank : ℓ → Nat)

/-- The program takes locks in the order of their ranks, or again the ones it
holds, and gives back what it holds. -/
inductive Takes : List ℓ → List (Event ℓ) → List ℓ → Prop
  | nil (held) : Takes held [] held
  | take (held lock rest after)
      (upward : lock ∈ held ∨ ∀ other ∈ held, rank other < rank lock)
      (onward : Takes (lock::held) rest after) : Takes held (.take lock::rest) after
  | give (held lock rest after) (holds : lock ∈ held)
      (onward : Takes (held.erase lock) rest after) : Takes held (.give lock::rest) after

variable {rank} {held middle after : List ℓ} {first second : List (Event ℓ)}

theorem Takes.append (head : Takes rank held first middle) (tail : Takes rank middle second after) :
    Takes rank held (first ++ second) after := by
  induction head with
  | nil held => exact tail
  | take held lock rest _ upward _ ih => exact .take _ _ _ _ upward (ih tail)
  | give held lock rest _ holds _ ih => exact .give _ _ _ _ holds (ih tail)

variable (rank) in
/-- With nothing held but locks of lesser ranks than `low`, the program keeps to
the order, takes only locks below `high` and gives back all that it takes. -/
structure Between (low high : Nat) (program : List (Event ℓ)) : Prop where
  takes : ∀ held, (∀ lock ∈ held, rank lock < low) → Takes rank held program held
  bounded : ∀ lock, .take lock ∈ program → rank lock < high

def locked (lock : ℓ) (body : List (Event ℓ)) : List (Event ℓ) := .take lock::body ++ [.give lock]

namespace Between

variable {low high : Nat}

theorem nil : Between rank low high ([] : List (Event ℓ)) := ⟨fun held _ => .nil held,by simp⟩

theorem append (head : Between rank low high first) (tail : Between rank low high second) :
    Between rank low high (first ++ second) where
  takes held below := (head.takes held below).append (tail.takes held below)
  bounded lock listed := (List.mem_append.mp listed).elim (head.bounded lock) (tail.bounded lock)

theorem weaken {lower : Nat} (between : Between rank low high first) (lesser : lower ≤ low) :
    Between rank lower high first where
  takes held below := between.takes held fun lock listed => (below lock listed).trans_le lesser
  bounded := between.bounded

theorem flatMap {α : Type} {calls : List α} {trace : α → List (Event ℓ)}
    (between : ∀ call ∈ calls, Between rank low high (trace call)) :
    Between rank low high (calls.flatMap trace) := by
  induction calls with
  | nil => exact nil
  | cons call calls ih =>
    rw [List.flatMap_cons]
    apply append (between call List.mem_cons_self)
    apply ih
    exact fun other listed => between other (List.mem_cons_of_mem _ listed)

theorem ite {condition : Prop} [Decidable condition] {yes no : List (Event ℓ)}
    (then_between : Between rank low high yes) (else_between : Between rank low high no) :
    Between rank low high (if condition then yes else no) := by
  split
  · exact then_between
  · exact else_between

theorem locked {lock : ℓ} {body : List (Event ℓ)} (greater : low ≤ rank lock) (lesser : rank lock < high)
    (inside : Between rank (rank lock + 1) high body) : Between rank low high (locked lock body) where
  takes held below := by
    have upward : ∀ other ∈ held, rank other < rank lock := fun other listed =>
      (below other listed).trans_le greater
    have entered : Takes rank (lock::held) body (lock::held) := by
      apply inside.takes
      intro other listed
      rcases List.mem_cons.mp listed with same | outer
      · subst same
        exact Nat.lt_succ_self _
      · exact (upward other outer).trans (Nat.lt_succ_self _)
    have left : Takes rank (lock::held) [.give lock] held := by
      apply Takes.give _ _ _ _ List.mem_cons_self
      rw [List.erase_cons_head]
      exact .nil held
    exact .take _ _ _ _ (.inr upward) (entered.append left)
  bounded other listed := by
    simp only [LockOrder.locked,List.cons_append,List.mem_cons,List.mem_append,Event.take.injEq,
      reduceCtorEq,List.not_mem_nil,or_false] at listed
    rcases listed with same | inner
    · subst same
      exact lesser
    · exact inside.bounded other inner

end Between

/-- The program with a lock taken and given back at some points in between. -/
inductive Padded (leaf : ℓ) : List (Event ℓ) → List (Event ℓ) → Prop
  | nil : Padded leaf [] []
  | keep (event program padded) (rest : Padded leaf program padded) :
      Padded leaf (event::program) (event::padded)
  | pad (program padded) (rest : Padded leaf program padded) :
      Padded leaf program (.take leaf::.give leaf::padded)

/-- A lock above all others may be taken anywhere, if nothing is taken inside. -/
theorem Takes.padded {leaf : ℓ} {program padded : List (Event ℓ)} (pads : Padded leaf program padded)
    (takes : Takes rank held program after) (below : ∀ lock ∈ held, rank lock < rank leaf)
    (top : ∀ lock, .take lock ∈ program → rank lock < rank leaf) : Takes rank held padded after := by
  induction pads generalizing held with
  | nil => exact takes
  | keep event program padded _ ih =>
    have later : ∀ lock, .take lock ∈ program → rank lock < rank leaf := fun lock listed =>
      top lock (List.mem_cons_of_mem _ listed)
    cases takes with
    | take _ lock _ _ upward onward =>
      refine .take _ _ _ _ upward (ih onward ?_ later)
      intro other listed
      rcases List.mem_cons.mp listed with same | outer
      · subst same
        exact top other List.mem_cons_self
      · exact below other outer
    | give _ lock _ _ holds onward =>
      refine .give _ _ _ _ holds (ih onward ?_ later)
      exact fun other listed => below other (List.mem_of_mem_erase listed)
  | pad program padded _ ih =>
    apply Takes.take _ _ _ _ (.inr below)
    apply Takes.give _ _ _ _ List.mem_cons_self
    rw [List.erase_cons_head]
    exact ih takes below top

end Order

variable [DecidableEq ℓ]

/-- No lock is with two threads, and each thread keeps to the order to its end. -/
structure Orderly (rank : ℓ → Nat) (s : Threads ι ℓ) : Prop where
  apart : ∀ thread other lock, lock ∈ s.held thread → lock ∈ s.held other → thread = other
  follows : ∀ thread, Takes rank (s.held thread) (s.program thread) []

variable [DecidableEq ι] {rank : ℓ → Nat} {s next : Threads ι ℓ}

theorem take_apart {thread : ι} {lock : ℓ} (orderly : Orderly rank s)
    (free : ∀ other, other ≠ thread → lock ∉ s.held other) (one other : ι) (held : ℓ)
    (mine : held ∈ Function.update s.held thread (lock::s.held thread) one)
    (theirs : held ∈ Function.update s.held thread (lock::s.held thread) other) : one = other := by
  have before : ∀ one, held ∈ Function.update s.held thread (lock::s.held thread) one →
      held ∈ s.held one ∨ one = thread ∧ held = lock := by
    intro one listed
    by_cases same : one = thread
    · subst same
      rw [Function.update_self] at listed
      exact (List.mem_cons.mp listed).symm.imp id fun new => ⟨rfl,new⟩
    · rw [Function.update_of_ne same] at listed
      exact .inl listed
  rcases before one mine with old | ⟨first,rfl⟩
  · rcases before other theirs with known | ⟨second,rfl⟩
    · exact orderly.apart _ _ _ old known
    · by_contra different
      exact free one (fun same => different (same.trans second.symm)) old
  · rcases before other theirs with known | ⟨second,_⟩
    · by_contra different
      exact free other (fun same => different (first.trans same.symm)) known
    · rw [first,second]

theorem follows_update {thread : ι} {rest : List (Event ℓ)} {held : List ℓ} (orderly : Orderly rank s)
    (onward : Takes rank held rest []) (one : ι) :
    Takes rank (Function.update s.held thread held one) (Function.update s.program thread rest one) [] := by
  by_cases same : one = thread
  · subst same
    simpa only [Function.update_self] using onward
  · simpa only [Function.update_of_ne same] using orderly.follows one

variable [Fintype ι]

theorem step_cases {thread : ι} (stepped : step thread s = some next) :
    (∃ lock rest, s.program thread = .take lock::rest ∧
      (∀ other, other ≠ thread → lock ∉ s.held other) ∧
      next = ⟨Function.update s.program thread rest,
        Function.update s.held thread (lock::s.held thread)⟩) ∨
    ∃ lock rest, s.program thread = .give lock::rest ∧
      next = ⟨Function.update s.program thread rest,
        Function.update s.held thread ((s.held thread).erase lock)⟩ := by
  unfold step at stepped
  split at stepped
  next => cases stepped
  next lock rest here =>
    obtain ⟨free,same⟩ := Option.ite_none_right_eq_some.mp stepped
    exact .inl ⟨lock,rest,here,free,(Option.some.inj same).symm⟩
  next lock rest here => exact .inr ⟨lock,rest,here,(Option.some.inj stepped).symm⟩

theorem Orderly.step (orderly : Orderly rank s) {thread : ι} (stepped : step thread s = some next) :
    Orderly rank next := by
  have follows := orderly.follows thread
  rcases step_cases stepped with ⟨lock,rest,here,free,rfl⟩ | ⟨lock,rest,here,rfl⟩
  · rw [here] at follows
    cases follows with
    | take _ _ _ _ _ onward => exact ⟨take_apart orderly free,follows_update orderly onward⟩
  · rw [here] at follows
    cases follows with
    | give _ _ _ _ _ onward =>
      have fewer : ∀ one held, held ∈ Function.update s.held thread ((s.held thread).erase lock) one →
          held ∈ s.held one := by
        intro one held listed
        by_cases same : one = thread
        · subst same
          rw [Function.update_self] at listed
          exact List.mem_of_mem_erase listed
        · rwa [Function.update_of_ne same] at listed
      refine ⟨?_,follows_update orderly onward⟩
      intro one other held mine theirs
      exact orderly.apart one other held (fewer one held mine) (fewer other held theirs)

/-- The lock that a thread is about to take, by its rank. -/
def wanted (rank : ℓ → Nat) (s : Threads ι ℓ) (thread : ι) : Nat :=
  match s.program thread with
  | .take lock::_ => rank lock
  | _ => 0

/-- The thread that waits for the greatest lock of all would have to be kept
from it by one that waits for a greater one. -/
theorem Orderly.progress (orderly : Orderly rank s) :
    (∀ thread, s.program thread = []) ∨ ∃ thread next, LockOrder.step thread s = some next := by
  by_contra stuck
  rw [not_or] at stuck
  obtain ⟨some_left,no_step⟩ := stuck
  have blocked : ∀ thread, s.program thread ≠ [] → ∃ lock rest other, s.program thread = .take lock::rest ∧
      other ≠ thread ∧ lock ∈ s.held other := by
    intro thread unfinished
    by_contra free
    apply no_step
    refine ⟨thread,?_⟩
    unfold LockOrder.step
    split
    next ended => exact absurd ended unfinished
    next lock rest here =>
      have unheld : ∀ other, other ≠ thread → lock ∉ s.held other := fun other different taken =>
        free ⟨lock,rest,other,here,different,taken⟩
      exact ⟨_,if_pos unheld⟩
    next lock rest here => exact ⟨_,rfl⟩
  obtain ⟨first,unfinished⟩ := not_forall.mp some_left
  let waiting := Finset.univ.filter fun thread => s.program thread ≠ []
  have listed : first ∈ waiting := Finset.mem_filter.mpr ⟨Finset.mem_univ _,unfinished⟩
  obtain ⟨thread,waits,greatest⟩ := waiting.exists_max_image (wanted rank s) ⟨first,listed⟩
  obtain ⟨lock,rest,other,here,_,taken⟩ := blocked thread (Finset.mem_filter.mp waits).2
  have follows := orderly.follows other
  have going : s.program other ≠ [] := by
    intro ended
    rw [ended] at follows
    cases held : s.held other with
    | nil => exact absurd taken (held ▸ List.not_mem_nil)
    | cons one more =>
      rw [held] at follows
      cases follows
  obtain ⟨next,onward,third,there,different,kept⟩ := blocked other going
  rw [there] at follows
  cases follows with
  | take _ _ _ _ upward _ =>
    rcases upward with again | upward
    · exact different (orderly.apart _ _ _ kept again)
    · have bound := greatest other (Finset.mem_filter.mpr ⟨Finset.mem_univ _,going⟩)
      simp only [wanted,here,there] at bound
      exact absurd (upward lock taken) (Nat.not_lt.mpr bound)

def left (s : Threads ι ℓ) : Nat := ∑ thread, (s.program thread).length

theorem step_left {thread : ι} (stepped : LockOrder.step thread s = some next) : left next < left s := by
  obtain ⟨event,rest,here,program⟩ : ∃ event rest, s.program thread = event::rest ∧
      next.program = Function.update s.program thread rest := by
    rcases step_cases stepped with ⟨lock,rest,here,_,rfl⟩ | ⟨lock,rest,here,rfl⟩
    · exact ⟨_,rest,here,rfl⟩
    · exact ⟨_,rest,here,rfl⟩
  unfold left
  rw [program]
  apply Finset.sum_lt_sum
  · intro one _
    by_cases same : one = thread
    · subst same
      rw [Function.update_self,here]
      exact Nat.le_succ _
    · rw [Function.update_of_ne same]
  · refine ⟨thread,Finset.mem_univ _,?_⟩
    rw [Function.update_self,here]
    exact Nat.lt_succ_self _

theorem Orderly.completes (orderly : Orderly rank s) :
    ∃ actions final, Run LockOrder.step s actions final ∧
      ∀ thread, final.program thread = [] ∧ final.held thread = [] := by
  induction weight : left s using Nat.strong_induction_on generalizing s with
  | h weight ih =>
    rcases orderly.progress with ended | ⟨thread,next,stepped⟩
    · refine ⟨[],s,.nil s,?_⟩
      intro thread
      have follows := orderly.follows thread
      rw [ended thread] at follows
      refine ⟨ended thread,?_⟩
      cases held : s.held thread with
      | nil => rfl
      | cons one more =>
        rw [held] at follows
        cases follows
    · have less := step_left stepped
      rw [weight] at less
      obtain ⟨actions,final,run,ended⟩ := ih _ less (orderly.step stepped) rfl
      exact ⟨thread::actions,final,.cons _ _ _ _ _ stepped run,ended⟩

end LockOrder
