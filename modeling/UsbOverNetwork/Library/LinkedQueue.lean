import Mathlib.Data.List.Nodup
import Mathlib.Logic.Function.Basic

/-! Singly linked queues: nodes of any type, each with at most one successor.
`Path` follows the successors; a queue is a path from its head to nowhere whose
last node is its tail. -/
namespace LinkedQueue

variable {α : Type} {next : α → Option α}

/-- Following `next` from `start` visits these nodes and arrives at `stop`. -/
def Path (next : α → Option α) (start : Option α) : List α → Option α → Prop
  | [],stop => start = stop
  | node::rest,stop => start = some node ∧ Path next (next node) rest stop

structure Represents (next : α → Option α) (head tail : Option α) (nodes : List α) : Prop where
  path : Path next head nodes none
  last : tail = nodes.getLast?
  distinct : nodes.Nodup

theorem path_append {start stop : Option α} {first second : List α} :
    Path next start (first ++ second) stop ↔
      ∃ middle, Path next start first middle ∧ Path next middle second stop := by
  induction first generalizing start with
  | nil => simp [Path]
  | cons node first ih => simp only [List.cons_append,Path,ih,and_assoc,exists_and_left]

theorem Path.start {start : Option α} {nodes : List α} (path : Path next start nodes none) :
    start = nodes.head? := by
  cases nodes with
  | nil => exact path
  | cons node rest => exact path.1

theorem Path.congr {other : α → Option α} {start stop : Option α} {nodes : List α}
    (path : Path next start nodes stop) (same : ∀ node ∈ nodes, other node = next node) :
    Path other start nodes stop := by
  induction nodes generalizing start with
  | nil => exact path
  | cons node rest ih =>
    refine ⟨path.1,?_⟩
    rw [same node List.mem_cons_self]
    apply ih path.2
    intro later listed
    exact same later (List.mem_cons_of_mem _ listed)

namespace Represents

variable {head tail : Option α} {nodes : List α}

theorem empty : Represents next none none [] := ⟨rfl,rfl,List.nodup_nil⟩

theorem singleton (node : α) (ended : next node = none) :
    Represents next (some node) (some node) [node] :=
  ⟨⟨rfl,ended⟩,rfl,List.nodup_singleton node⟩

theorem tail_none (represents : Represents next head tail nodes) : tail = none ↔ head = none := by
  rw [represents.last,represents.path.start,List.getLast?_eq_none_iff,List.head?_eq_none_iff]

end Represents

variable [DecidableEq α]

theorem Path.update {start stop : Option α} {nodes : List α} (path : Path next start nodes stop)
    (node : α) (successor : Option α) (outside : node ∉ nodes) :
    Path (Function.update next node successor) start nodes stop := by
  apply path.congr
  intro other listed
  have different : other ≠ node := fun same => outside (same ▸ listed)
  exact Function.update_of_ne different _ _

theorem Path.redirect {start stop : Option α} {before : List α} {node : α}
    (path : Path next start (before ++ [node]) stop) (outside : node ∉ before)
    (successor : Option α) :
    Path (Function.update next node successor) start (before ++ [node]) successor := by
  obtain ⟨middle,first,second⟩ := path_append.mp path
  apply path_append.mpr
  refine ⟨middle,first.update node successor outside,second.1,?_⟩
  rw [Function.update_self]
  exact rfl

theorem Path.bypass {start stop : Option α} {before after : List α} {previous node : α}
    (path : Path next start (before ++ previous::node::after) stop)
    (distinct : (before ++ previous::node::after).Nodup) :
    Path (Function.update next previous (next node)) start (before ++ previous::after) stop := by
  have split : before ++ previous::node::after = (before ++ [previous]) ++ node::after := by simp
  rw [split] at path distinct
  obtain ⟨first,_,apart⟩ := List.nodup_append.mp distinct
  have notBefore : previous ∉ before := by
    rw [List.nodup_append] at first
    exact fun listed => first.2.2 previous listed previous List.mem_cons_self rfl
  have notAfter : previous ∉ after := fun listed =>
    apart previous (by simp) previous (List.mem_cons_of_mem _ listed) rfl
  obtain ⟨middle,head,tail⟩ := path_append.mp path
  have joined : before ++ previous::after = (before ++ [previous]) ++ after := by simp
  rw [joined]
  apply path_append.mpr
  exact ⟨next node,head.redirect notBefore (next node),tail.2.update previous (next node) notAfter⟩

namespace Represents

variable {head tail : Option α} {nodes before after : List α}

theorem update (represents : Represents next head tail nodes) (node : α) (successor : Option α)
    (outside : node ∉ nodes) :
    Represents (Function.update next node successor) head tail nodes :=
  ⟨represents.path.update node successor outside,represents.last,represents.distinct⟩

theorem push {last : α} (represents : Represents next head (some last) nodes) (node : α)
    (fresh : node ∉ nodes) (ended : next node = none) :
    Represents (Function.update next last (some node)) head (some node) (nodes ++ [node]) := by
  obtain ⟨before,rfl⟩ := List.getLast?_eq_some_iff.mp represents.last.symm
  have distinct := represents.distinct
  have outside : last ∉ before := by
    rw [List.nodup_append] at distinct
    exact fun listed => distinct.2.2 last listed last (List.mem_singleton_self last) rfl
  have other : node ≠ last := fun same => fresh (same ▸ List.mem_append_right _ List.mem_cons_self)
  refine ⟨?_,by simp,List.nodup_append.mpr ⟨distinct,List.nodup_singleton node,?_⟩⟩
  · apply path_append.mpr
    refine ⟨some node,represents.path.redirect outside (some node),rfl,?_⟩
    rw [Function.update_of_ne other]
    exact ended
  · intro listed member added new
    rw [List.mem_singleton.mp new]
    exact fun same => fresh (same ▸ member)

theorem pop {node : α} (represents : Represents next head tail (node::nodes)) :
    Represents (Function.update next node none) (next node)
      (if next node = none then none else tail) nodes := by
  obtain ⟨outside,distinct⟩ := List.nodup_cons.mp represents.distinct
  have rest := represents.path.2
  refine ⟨rest.update node none outside,?_,distinct⟩
  rw [rest.start,represents.last]
  cases nodes with
  | nil => rfl
  | cons second nodes => rw [List.getLast?_cons_cons]; rfl

/-- The tail once a node is taken out: the one before it if it was the last. -/
theorem unlink_last (before : List α) {node : α} (represents : Represents next head tail (before ++ node::after)) :
    (if tail = some node then before.getLast? else tail) = (before ++ after).getLast? := by
  obtain ⟨_,outside,_⟩ := List.nodup_append.mp represents.distinct
  have outside := (List.nodup_cons.mp outside).1
  rw [represents.last]
  cases after with
  | nil => simp
  | cons second after =>
    have later : (before ++ node::second::after).getLast? = (second::after).getLast? := by
      rw [List.getLast?_append,List.getLast?_cons_cons]
      simp [List.getLast?_cons]
    have kept : (before ++ second::after).getLast? = (second::after).getLast? := by
      rw [List.getLast?_append]
      simp [List.getLast?_cons]
    rw [later,kept,if_neg]
    exact fun same => outside (List.mem_of_getLast? same)

theorem unlink_first {node : α} (represents : Represents next head tail (node::after)) :
    Represents (Function.update next node none) (next node)
      (if tail = some node then none else tail) after := by
  obtain ⟨outside,distinct⟩ := List.nodup_cons.mp represents.distinct
  exact ⟨represents.path.2.update node none outside,
    unlink_last [] represents,distinct⟩

theorem unlink_later {previous node : α}
    (represents : Represents next head tail (before ++ previous::node::after)) :
    Represents (Function.update (Function.update next previous (next node)) node none) head
      (if tail = some node then some previous else tail) (before ++ previous::after) := by
  have split : before ++ previous::node::after = (before ++ [previous]) ++ node::after := by simp
  rw [split] at represents
  have joined : before ++ previous::after = (before ++ [previous]) ++ after := by simp
  have last := unlink_last (before ++ [previous]) represents
  rw [List.getLast?_concat] at last
  obtain ⟨distinct,rest,apart⟩ := List.nodup_append.mp represents.distinct
  obtain ⟨outside,still⟩ := List.nodup_cons.mp rest
  obtain ⟨middle,first,second⟩ := path_append.mp represents.path
  have notBefore : previous ∉ before := by
    rw [List.nodup_append] at distinct
    exact fun listed => distinct.2.2 previous listed previous List.mem_cons_self rfl
  have previousAfter : previous ∉ after := fun listed =>
    apart previous (by simp) previous (List.mem_cons_of_mem _ listed) rfl
  have nodeBefore : node ∉ before ++ [previous] := fun listed =>
    apart node listed node List.mem_cons_self rfl
  rw [joined]
  refine ⟨?_,last,List.nodup_append.mpr ⟨distinct,still,?_⟩⟩
  · apply path_append.mpr
    exact ⟨next node,(first.redirect notBefore (next node)).update node none nodeBefore,
      (second.2.update previous (next node) previousAfter).update node none outside⟩
  · intro one listed other later
    exact apart one listed other (List.mem_cons_of_mem _ later)

end Represents

end LinkedQueue
