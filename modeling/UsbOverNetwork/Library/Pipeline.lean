import Mathlib.Data.List.Perm.Basic
import Mathlib.Data.List.Nodup
import Mathlib.Data.List.Range

/-! A first-in first-out pipeline of numbered jobs: issued jobs wait, a server
takes and executes them one at a time, waiting jobs may be withdrawn, and every
job ends in one queue of finished jobs from which it is answered. -/

structure Pipeline where
  issued : Nat
  waiting : List Nat
  taken : List Nat
  ready : List Nat
  transit : List Nat
  finished : List Nat
  leaving : List Nat
  answered : List Nat
  executed : List Nat
  withdrawn : List Nat
deriving DecidableEq

namespace Pipeline

def empty : Pipeline := ⟨0,[],[],[],[],[],[],[],[],[]⟩

/-- The places a job can be in. `executed` and `withdrawn` are histories. -/
def places (p : Pipeline) : List Nat :=
  p.waiting ++ p.taken ++ p.ready ++ p.transit ++ p.finished ++ p.leaving ++ p.answered

inductive Move : Pipeline → Pipeline → Prop
  | issue (p : Pipeline) :
      Move p {p with issued := p.issued+1, waiting := p.waiting ++ [p.issued]}
  | take (p : Pipeline) (job rest) (first : p.waiting = job::rest) (free : p.taken = []) :
      Move p {p with waiting := rest, taken := [job]}
  | execute (p : Pipeline) (job) (held : p.taken = [job]) (free : p.ready = []) :
      Move p {p with taken := [], ready := [job], executed := p.executed ++ [job]}
  | finish (p : Pipeline) (job) (held : p.ready = [job]) :
      Move p {p with ready := [], finished := p.finished ++ [job]}
  | withdraw (p : Pipeline) (job before after left right early late)
      (found : p.waiting = before ++ job::after) (split : p.transit = left ++ right)
      (record : p.withdrawn = early ++ late) :
      Move p {p with
        waiting := before ++ after
        transit := left ++ job::right
        withdrawn := early ++ job::late}
  | arrive (p : Pipeline) (left job right) (held : p.transit = left ++ job::right) :
      Move p {p with transit := left ++ right, finished := p.finished ++ [job]}
  | collect (p : Pipeline) (job rest) (first : p.finished = job::rest) (free : p.leaving = []) :
      Move p {p with finished := rest, leaving := [job]}
  | answer (p : Pipeline) (job) (held : p.leaving = [job]) :
      Move p {p with leaving := [], answered := p.answered ++ [job]}

/-- No job is lost or in two places, execution follows the order of issue with
the withdrawn jobs left out, and answers follow the order of execution. -/
structure Inv (p : Pipeline) : Prop where
  conserved : ∀ job, p.places.count job = if job < p.issued then 1 else 0
  withdrawnIssued : ∀ job ∈ p.withdrawn, job < p.issued
  inTransit : ∀ job ∈ p.transit, job ∈ p.withdrawn
  order : p.executed ++ p.taken ++ p.waiting =
    (List.range p.issued).filter (· ∉ p.withdrawn)
  answering : (p.answered ++ p.leaving ++ p.finished ++ p.ready).filter (· ∈ p.executed) = p.executed

theorem empty_inv : empty.Inv := by
  constructor <;> simp [empty,places]

private theorem mem_middle {other job : Nat} {front back : List Nat} :
    other ∈ front ++ job::back ↔ other = job ∨ other ∈ front ++ back := by
  simp only [List.mem_append,List.mem_cons]
  tauto

theorem filter_withdraw (jobs early late : List Nat) (job : Nat) :
    jobs.filter (· ∉ early ++ job::late) =
      (jobs.filter (· ∉ early ++ late)).filter (· ≠ job) := by
  rw [List.filter_filter]
  congr 1
  funext other
  simp only [List.mem_append,List.mem_cons,← Bool.decide_and,decide_eq_decide]
  tauto

theorem filter_ne_split (before after : List Nat) (job : Nat)
    (distinct : (before ++ job::after).Nodup) :
    (before ++ job::after).filter (· ≠ job) = before ++ after := by
  have outside := List.nodup_middle.mp distinct
  obtain ⟨absent,_⟩ := List.nodup_cons.mp outside
  have same : (before ++ after).filter (· ≠ job) = before ++ after := by
    apply List.filter_eq_self.mpr
    intro other member
    simpa using fun equal : other = job => absent (equal ▸ member)
  simpa using same

theorem order_nodup (p : Pipeline) (inv : p.Inv) : (p.executed ++ p.taken ++ p.waiting).Nodup := by
  rw [inv.order]
  exact List.nodup_range.filter _

theorem places_perm (p : Pipeline) (inv : p.Inv) : p.places.Perm (List.range p.issued) := by
  rw [List.perm_iff_count]
  intro job
  rw [inv.conserved job]
  by_cases issued : job < p.issued
  · rw [if_pos issued,List.count_eq_one_of_mem List.nodup_range (List.mem_range.mpr issued)]
  · rw [if_neg issued,List.count_eq_zero_of_not_mem (by simpa using issued)]

theorem places_nodup (p : Pipeline) (inv : p.Inv) : p.places.Nodup :=
  (p.places_perm inv).nodup_iff.mpr List.nodup_range

theorem filter_executed (jobs executed : List Nat) (job : Nat) (absent : job ∉ jobs) :
    jobs.filter (· ∈ executed ++ [job]) = jobs.filter (· ∈ executed) := by
  apply List.filter_congr
  intro other member
  have different : other ≠ job := fun equal => absent (equal ▸ member)
  simp [different]

theorem issue_inv (p : Pipeline) (inv : p.Inv) :
    Inv {p with issued := p.issued+1, waiting := p.waiting ++ [p.issued]} where
  conserved := by
    intro job
    have before := inv.conserved job
    simp only [places,List.count_append,List.count_cons,List.count_nil,beq_iff_eq] at before ⊢
    split_ifs at before ⊢ <;> omega
  withdrawnIssued := fun job member => Nat.lt_succ_of_lt (inv.withdrawnIssued job member)
  inTransit := inv.inTransit
  order := by
    have kept : p.issued ∉ p.withdrawn := fun member =>
      absurd (inv.withdrawnIssued _ member) (lt_irrefl _)
    rw [List.range_succ,List.filter_append,← inv.order]
    simp [kept]
  answering := inv.answering

theorem take_inv (p : Pipeline) (inv : p.Inv) (job : Nat) (rest : List Nat)
    (first : p.waiting = job::rest) (free : p.taken = []) :
    Inv {p with waiting := rest, taken := [job]} where
  conserved := by
    intro other
    have before := inv.conserved other
    simp only [places,List.count_append,List.count_cons,List.count_nil,first,free] at before ⊢
    omega
  withdrawnIssued := inv.withdrawnIssued
  inTransit := inv.inTransit
  order := by
    rw [← inv.order]
    simp [first,free]
  answering := inv.answering

theorem execute_inv (p : Pipeline) (inv : p.Inv) (job : Nat)
    (held : p.taken = [job]) (free : p.ready = []) :
    Inv {p with taken := [], ready := [job], executed := p.executed ++ [job]} where
  conserved := by
    intro other
    have before := inv.conserved other
    simp only [places,List.count_append,List.count_cons,List.count_nil,held,free] at before ⊢
    omega
  withdrawnIssued := inv.withdrawnIssued
  inTransit := inv.inTransit
  order := by
    rw [← inv.order]
    simp [held]
  answering := by
    have elsewhere : job ∉ p.answered ++ p.leaving ++ p.finished := by
      have once := inv.conserved job
      simp only [places,List.count_append,held,List.count_cons_self,List.count_nil] at once
      have none : p.answered.count job + p.leaving.count job + p.finished.count job = 0 := by
        split_ifs at once <;> omega
      rw [← List.count_eq_zero,List.count_append,List.count_append]
      exact none
    have answering := inv.answering
    rw [free,List.append_nil] at answering
    rw [List.filter_append,filter_executed _ _ _ elsewhere,answering]
    simp

theorem finish_inv (p : Pipeline) (inv : p.Inv) (job : Nat) (held : p.ready = [job]) :
    Inv {p with ready := [], finished := p.finished ++ [job]} where
  conserved := by
    intro other
    have before := inv.conserved other
    simp only [places,List.count_append,List.count_cons,List.count_nil,held] at before ⊢
    omega
  withdrawnIssued := inv.withdrawnIssued
  inTransit := inv.inTransit
  order := inv.order
  answering := by simpa [held] using inv.answering

theorem withdraw_inv (p : Pipeline) (inv : p.Inv) (job : Nat)
    (before after left right early late : List Nat)
    (found : p.waiting = before ++ job::after) (split : p.transit = left ++ right)
    (record : p.withdrawn = early ++ late) :
    Inv {p with
      waiting := before ++ after
      transit := left ++ job::right
      withdrawn := early ++ job::late} where
  conserved := by
    intro other
    have count := inv.conserved other
    simp only [places,List.count_append,List.count_cons,found,split] at count ⊢
    omega
  withdrawnIssued := by
    intro other member
    rcases mem_middle.mp member with rfl | old
    · have present : other ∈ (List.range p.issued).filter (· ∉ p.withdrawn) := by
        rw [← inv.order,found]
        simp
      exact List.mem_range.mp (List.mem_filter.mp present).1
    · exact inv.withdrawnIssued other (record ▸ old)
  inTransit := by
    intro other member
    rcases mem_middle.mp member with rfl | old
    · simp
    · have withdrawn := inv.inTransit other (split ▸ old)
      rw [record] at withdrawn
      exact mem_middle.mpr (Or.inr withdrawn)
  order := by
    have distinct := p.order_nodup inv
    rw [found,← List.append_assoc] at distinct
    calc p.executed ++ p.taken ++ (before ++ after)
        = p.executed ++ p.taken ++ before ++ after := (List.append_assoc _ _ _).symm
      _ = (p.executed ++ p.taken ++ before ++ job::after).filter (· ≠ job) :=
          (filter_ne_split _ _ _ distinct).symm
      _ = (p.executed ++ p.taken ++ p.waiting).filter (· ≠ job) := by
          rw [found,List.append_assoc (p.executed ++ p.taken)]
      _ = _ := by rw [inv.order,record,filter_withdraw]
  answering := inv.answering

theorem withdrawn_not_executed (p : Pipeline) (inv : p.Inv) (job : Nat)
    (withdrawn : job ∈ p.withdrawn) : job ∉ p.executed := by
  intro executed
  have present : job ∈ (List.range p.issued).filter (· ∉ p.withdrawn) := by
    rw [← inv.order]
    simp [executed]
  exact absurd withdrawn (by simpa using (List.mem_filter.mp present).2)

theorem arrive_inv (p : Pipeline) (inv : p.Inv) (left right : List Nat) (job : Nat)
    (held : p.transit = left ++ job::right) :
    Inv {p with transit := left ++ right, finished := p.finished ++ [job]} where
  conserved := by
    intro other
    have before := inv.conserved other
    simp only [places,List.count_append,List.count_cons,List.count_nil,held] at before ⊢
    omega
  withdrawnIssued := inv.withdrawnIssued
  inTransit := by
    intro other member
    apply inv.inTransit
    rw [held]
    rcases List.mem_append.mp member with old | old <;> simp [old]
  order := inv.order
  answering := by
    -- a withdrawn job was not executed, so it is not selected
    have withdrawn : job ∈ p.withdrawn := inv.inTransit job (by simp [held])
    have skipped : job ∉ p.executed := withdrawn_not_executed p inv job withdrawn
    simpa [skipped] using inv.answering

theorem collect_inv (p : Pipeline) (inv : p.Inv) (job : Nat) (rest : List Nat)
    (first : p.finished = job::rest) (free : p.leaving = []) :
    Inv {p with finished := rest, leaving := [job]} where
  conserved := by
    intro other
    have before := inv.conserved other
    simp only [places,List.count_append,List.count_cons,List.count_nil,first,free] at before ⊢
    omega
  withdrawnIssued := inv.withdrawnIssued
  inTransit := inv.inTransit
  order := inv.order
  answering := by simpa [first,free] using inv.answering

theorem answer_inv (p : Pipeline) (inv : p.Inv) (job : Nat) (held : p.leaving = [job]) :
    Inv {p with leaving := [], answered := p.answered ++ [job]} where
  conserved := by
    intro other
    have before := inv.conserved other
    simp only [places,List.count_append,List.count_cons,List.count_nil,held] at before ⊢
    omega
  withdrawnIssued := inv.withdrawnIssued
  inTransit := inv.inTransit
  order := inv.order
  answering := by simpa [held] using inv.answering

theorem Move.inv {p q : Pipeline} (move : Move p q) (inv : p.Inv) : q.Inv := by
  cases move with
  | issue => exact issue_inv p inv
  | take job rest first free => exact take_inv p inv job rest first free
  | execute job held free => exact execute_inv p inv job held free
  | finish job held => exact finish_inv p inv job held
  | withdraw job before after left right early late found split record =>
    exact withdraw_inv p inv job before after left right early late found split record
  | arrive left job right held => exact arrive_inv p inv left right job held
  | collect job rest first free => exact collect_inv p inv job rest first free
  | answer job held => exact answer_inv p inv job held

theorem executed_nodup (p : Pipeline) (inv : p.Inv) : p.executed.Nodup :=
  (List.nodup_append.mp (List.nodup_append.mp (p.order_nodup inv)).1).1

theorem answered_nodup (p : Pipeline) (inv : p.Inv) : p.answered.Nodup :=
  (List.nodup_append.mp (p.places_nodup inv)).2.1

theorem answered_prefix (p : Pipeline) (inv : p.Inv) :
    p.answered.filter (· ∈ p.executed) <+: p.executed := by
  refine ⟨(p.leaving ++ p.finished ++ p.ready).filter (· ∈ p.executed),?_⟩
  rw [← List.filter_append]
  simpa [List.append_assoc] using inv.answering

end Pipeline
