import Mathlib.Data.Multiset.AddSub

/-! Ledgers of resources that are obtained and released. Only a resource that
is held can be released, and one obtained twice has to be released twice. -/
namespace Ledger

inductive Entry (ρ : Type)
  | obtained (resource : ρ)
  | released (resource : ρ)
deriving DecidableEq

variable {ρ : Type} [DecidableEq ρ]

/-- What is held after the entries; `none` once something not held is released. -/
def held : List (Entry ρ) → Multiset ρ → Option (Multiset ρ)
  | [],own => some own
  | .obtained resource::rest,own => held rest (resource ::ₘ own)
  | .released resource::rest,own =>
    if resource ∈ own then held rest (own.erase resource) else none

@[simp] theorem held_nil (own : Multiset ρ) : held [] own = some own := rfl

@[simp] theorem held_obtained (resource : ρ) (rest : List (Entry ρ)) (own : Multiset ρ) :
    held (.obtained resource::rest) own = held rest (resource ::ₘ own) := rfl

@[simp] theorem held_released (resource : ρ) (rest : List (Entry ρ)) (own : Multiset ρ) :
    held (.released resource::rest) (resource ::ₘ own) = held rest own := by
  rw [held,if_pos (Multiset.mem_cons_self resource own),Multiset.erase_cons_head]

theorem held_append (first second : List (Entry ρ)) (own : Multiset ρ) :
    held (first ++ second) own = (held first own).bind (held second) := by
  induction first generalizing own with
  | nil => rfl
  | cons entry first ih =>
    cases entry with
    | obtained resource => exact ih (resource ::ₘ own)
    | released resource =>
      simp only [List.cons_append,held]
      split
      next _ => exact ih (own.erase resource)
      next _ => rfl

theorem held_frame {log : List (Entry ρ)} {own left : Multiset ρ} (kept : held log own = some left)
    (frame : Multiset ρ) : held log (own + frame) = some (left + frame) := by
  induction log generalizing own with
  | nil => rw [← Option.some.inj kept,held_nil]
  | cons entry log ih =>
    cases entry with
    | obtained resource =>
      rw [held_obtained,← Multiset.cons_add]
      exact ih kept
    | released resource =>
      rw [held] at kept ⊢
      split at kept
      next owned =>
        rw [if_pos (Multiset.mem_add.mpr (Or.inl owned)),Multiset.erase_add_left_pos _ owned]
        exact ih kept
      next _ => cases kept

theorem held_release_all (resources : List ρ) (own : Multiset ρ) :
    held (resources.map Entry.released) ((resources : Multiset ρ) + own) = some own := by
  induction resources with
  | nil => rw [Multiset.coe_nil,Multiset.zero_add]; rfl
  | cons resource resources ih =>
    rw [← Multiset.cons_coe,Multiset.cons_add,List.map_cons,held_released]
    exact ih

/-- Every resource was released as often as it was obtained, but for what is
still held. -/
theorem held_count {log : List (Entry ρ)} {own left : Multiset ρ}
    (kept : held log own = some left) (resource : ρ) :
    own.count resource + log.count (.obtained resource) =
      left.count resource + log.count (.released resource) := by
  induction log generalizing own with
  | nil => cases Option.some.inj kept; rfl
  | cons entry log ih =>
    cases entry with
    | obtained other =>
      have rest := ih kept
      by_cases same : resource = other
      · subst same
        rw [Multiset.count_cons_self] at rest
        rw [List.count_cons_self,List.count_cons_of_ne (by simp)]
        omega
      · rw [Multiset.count_cons_of_ne same] at rest
        rw [List.count_cons_of_ne (by simpa using Ne.symm same),List.count_cons_of_ne (by simp)]
        exact rest
    | released other =>
      rw [held] at kept
      split at kept
      next owned =>
        have rest := ih kept
        by_cases same : resource = other
        · subst same
          have some := Multiset.one_le_count_iff_mem.mpr owned
          rw [Multiset.count_erase_self] at rest
          rw [List.count_cons_self,List.count_cons_of_ne (by simp)]
          omega
        · rw [Multiset.count_erase_of_ne same] at rest
          rw [List.count_cons_of_ne (by simp),List.count_cons_of_ne (by simpa using Ne.symm same)]
          exact rest
      next _ => cases kept

end Ledger
