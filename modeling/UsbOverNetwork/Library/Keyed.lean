import Mathlib.Data.List.Basic

/-! Lists searched by a key from the front, and updates of the entry found. -/
namespace Keyed

variable {α κ : Type} [DecidableEq κ] (key : α → κ)

def find (k : κ) (entries : List α) : Option α := entries.find? (fun entry => key entry = k)

def modify (k : κ) (f : α → α) : List α → List α
  | [] => []
  | entry::rest => if key entry = k then f entry::rest else entry::modify k f rest

/-- The list without its first entry of this key, if there is one. -/
def remove (k : κ) : List α → Option (List α)
  | [] => none
  | entry::rest => if key entry = k then some rest else (remove k rest).map (entry::·)

theorem find_key {k : κ} {entries : List α} {entry : α}
    (found : find key k entries = some entry) : key entry = k := by
  simpa using List.find?_some found

theorem find_mem {k : κ} {entries : List α} {entry : α}
    (found : find key k entries = some entry) : entry ∈ entries :=
  List.mem_of_find?_eq_some found

theorem find_of_mem {entries : List α} (distinct : (entries.map key).Nodup) {entry : α}
    (member : entry ∈ entries) : find key (key entry) entries = some entry := by
  induction entries with
  | nil => simp at member
  | cons head rest ih =>
    rw [List.map_cons,List.nodup_cons] at distinct
    obtain ⟨fresh,tail⟩ := distinct
    rcases List.mem_cons.mp member with rfl | inside
    · simp [find]
    · have different : key head ≠ key entry := by
        intro same
        exact fresh (List.mem_map.mpr ⟨entry,inside,same.symm⟩)
      simpa [find,different] using ih tail inside

theorem find_modify (k : κ) (f : α → α) (keeps : ∀ entry, key (f entry) = key entry)
    (entries : List α) : find key k (modify key k f entries) = (find key k entries).map f := by
  induction entries with
  | nil => rfl
  | cons entry rest ih =>
    by_cases same : key entry = k
    · simp [find,modify,same,keeps]
    · simpa [find,modify,same] using ih

theorem find_modify_other {k other : κ} (different : other ≠ k) (f : α → α)
    (keeps : ∀ entry, key (f entry) = key entry) (entries : List α) :
    find key other (modify key k f entries) = find key other entries := by
  induction entries with
  | nil => rfl
  | cons entry rest ih =>
    by_cases same : key entry = k
    · simp [find,modify,same,keeps,Ne.symm different]
    · by_cases here : key entry = other
      · simp [find,modify,here,different]
      · simpa [find,modify,same,here] using ih

theorem map_modify {β : Type} (view : α → β) (k : κ) (f : α → α) (entries : List α)
    (unseen : ∀ entry, find key k entries = some entry → view (f entry) = view entry) :
    (modify key k f entries).map view = entries.map view := by
  induction entries with
  | nil => rfl
  | cons entry rest ih =>
    by_cases same : key entry = k
    · simp [modify,same,unseen entry (by simp [find,same])]
    · have tail := ih (fun e found => unseen e (by simpa [find,same] using found))
      simp [modify,same,tail]

theorem mem_modify (k : κ) (f : α → α) (entries : List α) {entry : α}
    (member : entry ∈ modify key k f entries) :
    entry ∈ entries ∨ ∃ old, find key k entries = some old ∧ entry = f old := by
  induction entries with
  | nil => simp [modify] at member
  | cons head rest ih =>
    by_cases same : key head = k
    · simp only [modify,same,if_true,List.mem_cons] at member
      rcases member with rfl | inside
      · exact Or.inr ⟨head,by simp [find,same],rfl⟩
      · exact Or.inl (by simp [inside])
    · simp only [modify,same,if_false,List.mem_cons] at member
      rcases member with rfl | inside
      · exact Or.inl (by simp)
      · rcases ih inside with old | ⟨old,found,changed⟩
        · exact Or.inl (by simp [old])
        · exact Or.inr ⟨old,by simpa [find,same] using found,changed⟩

theorem forall_modify {k : κ} {f : α → α} {entries : List α} {holds : α → Prop}
    (distinct : (entries.map key).Nodup) (keeps : ∀ entry, key (f entry) = key entry)
    (others : ∀ entry ∈ entries, key entry ≠ k → holds entry)
    (updated : ∀ entry, find key k entries = some entry → holds (f entry)) :
    ∀ entry ∈ modify key k f entries, holds entry := by
  intro entry member
  by_cases same : key entry = k
  · have keys : ((modify key k f entries).map key).Nodup := by
      rwa [map_modify key key k f entries fun entry _ => keeps entry]
    have found := find_of_mem key keys member
    rw [same,find_modify key k f keeps] at found
    obtain ⟨old,searched,rfl⟩ := Option.map_eq_some_iff.mp found
    exact updated old searched
  · rcases mem_modify key k f entries member with old | ⟨old,searched,rfl⟩
    · exact others entry old same
    · exact absurd ((keeps old).trans (find_key key searched)) same

theorem modify_absent (k : κ) (f : α → α) (entries : List α)
    (absent : find key k entries = none) : modify key k f entries = entries := by
  induction entries with
  | nil => rfl
  | cons entry rest ih =>
    by_cases same : key entry = k
    · simp [find,same] at absent
    · simp [modify,same,ih (by simpa [find,same] using absent)]

theorem find_filter_absent {entries : List α} (keep : α → Bool) {k : κ}
    (absent : k ∉ entries.map key) : find key k (entries.filter keep) = none := by
  simp only [find,List.find?_eq_none,decide_eq_true_eq]
  intro entry member here
  exact absent (List.mem_map.mpr ⟨entry,(List.mem_filter.mp member).1,here⟩)

/-- With distinct keys a search among some of the entries is a search among
all of them. -/
theorem find_filter {entries : List α} (distinct : (entries.map key).Nodup) (keep : α → Bool)
    (k : κ) : find key k (entries.filter keep) = (find key k entries).filter keep := by
  induction entries with
  | nil => rfl
  | cons head rest ih =>
    rw [List.map_cons,List.nodup_cons] at distinct
    obtain ⟨fresh,tail⟩ := distinct
    by_cases same : key head = k
    · have absent : find key k (rest.filter keep) = none :=
        find_filter_absent key keep (same ▸ fresh)
      cases kept : keep head with
      | false =>
        rw [List.filter_cons_of_neg (by simp [kept]),absent]
        simp [find,same,Option.filter,kept]
      | true =>
        rw [List.filter_cons_of_pos kept]
        simp [find,same,Option.filter,kept]
    · cases kept : keep head with
      | false =>
        rw [List.filter_cons_of_neg (by simp [kept]),ih tail]
        simp [find,same]
      | true =>
        rw [List.filter_cons_of_pos kept]
        simpa [find,same] using ih tail

theorem filter_modify {entries : List α} (distinct : (entries.map key).Nodup) (keep : α → Bool)
    (k : κ) (f : α → α) (kept : ∀ entry, keep (f entry) = keep entry) :
    (modify key k f entries).filter keep = modify key k f (entries.filter keep) := by
  induction entries with
  | nil => rfl
  | cons head rest ih =>
    rw [List.map_cons,List.nodup_cons] at distinct
    obtain ⟨fresh,tail⟩ := distinct
    by_cases same : key head = k
    · have absent : modify key k f (rest.filter keep) = rest.filter keep :=
        modify_absent key k f _ (find_filter_absent key keep (same ▸ fresh))
      rw [modify,if_pos same]
      cases inside : keep head with
      | false =>
        rw [List.filter_cons_of_neg (by simp [kept,inside]),
          List.filter_cons_of_neg (by simp [inside]),absent]
      | true =>
        rw [List.filter_cons_of_pos (by simp [kept,inside]),List.filter_cons_of_pos inside,modify,
          if_pos same]
    · rw [modify,if_neg same]
      cases inside : keep head with
      | false =>
        rw [List.filter_cons_of_neg (by simp [inside]),List.filter_cons_of_neg (by simp [inside]),
          ih tail]
      | true =>
        rw [List.filter_cons_of_pos inside,List.filter_cons_of_pos inside,ih tail,modify,
          if_neg same]

theorem modify_modify {k : κ} (f : α → α) {g : α → α} (keeps : ∀ entry, key (g entry) = key entry)
    (entries : List α) : modify key k f (modify key k g entries) = modify key k (f ∘ g) entries := by
  induction entries with
  | nil => rfl
  | cons entry rest ih =>
    by_cases same : key entry = k
    · simp [modify,same,keeps]
    · simp [modify,same,ih]

theorem map_modify_iff {β : Type} (view : α → β) (k : κ) (f : α → α) (entries : List α) :
    (modify key k f entries).map view = entries.map view ↔
      ∀ entry, find key k entries = some entry → view (f entry) = view entry := by
  refine ⟨?_,map_modify key view k f entries⟩
  induction entries with
  | nil => simp [find]
  | cons entry rest ih =>
    by_cases same : key entry = k
    · simp [modify,find,same]
    · simpa [modify,find,same] using ih

theorem modify_eq_map {entries : List α} (distinct : (entries.map key).Nodup) (k : κ) (f : α → α) :
    modify key k f entries = entries.map fun entry => if key entry = k then f entry else entry := by
  induction entries with
  | nil => rfl
  | cons entry rest ih =>
    rw [List.map_cons,List.nodup_cons] at distinct
    obtain ⟨fresh,tail⟩ := distinct
    by_cases same : key entry = k
    · have others : rest.map (fun other => if key other = k then f other else other) = rest := by
        refine (List.map_congr_left ?_).trans (List.map_id rest)
        intro other member
        have different : key other ≠ k := by
          rintro rfl
          exact fresh (same ▸ List.mem_map_of_mem member)
        exact if_neg different
      simp [modify,same,others]
    · simp [modify,same,ih tail]

theorem find_map (view : α → α) (keeps : ∀ entry, key (view entry) = key entry) (k : κ)
    (entries : List α) : find key k (entries.map view) = (find key k entries).map view := by
  rw [find,List.find?_map,find]
  congr 2
  funext entry
  exact congrArg (fun found => decide (found = k)) (keeps entry)

theorem map_modify_both {view : α → α} (keeps : ∀ entry, key (view entry) = key entry) (k : κ)
    {f g : α → α} (agree : ∀ entry other, view other = view entry → view (g other) = view (f entry))
    {entries others : List α} (same : others.map view = entries.map view) :
    (modify key k g others).map view = (modify key k f entries).map view := by
  induction entries generalizing others with
  | nil => rw [List.map_eq_nil_iff.mp same]; rfl
  | cons entry rest ih =>
    obtain ⟨other,tail,rfl,first,left⟩ := List.map_eq_cons_iff.mp same
    have keys : key other = key entry := by rw [← keeps other,first,keeps]
    by_cases here : key entry = k
    · simp [modify,keys,here,agree entry other first,left]
    · simp [modify,keys,here,first,ih left]

theorem length_modify (k : κ) (f : α → α) (entries : List α) :
    (modify key k f entries).length = entries.length := by
  induction entries with
  | nil => rfl
  | cons entry rest ih =>
    by_cases same : key entry = k
    · simp [modify,same]
    · simp [modify,same,ih]

theorem find_none {k : κ} {entries : List α} :
    find key k entries = none ↔ k ∉ entries.map key := by
  simp [find]

theorem remove_none {k : κ} {entries : List α} :
    remove key k entries = none ↔ k ∉ entries.map key := by
  induction entries with
  | nil => simp [remove]
  | cons entry rest ih =>
    by_cases same : key entry = k
    · simp [remove,same]
    · simp only [remove,same,if_false,Option.map_eq_none_iff,ih,List.map_cons,List.mem_cons]
      simp [Ne.symm same]

theorem remove_some {k : κ} {entries left : List α} (removed : remove key k entries = some left) :
    ∃ before entry after, entries = before ++ entry::after ∧ find key k entries = some entry ∧
      left = before ++ after := by
  induction entries generalizing left with
  | nil => cases removed
  | cons entry rest ih =>
    by_cases same : key entry = k
    · rw [remove,if_pos same] at removed
      exact ⟨[],entry,rest,rfl,by simp [find,same],(Option.some.inj removed).symm⟩
    · rw [remove,if_neg same] at removed
      obtain ⟨others,deeper,rfl⟩ := Option.map_eq_some_iff.mp removed
      obtain ⟨before,found,after,rfl,here,rfl⟩ := ih deeper
      exact ⟨entry::before,found,after,rfl,by simpa [find,same] using here,rfl⟩

theorem remove_append {before after : List α} {entry : α} (fresh : key entry ∉ before.map key) :
    remove key (key entry) (before ++ entry::after) = some (before ++ after) := by
  induction before with
  | nil => simp [remove]
  | cons head rest ih =>
    rw [List.map_cons,List.mem_cons,not_or] at fresh
    simp [remove,Ne.symm fresh.1,ih fresh.2]

section Congruence

variable {key} {μ : Type} [DecidableEq μ] {other : α → μ} {k : κ} {l : μ}
  (same : ∀ entry, other entry = l ↔ key entry = k)

include same

theorem find_congr (entries : List α) :
    entries.find? (fun entry => decide (other entry = l)) = find key k entries := by
  rw [find]
  congr 1
  funext entry
  exact decide_eq_decide.mpr (same entry)

theorem modify_congr (f : α → α) (entries : List α) :
    modify other l f entries = modify key k f entries := by
  induction entries with
  | nil => rfl
  | cons entry rest ih =>
    by_cases here : key entry = k
    · simp [modify,here,(same entry).mpr here]
    · simp [modify,here,mt (same entry).mp here,ih]

theorem remove_congr (entries : List α) : remove other l entries = remove key k entries := by
  induction entries with
  | nil => rfl
  | cons entry rest ih =>
    by_cases here : key entry = k
    · simp [remove,here,(same entry).mpr here]
    · simp [remove,here,mt (same entry).mp here,ih]

end Congruence

theorem find_key_filter (k : κ) (entries : List α) :
    find key k (entries.filter fun entry => key entry = k) = find key k entries := by
  simp [find,List.find?_filter]

theorem filter_modify_key (k part : κ) {f : α → α} (keeps : ∀ entry, key entry = k → key (f entry) = k)
    (entries : List α) :
    (modify key k f entries).filter (fun entry => key entry = part) =
      if part = k then modify key k f (entries.filter fun entry => key entry = part)
      else entries.filter fun entry => key entry = part := by
  induction entries with
  | nil => simp [modify]
  | cons entry rest ih =>
    by_cases here : key entry = k
    · by_cases same : part = k
      · simp [modify,here,keeps entry here,same]
      · simp [modify,here,keeps entry here,same,Ne.symm same]
    · rw [modify,if_neg here,List.filter_cons,ih]
      by_cases same : part = k
      · subst same
        simp [here]
      · simp [same,List.filter_cons]

end Keyed
