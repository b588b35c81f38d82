import Mathlib.Data.List.Basic

/-! Command lines: options come first, each a word alone or a word with its
value behind it, and change some settings one after the other. -/
namespace Options

variable {τ σ : Type}

inductive Action (τ σ : Type)
  | flag (set : σ → σ)
  | valued (set : τ → σ → σ)

/-- One option as it stands on a command line. -/
inductive Use (τ : Type)
  | alone (word : τ)
  | followed (word value : τ)
deriving DecidableEq

namespace Use

def word : Use τ → τ
  | .alone word => word
  | .followed word _ => word

def words : Use τ → List τ
  | .alone word => [word]
  | .followed word value => [word,value]

def value? (named : τ → Bool) : Use τ → Option τ
  | .alone _ => none
  | .followed word value => if named word then some value else none

def last? (named : τ → Bool) (uses : List (Use τ)) : Option τ :=
  (uses.filterMap (value? named)).getLast?

/-- The settings after it; `none` when its word is not known to be one with as
many values. -/
def apply (table : τ → Option (Action τ σ)) (settings : σ) : Use τ → Option σ
  | .alone word =>
    match table word with
    | some (.flag set) => some (set settings)
    | _ => none
  | .followed word value =>
    match table word with
    | some (.valued set) => some (set value settings)
    | _ => none

end Use

/-- Options are read as long as words look like one; `none` when one of them is
unknown or lacks its value. What follows the options is handed back. -/
def scan (table : τ → Option (Action τ σ)) (optional : τ → Bool) : List τ → σ → Option (σ × List τ)
  | [],settings => some (settings,[])
  | word::rest,settings =>
    if !optional word then some (settings,word::rest)
    else
      match table word with
      | none => none
      | some (.flag set) => scan table optional rest (set settings)
      | some (.valued set) =>
        match rest with
        | [] => none
        | value::rest => scan table optional rest (set value settings)

def applyAll (table : τ → Option (Action τ σ)) : List (Use τ) → σ → Option σ
  | [],settings => some settings
  | use::rest,settings => (use.apply table settings).bind (applyAll table rest)

variable {table : τ → Option (Action τ σ)} {optional : τ → Bool}

@[simp] theorem scan_nil (settings : σ) : scan table optional [] settings = some (settings,[]) := by
  rw [scan]

theorem scan_word {word : τ} {rest : List τ} {settings : σ} : scan table optional (word::rest) settings =
    if !optional word then some (settings,word::rest)
    else
      match table word with
      | none => none
      | some (.flag set) => scan table optional rest (set settings)
      | some (.valued set) =>
        match rest with
        | [] => none
        | value::rest => scan table optional rest (set value settings) := by
  rw [scan]

theorem scan_uses {uses : List (Use τ)} {settings final : σ} {rest : List τ}
    (looks : ∀ use ∈ uses, optional use.word = true)
    (stops : ∀ word ∈ rest.head?, optional word = false)
    (applied : applyAll table uses settings = some final) :
    scan table optional (uses.flatMap Use.words ++ rest) settings = some (final,rest) := by
  induction uses generalizing settings with
  | nil =>
    cases Option.some.inj applied
    cases rest with
    | nil => exact scan_nil _
    | cons word rest =>
      have stop := stops word rfl
      simp [scan_word,stop]
  | cons use uses ih =>
    obtain ⟨middle,first,later⟩ := Option.bind_eq_some_iff.mp applied
    have look := looks use List.mem_cons_self
    have tail := ih (fun other member => looks other (List.mem_cons_of_mem _ member)) later
    cases use with
    | alone word =>
      simp only [Use.apply] at first
      split at first
      next set known =>
        cases first
        rw [Use.word] at look
        simpa [Use.words,scan_word,look,known] using tail
      next => cases first
    | followed word value =>
      simp only [Use.apply] at first
      split at first
      next set known =>
        cases first
        rw [Use.word] at look
        simpa [Use.words,scan_word,look,known] using tail
      next => cases first

theorem uses_of_scan {words : List τ} {settings final : σ} {rest : List τ}
    (scanned : scan table optional words settings = some (final,rest)) :
    ∃ uses : List (Use τ), words = uses.flatMap Use.words ++ rest ∧
      (∀ use ∈ uses, optional use.word = true) ∧ (∀ word ∈ rest.head?, optional word = false) ∧
      applyAll table uses settings = some final := by
  induction words, settings using scan.induct table optional with
  | case1 settings =>
    cases scanned
    exact ⟨[],by simp,by simp,by simp,rfl⟩
  | case2 word others settings plain =>
    rw [scan_word,if_pos plain] at scanned
    cases scanned
    exact ⟨[],by simp,by simp,by simpa using plain,rfl⟩
  | case3 word others settings look unknown =>
    rw [scan_word,if_neg look,unknown] at scanned
    cases scanned
  | case4 word others settings look set known ih =>
    rw [scan_word,if_neg look,known] at scanned
    obtain ⟨uses,rfl,looks,stops,applied⟩ := ih scanned
    refine ⟨.alone word::uses,by simp [Use.words],?_,stops,?_⟩
    · simp only [List.forall_mem_cons]
      exact ⟨by simpa [Use.word] using look,looks⟩
    · simpa [applyAll,Use.apply,known] using applied
  | case5 word settings look set known =>
    rw [scan_word,if_neg look,known] at scanned
    cases scanned
  | case6 word settings look set known value others ih =>
    rw [scan_word,if_neg look,known] at scanned
    obtain ⟨uses,rfl,looks,stops,applied⟩ := ih scanned
    refine ⟨.followed word value::uses,by simp [Use.words],?_,stops,?_⟩
    · simp only [List.forall_mem_cons]
      exact ⟨by simpa [Use.word] using look,looks⟩
    · simpa [applyAll,Use.apply,known] using applied

/-- The scan accepts what is a sequence of known options with their values, up
to a word that does not look like one, and nothing else. -/
theorem scan_iff (words : List τ) (settings final : σ) (rest : List τ) :
    scan table optional words settings = some (final,rest) ↔
      ∃ uses : List (Use τ), words = uses.flatMap Use.words ++ rest ∧
        (∀ use ∈ uses, optional use.word = true) ∧ (∀ word ∈ rest.head?, optional word = false) ∧
        applyAll table uses settings = some final := by
  constructor
  · exact uses_of_scan
  · rintro ⟨uses,rfl,looks,stops,applied⟩
    exact scan_uses looks stops applied

theorem scan_all_iff (words : List τ) (settings final : σ) :
    (scan table (fun _ => true) words settings).map Prod.fst = some final ↔
      ∃ uses : List (Use τ), words = uses.flatMap Use.words ∧ applyAll table uses settings = some final := by
  constructor
  · intro scanned
    obtain ⟨⟨last,rest⟩,found,rfl⟩ := Option.map_eq_some_iff.mp scanned
    obtain ⟨uses,split,_,stops,applied⟩ := uses_of_scan found
    cases rest with
    | nil => exact ⟨uses,by simpa using split,applied⟩
    | cons word rest => simp at stops
  · rintro ⟨uses,rfl,applied⟩
    have scanned : scan table (fun _ => true) (uses.flatMap Use.words ++ []) settings = some (final,[]) :=
      scan_uses (by simp) (by simp) applied
    rw [List.append_nil] at scanned
    rw [scanned,Option.map_some]

/-- Where it is known what each use does and which uses are proper, they are
applied one after the other. -/
theorem applyAll_iff {proper : Use τ → Prop} {after : σ → Use τ → σ}
    (applies : ∀ use settings next, Use.apply table settings use = some next ↔
      proper use ∧ next = after settings use) {uses : List (Use τ)} {settings final : σ} :
    applyAll table uses settings = some final ↔
      (∀ use ∈ uses, proper use) ∧ final = uses.foldl after settings := by
  induction uses generalizing settings with
  | nil => simp [applyAll,eq_comm]
  | cons use uses ih =>
    rw [applyAll,Option.bind_eq_some_iff,List.forall_mem_cons,List.foldl_cons]
    constructor
    · intro applied
      obtain ⟨middle,first,later⟩ := applied
      obtain ⟨good,rfl⟩ := (applies use settings middle).mp first
      obtain ⟨rest,last⟩ := ih.mp later
      exact ⟨⟨good,rest⟩,last⟩
    · intro taken
      obtain ⟨⟨good,rest⟩,last⟩ := taken
      exact ⟨after settings use,(applies _ _ _).mpr ⟨good,rfl⟩,ih.mpr ⟨rest,last⟩⟩

section Fields

variable {α : Type} (after : σ → Use τ → σ)

theorem foldl_kept (field : σ → α) (keeps : ∀ use settings, field (after settings use) = field settings)
    (uses : List (Use τ)) (settings : σ) : field (uses.foldl after settings) = field settings := by
  induction uses generalizing settings with
  | nil => rfl
  | cons use uses ih => rw [List.foldl_cons,ih,keeps]

/-- A setting that some options overwrite with what is read out of their value
is what the last one of them says, if there is one. -/
theorem foldl_last (field : σ → α) (named : τ → Bool) (read : τ → α)
    (writes : ∀ use settings, field (after settings use) =
      (Use.value? named use).elim (field settings) read) (uses : List (Use τ)) (settings : σ) :
    field (uses.foldl after settings) = (Use.last? named uses).elim (field settings) read := by
  induction uses generalizing settings with
  | nil => rfl
  | cons use uses ih =>
    rw [List.foldl_cons,ih,writes,Use.last?,Use.last?,List.filterMap_cons]
    cases use.value? named with
    | none => rfl
    | some value =>
      rw [List.getLast?_cons]
      cases (uses.filterMap (Use.value? named)).getLast? <;> rfl

theorem foldl_switch (field : σ → Bool) (given : Use τ → Bool)
    (writes : ∀ use settings, field (after settings use) = (field settings || given use))
    (uses : List (Use τ)) (settings : σ) :
    field (uses.foldl after settings) = (field settings || uses.any given) := by
  induction uses generalizing settings with
  | nil => simp
  | cons use uses ih => rw [List.foldl_cons,ih,writes,List.any_cons,Bool.or_assoc]

end Fields

end Options
