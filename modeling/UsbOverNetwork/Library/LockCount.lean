import Mathlib.Logic.Function.Basic

/-! Programs on a state and what they do to one view of it, and recursive locks
as the thread that runs them holds them. -/
namespace Locking

/-- A recursive lock as one thread sees it. A closed one can be neither taken
nor given back. -/
structure Mutex where
  held : Nat
  closed : Bool
deriving DecidableEq, Repr

namespace Mutex

def lock (mutex : Mutex) : Mutex :=
  if mutex.closed then mutex else {mutex with held := mutex.held+1}

/-- Nothing happens where the thread does not hold it. -/
def unlock (mutex : Mutex) : Mutex :=
  if mutex.closed then mutex else {mutex with held := mutex.held-1}

def destroy (mutex : Mutex) : Mutex := {mutex with closed := true}

@[simp] theorem unlock_lock (mutex : Mutex) : mutex.lock.unlock = mutex := by
  obtain ⟨held,closed⟩ := mutex
  cases closed <;> rfl

end Mutex

/-- A lock that is left alone while the flag beside it is not set. -/
structure Guarded where
  ready : Bool
  mutex : Mutex
deriving DecidableEq, Repr

namespace Guarded

def lock (guarded : Guarded) : Guarded :=
  if guarded.ready then {guarded with mutex := guarded.mutex.lock} else guarded

def unlock (guarded : Guarded) : Guarded :=
  if guarded.ready then {guarded with mutex := guarded.mutex.unlock} else guarded

@[simp] theorem unlock_lock (guarded : Guarded) : guarded.lock.unlock = guarded := by
  obtain ⟨ready,mutex⟩ := guarded
  cases ready with
  | false => rfl
  | true => exact congrArg (Guarded.mk true) mutex.unlock_lock

end Guarded

variable {σ τ α β γ : Type}

def after (program : StateM σ α) (s : σ) : σ := (program.run s).run.2

def result (program : StateM σ α) (s : σ) : α := (program.run s).run.1

section Runs

variable (s : σ)

@[simp] theorem after_pure (a : α) : after (pure a) s = s := rfl

@[simp] theorem after_get : after get s = s := rfl

@[simp] theorem result_get : result get s = s := rfl

@[simp] theorem after_modify (f : σ → σ) : after (modify f) s = f s := rfl

@[simp] theorem after_bind (first : StateM σ α) (rest : α → StateM σ γ) :
    after (first >>= rest) s = after (rest (result first s)) (after first s) := rfl

@[simp] theorem after_map (f : α → γ) (program : StateM σ α) :
    after (f <$> program) s = after program s := rfl

@[simp] theorem result_bind (first : StateM σ α) (rest : α → StateM σ γ) :
    result (first >>= rest) s = result (rest (result first s)) (after first s) := rfl

end Runs

def zoom (part : τ → σ) (replace : τ → σ → τ) (program : StateM σ α) : StateM τ α := do
  let s ← get
  let (a,next) := (program.run (part s)).run
  set (replace s next)
  pure a

/-- In every state, the program does to this view of it what `f` does. -/
def Acts (view : σ → β) (f : β → β) (program : StateM σ α) : Prop :=
  ∀ s, view (after program s) = f (view s)

namespace Acts

variable {view : σ → β} {f g : β → β} {first : StateM σ α} {rest : α → StateM σ γ}

theorem pure (a : α) : Acts view id (Pure.pure a : StateM σ α) := fun _ => rfl

theorem get : Acts view id (MonadState.get : StateM σ σ) := fun _ => rfl

theorem unseen (keeps : Acts view id first) (acts : ∀ a, Acts view f (rest a)) :
    Acts view f (first >>= rest) :=
  fun s => (acts _ _).trans (congrArg f (keeps s))

theorem last (acts : Acts view f first) (keeps : ∀ a, Acts view id (rest a)) :
    Acts view f (first >>= rest) :=
  fun s => (keeps _ _).trans (acts s)

theorem undone (inverse : ∀ b, g (f b) = b) (acts : Acts view f first)
    (undoes : ∀ a, Acts view g (rest a)) : Acts view id (first >>= rest) := by
  intro s
  show view (after (rest (result first s)) (after first s)) = view s
  rw [undoes,acts,inverse]

theorem comp (acts : Acts view f first) (goes_on : ∀ a, Acts view g (rest a)) :
    Acts view (g ∘ f) (first >>= rest) :=
  fun s => (goes_on _ _).trans (congrArg g (acts s))

theorem reads {body : σ → StateM σ γ} (acts : ∀ s, Acts view f (body s)) :
    Acts view f ((MonadState.get : StateM σ σ) >>= body) :=
  unseen get acts

theorem ite {condition : Prop} [Decidable condition] {yes no : StateM σ α}
    (then_acts : Acts view f yes) (else_acts : Acts view f no) :
    Acts view f (if condition then yes else no) := by
  split
  · exact then_acts
  · exact else_acts

end Acts

/-- In every state, the program leaves this view of it or does to it what `f` does. -/
def MayAct (view : σ → β) (f : β → β) (program : StateM σ α) : Prop :=
  ∀ s, view (after program s) = view s ∨ view (after program s) = f (view s)

namespace MayAct

variable {view : σ → β} {f : β → β}

theorem pure (a : α) : MayAct view f (Pure.pure a : StateM σ α) := fun _ => Or.inl rfl

theorem acts {program : StateM σ α} (acts : Acts view f program) : MayAct view f program :=
  fun s => Or.inr (acts s)

theorem reads {body : σ → StateM σ γ} (may : ∀ s, MayAct view f (body s)) :
    MayAct view f ((MonadState.get : StateM σ σ) >>= body) :=
  fun s => may s s

theorem ite {condition : Prop} [Decidable condition] {yes no : StateM σ α}
    (then_may : MayAct view f yes) (else_may : MayAct view f no) :
    MayAct view f (if condition then yes else no) := by
  split
  · exact then_may
  · exact else_may

end MayAct

section Emits

variable {ε : Type}

/-- Whatever the state, the program adds something of this kind to the history
that goes with it. -/
def Emits (history : σ → List ε) (fits : List ε → Prop) (program : StateM σ α) : Prop :=
  ∀ s, ∃ added, fits added ∧ history (after program s) = history s ++ added

namespace Emits

variable {history : σ → List ε} {fits first_fits rest_fits : List ε → Prop} {first : StateM σ α}
  {rest : α → StateM σ γ}

theorem quiet {program : StateM σ α} (silent : fits [])
    (keeps : ∀ s, history (after program s) = history s) : Emits history fits program :=
  fun s => ⟨[],silent,(keeps s).trans (List.append_nil _).symm⟩

theorem pure (silent : fits []) (a : α) : Emits history fits (Pure.pure a : StateM σ α) :=
  quiet silent fun _ => rfl

theorem bind (emits : Emits history first_fits first) (onward : ∀ a, Emits history rest_fits (rest a))
    (append : ∀ before behind, first_fits before → rest_fits behind → fits (before ++ behind)) :
    Emits history fits (first >>= rest) := by
  intro s
  obtain ⟨before,early,same⟩ := emits s
  obtain ⟨behind,late,goes_on⟩ := onward (result first s) (after first s)
  refine ⟨before ++ behind,append before behind early late,?_⟩
  rw [after_bind,goes_on,same,List.append_assoc]

theorem unseen (keeps : ∀ s, history (after first s) = history s)
    (onward : ∀ a, Emits history fits (rest a)) : Emits history fits (first >>= rest) := by
  have silent : Emits history (· = []) first := quiet rfl keeps
  refine silent.bind onward ?_
  rintro _ behind rfl late
  exact late

theorem reads {body : σ → StateM σ γ} (onward : ∀ s, Emits history fits (body s)) :
    Emits history fits ((MonadState.get : StateM σ σ) >>= body) :=
  fun s => onward s s

theorem ite {condition : Prop} [Decidable condition] {yes no : StateM σ α}
    (then_emits : Emits history fits yes) (else_emits : Emits history fits no) :
    Emits history fits (if condition then yes else no) := by
  split
  · exact then_emits
  · exact else_emits

end Emits

end Emits

end Locking
