import UsbOverNetwork.Client.Vhci

/-! The detach command of the client: a process of its own, which knows of the
ports only what it has set up itself. -/
namespace UsbOverNetwork

/-- The driver as a new process meets it: whether it can be opened, and its
answer to a request to unplug a port, which is whether the port has a device. -/
structure VhciDriver where
  opened : Bool
  plugged : Fin vhciMaxPorts → Bool

/-- `cmd_detach`: the exit code, and what was asked of the driver, newest first. -/
def cmdDetach (port : Int) (alloc : Bool) (driver : VhciDriver) : Int × List ClientEvent :=
  let (err,ctx) := vhciInit alloc driver.opened
  if err ≠ .success then (1,[])
  else
    match vhciPortAt port with
    | none =>
      let (_,events) := vhciCleanup ctx driver.plugged
      (1,events)
    | some i =>
      let (err,ctx,events) := vhciDetach ctx port (driver.plugged i)
      let (_,later) := vhciCleanup ctx driver.plugged
      (if err ≠ .success then 1 else 0,later ++ events)

/-- A command that reports success has asked the driver to unplug the port. -/
def Detaches (port : Fin vhciMaxPorts) (alloc : Bool) (driver : VhciDriver) : Prop :=
  (cmdDetach port.val alloc driver).1 = 0 → driver.opened = true →
    ∃ ok, .unplug port ok ∈ (cmdDetach port.val alloc driver).2

section FreePorts

variable {ctx : VhciContext} (free : ∀ i, (ctx.port i).state = .free)
  (unplugs : Fin vhciMaxPorts → Bool)

include free

theorem vhciDetachPorts_free (ports : List (Fin vhciMaxPorts)) :
    vhciDetachPorts unplugs ports ctx = (ctx,[]) := by
  induction ports with
  | nil => rfl
  | cons i ports ih =>
    rw [vhciDetachPorts,if_neg (not_not.mpr (free i))]
    exact ih

theorem vhciDetach_free (ready : ctx.initialized = true) (i : Fin vhciMaxPorts) (unplug : Bool) :
    vhciDetach ctx i.val unplug = (.success,ctx,[]) := by
  simp only [vhciDetach,ready,vhciPortAt_val,free i,Bool.not_true,Bool.false_eq_true,if_false,if_true]

theorem vhciCleanup_free : (vhciCleanup ctx unplugs).2 = [] := by
  rw [vhciCleanup]
  split
  next _ => rfl
  next ready =>
    rw [vhciDetachAll,if_neg ready,vhciDetachPorts_free free]

end FreePorts

theorem vhciInit_free (alloc opened : Bool) (i : Fin vhciMaxPorts) :
    ((vhciInit alloc opened).2.port i).state = .free := by
  cases alloc <;> simp [vhciInit,VhciContext.port,VhciPortInfo.cleared]

/-- In a new process every port is free, so that the early return of
`vhci_detach` is taken whatever the driver has plugged in. -/
theorem cmdDetach_ready (port : Fin vhciMaxPorts) (driver : VhciDriver) :
    cmdDetach port.val true driver = (0,[]) := by
  have free := vhciInit_free true driver.opened
  have detached := vhciDetach_free free rfl port (driver.plugged port)
  have cleaned := vhciCleanup_free free driver.plugged
  have started : vhciInit true driver.opened = (.success,(vhciInit true driver.opened).2) := rfl
  rw [cmdDetach,started]
  dsimp only
  rw [if_neg (not_not.mpr rfl),vhciPortAt_val]
  dsimp only
  rw [detached]
  dsimp only
  rw [cleaned,if_neg (not_not.mpr rfl)]
  rfl

theorem cmdDetach_failed (port : Int) (driver : VhciDriver) : cmdDetach port false driver = (1,[]) :=
  rfl

/-- The command keeps its word only where it cannot do anything. -/
theorem detaches_iff (port : Fin vhciMaxPorts) (alloc : Bool) (driver : VhciDriver) :
    Detaches port alloc driver ↔ alloc = false ∨ driver.opened = false := by
  cases alloc with
  | false =>
    refine iff_of_true ?_ (.inl rfl)
    intro exited
    rw [cmdDetach_failed] at exited
    cases exited
  | true =>
    rw [Detaches,cmdDetach_ready]
    cases opened : driver.opened with
    | false => exact iff_of_true (fun _ opened => by cases opened) (.inr rfl)
    | true =>
      refine iff_of_false ?_ (by simp)
      intro detaches
      obtain ⟨ok,asked⟩ := detaches rfl rfl
      cases asked

def portZero : Fin vhciMaxPorts := ⟨0,by decide⟩

/-- A device is plugged into port 0; the command says that it is detached. -/
theorem detach_leaves_plugged :
    (cmdDetach portZero.val true ⟨true,fun _ => true⟩).1 = 0 ∧
      ¬ Detaches portZero true ⟨true,fun _ => true⟩ := by
  have done := cmdDetach_ready portZero ⟨true,fun _ => true⟩
  refine ⟨congrArg Prod.fst done,?_⟩
  intro detaches
  obtain ⟨ok,asked⟩ := detaches (congrArg Prod.fst done) rfl
  rw [done] at asked
  cases asked

end UsbOverNetwork
