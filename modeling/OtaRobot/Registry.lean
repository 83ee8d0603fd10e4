import OtaRobot.ControlPlane
import OtaRobot.Handlers.Devices

/-!
# The control plane with its device handlers

The device handlers know nothing of the rollout manager, but share its database.  A step is
one of the control plane or one of the device handlers.

Main results:

- Theorem {lit}`Registry.step_cases`: everything one step can do.
- Theorem {lit}`Registry.handler_step`: a device handler leaves deployments alone, and the
  rows of a deployment unless it deletes devices.
-/

namespace OtaRobot.Registry

open Transition

/-- The database stands in the store of the control plane. -/
structure State where
  plane : ControlPlane.Config
  handlers : DeviceHandlers.Config

/-- A step of the control plane or of the device handlers. -/
inductive Label where
  | plane (l : ControlPlane.Label)
  | handler (l : DeviceHandlers.Label)
deriving DecidableEq, Repr

/-- Nothing is under way at the start. -/
def start (db : Db) : State where
  plane := ControlPlane.start db
  handlers := Machine.initial db

/-- The control plane on another database. -/
def withDb (c : ControlPlane.Config) (db : Db) : ControlPlane.Config :=
  { c with store := { c.store with db := db } }

/-- One step on the common tables. -/
def step (s : State) : Label → Option State
  | .plane l => (ControlPlane.step s.plane l).map fun plane => { s with plane }
  | .handler l =>
      (DeviceHandlers.machine.step { s.handlers with store := s.plane.store.db } l).map
        fun handlers => { plane := withDb s.plane handlers.store, handlers }

/-- A step is one of the control plane, the start of a device request, or one operation of a
device handler. -/
theorem step_cases {s s' : State} {l : Label} (h : step s l = some s') :
    (∃ lp, l = .plane lp ∧ ControlPlane.step s.plane lp = some s'.plane) ∨
      (∃ i call, l = .handler (.spawn i call) ∧ s'.plane = s.plane) ∨
        ∃ i x call op k, l = .handler (.step i x) ∧
          s.handlers.thread i = some (call, .call op k) ∧
            s'.plane = withDb s.plane (DeviceHandlers.exec s.plane.store.db op x).2 := by
  cases l with
  | plane lp =>
      left
      obtain ⟨plane, hplane, rfl⟩ := Option.map_eq_some_iff.mp h
      exact ⟨lp, rfl, hplane⟩
  | handler lh =>
      right
      obtain ⟨handlers, hstep, rfl⟩ := Option.map_eq_some_iff.mp h
      obtain ⟨i, call, rfl, hs⟩ | ⟨i, x, call, op, k, r, rfl, hs⟩ := Machine.step_cases hstep
      · left
        have haccept : some s.plane.store.db = some handlers.store := hs.accepted
        refine ⟨i, call, rfl, ?_⟩
        rw [withDb, ← Option.some.inj haccept]
      · right
        have heffect : DeviceHandlers.exec s.plane.store.db op x = (r, handlers.store) := hs.effect
        refine ⟨i, x, call, op, k, rfl, hs.before, ?_⟩
        rw [heffect]

/-- What an operation of a device handler does to the control plane. -/
theorem handler_step {s s' : State} {op : DeviceOp} {x : DeviceHandlers.Choice}
    (h : s'.plane = withDb s.plane (DeviceHandlers.exec s.plane.store.db op x).2) :
    s'.plane.threads = s.plane.threads ∧ s'.plane.trace = s.plane.trace ∧
      (∀ id, ControlPlane.deployment s'.plane id = ControlPlane.deployment s.plane id) ∧
        ((∀ id, s'.plane.store.db.rowsOf id = s.plane.store.db.rowsOf id) ∨
          x.fault = false ∧ ∀ id, s'.plane.store.db.rowsOf id =
            (s.plane.store.db.rowsOf id).filter fun row =>
              !(s.plane.store.db.device row.deviceID).any op.deletes) := by
  obtain ⟨hdeployments, hrows⟩ := DeviceHandlers.effect s.plane.store.db op x
  rw [h]
  refine ⟨rfl, rfl, fun id => ?_, hrows⟩
  simp only [ControlPlane.deployment, Db.deployment, withDb, hdeployments]

end OtaRobot.Registry
