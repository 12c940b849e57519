import Mathlib.Data.List.Nodup
import LocalAgentMtp.Startup
import LocalAgentMtp.Cascade

/-!
The MTP table inside the running agent. The state is the table together with the
instances the data model's `Device.LocalAgent.MTP` table holds (the live instances); an
operation is one entry of the data model into `device_mtp.c`:

* an add of an instance that is not live: `ValidateAdd_AgentMtp`, and, if it accepts,
  `Notify_AgentMtpAdded`; the instance is live afterwards exactly when that returned
  `USP_ERR_OK`;
* a delete of a live instance, `Notify_AgentMtpDeleted`;
* a write of a parameter of a live instance, which runs its change handler;
* the deletion of a STOMP connection, `DEVICE_MTP_NotifyStompConnDeleted`.

A state is reachable from the table `DEVICE_MTP_Init` leaves, either directly or through a
successful `DEVICE_MTP_Start`, by operations each of which returns rather than faults. The
other modules may answer each operation differently: every step takes its own `Env`.
-/

namespace LocalAgentMtp

/-- The table and the live instances of `Device.LocalAgent.MTP`. -/
structure Sys where
  agentMtps : AgentMtps
  live : List Int

/-- An entry of the data model into `device_mtp.c`. -/
inductive Op where
  | add (inst : Int)
  | delete (inst : Int)
  | write (inst : Int) (w : ParamWrite)
  | stompConnDeleted (stompInstance : Int)

/-- One operation: the state it leaves and the calls it makes, or the fault it stops on. -/
def Op.run (e : Env) (s : Sys) : Op → Except Fault (Sys × List Call)
  | .add inst =>
      if validateAddAgentMtp s.agentMtps ≠ uspErrOk then .ok (s, [])
      else
        let o := notifyAgentMtpAdded e s.agentMtps inst
        .ok (⟨o.agentMtps, if o.err = uspErrOk then s.live ++ [inst] else s.live⟩, o.calls)
  | .delete inst =>
      let o := notifyAgentMtpDeleted s.agentMtps inst
      .ok (⟨o.agentMtps, s.live.erase inst⟩, o.calls)
  | .write inst w =>
      match w.notifyChange e s.agentMtps inst with
      | .error f => .error f
      | .ok o => .ok (⟨o.agentMtps, s.live⟩, o.calls)
  | .stompConnDeleted c =>
      match deviceMtpNotifyStompConnDeleted e s.agentMtps c with
      | .error f => .error f
      | .ok o => .ok (⟨o.agentMtps, s.live⟩, o.calls)

/-- The operations the data model issues in a state: instance numbers it hands out are
positive, an add is of an instance that is not live, a delete or a write is of a live
one. -/
def Op.Allowed (s : Sys) : Op → Prop
  | .add inst => 0 < inst ∧ inst ∉ s.live
  | .delete inst => inst ∈ s.live
  | .write inst _ => inst ∈ s.live
  | .stompConnDeleted _ => True

instance (s : Sys) : (op : Op) → Decidable (op.Allowed s)
  | .add inst => inferInstanceAs (Decidable (0 < inst ∧ inst ∉ s.live))
  | .delete inst => inferInstanceAs (Decidable (inst ∈ s.live))
  | .write inst _ => inferInstanceAs (Decidable (inst ∈ s.live))
  | .stompConnDeleted _ => inferInstanceAs (Decidable True)

/-- The states of the agent's MTP table. -/
inductive Reachable : Sys → Prop
  | init : Reachable ⟨agentMtpsInit, []⟩
  | start (e : Env) (v : List Int) : e.getInstances = .ok v → v.Nodup → (∀ i ∈ v, 0 < i) →
      (deviceMtpStart e agentMtpsInit).err = uspErrOk →
      Reachable ⟨(deviceMtpStart e agentMtpsInit).agentMtps,
        (v.filter (populates e)).take maxAgentMtps⟩
  | step {s s' : Sys} {calls : List Call} (e : Env) (op : Op) :
      Reachable s → op.Allowed s → op.run e s = .ok (s', calls) → Reachable s'

/-! ### The table after each kind of operation -/

theorem Op.run_write {e : Env} {s s' : Sys} {calls : List Call} {inst : Int} {w : ParamWrite}
    (h : (Op.write inst w).run e s = .ok (s', calls)) :
    ∃ o, w.notifyChange e s.agentMtps inst = .ok o ∧ s' = ⟨o.agentMtps, s.live⟩ ∧
      calls = o.calls := by
  simp only [Op.run] at h
  split at h
  · cases h
  · cases h; exact ⟨_, ‹_›, rfl, rfl⟩

theorem Op.run_stompConnDeleted {e : Env} {s s' : Sys} {calls : List Call} {c : Int}
    (h : (Op.stompConnDeleted c).run e s = .ok (s', calls)) :
    ∃ o, deviceMtpNotifyStompConnDeleted e s.agentMtps c = .ok o ∧
      s' = ⟨o.agentMtps, s.live⟩ ∧ calls = o.calls := by
  simp only [Op.run] at h
  split at h
  · cases h
  · cases h; exact ⟨_, ‹_›, rfl, rfl⟩

theorem Op.run_add {e : Env} {s s' : Sys} {calls : List Call} {inst : Int}
    (h : (Op.add inst).run e s = .ok (s', calls)) :
    (s' = s ∧ calls = []) ∨
      (validateAddAgentMtp s.agentMtps = uspErrOk ∧
        s'.agentMtps = (processAgentMtpAdded e s.agentMtps inst).agentMtps ∧
        calls = (processAgentMtpAdded e s.agentMtps inst).calls ∧
        s'.live = if (processAgentMtpAdded e s.agentMtps inst).err = uspErrOk then
          s.live ++ [inst] else s.live) := by
  simp only [Op.run] at h
  split at h
  · cases h; exact .inl ⟨rfl, rfl⟩
  · cases h; exact .inr ⟨not_not.1 ‹_›, rfl, rfl, rfl⟩

/-! ### Runs

A run is a list of operations, each with the answers of its own `Env`. -/

/-- The state a run ends in and the calls it made, or `none` when one of its operations is
not one the data model issues in the state it meets, or faults. -/
def runOps (s : Sys) : List (Env × Op) → Option (Sys × List Call)
  | [] => some (s, [])
  | (e, op) :: rest =>
      if op.Allowed s then
        match op.run e s with
        | .ok (s', calls) => (runOps s' rest).map fun r => (r.1, calls ++ r.2)
        | .error _ => none
      else none

theorem Reachable.runOps {s : Sys} (hs : Reachable s) {ops : List (Env × Op)}
    {r : Sys × List Call} (h : runOps s ops = some r) : Reachable r.1 := by
  induction ops generalizing s r with
  | nil => cases h; exact hs
  | cons step rest ih =>
      obtain ⟨e, op⟩ := step
      simp only [LocalAgentMtp.runOps] at h
      split at h
      · split at h
        · rename_i s' calls hrun
          obtain ⟨r', hr', rfl⟩ := Option.map_eq_some'.1 h
          exact (ih (.step e op hs ‹_› hrun) hr' : Reachable r'.1)
        · cases h
      · cases h

/-- A data model each of whose instances holds the same stored row, in which only the
reference `Device.STOMP.Connection.1` resolves, to connection 1, and every other call
succeeds. -/
def storeEnv (enable : Bool) (protocol : MtpProtocol) (reference destination : String)
    (port : UInt32) (path : String) : Env where
  getInstances := .ok []
  getEnable _ := .ok enable
  getProtocol _ := .ok protocol
  getStompReference _ := .ok reference
  getStompDestination _ := .ok destination
  getCoapPort _ := .ok port
  getCoapPath _ := .ok path
  validateReference value :=
    if value = "Device.STOMP.Connection.1" then .ok 1 else .error ⟨uspErrInvalidValue, by decide⟩
  coapStartServer _ _ _ := uspErrOk
  clearStompReferenceNotifies _ := true
  deleteInstance _ := uspErrOk
  stompGetMtpStatus _ := .up
  coapGetServerStatus _ := .up
  stompGetDestinationFromServer _ := ""

def stompRow : Env := storeEnv true .stomp "Device.STOMP.Connection.1" "q" 5683 ""

/-- The state after the data model adds instance 1 from `stompRow` to the table
`DEVICE_MTP_Init` leaves: one live instance, enabled on STOMP connection 1 with queue `q`. -/
def stompAdded : Sys := ⟨(processAgentMtpAdded stompRow agentMtpsInit 1).agentMtps, [1]⟩

theorem reachable_stompAdded : Reachable stompAdded := .step stompRow (.add 1) .init (by decide) rfl

/-- The live instances are positive and distinct in every reachable state. -/
theorem Reachable.live_pos_nodup {s : Sys} (hs : Reachable s) :
    (∀ i ∈ s.live, 0 < i) ∧ s.live.Nodup := by
  induction hs with
  | init => simp
  | start e v _ hnd hpos _ =>
      exact ⟨fun i hi => hpos i (List.mem_of_mem_filter (List.mem_of_mem_take hi)),
        (hnd.sublist (List.filter_sublist v)).sublist (List.take_sublist _ _)⟩
  | step e op _ hallow hrun ih =>
      cases op with
      | add inst =>
          rcases Op.run_add hrun with ⟨rfl, -⟩ | ⟨-, -, -, hlive⟩
          · exact ih
          · rw [hlive]
            split
            · refine ⟨fun i hi => ?_, ih.2.append (List.nodup_singleton _) ?_⟩
              · rcases List.mem_append.1 hi with hi | hi
                · exact ih.1 i hi
                · exact List.mem_singleton.1 hi ▸ hallow.1
              · exact List.disjoint_singleton.2 hallow.2
            · exact ih
      | delete inst =>
          simp only [Op.run, Except.ok.injEq, Prod.mk.injEq] at hrun
          obtain ⟨rfl, -⟩ := hrun
          exact ⟨fun i hi => ih.1 i (List.mem_of_mem_erase hi), ih.2.erase inst⟩
      | write inst w =>
          obtain ⟨o, -, rfl, -⟩ := Op.run_write hrun
          exact ih
      | stompConnDeleted c =>
          obtain ⟨o, -, rfl, -⟩ := Op.run_stompConnDeleted hrun
          exact ih

end LocalAgentMtp
