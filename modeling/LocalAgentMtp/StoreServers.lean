import LocalAgentMtp.Store
import LocalAgentMtp.Servers

/-!
The CoAP servers against the store. `Servers` follows the servers a log of calls leaves
running against the table, and `Store` shows the table caching the stored rows; together
they say that the servers that run are those the stored rows ask for. A server runs for an
instance exactly when the instance is held and its stored row is an enabled CoAP MTP, on
the stored port and path, given that every `COAP_StartServer` succeeded; without that, a
running server is still one the store asks for.

This holds along the coherent runs with their log, which may begin with a successful
`DEVICE_MTP_Start` whose reads come from the store, as the agent boots: the startup loop
starts the server of each enabled CoAP instance it holds, and of no other.
-/

namespace LocalAgentMtp

/-! ### The server a stored row asks for -/

/-- The CoAP server the stored row of instance `i` asks for: on the stored port and path,
when the row is an enabled CoAP MTP. -/
def Store.server (st : Store) (i : Int) : Option (UInt32 × Option String) :=
  if (st.rows i).enable = true ∧
      textUtilsStringToEnum (st.rows i).protocol mtpProtocols = some .coap then
    some ((st.rows i).coapPort, some (st.rows i).coapPath)
  else none

theorem Mirrors.expectedServer_eq {st : Store} {mtp : AgentMtp} (hm : Mirrors st mtp) :
    expectedServer mtp = st.server mtp.inst := by
  obtain ⟨h₁, h₂, -, -, h₅, h₆⟩ := hm
  rw [expectedServer, Store.server, ← h₁, h₂, ← h₅, ← h₆]
  simp only [Option.some.injEq]

theorem TableMirrors.heldServer_eq {st : Store} {t : AgentMtps} (ht : TableMirrors st t)
    {i : Int} (hi : 0 < i) : heldServer t i = if i ∈ heldInstances t then st.server i else none := by
  split_ifs with hheld
  · obtain ⟨k, mtp, hfind⟩ := findAgentMtpByInstance_of_held hheld
    have hmir := ht mtp (mem_of_findSlot_eq_some hfind) (findAgentMtpByInstance_occupied hfind hi)
    rw [heldServer_of_find hfind, hmir.expectedServer_eq, beq_iff_eq.1 (findSlot_eq_some hfind).2.1]
  · exact heldServer_of_absent fun mtp hm hinst => hheld (mem_heldInstances.2
      ⟨mtp, hm, AgentMtp.occupied_of_pos (hinst ▸ hi), hinst⟩)

theorem CoherentRun.heldServer_eq {st : Store} {s : Sys} (h : CoherentRun st s) {i : Int}
    (hi : 0 < i) : heldServer s.agentMtps i = if i ∈ s.live then st.server i else none := by
  rw [h.tableMirrors.heldServer_eq hi]
  simp only [h.keepingSlots.perm.mem_iff]

/-! ### Along a coherent run -/

/-- The coherent runs with the log of the calls their operations made. -/
inductive CoherentLoggedRun : Store → Sys → List Call → Prop
  | init (st : Store) : CoherentLoggedRun st ⟨agentMtpsInit, []⟩ []
  | start (st : Store) (base : Env) (v : List Int) : base.getInstances = .ok v → v.Nodup →
      (∀ i ∈ v, 0 < i) → (deviceMtpStart (st.env base) agentMtpsInit).err = uspErrOk →
      CoherentLoggedRun st ⟨(deviceMtpStart (st.env base) agentMtpsInit).agentMtps,
        (v.filter (populates (st.env base))).take maxAgentMtps⟩
        (deviceMtpStart (st.env base) agentMtpsInit).calls
  | add {st : Store} {s s' : Sys} {log calls : List Call} (base : Env) (i : Int) (row : Row) :
      CoherentLoggedRun st s log → (Op.add i).Allowed s →
      (Op.add i).run ((st.setRow i row).env base) s = .ok (s', calls) →
      CoherentLoggedRun (st.setRow i row) s' (log ++ calls)
  | delete {st : Store} {s s' : Sys} {log calls : List Call} (base : Env) (i : Int) :
      CoherentLoggedRun st s log → (Op.delete i).Allowed s → ¬ (Op.delete i).DeletesDisabled s →
      (Op.delete i).run (st.env base) s = .ok (s', calls) → CoherentLoggedRun st s' (log ++ calls)
  | write {st : Store} {s s' : Sys} {log calls : List Call} (base : Env) (i : Int)
      (w : ParamWrite) :
      CoherentLoggedRun st s log → (Op.write i w).Allowed s → w.Valid (st.env base) →
      (Op.write i w).run ((st.setRow i ((st.rows i).write w)).env base) s = .ok (s', calls) →
      CoherentLoggedRun (st.setRow i ((st.rows i).write w)) s' (log ++ calls)
  | stompConnDeleted {st : Store} {s s' : Sys} {log calls : List Call} (base : Env) (c : Int) :
      CoherentLoggedRun st s log →
      (Op.stompConnDeleted c).run ((st.deleteConnection c s.agentMtps).env base) s =
        .ok (s', calls) →
      CoherentLoggedRun (st.deleteConnection c s.agentMtps) s' (log ++ calls)

theorem CoherentLoggedRun.coherentRun {st : Store} {s : Sys} {log : List Call}
    (h : CoherentLoggedRun st s log) : CoherentRun st s := by
  induction h with
  | init st => exact .init st
  | start st base v hv hnd hpos hok => exact .start st base v hv hnd hpos hok
  | add base i row _ hallow hrun ih => exact .add base i row ih hallow hrun
  | delete base i _ hallow hkeep hrun ih => exact .delete base i ih hallow hkeep hrun
  | write base i w _ hallow hv hrun ih => exact .write base i w ih hallow hv hrun
  | stompConnDeleted base c _ hrun ih => exact .stompConnDeleted base c ih hrun

theorem CoherentLoggedRun.logged {st : Store} {s : Sys} {log : List Call}
    (h : CoherentLoggedRun st s log) : LoggedKeepingSlots s log := by
  induction h with
  | init => exact .init
  | start st base v hv hnd hpos hok => exact .start (st.env base) v hv hnd hpos hok
  | add base i row _ hallow hrun ih => exact .step _ _ ih hallow (fun h => h) hrun
  | delete base i _ hallow hkeep hrun ih => exact .step _ _ ih hallow hkeep hrun
  | write base i w _ hallow _ hrun ih => exact .step _ _ ih hallow (fun h => h) hrun
  | stompConnDeleted base c _ hrun ih => exact .step _ (.stompConnDeleted c) ih trivial id hrun

/-- Along a coherent run with its log, the CoAP servers that run are those the store asks
for. A running server is that of a live instance whose stored row is an enabled CoAP MTP,
on the stored port and path. When every start has succeeded, each such live instance runs
its server. -/
theorem CoherentLoggedRun.serversFollowStore {st : Store} {s : Sys} {log : List Call}
    (h : CoherentLoggedRun st s log) :
    (∀ i, runningServer log i = none ∨ (i ∈ s.live ∧ runningServer log i = st.server i)) ∧
      ((∀ i port path err, .coapStartServer i port path err ∈ log → err = uspErrOk) →
        ∀ i ∈ s.live, runningServer log i = st.server i) := by
  have hm := h.logged.serversMatch
  have hc := h.coherentRun
  refine ⟨fun i => ?_, fun hok i hi => ?_⟩
  · rcases hm.fit i with hnone | ⟨hi, hrun⟩
    · exact .inl hnone
    rw [hc.heldServer_eq hi] at hrun
    split_ifs at hrun with hlive
    · exact .inr ⟨hlive, hrun⟩
    · exact .inl hrun
  · have hpos := hc.keepingSlots.reachable.live_pos_nodup.1 i hi
    rw [hm.up hok i hpos, hc.heldServer_eq hpos, if_pos hi]

def coapStore : Store where
  rows _ := ⟨true, "CoAP", "", "", 5683, "/usp"⟩
  names _ := none
  connections := []

def coapBoot : Env := { coapRow with getInstances := .ok [1] }

theorem CoherentLoggedRun.serversFollowStore_coapBoot :
    ∃ st s log, CoherentLoggedRun st s log ∧ s.live = [1] ∧
      (∀ i, runningServer log i = none ∨ (i ∈ s.live ∧ runningServer log i = st.server i)) ∧
      ((∀ i port path err, .coapStartServer i port path err ∈ log → err = uspErrOk) →
        ∀ i ∈ s.live, runningServer log i = st.server i) :=
  have h := CoherentLoggedRun.start coapStore coapBoot [1] rfl (List.nodup_singleton 1)
    (by decide) rfl
  ⟨_, _, _, h, rfl, CoherentLoggedRun.serversFollowStore h⟩

end LocalAgentMtp
