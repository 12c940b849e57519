import LocalAgentMtp.Store

/-!
A restart of the agent against its own store: `DEVICE_MTP_Init`, then `DEVICE_MTP_Start`
reading the rows the running agent has left, with the data model handing back the live
instances in an order of its own.

Each slot of a coherent run mirrors its stored row, so population reads that very slot back,
except in two ways: the reference of the row may name a connection that no longer exists,
which `DEVICE_MTP_GetStompReference` then fails to resolve, and the CoAP server of an
enabled CoAP row may fail to start. The deletion of a connection empties only the
references of the STOMP slots that use it, so the first happens to a CoAP instance that
was set up with a reference to a connection later deleted.

The results say what a restart keeps. When every live instance's reference resolves and
its CoAP server starts, the restart is a round trip: it returns `USP_ERR_OK`, deletes
nothing and rebuilds the same occupied slots, in the data model's order, and each STOMP
connection whose live instances agree on their queue is given that queue again. In general
a live instance comes back exactly when both hold, and is otherwise deleted from the data
model.
-/

namespace LocalAgentMtp

/-- The stored reference of instance `i` is empty or names a connection that exists. -/
def Store.ReferenceLive (st : Store) (i : Int) : Prop :=
  (st.rows i).reference = "" ∨ ∃ c ∈ st.connections, st.names (st.rows i).reference = some c

instance (st : Store) (i : Int) : Decidable (st.ReferenceLive i) :=
  inferInstanceAs (Decidable ((st.rows i).reference = "" ∨
    ∃ c ∈ st.connections, st.names (st.rows i).reference = some c))

/-- The CoAP server of instance `i` starts, if its stored row is an enabled CoAP MTP. -/
def Store.CoapRestarts (st : Store) (base : Env) (i : Int) : Prop :=
  (st.rows i).enable = true → textUtilsStringToEnum (st.rows i).protocol mtpProtocols = some .coap →
    base.coapStartServer i (st.rows i).coapPort (some (st.rows i).coapPath) = uspErrOk

instance (st : Store) (base : Env) (i : Int) : Decidable (st.CoapRestarts base i) :=
  inferInstanceAs (Decidable ((st.rows i).enable = true →
    textUtilsStringToEnum (st.rows i).protocol mtpProtocols = some .coap →
      base.coapStartServer i (st.rows i).coapPort (some (st.rows i).coapPath) = uspErrOk))

theorem Store.referenceLive_iff {st : Store} {base : Env} {i : Int} :
    st.ReferenceLive i ↔
      ∃ c, deviceMtpGetStompReference (st.env base) (.ok (st.rows i).reference) = .ok c := by
  unfold Store.ReferenceLive deviceMtpGetStompReference
  by_cases hr : (st.rows i).reference = ""
  · simp [hr]
  · simp only [hr, false_or, if_false, Store.env_validateReference, Store.validateReference_eq_ok]
    exact ⟨fun ⟨c, hc, hn⟩ => ⟨c, hn, hc⟩, fun ⟨c, hn, hc⟩ => ⟨c, hc, hn⟩⟩

/-! ### Population of an instance from its stored row -/

theorem referenceLive_of_readAgentMtp {st : Store} {base : Env} {i : Int} {mtp : AgentMtp}
    (h : readAgentMtp (st.env base) i = .ok mtp) : st.ReferenceLive i := by
  simp only [readAgentMtp, bind, Except.bind, Store.env_getEnable, Store.env_getProtocol,
    Store.env_getStompReference] at h
  split at h
  · cases h
  · split at h
    · cases h
    · exact Store.referenceLive_iff.2 ⟨_, ‹_›⟩

theorem readAgentMtp_of_mirrors {st : Store} {base : Env} {mtp : AgentMtp} (hm : Mirrors st mtp)
    (hr : st.ReferenceLive mtp.inst) : readAgentMtp (st.env base) mtp.inst = .ok mtp := by
  obtain ⟨mtp', hread⟩ : ∃ mtp', readAgentMtp (st.env base) mtp.inst = .ok mtp' := by
    obtain ⟨c, hc⟩ := (@Store.referenceLive_iff st base mtp.inst).1 hr
    simp only [readAgentMtp, bind, Except.bind, Store.env_getEnable, Store.env_getProtocol,
      hm.2.1, Store.env_getStompReference, hc, Store.env_getStompDestination,
      Store.env_getCoapPort, Store.env_getCoapPath, pure, Except.pure]
    exact ⟨_, rfl⟩
  rw [hread, (readAgentMtp_mirrors hread).eq hm (readAgentMtp_inst hread)]

theorem populatedAgentMtp_of_mirrors {st : Store} {base : Env} {mtp : AgentMtp}
    (hm : Mirrors st mtp) :
    (st.ReferenceLive mtp.inst ∧ st.CoapRestarts base mtp.inst →
        populatedAgentMtp (st.env base) mtp.inst = some mtp) ∧
      (populates (st.env base) mtp.inst = true →
        st.ReferenceLive mtp.inst ∧ st.CoapRestarts base mtp.inst) := by
  obtain ⟨h₁, h₂, -, -, h₅, h₆⟩ := id hm
  have hstart : (coapStart (st.env base) mtp).2 =
      base.coapStartServer mtp.inst (st.rows mtp.inst).coapPort
        (some (st.rows mtp.inst).coapPath) := by
    rw [coapStart, ← h₅, ← h₆]; rfl
  constructor
  · rintro ⟨hr, hc⟩
    rw [populatedAgentMtp, readAgentMtp_of_mirrors hm hr]
    refine if_neg fun ⟨hp, he, hfail⟩ => hfail ?_
    rw [hstart]
    exact hc (h₁ ▸ he) (h₂.trans (congrArg some hp))
  · intro hpop
    obtain ⟨mtp', hmtp'⟩ := Option.isSome_iff_exists.1 hpop
    have hr := referenceLive_of_readAgentMtp (readAgentMtp_of_populatedAgentMtp hmtp')
    refine ⟨hr, fun he hp => ?_⟩
    rw [populatedAgentMtp, readAgentMtp_of_mirrors hm hr] at hmtp'
    dsimp only at hmtp'
    have hcoap : mtp.protocol = .coap := Option.some.inj (h₂.symm.trans hp)
    rw [← hstart]
    by_contra hfail
    rw [if_pos ⟨hcoap, h₁ ▸ he, hfail⟩] at hmtp'
    cases hmtp'

/-! ### The restart -/

/-- A live instance of a coherent run populates exactly when its stored reference resolves
and its CoAP server starts. -/
theorem CoherentRun.populates_iff {st : Store} {s : Sys} (h : CoherentRun st s) (base : Env)
    {i : Int} (hi : i ∈ s.live) :
    populates (st.env base) i = true ↔ st.ReferenceLive i ∧ st.CoapRestarts base i := by
  obtain ⟨k, mtp, hfind, rfl, -, hmir⟩ := h.find_mirrors hi
  obtain ⟨hsome, hpop⟩ := @populatedAgentMtp_of_mirrors st base mtp hmir
  exact ⟨hpop, fun hr => by simp [populates, hsome hr]⟩

theorem CoherentRun.restart_instances {st : Store} {s : Sys} (h : CoherentRun st s)
    {v : List Int} (hperm : v.Perm s.live) :
    v.Nodup ∧ (∀ i ∈ v, 0 < i) ∧ v.length ≤ maxAgentMtps := by
  have hpn := h.keepingSlots.reachable.live_pos_nodup
  refine ⟨hperm.nodup_iff.2 hpn.2, fun i hi => hpn.1 i (hperm.subset hi), ?_⟩
  rw [hperm.length_eq, ← h.keepingSlots.perm.length_eq, heldInstances_eq_map_filter,
    List.length_map, ← s.agentMtps.length_slots]
  exact List.length_filter_le _ _

/-- A restart of a coherent state that returns `USP_ERR_OK` holds the live instances that
populate, in the data model's order, and deletes exactly the others. -/
theorem CoherentRun.restart_spec {st : Store} {s : Sys} (h : CoherentRun st s) {base : Env}
    {v : List Int} (hv : base.getInstances = .ok v) (hperm : v.Perm s.live)
    (hok : (deviceMtpStart (st.env base) agentMtpsInit).err = uspErrOk) :
    StartTable (st.env base) (v.filter (populates (st.env base)))
        (deviceMtpStart (st.env base) agentMtpsInit).agentMtps ∧
      ∀ i err, Call.deleteInstance i err ∈ (deviceMtpStart (st.env base) agentMtpsInit).calls ↔
        i ∈ v ∧ populates (st.env base) i = false ∧ err = uspErrOk := by
  obtain ⟨hnd, hpos, hlen⟩ := h.restart_instances hperm
  rw [deviceMtpStart_of_getInstances (Store.env_getInstances st base ▸ hv)] at hok ⊢
  obtain ⟨hst, hcalls⟩ := deviceMtpStartLoop_spec _ v [] agentMtpsInit (startTable_init _) hnd
    hpos (fun _ _ h => nomatch h) (fun _ h => nomatch h) hok
  simp only [List.nil_append, List.length_nil, Nat.sub_zero,
    List.take_of_length_le ((List.length_filter_le _ _).trans hlen)] at hst hcalls
  refine ⟨hst, fun i err => (hcalls i err).trans ?_⟩
  simp only [List.mem_filter, not_and, Bool.not_eq_true]
  exact ⟨fun ⟨hi, hp, he⟩ => ⟨hi, hp hi, he⟩, fun ⟨hi, hp, he⟩ => ⟨hi, fun _ => hp, he⟩⟩

section RoundTrip

variable {st : Store} {s : Sys} (h : CoherentRun st s) {base : Env} {v : List Int}
  (hv : base.getInstances = .ok v) (hperm : v.Perm s.live)
  (href : ∀ i ∈ s.live, st.ReferenceLive i) (hcoap : ∀ i ∈ s.live, st.CoapRestarts base i)
include h href hcoap

theorem CoherentRun.restart_populated :
    ∀ x ∈ s.agentMtps.slots.filter (·.Occupied), populatedAgentMtp (st.env base) x.inst = some x := by
  intro x hx
  have hi := h.keepingSlots.perm.subset
    ((heldInstances_eq_map_filter _).symm ▸ List.mem_map_of_mem AgentMtp.inst hx)
  obtain ⟨hx, hocc⟩ := List.mem_filter.1 hx
  exact (populatedAgentMtp_of_mirrors (h.tableMirrors x hx (of_decide_eq_true hocc))).1
    ⟨href _ hi, hcoap _ hi⟩

include hperm

theorem CoherentRun.restart_filter : v.filter (populates (st.env base)) = v :=
  List.filter_eq_self.2 fun _ hi => (h.populates_iff base (hperm.subset hi)).2
    ⟨href _ (hperm.subset hi), hcoap _ (hperm.subset hi)⟩

include hv

theorem CoherentRun.restart_ok : (deviceMtpStart (st.env base) agentMtpsInit).err = uspErrOk := by
  obtain ⟨hnd, hpos, hlen⟩ := h.restart_instances hperm
  rw [deviceMtpStart_of_getInstances (Store.env_getInstances st base ▸ hv)]
  exact deviceMtpStartLoop_err_of_populates _ v [] _ (startTable_init _) hnd hpos
    (fun _ _ h => nomatch h) (fun _ h => nomatch h)
    (List.filter_eq_self.1 (h.restart_filter hperm href hcoap))
    (by rwa [List.length_nil, Nat.zero_add])

theorem CoherentRun.restart_occupied_perm :
    ((deviceMtpStart (st.env base) agentMtpsInit).agentMtps.slots.filter (·.Occupied)).Perm
      (s.agentMtps.slots.filter (·.Occupied)) := by
  have hst := (h.restart_spec hv hperm (h.restart_ok hv hperm href hcoap)).1
  rw [h.restart_filter hperm href hcoap] at hst
  obtain ⟨hinst, hpop⟩ := hst.occupied (h.restart_instances hperm).2.1
  rw [← filterMap_populatedAgentMtp hpop, hinst,
    ← filterMap_populatedAgentMtp (h.restart_populated href hcoap)]
  exact (hperm.trans ((heldInstances_eq_map_filter _) ▸ h.keepingSlots.perm).symm).filterMap _

end RoundTrip

/-- Restart round trip. A restart of an agent in a coherent state, against its own store,
with the data model handing back the live instances in any order, returns `USP_ERR_OK`,
deletes no instance, makes the same instances live, in the data model's order, and fills
the occupied slots the running table had, up to their order, provided each live
instance's stored reference resolves and each enabled CoAP instance's server starts. -/
theorem CoherentRun.restartRebuildsTable {st : Store} {s : Sys} (h : CoherentRun st s)
    {base : Env} {v : List Int} (hv : base.getInstances = .ok v) (hperm : v.Perm s.live)
    (href : ∀ i ∈ s.live, st.ReferenceLive i) (hcoap : ∀ i ∈ s.live, st.CoapRestarts base i) :
    (deviceMtpStart (st.env base) agentMtpsInit).err = uspErrOk ∧
      (v.filter (populates (st.env base))).take maxAgentMtps = v ∧
      (∀ i err, Call.deleteInstance i err ∉ (deviceMtpStart (st.env base) agentMtpsInit).calls) ∧
      ((deviceMtpStart (st.env base) agentMtpsInit).agentMtps.slots.filter (·.Occupied)).Perm
        (s.agentMtps.slots.filter (·.Occupied)) := by
  have hok := h.restart_ok hv hperm href hcoap
  have hfilter := h.restart_filter hperm href hcoap
  refine ⟨hok, by rw [hfilter, List.take_of_length_le (h.restart_instances hperm).2.2],
    fun i err hm => ?_, h.restart_occupied_perm hv hperm href hcoap⟩
  obtain ⟨hi, hp, -⟩ := ((h.restart_spec hv hperm hok).2 i err).1 hm
  rw [List.filter_eq_self.1 hfilter i hi] at hp
  cases hp

def oneInstanceBoot : Env := { stompRow with getInstances := .ok [1] }

theorem CoherentRun.restartRebuildsTable_stompStore :
    ∃ st s, CoherentRun st s ∧ s.live = [1] ∧
      (∀ i ∈ s.live, st.ReferenceLive i) ∧ (∀ i ∈ s.live, st.CoapRestarts oneInstanceBoot i) ∧
      (deviceMtpStart (st.env oneInstanceBoot) agentMtpsInit).err = uspErrOk ∧
      ([1].filter (populates (st.env oneInstanceBoot))).take maxAgentMtps = [1] ∧
      (∀ i err, Call.deleteInstance i err ∉
        (deviceMtpStart (st.env oneInstanceBoot) agentMtpsInit).calls) ∧
      ((deviceMtpStart (st.env oneInstanceBoot) agentMtpsInit).agentMtps.slots.filter
        (·.Occupied)).Perm (s.agentMtps.slots.filter (·.Occupied)) :=
  have h := CoherentRun.add stompRow 1 (stompStore.rows 1) (.init stompStore) (by decide) rfl
  have href : ∀ i ∈ [(1 : Int)], (stompStore.setRow 1 (stompStore.rows 1)).ReferenceLive i := by
    decide
  have hcoap : ∀ i ∈ [(1 : Int)],
      (stompStore.setRow 1 (stompStore.rows 1)).CoapRestarts oneInstanceBoot i := by
    decide
  ⟨_, _, h, rfl, href, hcoap,
    CoherentRun.restartRebuildsTable h rfl (.refl _) href hcoap⟩

/-! ### The queues after a restart

`DEVICE_MTP_GetAgentStompQueue(c)` answers from the first slot that serves `c`, and a
restart fills the slots in the data model's order rather than in the order the running
table had, so the queue a connection gets after a restart is the one it had when the live
instances configured on it agree on their queue. -/

theorem findSome?_occupied {β : Type} (g : AgentMtp → Option β) (l : List AgentMtp) :
    l.findSome? (fun x => if x.Occupied then g x else none) =
      (l.filter (·.Occupied)).findSome? g := by
  induction l with
  | nil => rfl
  | cons x rest ih =>
      by_cases hx : x.Occupied
      · cases hg : g x <;> simp [List.findSome?_cons, List.filter_cons, hx, hg, ih]
      · simp [List.findSome?_cons, List.filter_cons, hx, ih]

theorem findSome?_eq_of_perm {α β : Type} {g : α → Option β} {l l' : List α} (hp : l.Perm l')
    (hagree : ∀ x ∈ l, ∀ y ∈ l, ∀ a b, g x = some a → g y = some b → a = b) :
    l.findSome? g = l'.findSome? g := by
  cases h₁ : l.findSome? g with
  | none =>
      exact (List.findSome?_eq_none_iff.2 fun x hx =>
        List.findSome?_eq_none_iff.1 h₁ x (hp.symm.subset hx)).symm
  | some a =>
      obtain ⟨x, hx, hgx⟩ := List.exists_of_findSome?_eq_some h₁
      cases h₂ : l'.findSome? g with
      | none => simp [List.findSome?_eq_none_iff.1 h₂ x (hp.subset hx)] at hgx
      | some b =>
          obtain ⟨y, hy, hgy⟩ := List.exists_of_findSome?_eq_some h₂
          rw [hagree x hx y (hp.symm.subset hy) a b hgx hgy]

/-- A restart keeps the queues. In the setting of the round trip, every connection `c` on
which the live instances configured as enabled STOMP MTPs with a queue agree on that queue
gets the same answer from `DEVICE_MTP_GetAgentStompQueue(c)` after the restart as before. -/
theorem CoherentRun.restartKeepsQueue {st : Store} {s : Sys} (h : CoherentRun st s)
    {base : Env} {v : List Int} (hv : base.getInstances = .ok v) (hperm : v.Perm s.live)
    (href : ∀ i ∈ s.live, st.ReferenceLive i) (hcoap : ∀ i ∈ s.live, st.CoapRestarts base i)
    (c : Int) (hagree : ∀ i ∈ s.live, ∀ j ∈ s.live, ∀ q q',
      st.queueFor c i = some q → st.queueFor c j = some q' → q = q') :
    deviceMtpGetAgentStompQueue (deviceMtpStart (st.env base) agentMtpsInit).agentMtps c =
      deviceMtpGetAgentStompQueue s.agentMtps c := by
  obtain ⟨hnd, hpos, -⟩ := h.restart_instances hperm
  have hlive : ∀ x ∈ s.agentMtps.slots.filter (·.Occupied), x.inst ∈ s.live := fun x hx =>
    h.keepingSlots.perm.subset
      ((heldInstances_eq_map_filter _).symm ▸ List.mem_map_of_mem AgentMtp.inst hx)
  rw [(tableMirrors_deviceMtpStart hv hnd hpos (h.restart_ok hv hperm href hcoap)).getAgentStompQueue,
    h.tableMirrors.getAgentStompQueue, findSome?_occupied, findSome?_occupied]
  exact congrArg Except.ok (findSome?_eq_of_perm (h.restart_occupied_perm hv hperm href hcoap).symm
    fun x hx y hy => hagree _ (hlive x hx) _ (hlive y hy)).symm

theorem CoherentRun.restartKeepsQueue_stompStore :
    ∃ st s, CoherentRun st s ∧ s.live = [1] ∧
      deviceMtpGetAgentStompQueue s.agentMtps 1 = .ok (some "q") ∧
      deviceMtpGetAgentStompQueue (deviceMtpStart (st.env oneInstanceBoot) agentMtpsInit).agentMtps 1 =
        deviceMtpGetAgentStompQueue s.agentMtps 1 :=
  have h := CoherentRun.add stompRow 1 (stompStore.rows 1) (.init stompStore) (by decide) rfl
  have href : ∀ i ∈ [(1 : Int)], (stompStore.setRow 1 (stompStore.rows 1)).ReferenceLive i := by
    decide
  have hcoap : ∀ i ∈ [(1 : Int)],
      (stompStore.setRow 1 (stompStore.rows 1)).CoapRestarts oneInstanceBoot i := by
    decide
  have hagree : ∀ i ∈ [(1 : Int)], ∀ j ∈ [(1 : Int)], ∀ q q',
      (stompStore.setRow 1 (stompStore.rows 1)).queueFor 1 i = some q →
        (stompStore.setRow 1 (stompStore.rows 1)).queueFor 1 j = some q' → q = q' := by
    intro i hi j hj q q' hq hq'
    obtain rfl := List.mem_singleton.1 hi
    obtain rfl := List.mem_singleton.1 hj
    exact Option.some.inj (hq.symm.trans hq')
  ⟨_, _, h, rfl, rfl, CoherentRun.restartKeepsQueue h rfl (.refl _) href hcoap 1 hagree⟩

/-- What a restart keeps. A restart of an agent in a coherent state, against its own store,
with the data model handing back the live instances in any order, that returns
`USP_ERR_OK`, brings a live instance back exactly when its stored reference resolves and
its CoAP server starts; every other live instance is deleted from the data model and no
slot holds it. -/
theorem CoherentRun.restartKeepsResolvable {st : Store} {s : Sys} (h : CoherentRun st s)
    {base : Env} {v : List Int} (hv : base.getInstances = .ok v) (hperm : v.Perm s.live)
    (hok : (deviceMtpStart (st.env base) agentMtpsInit).err = uspErrOk) :
    ∀ i ∈ s.live, (i ∈ (v.filter (populates (st.env base))).take maxAgentMtps ↔
        st.ReferenceLive i ∧ st.CoapRestarts base i) ∧
      (i ∉ (v.filter (populates (st.env base))).take maxAgentMtps →
        Call.deleteInstance i uspErrOk ∈ (deviceMtpStart (st.env base) agentMtpsInit).calls ∧
          ∀ mtp ∈ (deviceMtpStart (st.env base) agentMtpsInit).agentMtps.slots, mtp.inst ≠ i) := by
  obtain ⟨-, hpos, hlen⟩ := h.restart_instances hperm
  obtain ⟨hst, hcalls⟩ := h.restart_spec hv hperm hok
  intro i hi
  have hiv : i ∈ v := hperm.symm.subset hi
  have htake : i ∈ (v.filter (populates (st.env base))).take maxAgentMtps ↔
      populates (st.env base) i = true := by
    rw [List.take_of_length_le ((List.length_filter_le _ _).trans hlen), List.mem_filter]
    exact and_iff_right hiv
  refine ⟨htake.trans (h.populates_iff base hi), fun hnot => ⟨?_, ?_⟩⟩
  · exact (hcalls _ _).2 ⟨hiv, Bool.eq_false_iff.2 fun hp => hnot (htake.2 hp), rfl⟩
  · exact hst.inst_ne (hpos _ hiv) fun hm => hnot (htake.2 (List.mem_filter.1 hm).2)

def coapOnConn1Store : Store where
  rows _ := ⟨true, "CoAP", "Device.STOMP.Connection.1", "", 5683, "/usp"⟩
  names ref := if ref = "Device.STOMP.Connection.1" then some 1 else none
  connections := [1]

/-- A CoAP instance set up on connection 1 keeps its reference when the connection is
deleted, and the next restart deletes it. -/
theorem CoherentRun.restartKeepsResolvable_staleCoap :
    ∃ st s, CoherentRun st s ∧ s.live = [1] ∧ ¬ st.ReferenceLive 1 ∧
      (deviceMtpStart (st.env oneInstanceBoot) agentMtpsInit).err = uspErrOk ∧
      ∀ i ∈ s.live, (i ∈ ([1].filter (populates (st.env oneInstanceBoot))).take maxAgentMtps ↔
          st.ReferenceLive i ∧ st.CoapRestarts oneInstanceBoot i) ∧
        (i ∉ ([1].filter (populates (st.env oneInstanceBoot))).take maxAgentMtps →
          Call.deleteInstance i uspErrOk ∈
            (deviceMtpStart (st.env oneInstanceBoot) agentMtpsInit).calls ∧
          ∀ mtp ∈ (deviceMtpStart (st.env oneInstanceBoot) agentMtpsInit).agentMtps.slots,
            mtp.inst ≠ i) :=
  have h := CoherentRun.stompConnDeleted stompRow 1 (CoherentRun.add stompRow 1
    (coapOnConn1Store.rows 1) (.init coapOnConn1Store) (by decide) rfl) rfl
  have hok : (deviceMtpStart (((coapOnConn1Store.setRow 1 (coapOnConn1Store.rows 1)).deleteConnection
      1 (processAgentMtpAdded ((coapOnConn1Store.setRow 1 (coapOnConn1Store.rows 1)).env stompRow)
        agentMtpsInit 1).agentMtps).env oneInstanceBoot) agentMtpsInit).err = uspErrOk := by
    decide
  ⟨_, _, h, rfl, by decide, hok, CoherentRun.restartKeepsResolvable h rfl (.refl _) hok⟩

end LocalAgentMtp
