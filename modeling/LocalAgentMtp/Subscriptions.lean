import LocalAgentMtp.Store

/-!
What the STOMP connections subscribe to, along every interleaving of the data model's
operations with the connects of the STOMP module.

A STOMP connection `c` subscribes to the queue `DEVICE_MTP_GetAgentStompQueue(c)` gives
when it connects, and `device_mtp.c` calls `DEVICE_STOMP_ScheduleReconnect(c)` after an
operation that may have changed that queue, so that "the reconnect uses these parameters".
The STOMP side is modelled by the two things the table's code relies on: the answer each
connection subscribed with when it last connected, and the connections whose reconnect has
been scheduled and not yet made. A connection may also connect when nothing scheduled it
(a dropped connection comes back), and the connects interleave freely with the operations.

The main result is the invariant of the whole agent: a connection with no pending
reconnect is subscribed to the queue the table gives now. It holds from `DEVICE_MTP_Init`,
through a `DEVICE_MTP_Start` that reads the store and every coherent operation after it.
The operations are those of `CoherentRun`: along them every reference the handlers read
back resolves, since the store holds only references their validator accepted and the empty
ones the cascade writes, so the branch of `NotifyChange_AgentMtpStompReference` that drops
a queue without a reconnect is never taken. The cascade is taken through its slot-by-slot
description, which needs the distinct instances of those runs. Nothing is said of the
pending connections: their subscription may be stale until they connect.
-/

namespace LocalAgentMtp

/-! ### One step of a coherent run -/

/-- One operation of a coherent run after its start, with the store as it takes the
operation's writes: the steps of `CoherentRun`. -/
inductive CoherentStep : Store → Sys → Store → Sys → List Call → Prop
  | add {st : Store} {s s' : Sys} {calls : List Call} (base : Env) (i : Int) (row : Row) :
      (Op.add i).Allowed s → (Op.add i).run ((st.setRow i row).env base) s = .ok (s', calls) →
      CoherentStep st s (st.setRow i row) s' calls
  | delete {st : Store} {s s' : Sys} {calls : List Call} (base : Env) (i : Int) :
      (Op.delete i).Allowed s → ¬ (Op.delete i).DeletesDisabled s →
      (Op.delete i).run (st.env base) s = .ok (s', calls) → CoherentStep st s st s' calls
  | write {st : Store} {s s' : Sys} {calls : List Call} (base : Env) (i : Int) (w : ParamWrite) :
      (Op.write i w).Allowed s → w.Valid (st.env base) →
      (Op.write i w).run ((st.setRow i ((st.rows i).write w)).env base) s = .ok (s', calls) →
      CoherentStep st s (st.setRow i ((st.rows i).write w)) s' calls
  | stompConnDeleted {st : Store} {s s' : Sys} {calls : List Call} (base : Env) (c : Int) :
      (Op.stompConnDeleted c).run ((st.deleteConnection c s.agentMtps).env base) s =
        .ok (s', calls) →
      CoherentStep st s (st.deleteConnection c s.agentMtps) s' calls

theorem CoherentRun.step {st st' : Store} {s s' : Sys} {calls : List Call} (h : CoherentRun st s)
    (hs : CoherentStep st s st' s' calls) : CoherentRun st' s' := by
  cases hs with
  | add base i row hallow hrun => exact .add base i row h hallow hrun
  | delete base i hallow hkeep hrun => exact .delete base i h hallow hkeep hrun
  | write base i w hallow hv hrun => exact .write base i w h hallow hv hrun
  | stompConnDeleted base c hrun => exact .stompConnDeleted base c h hrun

theorem reconnects_of_clearedSlots {t t' : AgentMtps} {c₀ c : Int} (hc : c ≠ invalid)
    (hslots : t'.slots = t.slots.map (clearedSlot c₀))
    (hne : deviceMtpGetAgentStompQueue t' c ≠ deviceMtpGetAgentStompQueue t c) :
    .scheduleReconnect c ∈ (t.slots.map (clearedCalls c₀)).flatten := by
  obtain ⟨x, hx, hqx⟩ : ∃ x ∈ t.slots,
      agentStompQueueOf c (clearedSlot c₀ x) ≠ agentStompQueueOf c x := by
    by_contra hall
    push_neg at hall
    refine hne ?_
    rw [deviceMtpGetAgentStompQueue, deviceMtpGetAgentStompQueue, hslots, List.map_map]
    exact congrArg firstAnswer (List.map_congr_left hall)
  have hr : refersToDeletedConn c₀ x := by
    by_contra hr
    exact hqx (by rw [clearedSlot, if_neg hr])
  have hserves : x.Serves c := by
    refine (serves_of_agentStompQueueOf_ne hqx).resolve_right fun h => hc ?_
    rw [← h.2.2.1, clearedSlot, if_pos hr]
  refine List.mem_flatten.2 ⟨_, List.mem_map_of_mem _ hx, ?_⟩
  rw [clearedCalls, if_pos hr, if_pos hserves.2.1, ← hr.2.2, hserves.2.2.1]
  simp [hc]

/-- A step of a coherent run that changes the queue of a connection reconnects it. -/
theorem CoherentStep.reconnects {st st' : Store} {s s' : Sys} {calls : List Call} {c : Int}
    (hs : CoherentRun st s) (h : CoherentStep st s st' s' calls) (hc : c ≠ invalid)
    (hne : deviceMtpGetAgentStompQueue s'.agentMtps c ≠ deviceMtpGetAgentStompQueue s.agentMtps c) :
    .scheduleReconnect c ∈ calls := by
  cases h with
  | add base i row _ hrun =>
      rcases Op.run_add hrun with ⟨rfl, -⟩ | ⟨-, htab, rfl, -⟩
      · exact absurd rfl hne
      · rw [htab] at hne
        exact processAgentMtpAdded_reconnects _ _ i hc hne
  | delete base i _ _ hrun =>
      simp only [Op.run, Except.ok.injEq, Prod.mk.injEq] at hrun
      obtain ⟨rfl, rfl⟩ := hrun
      exact notifyAgentMtpDeleted_reconnects _ i hc hne
  | write base i w _ hv hrun =>
      obtain ⟨o, ho, rfl, rfl⟩ := Op.run_write hrun
      refine ParamWrite.notifyChange_reconnects (fun v hw => ?_) hc ho hne
      subst hw
      exact getStompReference_of_valid hv
  | stompConnDeleted base c₀ hrun =>
      obtain ⟨o, ho, rfl, rfl⟩ := Op.run_stompConnDeleted hrun
      obtain ⟨o', ho', hslots, hcalls, -⟩ := deviceMtpNotifyStompConnDeleted_spec
        hs.keepingSlots.instancesDistinct (st.storeClears_deleteConnection base c₀ s.agentMtps)
      obtain rfl := Except.ok.inj (ho.symm.trans ho')
      rw [hcalls]
      exact reconnects_of_clearedSlots hc hslots hne

/-! ### The STOMP side -/

/-- What the STOMP module holds, as far as the MTP table is concerned. -/
structure StompSide where
  /-- The answer of `DEVICE_MTP_GetAgentStompQueue` each connection subscribed with when it
  last connected. -/
  subscribed : Int → Except Fault (Option String)
  /-- The connections `DEVICE_STOMP_ScheduleReconnect` has named since they last connected. -/
  pending : List Int

def scheduledReconnects (calls : List Call) : List Int :=
  calls.filterMap fun
    | .scheduleReconnect c => some c
    | _ => none

@[simp] theorem mem_scheduledReconnects {calls : List Call} {c : Int} :
    c ∈ scheduledReconnects calls ↔ .scheduleReconnect c ∈ calls := by
  simp only [scheduledReconnects, List.mem_filterMap]
  constructor
  · rintro ⟨x, hx, h⟩
    cases x <;> simp only [reduceCtorEq, Option.some.injEq] at h
    exact h ▸ hx
  · exact fun h => ⟨_, h, rfl⟩

/-- The reconnects an operation's calls schedule become pending. -/
def StompSide.schedule (sd : StompSide) (calls : List Call) : StompSide :=
  { sd with pending := sd.pending ++ scheduledReconnects calls }

/-- Connection `c` connects: it subscribes with the queue the table gives now, and its
pending reconnect is made. -/
def StompSide.connect (sd : StompSide) (t : AgentMtps) (c : Int) : StompSide where
  subscribed d := if d = c then deviceMtpGetAgentStompQueue t c else sd.subscribed d
  pending := sd.pending.filter (· ≠ c)

/-- Every connection with no pending reconnect is subscribed with the queue the table gives. -/
def StompSide.Current (sd : StompSide) (t : AgentMtps) : Prop :=
  ∀ c, c ≠ invalid → c ∉ sd.pending → sd.subscribed c = deviceMtpGetAgentStompQueue t c

theorem StompSide.Current.schedule {sd : StompSide} {t t' : AgentMtps} {calls : List Call}
    (h : sd.Current t)
    (hre : ∀ c, c ≠ invalid → deviceMtpGetAgentStompQueue t' c ≠ deviceMtpGetAgentStompQueue t c →
      .scheduleReconnect c ∈ calls) :
    (sd.schedule calls).Current t' := by
  intro c hc hp
  simp only [StompSide.schedule, List.mem_append, mem_scheduledReconnects, not_or] at hp
  show sd.subscribed c = _
  rw [h c hc hp.1]
  exact not_not.1 fun hne => hp.2 (hre c hc (Ne.symm hne))

theorem StompSide.Current.connect {sd : StompSide} {t : AgentMtps} (h : sd.Current t) (c : Int) :
    (sd.connect t c).Current t := by
  intro d hd hp
  simp only [StompSide.connect]
  split_ifs with hdc
  · rw [hdc]
  · exact h d hd fun hm => hp (List.mem_filter.2 ⟨hm, decide_eq_true hdc⟩)

/-! ### The agent -/

/-- The agent: the store, the MTP table with the live instances, and the STOMP side. -/
structure Agent where
  store : Store
  sys : Sys
  stomp : StompSide

/-- What can happen next: a coherent operation, whose scheduled reconnects become pending,
or the connect of a connection. -/
inductive AgentStep : Agent → Agent → Prop
  | op {a : Agent} {st : Store} {s : Sys} {calls : List Call} :
      CoherentStep a.store a.sys st s calls → AgentStep a ⟨st, s, a.stomp.schedule calls⟩
  | connect (a : Agent) (c : Int) :
      AgentStep a ⟨a.store, a.sys, a.stomp.connect a.sys.agentMtps c⟩

/-- The runs of the agent: from `DEVICE_MTP_Init`, with no connection subscribed to a queue,
through a `DEVICE_MTP_Start` on the initial table that reads the store, and any
interleaving of steps. -/
inductive AgentRun : Agent → Prop
  | init (st : Store) : AgentRun ⟨st, ⟨agentMtpsInit, []⟩, ⟨fun _ => .ok none, []⟩⟩
  | start {st : Store} {sd : StompSide} (base : Env) (v : List Int) :
      AgentRun ⟨st, ⟨agentMtpsInit, []⟩, sd⟩ → base.getInstances = .ok v → v.Nodup →
      (∀ i ∈ v, 0 < i) → (deviceMtpStart (st.env base) agentMtpsInit).err = uspErrOk →
      AgentRun ⟨st, ⟨(deviceMtpStart (st.env base) agentMtpsInit).agentMtps,
        (v.filter (populates (st.env base))).take maxAgentMtps⟩,
        sd.schedule (deviceMtpStart (st.env base) agentMtpsInit).calls⟩
  | step {a a' : Agent} : AgentRun a → AgentStep a a' → AgentRun a'

theorem AgentRun.coherentRun {a : Agent} (h : AgentRun a) : CoherentRun a.store a.sys := by
  induction h with
  | init st => exact .init st
  | start base v _ hv hnd hpos hok => exact .start _ base v hv hnd hpos hok
  | step _ hstep ih =>
      cases hstep with
      | op hs => exact ih.step hs
      | connect => exact ih

theorem deviceMtpGetAgentStompQueue_init (c : Int) :
    deviceMtpGetAgentStompQueue agentMtpsInit c = .ok none := by
  rw [deviceMtpGetAgentStompQueue, agentMtpsInit, List.map_replicate,
    agentStompQueueOf_of_not_serves fun h => h.1 rfl]
  rfl

/-- No lost subscription update: in every run of the agent, whatever the interleaving of
operations and connects, a STOMP connection with no pending reconnect is subscribed with
the queue `DEVICE_MTP_GetAgentStompQueue` gives now. -/
theorem AgentRun.subscriptionsCurrent {a : Agent} (h : AgentRun a) :
    ∀ c, c ≠ invalid → c ∉ a.stomp.pending →
      a.stomp.subscribed c = deviceMtpGetAgentStompQueue a.sys.agentMtps c := by
  induction h with
  | init st => exact fun c _ _ => (deviceMtpGetAgentStompQueue_init c).symm
  | start base v _ _ _ _ _ ih =>
      exact StompSide.Current.schedule ih fun _ hc => deviceMtpStart_reconnects _ _ hc
  | step ha hstep ih =>
      cases hstep with
      | op hs => exact StompSide.Current.schedule ih fun _ hc => hs.reconnects ha.coherentRun hc
      | connect c => exact StompSide.Current.connect ih c

theorem AgentRun.subscriptionsCurrent_stompStore :
    ∃ a, AgentRun a ∧ (1 : Int) ≠ invalid ∧ 1 ∉ a.stomp.pending ∧
      a.stomp.subscribed 1 = .ok (some "q") ∧
      a.stomp.subscribed 1 = deviceMtpGetAgentStompQueue a.sys.agentMtps 1 :=
  have h := AgentRun.step (AgentRun.step (.init stompStore)
    (.op (.add stompRow 1 (stompStore.rows 1) (by decide) rfl))) (.connect _ 1)
  ⟨_, h, by decide, by simp [StompSide.connect], rfl,
    AgentRun.subscriptionsCurrent h 1 (by decide) (by simp [StompSide.connect])⟩

end LocalAgentMtp
