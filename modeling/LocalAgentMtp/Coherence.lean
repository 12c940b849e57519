import LocalAgentMtp.Refinement
import LocalAgentMtp.Reconnect

/-!
The table against the STOMP connection table. `DEVICE_MTP_NotifyStompConnDeleted(c)` is
documented as unpicking every reference to the deleted connection `c` in the table: it
writes an empty `STOMP.Reference` for each slot that refers to `c`, and the callback the
data model makes reads the emptied reference back and takes the slot off `c`. Its test,
though, only passes occupied STOMP slots, so a CoAP slot, or one with no protocol, that
was set up with a reference to `c` keeps it.

The main result says what the cascade does, slot by slot, on a table whose occupied slots
hold distinct instances and with a store that takes the empty references: the loop over
the slots with its re-entrant callback is the map of `clearedSlot` over the table.
-/

namespace LocalAgentMtp

/-- What the cascade does to one slot when the store takes the empty reference: a slot
that refers to the deleted connection is taken off it, and any other is left as it is. -/
def clearedSlot (c : Int) (mtp : AgentMtp) : AgentMtp :=
  if refersToDeletedConn c mtp then { mtp with stompConnectionInstance := invalid } else mtp

/-- The calls the cascade makes for one slot: the write of the empty reference, then the
reconnect of the deleted connection that the callback schedules for an enabled slot. -/
def clearedCalls (c : Int) (mtp : AgentMtp) : List Call :=
  if refersToDeletedConn c mtp then
    .clearStompReference mtp.inst :: if mtp.enable then reconnectIfSet c else []
  else []

@[simp] theorem clearedSlot_inst (c : Int) (mtp : AgentMtp) :
    (clearedSlot c mtp).inst = mtp.inst := by
  unfold clearedSlot; split <;> rfl

/-- Every occupied slot holds an instance that no other slot holds. -/
def InstancesDistinct (t : AgentMtps) : Prop :=
  ∀ mtp ∈ t.slots, mtp.Occupied → (t.slots.filter (·.inst == mtp.inst)).length = 1

instance (t : AgentMtps) : Decidable (InstancesDistinct t) :=
  inferInstanceAs (Decidable (∀ mtp ∈ t.slots, mtp.Occupied →
    (t.slots.filter (·.inst == mtp.inst)).length = 1))

theorem InstancesDistinct.before {t : AgentMtps} (hd : InstancesDistinct t) {i j : Nat}
    {mtp y : AgentMtp} (hi : t.slots[i]? = some mtp) (hocc : mtp.Occupied) (hj : j < i)
    (hy : t.slots[j]? = some y) : y.inst ≠ mtp.inst := by
  intro h
  have hlen := hd mtp (List.getElem?_mem hi) hocc
  rw [← List.countP_eq_length_filter, ← List.take_append_drop i t.slots, List.countP_append] at hlen
  have h₁ : 0 < (t.slots.take i).countP (·.inst == mtp.inst) :=
    List.countP_pos_iff.2 ⟨y, List.getElem?_mem (by rwa [List.getElem?_take_of_lt hj]), by simp [h]⟩
  have h₂ : 0 < (t.slots.drop i).countP (·.inst == mtp.inst) :=
    List.countP_pos_iff.2 ⟨mtp, List.getElem?_mem (by rw [List.getElem?_drop, Nat.add_zero]; exact hi),
      by simp⟩
  omega

theorem InstancesDistinct.index_eq {t : AgentMtps} (hd : InstancesDistinct t) {j k : Nat}
    {mtp x : AgentMtp} (hk : t.slots[k]? = some mtp) (hocc : mtp.Occupied)
    (hj : t.slots[j]? = some x) (hx : x.inst = mtp.inst) : j = k := by
  have hxocc : x.Occupied := by unfold AgentMtp.Occupied; rw [hx]; exact hocc
  rcases lt_trichotomy j k with hlt | rfl | hgt
  · exact absurd hx (hd.before hk hocc hlt hj)
  · rfl
  · exact absurd hx.symm (hd.before hj hxocc hgt hk)

theorem InstancesDistinct.eq_of_inst_eq {t : AgentMtps} (hd : InstancesDistinct t)
    {mtp x : AgentMtp} (hm : mtp ∈ t.slots) (hocc : mtp.Occupied) (hx : x ∈ t.slots)
    (h : x.inst = mtp.inst) : x = mtp := by
  obtain ⟨k, hk⟩ := List.mem_iff_getElem?.1 hm
  obtain ⟨j, hj⟩ := List.mem_iff_getElem?.1 hx
  obtain rfl := hd.index_eq hk hocc hj h
  exact Option.some.inj (hj.symm.trans hk)

/-- The store takes the empty reference the cascade writes for each slot it clears, and
the write gets as far as the callback. -/
def StoreClears (e : Env) (c : Int) (t : AgentMtps) : Prop :=
  ∀ mtp ∈ t.slots, refersToDeletedConn c mtp →
    e.clearStompReferenceNotifies mtp.inst = true ∧ e.getStompReference mtp.inst = .ok ""

theorem agentMtpStompReferenceBody_of_empty {e : Env} {inst1 : Int} {mtp : AgentMtp}
    (hread : e.getStompReference inst1 = .ok "") :
    agentMtpStompReferenceBody e inst1 mtp =
      ⟨{ mtp with stompConnectionInstance := invalid },
        if mtp.enable = true ∧ mtp.protocol = .stomp then
          reconnectIfSet mtp.stompConnectionInstance else [], uspErrOk⟩ := by
  unfold agentMtpStompReferenceBody deviceMtpGetStompReference
  rw [hread]
  by_cases h : mtp.stompConnectionInstance = invalid
  · simp [h, reconnectIfSet]
  · simp only [ne_eq, h, not_false_eq_true, and_true, reconnectIfSet, if_true, List.append_nil]
    split <;> rfl

/-! ### The loop, slot by slot

After the iterations over the first `i` slots, those slots are as `clearedSlot` leaves
them, the others as they were, and the calls are those of the first `i` slots. -/

theorem stompConnDeletedAt_spec {e : Env} {t : AgentMtps} {c : Int} {i : Nat} {acc : Outcome}
    (hd : InstancesDistinct t) (hstore : StoreClears e c t) (hi : i < maxAgentMtps)
    (hslots : acc.agentMtps.slots = (t.slots.take i).map (clearedSlot c) ++ t.slots.drop i)
    (hcalls : acc.calls = ((t.slots.take i).map (clearedCalls c)).flatten) :
    ∃ acc', stompConnDeletedAt e c i acc = .ok acc' ∧
      acc'.agentMtps.slots = (t.slots.take (i + 1)).map (clearedSlot c) ++ t.slots.drop (i + 1) ∧
      acc'.calls = ((t.slots.take (i + 1)).map (clearedCalls c)).flatten ∧ acc'.err = acc.err := by
  have hlt : i < t.slots.length := t.length_slots ▸ hi
  have hA : ((t.slots.take i).map (clearedSlot c)).length = i := by simp; omega
  obtain ⟨mtp, hti⟩ : ∃ mtp, t.slots[i]? = some mtp := ⟨_, List.getElem?_eq_getElem hlt⟩
  have hdrop : t.slots.drop i = mtp :: t.slots.drop (i + 1) := by
    rw [List.drop_eq_getElem_cons hlt, (List.getElem?_eq_some_iff.1 hti).2]
  have htake : t.slots.take (i + 1) = t.slots.take i ++ [mtp] := by
    rw [List.take_succ, hti]; rfl
  have hget : acc.agentMtps.slots[i]? = some mtp := by
    rw [hslots, List.getElem?_append_right (by omega), hA, Nat.sub_self, hdrop,
      List.getElem?_cons_zero]
  unfold stompConnDeletedAt
  rw [hget]
  dsimp only
  by_cases hr : refersToDeletedConn c mtp
  · obtain ⟨hnotify, hread⟩ := hstore mtp (List.getElem?_mem hti) hr
    have hfind : findAgentMtpByInstance acc.agentMtps mtp.inst = some (i, mtp) := by
      refine findSlot_eq_some_of hget (by simp) fun j hj x hx => ?_
      rw [hslots, List.getElem?_append_left (by omega), List.getElem?_map,
        List.getElem?_take_of_lt hj] at hx
      obtain ⟨y, hy, rfl⟩ := Option.map_eq_some'.1 hx
      rw [clearedSlot_inst, beq_eq_false_iff_ne]
      exact hd.before hti hr.1 hj hy
    have hnc : notifyChangeAgentMtpStompReference e acc.agentMtps mtp.inst =
        .ok ⟨acc.agentMtps.set i (clearedSlot c mtp),
          if mtp.enable then reconnectIfSet c else [], uspErrOk⟩ := by
      simp only [notifyChangeAgentMtpStompReference, withAgentMtp, hfind,
        agentMtpStompReferenceBody_of_empty hread, clearedSlot, if_pos hr, hr.2.1, hr.2.2, and_true]
    simp only [if_pos hr, hnotify, if_true, hnc]
    refine ⟨_, rfl, ?_, ?_, rfl⟩
    · rw [AgentMtps.slots_set, hslots, hdrop, List.set_append_right _ _ (by omega), hA,
        Nat.sub_self, List.set_cons_zero, htake, List.map_append]
      simp
    · rw [hcalls, htake, List.map_append, List.flatten_append]
      simp [clearedCalls, hr]
  · rw [if_neg hr]
    refine ⟨acc, rfl, ?_, ?_, rfl⟩
    · rw [hslots, htake, hdrop, List.map_append]
      simp [clearedSlot, hr]
    · rw [hcalls, htake, List.map_append, List.flatten_append]
      simp [clearedCalls, hr]

theorem stompConnDeletedLoop_spec {e : Env} {t : AgentMtps} {c : Int} (hd : InstancesDistinct t)
    (hstore : StoreClears e c t) (n : Nat) :
    ∀ i (acc : Outcome), i + n = maxAgentMtps →
      acc.agentMtps.slots = (t.slots.take i).map (clearedSlot c) ++ t.slots.drop i →
      acc.calls = ((t.slots.take i).map (clearedCalls c)).flatten →
      ∃ o, stompConnDeletedLoop e c (List.range' i n) acc = .ok o ∧
        o.agentMtps.slots = t.slots.map (clearedSlot c) ∧
        o.calls = (t.slots.map (clearedCalls c)).flatten ∧ o.err = acc.err := by
  induction n with
  | zero =>
      intro i acc hin hslots hcalls
      have : t.slots.length ≤ i := by rw [t.length_slots]; omega
      refine ⟨acc, rfl, ?_, ?_, rfl⟩
      · rw [hslots, List.take_of_length_le this, List.drop_of_length_le this, List.append_nil]
      · rw [hcalls, List.take_of_length_le this]
  | succ n ih =>
      intro i acc hin hslots hcalls
      obtain ⟨acc', hstep, hslots', hcalls', herr⟩ :=
        stompConnDeletedAt_spec hd hstore (by omega) hslots hcalls
      obtain ⟨o, hloop, ho⟩ := ih (i + 1) acc' (by omega) hslots' hcalls'
      refine ⟨o, ?_, ho.1, ho.2.1, ho.2.2.trans herr⟩
      rw [List.range'_succ, stompConnDeletedLoop, hstep]
      exact hloop

/-- The cascade, on a table whose occupied slots hold distinct instances and with a store
that takes the empty references it writes, is the map of `clearedSlot` over the table,
and its calls are, slot by slot, those of `clearedCalls`. -/
theorem deviceMtpNotifyStompConnDeleted_spec {e : Env} {t : AgentMtps} {c : Int}
    (hd : InstancesDistinct t) (hstore : StoreClears e c t) :
    ∃ o, deviceMtpNotifyStompConnDeleted e t c = .ok o ∧
      o.agentMtps.slots = t.slots.map (clearedSlot c) ∧
      o.calls = (t.slots.map (clearedCalls c)).flatten ∧ o.err = uspErrOk := by
  unfold deviceMtpNotifyStompConnDeleted
  rw [List.range_eq_range']
  exact stompConnDeletedLoop_spec hd hstore maxAgentMtps 0 _ rfl (by simp) (by simp)

/-! ### The cascade in the running agent -/

theorem ReachableKeepingSlots.instancesDistinct {s : Sys} (hs : ReachableKeepingSlots s) :
    InstancesDistinct s.agentMtps := fun mtp hm hocc =>
  hs.length_filter_eq_one _ (hs.perm.subset (mem_heldInstances.2 ⟨mtp, hm, hocc, rfl⟩))

/-- On the runs that never delete a disabled instance, and with a store that takes the
empty references it writes, `DEVICE_MTP_NotifyStompConnDeleted(c)` takes every occupied
STOMP slot off `c`, reconnecting `c` for an enabled one, and leaves every other slot as it
was: a slot of another protocol keeps its reference to `c`. -/
theorem ReachableKeepingSlots.stompConnDeleted_clears {s : Sys} (hs : ReachableKeepingSlots s)
    {e : Env} {c : Int} (hstore : StoreClears e c s.agentMtps) :
    ∃ s' calls, (Op.stompConnDeleted c).run e s = .ok (s', calls) ∧ s'.live = s.live ∧
      s'.agentMtps.slots = s.agentMtps.slots.map (clearedSlot c) ∧
      calls = (s.agentMtps.slots.map (clearedCalls c)).flatten := by
  obtain ⟨o, ho, hslots, hcalls, -⟩ :=
    deviceMtpNotifyStompConnDeleted_spec hs.instancesDistinct hstore
  exact ⟨⟨o.agentMtps, s.live⟩, o.calls, by simp only [Op.run, ho], rfl, hslots, hcalls⟩

def referenceCleared : Env := { stompRow with getStompReference := fun _ => .ok "" }

theorem ReachableKeepingSlots.stompConnDeleted_clears_stompRow :
    ReachableKeepingSlots ⟨(processAgentMtpAdded stompRow agentMtpsInit 1).agentMtps, [1]⟩ ∧
      StoreClears referenceCleared 1 (processAgentMtpAdded stompRow agentMtpsInit 1).agentMtps ∧
      ∃ s' calls, (Op.stompConnDeleted 1).run referenceCleared
          ⟨(processAgentMtpAdded stompRow agentMtpsInit 1).agentMtps, [1]⟩ = .ok (s', calls) ∧
        s'.live = [1] ∧
        s'.agentMtps.slots = (processAgentMtpAdded stompRow agentMtpsInit 1).agentMtps.slots.map
          (clearedSlot 1) ∧
        calls = ((processAgentMtpAdded stompRow agentMtpsInit 1).agentMtps.slots.map
          (clearedCalls 1)).flatten := by
  have hs : ReachableKeepingSlots
      ⟨(processAgentMtpAdded stompRow agentMtpsInit 1).agentMtps, [1]⟩ :=
    .step stompRow (.add 1) .init (by decide) (fun h => h) rfl
  have hstore : StoreClears referenceCleared 1
      (processAgentMtpAdded stompRow agentMtpsInit 1).agentMtps := fun _ _ _ => ⟨rfl, rfl⟩
  exact ⟨hs, hstore, ReachableKeepingSlots.stompConnDeleted_clears hs hstore⟩

def coapRowOnConn1 : Env := storeEnv true .coap "Device.STOMP.Connection.1" "q" 5683 "/usp"

/-- A CoAP slot keeps its reference to a deleted connection. After instance 1 is added as
an enabled CoAP MTP whose `STOMP.Reference` names connection 1, the deletion of
connection 1 changes nothing and calls nothing, whatever the store answers: the slot still
holds connection 1, and the stored reference, never written, still names it. -/
theorem deviceMtpNotifyStompConnDeleted_keeps_coap_reference :
    ∃ r, runOps ⟨agentMtpsInit, []⟩ [(coapRowOnConn1, .add 1)] = some r ∧ Reachable r.1 ∧
      r.1.live = [1] ∧
      (∃ mtp ∈ r.1.agentMtps.slots, mtp.Occupied ∧ mtp.protocol = .coap ∧
        mtp.stompConnectionInstance = 1) ∧
      ∀ e, (Op.stompConnDeleted 1).run e r.1 = .ok (r.1, []) :=
  ⟨_, rfl, @Reachable.runOps _ .init [(coapRowOnConn1, .add 1)] _ rfl, rfl,
    ⟨_, List.getElem?_mem (show _[0]? = some _ from rfl), by decide, rfl, rfl⟩, fun _ => rfl⟩

end LocalAgentMtp
