import LocalAgentMtp.Strings

/-!
The table against the live instances of `Device.LocalAgent.MTP`. The abstraction is the
list of instances the occupied slots hold, `heldInstances`; the table refines the live
instances when that list is a permutation of them, which, the live instances being
distinct, says that every live instance is held by exactly one slot and no slot holds
anything else.

Every operation moves the held instances as it moves the live ones, with one exception:
`Notify_AgentMtpDeleted` returns early on a disabled slot, before `DestroyAgentMtp`, so
deleting a disabled instance leaves its slot occupied. On every run the live instances
stay held, so no handler's `USP_ASSERT(mtp != NULL)` fails; on the runs that never delete a
disabled instance the table refines the live instances; and a run that does can leave
the whole table occupied by instances that are gone.
-/

namespace LocalAgentMtp

/-- The instances the table holds: those of its occupied slots, in slot order. -/
def heldInstances (t : AgentMtps) : List Int :=
  (t.slots.map AgentMtp.inst).filter (· != invalid)

theorem mem_heldInstances {t : AgentMtps} {i : Int} :
    i ∈ heldInstances t ↔ ∃ mtp ∈ t.slots, mtp.Occupied ∧ mtp.inst = i := by
  simp only [heldInstances, List.mem_filter, List.mem_map, bne_iff_ne, AgentMtp.Occupied]
  constructor
  · rintro ⟨⟨mtp, hm, rfl⟩, hne⟩; exact ⟨mtp, hm, hne, rfl⟩
  · rintro ⟨mtp, hm, hne, rfl⟩; exact ⟨⟨mtp, hm, rfl⟩, hne⟩

theorem heldInstances_eq_map_filter (t : AgentMtps) :
    heldInstances t = (t.slots.filter (·.Occupied)).map AgentMtp.inst := by
  rw [heldInstances, List.filter_map]
  congr 2
  funext x
  by_cases hx : x.inst = invalid <;> simp [AgentMtp.Occupied, hx]

theorem filter_set_perm {l : List Int} {k : Nat} {a x : Int} (p : Int → Bool)
    (hk : l[k]? = some a) (ha : p a = false) (hx : p x = true) :
    List.Perm ((l.set k x).filter p) (x :: l.filter p) := by
  induction l generalizing k with
  | nil => cases hk
  | cons y ys ih =>
      cases k with
      | zero =>
          obtain rfl : y = a := by simpa using hk
          simp [List.filter_cons, ha, hx]
      | succ k =>
          have := ih (by simpa using hk)
          simp only [List.set_cons_succ, List.filter_cons]
          split
          · exact (this.cons y).trans (List.Perm.swap x y _)
          · exact this

theorem heldInstances_congr {t t' : AgentMtps}
    (h : t'.slots.map AgentMtp.inst = t.slots.map AgentMtp.inst) :
    heldInstances t' = heldInstances t := by
  unfold heldInstances; rw [h]

theorem heldInstances_set_of_free {t : AgentMtps} {k : Nat} {free mtp : AgentMtp}
    (hk : t.slots[k]? = some free) (hfree : ¬ free.Occupied) (hocc : mtp.Occupied) :
    List.Perm (heldInstances (t.set k mtp)) (mtp.inst :: heldInstances t) := by
  unfold heldInstances
  rw [AgentMtps.slots_set, List.map_set]
  exact @filter_set_perm _ _ free.inst _ _ (by simp [hk])
    (by simpa [AgentMtp.Occupied] using hfree) (by simpa [AgentMtp.Occupied] using hocc)

theorem heldInstances_set_destroy {t : AgentMtps} {k : Nat} {mtp : AgentMtp}
    (hk : t.slots[k]? = some mtp) (hocc : mtp.Occupied) :
    List.Perm (heldInstances t) (mtp.inst :: heldInstances (t.set k (destroyAgentMtp mtp))) := by
  have hk' : (t.set k (destroyAgentMtp mtp)).slots[k]? = some (destroyAgentMtp mtp) := by
    rw [AgentMtps.slots_set, List.getElem?_set_self']
    simp [hk]
  have hback : (t.set k (destroyAgentMtp mtp)).set k mtp = t :=
    AgentMtps.ext_slots (by simp [List.set_set, set_eq_self_of_getElem? hk])
  have := heldInstances_set_of_free hk' (not_occupied_destroyAgentMtp mtp) hocc
  rwa [hback] at this

/-! ### What each operation does to the held instances -/

theorem ParamWrite.notifyChange_insts {e : Env} {t : AgentMtps} {inst1 : Int} {w : ParamWrite}
    {o : Outcome} (h : w.notifyChange e t inst1 = .ok o) :
    o.agentMtps.slots.map AgentMtp.inst = t.slots.map AgentMtp.inst := by
  obtain ⟨k, mtp, r, hfind, hbody, rfl⟩ := withAgentMtp_eq_ok h
  exact AgentMtps.map_set_of_eq _ (findSlot_eq_some hfind).1 (ParamWrite.keepsSlot hbody).inst_eq

theorem deviceMtpNotifyStompConnDeleted_insts {e : Env} {t : AgentMtps} {c : Int} {o : Outcome}
    (h : deviceMtpNotifyStompConnDeleted e t c = .ok o) :
    o.agentMtps.slots.map AgentMtp.inst = t.slots.map AgentMtp.inst := by
  refine deviceMtpNotifyStompConnDeleted_preserves
    (fun o => o.agentMtps.slots.map AgentMtp.inst = t.slots.map AgentMtp.inst)
    (fun acc acc' hacc hs => ?_) rfl h
  cases hs with
  | skip => exact hacc
  | clear => exact hacc
  | notify inst o ho =>
      exact (@ParamWrite.notifyChange_insts e _ inst (.stompReference "") o ho).trans hacc

/-- An accepted add holds one more instance when it succeeds and the same ones when it
fails. -/
theorem heldInstances_processAgentMtpAdded (e : Env) {t : AgentMtps} {inst : Int}
    (hpos : 0 < inst) (hv : validateAddAgentMtp t = uspErrOk) :
    ((processAgentMtpAdded e t inst).err = uspErrOk ∧
        List.Perm (heldInstances (processAgentMtpAdded e t inst).agentMtps)
          (inst :: heldInstances t)) ∨
      ((processAgentMtpAdded e t inst).err ≠ uspErrOk ∧
        heldInstances (processAgentMtpAdded e t inst).agentMtps = heldInstances t) := by
  cases hfind : findUnusedAgentMtp t with
  | none => simp [validateAddAgentMtp, hfind, uspErrResourcesExceeded, uspErrOk] at hv
  | some r =>
      obtain ⟨k, free⟩ := r
      obtain ⟨herr, htab⟩ := processAgentMtpAdded_of_free e inst hfind
      obtain ⟨hk, hfree, -⟩ := findSlot_eq_some hfind
      rw [htab]
      cases hp : populatedAgentMtp e inst with
      | none =>
          refine .inr ⟨fun h => by simpa [hp] using herr.1 h,
            heldInstances_congr (AgentMtps.map_set_of_eq _ hk ?_)⟩
          exact (beq_iff_eq.1 hfree).symm
      | some mtp =>
          have hinst := populatedAgentMtp_inst hp
          refine .inl ⟨herr.2 (by simp [hp]), ?_⟩
          have := heldInstances_set_of_free hk (by simpa [AgentMtp.Occupied] using hfree)
            (AgentMtp.occupied_of_pos (hinst ▸ hpos))
          rwa [hinst] at this

theorem heldInstances_of_startTable {e : Env} {held : List Int} {t : AgentMtps}
    (ht : StartTable e held t) (hpos : ∀ i ∈ held, 0 < i) : heldInstances t = held := by
  obtain ⟨ms, frees, hslots, hinst, -, hfrees⟩ := ht
  have h₁ : held.filter (· != invalid) = held :=
    List.filter_eq_self.2 fun i hi => by
      simpa [invalid] using (show i ≠ -1 by have := hpos i hi; omega)
  have h₂ : (frees.map AgentMtp.inst).filter (· != invalid) = [] :=
    List.filter_eq_nil_iff.2 fun i hi => by
      obtain ⟨mtp, hm, rfl⟩ := List.mem_map.1 hi
      simpa [AgentMtp.Occupied] using hfrees mtp hm
  rw [heldInstances, hslots, List.map_append, List.filter_append, hinst, h₁, h₂, List.append_nil]

/-- A successful startup holds exactly the instances it makes live. -/
theorem heldInstances_deviceMtpStart {e : Env} {v : List Int} (hv : e.getInstances = .ok v)
    (hnd : v.Nodup) (hpos : ∀ i ∈ v, 0 < i)
    (hok : (deviceMtpStart e agentMtpsInit).err = uspErrOk) :
    heldInstances (deviceMtpStart e agentMtpsInit).agentMtps =
      (v.filter (populates e)).take maxAgentMtps := by
  simp only [deviceMtpStart, hv] at hok ⊢
  have := (deviceMtpStartLoop_spec e v [] agentMtpsInit (startTable_init e) hnd hpos
    (fun _ _ h => nomatch h) (fun _ h => nomatch h) hok).1
  simp only [List.nil_append, List.length_nil, Nat.sub_zero] at this
  exact heldInstances_of_startTable this fun i hi =>
    hpos i (List.mem_of_mem_filter (List.mem_of_mem_take hi))

/-- What one allowed operation does to the held and the live instances: it keeps both; or
it is an add that holds its instance and makes it live; or it is a delete that takes its
instance off the live ones and either keeps the held ones, having found no slot or a
disabled one, or releases the slot of its instance. -/
theorem Op.run_held {e : Env} {s s' : Sys} {op : Op} {calls : List Call}
    (hpos : ∀ i ∈ s.live, 0 < i) (hallow : op.Allowed s) (h : op.run e s = .ok (s', calls)) :
    (heldInstances s'.agentMtps = heldInstances s.agentMtps ∧ s'.live = s.live) ∨
      (∃ inst, List.Perm (heldInstances s'.agentMtps) (inst :: heldInstances s.agentMtps) ∧
        s'.live = s.live ++ [inst]) ∨
      ∃ inst, op = .delete inst ∧ s'.live = s.live.erase inst ∧
        ((heldInstances s'.agentMtps = heldInstances s.agentMtps ∧
            (findAgentMtpByInstance s.agentMtps inst = none ∨
              ∃ k mtp, findAgentMtpByInstance s.agentMtps inst = some (k, mtp) ∧
                mtp.enable = false)) ∨
          List.Perm (heldInstances s.agentMtps) (inst :: heldInstances s'.agentMtps)) := by
  cases op with
  | add inst =>
      rcases Op.run_add h with ⟨rfl, -⟩ | ⟨hv, htab, -, hl⟩
      · exact .inl ⟨rfl, rfl⟩
      rw [htab, hl]
      rcases heldInstances_processAgentMtpAdded e hallow.1 hv with ⟨herr, hperm⟩ | ⟨herr, heq⟩
      · exact .inr (.inl ⟨inst, hperm, if_pos herr⟩)
      · exact .inl ⟨heq, if_neg herr⟩
  | delete inst =>
      simp only [Op.run, Except.ok.injEq, Prod.mk.injEq] at h
      obtain ⟨rfl, -⟩ := h
      refine .inr (.inr ⟨inst, rfl, rfl, ?_⟩)
      dsimp only
      rcases notifyAgentMtpDeleted_cases s.agentMtps inst with
        ⟨hnone, h⟩ | ⟨k, mtp, hfind, hen, h⟩ | ⟨k, mtp, hfind, -, h⟩ <;> rw [h]
      · exact .inl ⟨rfl, .inl hnone⟩
      · exact .inl ⟨rfl, .inr ⟨k, mtp, hfind, hen⟩⟩
      · obtain ⟨hk, hmtp, -⟩ := findSlot_eq_some hfind
        rw [beq_iff_eq] at hmtp
        have hperm := heldInstances_set_destroy hk
          (AgentMtp.occupied_of_pos (hmtp ▸ hpos inst hallow))
        rw [hmtp] at hperm
        exact .inr hperm
  | write inst w =>
      obtain ⟨o, ho, rfl, -⟩ := Op.run_write h
      exact .inl ⟨heldInstances_congr (ParamWrite.notifyChange_insts ho), rfl⟩
  | stompConnDeleted c =>
      obtain ⟨o, ho, rfl, -⟩ := Op.run_stompConnDeleted h
      exact .inl ⟨heldInstances_congr (deviceMtpNotifyStompConnDeleted_insts ho), rfl⟩

/-! ### Every live instance is held -/

theorem Reachable.live_subset_held {s : Sys} (hs : Reachable s) :
    ∀ i ∈ s.live, i ∈ heldInstances s.agentMtps := by
  induction hs with
  | init => intro i hi; cases hi
  | start e v hv hnd hpos hok =>
      rw [heldInstances_deviceMtpStart hv hnd hpos hok]; exact fun i hi => hi
  | step e op hprev hallow hrun ih =>
      obtain ⟨hpos, hnd⟩ := hprev.live_pos_nodup
      rcases Op.run_held hpos hallow hrun with
        ⟨hh, hl⟩ | ⟨inst, hh, hl⟩ | ⟨inst, -, hl, ⟨hh, -⟩ | hh⟩
      · rw [hh, hl]; exact ih
      · rw [hl]
        intro i hi
        refine hh.symm.subset ?_
        rcases List.mem_append.1 hi with hi | hi
        · exact List.mem_cons_of_mem _ (ih i hi)
        · exact List.mem_singleton.1 hi ▸ List.mem_cons_self _ _
      · rw [hh, hl]; exact fun i hi => ih i (List.mem_of_mem_erase hi)
      · rw [hl]
        intro i hi
        obtain ⟨hne, hi⟩ := hnd.mem_erase_iff.1 hi
        exact (List.mem_cons.1 (hh.subset (ih i hi))).resolve_left hne

theorem findAgentMtpByInstance_of_held {t : AgentMtps} {i : Int} (h : i ∈ heldInstances t) :
    ∃ k mtp, findAgentMtpByInstance t i = some (k, mtp) := by
  obtain ⟨mtp, hm, -, rfl⟩ := mem_heldInstances.1 h
  cases hfind : findAgentMtpByInstance t mtp.inst with
  | none => simpa using findSlot_eq_none.1 hfind mtp hm
  | some r => exact ⟨r.1, r.2, rfl⟩

theorem ParamWrite.body_ok (e : Env) (inst1 : Int) (w : ParamWrite) {mtp : AgentMtp}
    (hq : mtp.stompAgentQueue.isSome)
    (hv : ∀ v, w = .protocol v → validateAgentMtpProtocol v = uspErrOk) :
    ∃ r, w.body e inst1 mtp = .ok r := by
  cases w with
  | protocol v =>
      obtain ⟨p, hp⟩ := (validateAgentMtpProtocol_eq_ok_iff_lookup v).1 (hv v rfl)
      exact ⟨_, agentMtpProtocolBody_eq e mtp hp⟩
  | stompDestination v => exact agentMtpStompDestinationBody_ok v hq
  | _ => exact ⟨_, rfl⟩

/-- Nothing the data model issues faults, in any reachable state: each handler's lookup
finds the live instance it is called for, the strings it reads are set, and a protocol
name `Validate_AgentMtpProtocol` accepted is one the handler's lookup knows. So every
operation returns, and so does `Get_MtpStatus` of a live instance. -/
theorem Reachable.run_ok {s : Sys} (hs : Reachable s) :
    (∀ (e : Env) (op : Op), op.Allowed s →
        (∀ inst v, op = .write inst (.protocol v) → validateAgentMtpProtocol v = uspErrOk) →
        ∃ r, op.run e s = .ok r) ∧
      ∀ (e : Env), ∀ i ∈ s.live, ∃ status, getMtpStatus e s.agentMtps i = .ok status := by
  refine ⟨fun e op hop hvalid => ?_, fun e i hi => ?_⟩
  · cases op with
    | add inst => simp only [Op.run]; split <;> exact ⟨_, rfl⟩
    | delete inst => exact ⟨_, rfl⟩
    | write inst w =>
        obtain ⟨k, mtp, hfind⟩ := findAgentMtpByInstance_of_held (hs.live_subset_held inst hop)
        have hq := (hs.stringsSet mtp (mem_of_findSlot_eq_some hfind)
          (findAgentMtpByInstance_occupied hfind (hs.live_pos_nodup.1 inst hop))).1
        obtain ⟨r, hr⟩ := ParamWrite.body_ok e inst w hq fun v h => hvalid inst v (h ▸ rfl)
        simp only [Op.run, ParamWrite.notifyChange, withAgentMtp, hfind, hr]
        exact ⟨_, rfl⟩
    | stompConnDeleted c =>
        obtain ⟨o, ho⟩ := deviceMtpNotifyStompConnDeleted_ok e s.agentMtps c
        simp only [Op.run, ho]
        exact ⟨_, rfl⟩
  · obtain ⟨k, mtp, hfind⟩ := findAgentMtpByInstance_of_held (hs.live_subset_held i hi)
    simp only [getMtpStatus, hfind]
    exact ⟨_, rfl⟩

theorem Reachable.run_ok_stompAdded :
    Reachable stompAdded ∧
      (∀ (e : Env) (op : Op), op.Allowed stompAdded →
        (∀ inst v, op = .write inst (.protocol v) → validateAgentMtpProtocol v = uspErrOk) →
        ∃ r, op.run e stompAdded = .ok r) ∧
      ∀ (e : Env), ∀ i ∈ stompAdded.live, ∃ status, getMtpStatus e stompAdded.agentMtps i = .ok status :=
  ⟨reachable_stompAdded, Reachable.run_ok reachable_stompAdded⟩

/-! ### Runs that never delete a disabled instance -/

/-- A delete of an instance whose slot `FindAgentMtpByInstance` finds disabled, which the
early return of `Notify_AgentMtpDeleted` leaves occupied. -/
def Op.DeletesDisabled (s : Sys) : Op → Prop
  | .delete inst => ∃ k mtp, findAgentMtpByInstance s.agentMtps inst = some (k, mtp) ∧
      mtp.enable = false
  | _ => False

/-- The states of the runs none of whose deletes is of a disabled instance. -/
inductive ReachableKeepingSlots : Sys → Prop
  | init : ReachableKeepingSlots ⟨agentMtpsInit, []⟩
  | start (e : Env) (v : List Int) : e.getInstances = .ok v → v.Nodup → (∀ i ∈ v, 0 < i) →
      (deviceMtpStart e agentMtpsInit).err = uspErrOk →
      ReachableKeepingSlots ⟨(deviceMtpStart e agentMtpsInit).agentMtps,
        (v.filter (populates e)).take maxAgentMtps⟩
  | step {s s' : Sys} {calls : List Call} (e : Env) (op : Op) :
      ReachableKeepingSlots s → op.Allowed s → ¬ op.DeletesDisabled s →
      op.run e s = .ok (s', calls) → ReachableKeepingSlots s'

theorem ReachableKeepingSlots.reachable {s : Sys} (hs : ReachableKeepingSlots s) :
    Reachable s := by
  induction hs with
  | init => exact .init
  | start e v hv hnd hpos hok => exact .start e v hv hnd hpos hok
  | step e op _ hallow _ hrun ih => exact .step e op ih hallow hrun

theorem ReachableKeepingSlots.perm {s : Sys} (hs : ReachableKeepingSlots s) :
    List.Perm (heldInstances s.agentMtps) s.live := by
  induction hs with
  | init => exact .refl _
  | start e v hv hnd hpos hok => rw [heldInstances_deviceMtpStart hv hnd hpos hok]
  | step e op hprev hallow hkeep hrun ih =>
      rcases Op.run_held hprev.reachable.live_pos_nodup.1 hallow hrun with
        ⟨hh, hl⟩ | ⟨inst, hh, hl⟩ | ⟨inst, rfl, hl, ⟨-, hnone | hdis⟩ | hh⟩
      · rw [hh, hl]; exact ih
      · rw [hl]; exact hh.trans ((ih.cons inst).trans (List.perm_append_singleton inst _).symm)
      · obtain ⟨mtp, hm, -, hinst⟩ := mem_heldInstances.1 (ih.symm.subset hallow)
        simpa [hinst] using findSlot_eq_none.1 hnone mtp hm
      · exact absurd hdis hkeep
      · rw [hl]
        exact (List.perm_cons inst).1 (hh.symm.trans (ih.trans (List.perm_cons_erase hallow)))

theorem length_filter_inst_eq_count (t : AgentMtps) {i : Int} (hi : 0 < i) :
    (t.slots.filter (·.inst == i)).length = (heldInstances t).count i := by
  have hne : (i != invalid) = true := by simpa [invalid] using (show i ≠ -1 by omega)
  rw [heldInstances, @List.count_filter _ _ _ (· != invalid) i _ hne, List.count, List.countP_map,
    List.countP_eq_length_filter]
  rfl

theorem validateAddAgentMtp_eq_resourcesExceeded_iff (t : AgentMtps) :
    validateAddAgentMtp t = uspErrResourcesExceeded ↔
      (heldInstances t).length = maxAgentMtps := by
  have hre : validateAddAgentMtp t = uspErrResourcesExceeded ↔ validateAddAgentMtp t ≠ uspErrOk := by
    unfold validateAddAgentMtp; split <;> simp [uspErrResourcesExceeded, uspErrOk]
  rw [hre, ne_eq, validateAddAgentMtp_eq_ok_iff, heldInstances, ← t.length_slots,
    ← List.length_map t.slots AgentMtp.inst, List.filter_length_eq_length]
  simp [AgentMtp.Occupied]

theorem ReachableKeepingSlots.length_filter_eq_one {s : Sys} (hs : ReachableKeepingSlots s) :
    ∀ i ∈ s.live, (s.agentMtps.slots.filter (·.inst == i)).length = 1 := by
  obtain ⟨hpos, hnd⟩ := hs.reachable.live_pos_nodup
  intro i hi
  rw [length_filter_inst_eq_count _ (hpos i hi), hs.perm.count_eq, List.count_eq_one_of_mem hnd hi]

/-- On the runs that never delete a disabled instance the table refines the live
instances: the occupied slots hold the live instances, each in exactly one slot, and
nothing else. So `ValidateAdd_AgentMtp` refuses an add exactly when `MAX_AGENT_MTPS`
instances are live, and `FindAgentMtpByInstance` finds no slot for a positive instance that
is not live, one just deleted among them. -/
theorem ReachableKeepingSlots.tableRefinesLive {s : Sys} (hs : ReachableKeepingSlots s) :
    List.Perm (heldInstances s.agentMtps) s.live ∧
      (∀ i ∈ s.live, (s.agentMtps.slots.filter (·.inst == i)).length = 1) ∧
      (∀ i, 0 < i → i ∉ s.live → findAgentMtpByInstance s.agentMtps i = none) ∧
      (validateAddAgentMtp s.agentMtps = uspErrResourcesExceeded ↔
        s.live.length = maxAgentMtps) := by
  have hperm := hs.perm
  refine ⟨hperm, hs.length_filter_eq_one, fun i hi hnot => ?_, ?_⟩
  · refine findSlot_eq_none.2 fun mtp hm => Bool.eq_false_iff.2 fun h => hnot ?_
    rw [beq_iff_eq] at h
    exact hperm.subset (mem_heldInstances.2 ⟨mtp, hm, AgentMtp.occupied_of_pos (h ▸ hi), h⟩)
  · rw [validateAddAgentMtp_eq_resourcesExceeded_iff, hperm.length_eq]

theorem ReachableKeepingSlots.tableRefinesLive_stompAdded :
    ReachableKeepingSlots stompAdded ∧
      List.Perm (heldInstances stompAdded.agentMtps) stompAdded.live ∧
      (∀ i ∈ stompAdded.live, (stompAdded.agentMtps.slots.filter (·.inst == i)).length = 1) ∧
      (∀ i, 0 < i → i ∉ stompAdded.live → findAgentMtpByInstance stompAdded.agentMtps i = none) ∧
      (validateAddAgentMtp stompAdded.agentMtps = uspErrResourcesExceeded ↔
        stompAdded.live.length = maxAgentMtps) :=
  have hs : ReachableKeepingSlots stompAdded := .step stompRow (.add 1) .init (by decide) id rfl
  ⟨hs, ReachableKeepingSlots.tableRefinesLive hs⟩

/-! ### Deleting a disabled instance -/

def addDeleteRounds (e : Env) : Nat → List (Env × Op)
  | 0 => []
  | n + 1 => (e, .add 1) :: (e, .delete 1) :: addDeleteRounds e n

/-- Deleting a disabled instance keeps its slot. Five rounds of adding instance 1,
disabled, and deleting it are a run the data model issues; after it no instance is live,
yet every slot holds instance 1, `FindAgentMtpByInstance(1)` finds one, and
`ValidateAdd_AgentMtp` refuses every add. -/
theorem notifyAgentMtpDeleted_keeps_disabled_slot :
    ∃ r, runOps ⟨agentMtpsInit, []⟩ (addDeleteRounds (storeEnv false .stomp "" "" 5683 "") 5) =
        some r ∧
      Reachable r.1 ∧ r.1.live = [] ∧ heldInstances r.1.agentMtps = [1, 1, 1, 1, 1] ∧
      findAgentMtpByInstance r.1.agentMtps 1 ≠ none ∧
      validateAddAgentMtp r.1.agentMtps = uspErrResourcesExceeded :=
  ⟨_, rfl, @Reachable.runOps _ .init (addDeleteRounds (storeEnv false .stomp "" "" 5683 "") 5) _ rfl,
    rfl, rfl, Option.ne_none_iff_isSome.2 rfl, rfl⟩

end LocalAgentMtp
