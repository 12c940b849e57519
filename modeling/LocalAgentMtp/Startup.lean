import LocalAgentMtp.Population

/-!
Startup reconciliation: what `DEVICE_MTP_Start` leaves when it runs right after
`DEVICE_MTP_Init` over instance numbers that are distinct and positive, as the data model
hands them out, whatever each read and each CoAP start answers.

Slots fill from index 0 up: population writes the first free slot, and a failed
population releases it again, so after any prefix of the instance list the table is the
populated slots, in the order of their instances, followed by free slots
(`StartTable`). The loop keeps that shape, and once the table is full every further
instance is refused and deleted.
-/

namespace LocalAgentMtp

/-- Whether population of an instance succeeds. -/
def populates (e : Env) (inst : Int) : Bool :=
  (populatedAgentMtp e inst).isSome

/-- The table as startup builds it: the populated slots of `held`, in order, then free
slots. -/
def StartTable (e : Env) (held : List Int) (t : AgentMtps) : Prop :=
  ∃ ms frees, t.slots = ms ++ frees ∧ ms.map AgentMtp.inst = held ∧
    (∀ mtp ∈ ms, populatedAgentMtp e mtp.inst = some mtp) ∧ ∀ mtp ∈ frees, ¬ mtp.Occupied

theorem startTable_init (e : Env) : StartTable e [] agentMtpsInit :=
  ⟨[], agentMtpsInit.slots, rfl, rfl, by simp, agentMtpsInit_free⟩

/-- One instance of the startup loop: population either fills the next free slot with it,
or leaves the table in its shape without it. -/
theorem processAgentMtpAdded_startTable {e : Env} {held : List Int} {t : AgentMtps}
    {inst : Int} (ht : StartTable e held t) (hheld : ∀ i ∈ held, 0 < i) (hpos : 0 < inst)
    (hnot : inst ∉ held) :
    ((processAgentMtpAdded e t inst).err = uspErrOk ∧ held.length < maxAgentMtps ∧
        populates e inst = true ∧
        StartTable e (held ++ [inst]) (processAgentMtpAdded e t inst).agentMtps) ∨
      ((processAgentMtpAdded e t inst).err ≠ uspErrOk ∧
        (held.length < maxAgentMtps → populates e inst = false) ∧
        StartTable e held (processAgentMtpAdded e t inst).agentMtps ∧
        ∀ mtp ∈ (processAgentMtpAdded e t inst).agentMtps.slots, mtp.inst ≠ inst) := by
  obtain ⟨ms, frees, hslots, hinst, hpop, hfree⟩ := ht
  have hheld_len : held.length = ms.length := by rw [← hinst, List.length_map]
  have hlen : ms.length + frees.length = maxAgentMtps := by
    rw [← List.length_append, ← hslots, t.length_slots]
  have hms_inst : ∀ mtp ∈ ms, mtp.inst ∈ held := fun mtp hm => hinst ▸ List.mem_map_of_mem _ hm
  have hocc : ∀ mtp ∈ ms, (mtp.inst == invalid) = false := by
    intro mtp hm
    have := hheld _ (hms_inst mtp hm)
    simp only [beq_eq_false_iff_ne, invalid]
    omega
  have hinst_ne : inst ≠ invalid := by simp only [invalid]; omega
  cases frees with
  | nil =>
      have hfull : findUnusedAgentMtp t = none := by
        rw [findUnusedAgentMtp, findSlot_eq_none, hslots, List.append_nil]; exact hocc
      rw [processAgentMtpAdded_of_full hfull]
      refine .inr ⟨by simp [uspErrResourcesExceeded, uspErrOk], fun h => by simp at hlen; omega,
        ⟨ms, [], hslots, hinst, hpop, by simp⟩, fun mtp hm h => hnot ?_⟩
      rw [hslots, List.append_nil] at hm
      exact h ▸ hms_inst mtp hm
  | cons f fs =>
      have hf : (f.inst == invalid) = true := by
        simpa [AgentMtp.Occupied] using hfree f (List.mem_cons_self _ _)
      have hfind : findUnusedAgentMtp t = some (ms.length, f) := by
        rw [findUnusedAgentMtp, hslots, findSlot_append_of_false hocc, findSlot, if_pos hf]
        simp
      obtain ⟨herr, hagent⟩ := processAgentMtpAdded_of_free e inst hfind
      have hset : ∀ mtp, (t.set ms.length mtp).slots = ms ++ mtp :: fs := by
        intro mtp
        rw [AgentMtps.slots_set, hslots, List.set_append_right _ _ (le_refl _), Nat.sub_self]
        rfl
      have hfs : ∀ mtp ∈ fs, ¬ mtp.Occupied := fun mtp hm => hfree mtp (List.mem_cons_of_mem _ hm)
      cases hp : populatedAgentMtp e inst with
      | none =>
          rw [hp, Option.getD_none] at hagent
          rw [hp] at herr
          refine .inr ⟨fun h => by simp at herr; exact herr h, fun _ => by simp [populates, hp],
            ⟨ms, destroyAgentMtp f :: fs, by rw [hagent, hset], hinst, hpop, ?_⟩, ?_⟩
          · intro mtp hm
            rcases List.mem_cons.1 hm with rfl | hm
            · exact not_occupied_destroyAgentMtp f
            · exact hfs mtp hm
          · intro mtp hm h
            rw [hagent, hset] at hm
            rcases List.mem_append.1 hm with hm | hm
            · exact hnot (h ▸ hms_inst mtp hm)
            · rcases List.mem_cons.1 hm with rfl | hm
              · exact hinst_ne (h ▸ rfl)
              · exact hfs mtp hm (by rw [AgentMtp.Occupied, h]; exact hinst_ne)
      | some mtp =>
          rw [hp, Option.getD_some] at hagent
          rw [hp] at herr
          have hmtp : mtp.inst = inst := populatedAgentMtp_inst hp
          refine .inl ⟨herr.2 rfl, by simp at hlen; omega, by simp [populates, hp],
            ⟨ms ++ [mtp], fs, by rw [hagent, hset]; simp, by simp [hinst, hmtp], ?_, hfs⟩⟩
          intro m hm
          rcases List.mem_append.1 hm with hm | hm
          · exact hpop m hm
          · rw [List.mem_singleton.1 hm, hmtp]; exact hp

theorem startLoop_hold_next {x : Int} {rest held : List Int} (hx : x ∉ rest)
    (hpos : ∀ i ∈ x :: rest, 0 < i) (hnot : ∀ i ∈ x :: rest, i ∉ held) (hheld : ∀ i ∈ held, 0 < i) :
    (∀ i ∈ rest, i ∉ held ++ [x]) ∧ ∀ i ∈ held ++ [x], 0 < i :=
  ⟨fun i hi hmem => (List.mem_append.1 hmem).elim (hnot i (List.mem_cons_of_mem _ hi))
      fun h => hx (List.mem_singleton.1 h ▸ hi),
    fun i hi => (List.mem_append.1 hi).elim (hheld i)
      fun h => List.mem_singleton.1 h ▸ hpos x (List.mem_cons_self _ _)⟩

/-- The startup loop, by induction on the instances still to process: it adds to `held`
the first instances, as many as there is room for, whose population succeeds, and
deletes exactly the others, each with a deletion that succeeded. -/
theorem deviceMtpStartLoop_spec (e : Env) (v : List Int) :
    ∀ (held : List Int) (t : AgentMtps), StartTable e held t → v.Nodup → (∀ i ∈ v, 0 < i) →
      (∀ i ∈ v, i ∉ held) → (∀ i ∈ held, 0 < i) → (deviceMtpStartLoop e t v).err = uspErrOk →
      StartTable e (held ++ (v.filter (populates e)).take (maxAgentMtps - held.length))
          (deviceMtpStartLoop e t v).agentMtps ∧
        ∀ i err, Call.deleteInstance i err ∈ (deviceMtpStartLoop e t v).calls ↔
          i ∈ v ∧ i ∉ (v.filter (populates e)).take (maxAgentMtps - held.length) ∧
            err = uspErrOk := by
  induction v with
  | nil => intro held t ht _ _ _ _ _; simpa [deviceMtpStartLoop] using ht
  | cons x rest ih =>
      intro held t ht hnd hpos hnot hheld hok
      rw [List.nodup_cons] at hnd
      have hrest_pos : ∀ i ∈ rest, 0 < i := fun i hi => hpos i (List.mem_cons_of_mem _ hi)
      rcases processAgentMtpAdded_startTable ht hheld (hpos x (List.mem_cons_self _ _))
          (hnot x (List.mem_cons_self _ _)) with ⟨herr, hlt, hp, ht'⟩ | ⟨herr, hfull, ht', habs⟩
      · -- the instance is held
        simp only [deviceMtpStartLoop, herr, ne_eq, not_true_eq_false, if_false] at hok ⊢
        obtain ⟨hnot', hheld'⟩ := startLoop_hold_next hnd.1 hpos hnot hheld
        obtain ⟨hst, hcalls⟩ := ih (held ++ [x]) _ ht' hnd.2 hrest_pos hnot' hheld' hok
        have htake : ((x :: rest).filter (populates e)).take (maxAgentMtps - held.length) =
            x :: (rest.filter (populates e)).take (maxAgentMtps - (held ++ [x]).length) := by
          rw [List.filter_cons_of_pos hp, List.length_append, List.length_singleton,
            show maxAgentMtps - held.length = (maxAgentMtps - (held.length + 1)) + 1 by omega,
            List.take_succ_cons]
        refine ⟨by rw [htake]; simpa using hst, fun i err => ?_⟩
        rw [htake, List.mem_append, hcalls]
        simp only [deleteInstance_not_mem_processAgentMtpAdded, false_or, List.mem_cons,
          not_or]
        constructor
        · rintro ⟨hi, hnt, rfl⟩
          exact ⟨.inr hi, ⟨fun h : i = x => hnd.1 (h ▸ hi), hnt⟩, rfl⟩
        · rintro ⟨hi | hi, ⟨hx, hnt⟩, rfl⟩
          · exact absurd hi hx
          · exact ⟨hi, hnt, rfl⟩
      · -- the instance is refused or its population fails, and it is deleted
        simp only [deviceMtpStartLoop, herr, ne_eq, not_false_eq_true, if_true] at hok ⊢
        by_cases hdel : e.deleteInstance x = uspErrOk
        · simp only [hdel, not_true_eq_false, if_false,
            notifyAgentMtpDeleted_of_absent habs] at hok ⊢
          obtain ⟨hst, hcalls⟩ := ih held _ ht' hnd.2 hrest_pos
            (fun i hi => hnot i (List.mem_cons_of_mem _ hi)) hheld hok
          have htake : ((x :: rest).filter (populates e)).take (maxAgentMtps - held.length) =
              (rest.filter (populates e)).take (maxAgentMtps - held.length) := by
            by_cases hx : populates e x = true
            · have h0 : maxAgentMtps - held.length = 0 := by
                by_contra h; exact Bool.false_ne_true (hfull (by omega) ▸ hx)
              rw [h0, List.take_zero, List.take_zero]
            · rw [List.filter_cons_of_neg hx]
          have hx_not : x ∉ (rest.filter (populates e)).take (maxAgentMtps - held.length) :=
            fun h => hnd.1 (List.mem_of_mem_filter (List.mem_of_mem_take h))
          refine ⟨by rw [htake]; exact hst, fun i err => ?_⟩
          rw [htake]
          simp only [List.mem_append, List.mem_cons, List.not_mem_nil, or_false,
            Call.deleteInstance.injEq, deleteInstance_not_mem_processAgentMtpAdded, false_or,
            hcalls, List.nil_append]
          constructor
          · rintro (⟨rfl, rfl⟩ | ⟨hi, hnt, rfl⟩)
            · exact ⟨.inl rfl, hx_not, rfl⟩
            · exact ⟨.inr hi, hnt, rfl⟩
          · rintro ⟨rfl | hi, hnt, rfl⟩
            · exact .inl ⟨rfl, rfl⟩
            · exact .inr ⟨hi, hnt, rfl⟩
        · simp only [hdel, not_false_eq_true, if_true] at hok

/-- The startup loop over instances that all populate, with room for all of them, deletes
none of them and returns `USP_ERR_OK`. -/
theorem deviceMtpStartLoop_err_of_populates (e : Env) (v : List Int) :
    ∀ (held : List Int) (t : AgentMtps), StartTable e held t → v.Nodup → (∀ i ∈ v, 0 < i) →
      (∀ i ∈ v, i ∉ held) → (∀ i ∈ held, 0 < i) → (∀ i ∈ v, populates e i = true) →
      held.length + v.length ≤ maxAgentMtps → (deviceMtpStartLoop e t v).err = uspErrOk := by
  induction v with
  | nil => intro _ _ _ _ _ _ _ _ _; rfl
  | cons x rest ih =>
      intro held t ht hnd hpos hnot hheld hpop hlen
      rw [List.nodup_cons] at hnd
      rw [List.length_cons] at hlen
      rcases processAgentMtpAdded_startTable ht hheld (hpos x (List.mem_cons_self _ _))
          (hnot x (List.mem_cons_self _ _)) with ⟨herr, -, -, ht'⟩ | ⟨-, hfull, -, -⟩
      · obtain ⟨hnot', hheld'⟩ := startLoop_hold_next hnd.1 hpos hnot hheld
        simp only [deviceMtpStartLoop, herr, ne_eq, not_true_eq_false, if_false]
        exact ih _ _ ht' hnd.2 (fun i hi => hpos i (List.mem_cons_of_mem _ hi)) hnot' hheld'
          (fun i hi => hpop i (List.mem_cons_of_mem _ hi))
          (by rw [List.length_append, List.length_singleton]; omega)
      · exact absurd (hpop x (List.mem_cons_self _ _)) (by rw [hfull (by omega)]; decide)

theorem filter_inst_eq_singleton {ms : List AgentMtp} {mtp : AgentMtp}
    (hnd : (ms.map AgentMtp.inst).Nodup) (hm : mtp ∈ ms) :
    ms.filter (fun x => x.inst == mtp.inst) = [mtp] := by
  induction ms with
  | nil => cases hm
  | cons y ys ih =>
      rw [List.map_cons, List.nodup_cons] at hnd
      have hnone : ∀ x ∈ ys, (x.inst == y.inst) = false := fun x hx =>
        beq_eq_false_iff_ne.2 fun h => hnd.1 (h ▸ List.mem_map_of_mem AgentMtp.inst hx)
      rcases List.mem_cons.1 hm with rfl | hm
      · rw [List.filter_cons_of_pos (by simp), List.filter_eq_nil_iff.2 fun x hx => by
          simp [hnone x hx]]
      · have hne : (y.inst == mtp.inst) = false :=
          beq_eq_false_iff_ne.2 fun h => hnd.1 (h ▸ List.mem_map_of_mem AgentMtp.inst hm)
        rw [List.filter_cons_of_neg (by simp [hne]), ih hnd.2 hm]

theorem StartTable.map_inst {e : Env} {held : List Int} {t : AgentMtps}
    (ht : StartTable e held t) :
    t.slots.map AgentMtp.inst = held ++ List.replicate (maxAgentMtps - held.length) invalid := by
  obtain ⟨ms, frees, hslots, hinst, -, hfree⟩ := ht
  have hlen : ms.length + frees.length = maxAgentMtps := by
    rw [← List.length_append, ← hslots, AgentMtps.length_slots]
  have hfrees : frees.map AgentMtp.inst = frees.map fun _ => invalid :=
    List.map_congr_left fun mtp hm => by simpa [AgentMtp.Occupied] using hfree mtp hm
  rw [hslots, List.map_append, hinst, hfrees, List.map_const', ← hinst, List.length_map]
  congr 2
  omega

theorem StartTable.inst_ne {e : Env} {held : List Int} {t : AgentMtps} (ht : StartTable e held t)
    {i : Int} (hpos : 0 < i) (hi : i ∉ held) : ∀ mtp ∈ t.slots, mtp.inst ≠ i := by
  obtain ⟨ms, frees, hslots, hinst, -, hfree⟩ := ht
  intro mtp hm h
  rcases List.mem_append.1 (hslots ▸ hm) with hm | hm
  · exact hi (hinst ▸ h ▸ List.mem_map_of_mem _ hm)
  · exact hfree mtp hm (by rw [AgentMtp.Occupied, h, invalid]; omega)

theorem StartTable.filter_inst {e : Env} {held : List Int} {t : AgentMtps}
    (ht : StartTable e held t) (hnd : held.Nodup) {i : Int} (hpos : 0 < i) (hi : i ∈ held) :
    ∃ mtp, readAgentMtp e i = .ok mtp ∧ t.slots.filter (fun m => m.inst == i) = [mtp] := by
  obtain ⟨ms, frees, hslots, hinst, hpop, hfree⟩ := ht
  obtain ⟨mtp, hm, rfl⟩ := List.mem_map.1 (hinst ▸ hi)
  refine ⟨mtp, readAgentMtp_of_populatedAgentMtp (hpop mtp hm), ?_⟩
  have hnone : ∀ x ∈ frees, (x.inst == mtp.inst) = false := fun x hx =>
    beq_eq_false_iff_ne.2 fun h => hfree x hx (by rw [AgentMtp.Occupied, h, invalid]; omega)
  rw [hslots, List.filter_append, filter_inst_eq_singleton (hinst ▸ hnd) hm,
    List.filter_eq_nil_iff.2 fun x hx => by simp [hnone x hx]]
  rfl

theorem StartTable.occupied {e : Env} {held : List Int} {t : AgentMtps} (ht : StartTable e held t)
    (hpos : ∀ i ∈ held, 0 < i) :
    (t.slots.filter (·.Occupied)).map AgentMtp.inst = held ∧
      ∀ mtp ∈ t.slots.filter (·.Occupied), populatedAgentMtp e mtp.inst = some mtp := by
  obtain ⟨ms, frees, hslots, hinst, hpop, hfree⟩ := ht
  have hms : t.slots.filter (·.Occupied) = ms := by
    rw [hslots, List.filter_append, List.filter_eq_self.2 fun x hx => decide_eq_true
        (AgentMtp.occupied_of_pos (hpos _ (hinst ▸ List.mem_map_of_mem _ hx))),
      List.filter_eq_nil_iff.2 fun x hx => by simpa using hfree x hx, List.append_nil]
  rw [hms]
  exact ⟨hinst, hpop⟩

/-- Startup reconciliation. Run right after `DEVICE_MTP_Init` over distinct positive
instance numbers, and returning `USP_ERR_OK`, `DEVICE_MTP_Start` holds the first
`MAX_AGENT_MTPS` instances whose population succeeds, in slots 0 up, each in exactly one
slot with the values read for it and never deleted, and leaves every other slot free;
every other instance has been deleted from the data model and no slot holds it. A failed
`ProcessAgentMtpAdded`, on any table, either changed nothing or released the slot it had
taken, the first free one, and changed no other. -/
theorem deviceMtpStart_reconciles (e : Env) (v : List Int) (hv : e.getInstances = .ok v)
    (hnodup : v.Nodup) (hpos : ∀ i ∈ v, 0 < i)
    (hok : (deviceMtpStart e agentMtpsInit).err = uspErrOk) :
    (deviceMtpStart e agentMtpsInit).agentMtps.slots.map AgentMtp.inst =
        (v.filter (populates e)).take maxAgentMtps ++
          List.replicate (maxAgentMtps - ((v.filter (populates e)).take maxAgentMtps).length)
            invalid ∧
      (∀ i ∈ (v.filter (populates e)).take maxAgentMtps, ∃ mtp, readAgentMtp e i = .ok mtp ∧
          (deviceMtpStart e agentMtpsInit).agentMtps.slots.filter (fun m => m.inst == i) =
            [mtp] ∧
          ∀ err, Call.deleteInstance i err ∉ (deviceMtpStart e agentMtpsInit).calls) ∧
      (∀ i ∈ v, i ∉ (v.filter (populates e)).take maxAgentMtps →
          Call.deleteInstance i uspErrOk ∈ (deviceMtpStart e agentMtpsInit).calls ∧
          ∀ mtp ∈ (deviceMtpStart e agentMtpsInit).agentMtps.slots, mtp.inst ≠ i) ∧
      (∀ (t : AgentMtps) (inst : Int), (processAgentMtpAdded e t inst).err ≠ uspErrOk →
          (processAgentMtpAdded e t inst).agentMtps = t ∨
            ∃ k free, findUnusedAgentMtp t = some (k, free) ∧
              (processAgentMtpAdded e t inst).agentMtps = t.set k (destroyAgentMtp free)) := by
  have hstart : deviceMtpStart e agentMtpsInit = deviceMtpStartLoop e agentMtpsInit v := by
    simp [deviceMtpStart, hv]
  rw [hstart] at hok ⊢
  obtain ⟨hst, hcalls⟩ :=
    deviceMtpStartLoop_spec e v [] agentMtpsInit (startTable_init e) hnodup hpos (by simp)
      (by simp) hok
  simp only [List.nil_append, List.length_nil, Nat.sub_zero] at hst hcalls
  have hheld_v : ∀ i ∈ (v.filter (populates e)).take maxAgentMtps, i ∈ v := fun i hi =>
    List.mem_of_mem_filter (List.mem_of_mem_take hi)
  have hnd : ((v.filter (populates e)).take maxAgentMtps).Nodup :=
    (hnodup.sublist (List.filter_sublist v)).sublist (List.take_sublist _ _)
  refine ⟨hst.map_inst, fun i hi => ?_, fun i hi hni => ⟨(hcalls i uspErrOk).2 ⟨hi, hni, rfl⟩,
    hst.inst_ne (hpos i hi) hni⟩, fun t inst herr => processAgentMtpAdded_of_failed herr⟩
  obtain ⟨mtp, hread, hfilter⟩ := hst.filter_inst hnd (hpos i (hheld_v i hi)) hi
  exact ⟨mtp, hread, hfilter, fun err h => ((hcalls _ err).1 h).2.1 hi⟩

/-- A data model holding instances 1 and 2: instance 1 is an enabled STOMP MTP with no
connection yet, and the `Enable` read of instance 2 fails. -/
def startupEnv : Env where
  getInstances := .ok [1, 2]
  getEnable i := if i = 1 then .ok true else .error ⟨7002, by decide⟩
  getProtocol _ := .ok .stomp
  getStompReference _ := .ok ""
  getStompDestination _ := .ok "agent/1"
  getCoapPort _ := .ok 5683
  getCoapPath _ := .ok ""
  validateReference _ := .error ⟨7002, by decide⟩
  coapStartServer _ _ _ := uspErrOk
  clearStompReferenceNotifies _ := true
  deleteInstance _ := uspErrOk
  stompGetMtpStatus _ := .up
  coapGetServerStatus _ := .up
  stompGetDestinationFromServer _ := ""

theorem deviceMtpStart_reconciles_startupEnv :
    startupEnv.getInstances = .ok [1, 2] ∧ [(1 : Int), 2].Nodup ∧ (∀ i ∈ [(1 : Int), 2], 0 < i) ∧
      (deviceMtpStart startupEnv agentMtpsInit).err = uspErrOk ∧
      (deviceMtpStart startupEnv agentMtpsInit).agentMtps.slots.map AgentMtp.inst =
        ([(1 : Int), 2].filter (populates startupEnv)).take maxAgentMtps ++
          List.replicate (maxAgentMtps -
            (([(1 : Int), 2].filter (populates startupEnv)).take maxAgentMtps).length) invalid :=
  have hok : (deviceMtpStart startupEnv agentMtpsInit).err = uspErrOk := by decide
  ⟨rfl, by decide, by decide, hok,
    (deviceMtpStart_reconciles startupEnv [1, 2] rfl (by decide) (by decide) hok).1⟩

end LocalAgentMtp
