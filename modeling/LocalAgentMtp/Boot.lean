import LocalAgentMtp.Refinement

/-!
Startup as run-time adds. `DEVICE_MTP_Start` runs `ProcessAgentMtpAdded` for each instance
the database holds, as `Notify_AgentMtpAdded` does for an instance the data model adds at
run time. The two differ only in what becomes of an instance that cannot be held. At run
time the data model asks `ValidateAdd_AgentMtp` first and drops an add that is refused or
whose population fails; at startup population itself refuses a full table, and the
instance is then deleted from the database, which calls `Notify_AgentMtpDeleted` on an
instance no slot holds.

The main result says that a successful startup right after `DEVICE_MTP_Init` is the run of
the adds of its instances, in its order and with the same answers: the same table, the same
live instances, and the same calls, apart from the deletions. So every state reached
through `DEVICE_MTP_Start` is also reached by run-time operations.
-/

namespace LocalAgentMtp

def withoutDeletes (calls : List Call) : List Call :=
  calls.filter fun
    | .deleteInstance _ _ => false
    | _ => true

@[simp] theorem withoutDeletes_append (a b : List Call) :
    withoutDeletes (a ++ b) = withoutDeletes a ++ withoutDeletes b :=
  List.filter_append _ _

@[simp] theorem withoutDeletes_deleteInstance (i err : Int) (calls : List Call) :
    withoutDeletes (.deleteInstance i err :: calls) = withoutDeletes calls := rfl

@[simp] theorem withoutDeletes_processAgentMtpAdded (e : Env) (t : AgentMtps) (inst : Int) :
    withoutDeletes (processAgentMtpAdded e t inst).calls = (processAgentMtpAdded e t inst).calls :=
  List.filter_eq_self.2 fun c hc => by
    cases c
    case deleteInstance i err => exact absurd hc (deleteInstance_not_mem_processAgentMtpAdded e t inst i err)
    all_goals rfl

/-- What an add does, whether or not `ValidateAdd_AgentMtp` accepts it: a refused add is
what population does to a full table, which changes nothing. -/
theorem Op.run_add_eq (e : Env) (s : Sys) (inst : Int) :
    (Op.add inst).run e s = .ok (⟨(processAgentMtpAdded e s.agentMtps inst).agentMtps,
      if (processAgentMtpAdded e s.agentMtps inst).err = uspErrOk then s.live ++ [inst] else s.live⟩,
      (processAgentMtpAdded e s.agentMtps inst).calls) := by
  unfold Op.run validateAddAgentMtp notifyAgentMtpAdded
  cases h : findUnusedAgentMtp s.agentMtps with
  | none => simp [processAgentMtpAdded_of_full h, uspErrResourcesExceeded, uspErrOk]
  | some r => rfl

/-- The startup loop from a table in the startup shape, when it returns `USP_ERR_OK`, is
the run of the adds of its instances. -/
theorem runOps_adds_of_startTable (e : Env) (v : List Int) :
    ∀ (held : List Int) (t : AgentMtps), StartTable e held t → v.Nodup → (∀ i ∈ v, 0 < i) →
      (∀ i ∈ v, i ∉ held) → (∀ i ∈ held, 0 < i) → (deviceMtpStartLoop e t v).err = uspErrOk →
      runOps ⟨t, held⟩ (v.map fun i => (e, .add i)) =
        some (⟨(deviceMtpStartLoop e t v).agentMtps,
          heldInstances (deviceMtpStartLoop e t v).agentMtps⟩,
          withoutDeletes (deviceMtpStartLoop e t v).calls) := by
  induction v with
  | nil =>
      intro held t ht _ _ _ hheld _
      simp [runOps, deviceMtpStartLoop, heldInstances_of_startTable ht hheld, withoutDeletes]
  | cons x rest ih =>
      intro held t ht hnd hpos hnot hheld hok
      rw [List.nodup_cons] at hnd
      have hrest_pos : ∀ i ∈ rest, 0 < i := fun i hi => hpos i (List.mem_cons_of_mem _ hi)
      have hx : (Op.add x).Allowed ⟨t, held⟩ :=
        ⟨hpos x (List.mem_cons_self _ _), hnot x (List.mem_cons_self _ _)⟩
      simp only [List.map_cons, runOps, if_pos hx, Op.run_add_eq]
      rcases processAgentMtpAdded_startTable ht hheld hx.1 hx.2 with
        ⟨herr, -, -, ht'⟩ | ⟨herr, -, ht', habs⟩
      · -- the add succeeds and the instance is held
        obtain ⟨hnot', hheld'⟩ := startLoop_hold_next hnd.1 hpos hnot hheld
        simp only [deviceMtpStartLoop, herr, ne_eq, not_true_eq_false, if_false, if_true]
          at hok ⊢
        rw [ih _ _ ht' hnd.2 hrest_pos hnot' hheld' hok]
        simp
      · -- the add is dropped, and startup deletes the instance from the data model
        simp only [deviceMtpStartLoop, herr, ne_eq, not_false_eq_true, if_true, if_false]
          at hok ⊢
        by_cases hdel : e.deleteInstance x = uspErrOk
        · simp only [hdel, not_true_eq_false, if_false, notifyAgentMtpDeleted_of_absent habs]
            at hok ⊢
          rw [ih _ _ ht' hnd.2 hrest_pos (fun i hi => hnot i (List.mem_cons_of_mem _ hi)) hheld hok]
          simp
        · simp only [hdel, not_false_eq_true, if_true] at hok

/-- Startup is the run-time adds of its instances. Right after `DEVICE_MTP_Init`, a
`DEVICE_MTP_Start` over distinct positive instance numbers that returns `USP_ERR_OK` leaves
the table, the live instances and the calls, apart from its deletions of the instances it
could not hold, that the data model's adds of the same instances leave at run time, in the
same order and with the same answers. -/
theorem deviceMtpStart_eq_runOps (e : Env) (v : List Int) (hv : e.getInstances = .ok v)
    (hnd : v.Nodup) (hpos : ∀ i ∈ v, 0 < i)
    (hok : (deviceMtpStart e agentMtpsInit).err = uspErrOk) :
    runOps ⟨agentMtpsInit, []⟩ (v.map fun i => (e, .add i)) =
      some (⟨(deviceMtpStart e agentMtpsInit).agentMtps, (v.filter (populates e)).take maxAgentMtps⟩,
        withoutDeletes (deviceMtpStart e agentMtpsInit).calls) := by
  rw [← heldInstances_deviceMtpStart hv hnd hpos hok]
  rw [deviceMtpStart_of_getInstances hv] at hok ⊢
  exact runOps_adds_of_startTable e v [] _ (startTable_init e) hnd hpos (fun _ _ h => nomatch h)
    (fun _ h => nomatch h) hok

theorem deviceMtpStart_eq_runOps_startupEnv :
    startupEnv.getInstances = .ok [1, 2] ∧ [(1 : Int), 2].Nodup ∧ (∀ i ∈ [(1 : Int), 2], 0 < i) ∧
      (deviceMtpStart startupEnv agentMtpsInit).err = uspErrOk ∧
      runOps ⟨agentMtpsInit, []⟩ ([(1 : Int), 2].map fun i => (startupEnv, .add i)) =
        some (⟨(deviceMtpStart startupEnv agentMtpsInit).agentMtps,
          ([(1 : Int), 2].filter (populates startupEnv)).take maxAgentMtps⟩,
          withoutDeletes (deviceMtpStart startupEnv agentMtpsInit).calls) :=
  have hok : (deviceMtpStart startupEnv agentMtpsInit).err = uspErrOk := by decide
  ⟨rfl, by decide, by decide, hok,
    deviceMtpStart_eq_runOps startupEnv [1, 2] rfl (by decide) (by decide) hok⟩

end LocalAgentMtp
