import LocalAgentMtp.Handlers

/-!
Population of a slot from the data model, `ProcessAgentMtpAdded`, and the two callers of
it: `Notify_AgentMtpAdded` when an instance is added at run time, and `DEVICE_MTP_Start`,
which populates a slot for every instance the database holds at startup and deletes from
the database each instance whose population fails.
-/

namespace LocalAgentMtp

/-- The reads of `ProcessAgentMtpAdded`, in the order the C code makes them; the first that
fails stops population with its error. -/
def readAgentMtp (e : Env) (inst : Int) : Except ErrCode AgentMtp := do
  let enable ← e.getEnable inst
  let protocol ← e.getProtocol inst
  let stompConnectionInstance ← deviceMtpGetStompReference e (e.getStompReference inst)
  let queue ← e.getStompDestination inst
  let coapPort ← e.getCoapPort inst
  let path ← e.getCoapPath inst
  pure { inst, enable, protocol, stompConnectionInstance, stompAgentQueue := some queue,
         coapPort, coapPath := some path }

/-- The slot `ProcessAgentMtpAdded` fills before `goto exit`, with the calls it made and the
error it exits with. A read that fails leaves a partly read slot, which the exit then
releases; `DestroyAgentMtp` overwrites every field, so the defaults stand in for it. -/
def populateAgentMtp (e : Env) (inst : Int) : AgentMtp × List Call × Int :=
  match readAgentMtp e inst with
  | .error err => ({ zeroAgentMtp with inst := inst, stompConnectionInstance := invalid }, [],
      err.code)
  | .ok mtp =>
      if mtp.protocol = .coap ∧ mtp.enable = true then
        (mtp, [(coapStart e mtp).1], (coapStart e mtp).2)
      else (mtp, [], uspErrOk)

/-- `ProcessAgentMtpAdded`. After `exit:` a slot whose population failed is released, and a
reconnect is scheduled if the slot as it then is affects a STOMP connection. -/
def processAgentMtpAdded (e : Env) (t : AgentMtps) (inst : Int) : Outcome :=
  match findUnusedAgentMtp t with
  | none => ⟨t, [], uspErrResourcesExceeded⟩
  | some (k, _) =>
      let (mtp, calls, err) := populateAgentMtp e inst
      let mtp := if err ≠ uspErrOk then destroyAgentMtp mtp else mtp
      let reconnect := if mtp.enable = true ∧ mtp.protocol = .stomp then
        reconnectIfSet mtp.stompConnectionInstance else []
      ⟨t.set k mtp, calls ++ reconnect, err⟩

/-- `Notify_AgentMtpAdded`. -/
def notifyAgentMtpAdded (e : Env) (t : AgentMtps) (inst1 : Int) : Outcome :=
  processAgentMtpAdded e t inst1

/-- The loop of `DEVICE_MTP_Start` over the instance numbers. A failed population is
followed by `DATA_MODEL_DeleteInstance`, which, when it succeeds, has called
`Notify_AgentMtpDeleted` on the instance; a failed deletion ends startup with its error. -/
def deviceMtpStartLoop (e : Env) (t : AgentMtps) : List Int → Outcome
  | [] => ⟨t, [], uspErrOk⟩
  | inst :: rest =>
      let o := processAgentMtpAdded e t inst
      if o.err ≠ uspErrOk then
        let err := e.deleteInstance inst
        if err ≠ uspErrOk then ⟨o.agentMtps, o.calls ++ [.deleteInstance inst err], err⟩
        else
          let d := notifyAgentMtpDeleted o.agentMtps inst
          let r := deviceMtpStartLoop e d.agentMtps rest
          ⟨r.agentMtps, o.calls ++ .deleteInstance inst err :: d.calls ++ r.calls, r.err⟩
      else
        let r := deviceMtpStartLoop e o.agentMtps rest
        ⟨r.agentMtps, o.calls ++ r.calls, r.err⟩

/-- `DEVICE_MTP_Start`. An empty instance list only logs a warning, which the loop over no
instances already returns `USP_ERR_OK` for. -/
def deviceMtpStart (e : Env) (t : AgentMtps) : Outcome :=
  match e.getInstances with
  | .error err => ⟨t, [], err.code⟩
  | .ok iv => deviceMtpStartLoop e t iv

/-! ### What population does

Population succeeds or fails independently of the table, so it is described once, by the
slot it yields; `ProcessAgentMtpAdded` then writes that slot, or a released one, into the
first free slot. -/

/-- The slot population yields, or `none` when a read or the CoAP start fails. -/
def populatedAgentMtp (e : Env) (inst : Int) : Option AgentMtp :=
  match readAgentMtp e inst with
  | .error _ => none
  | .ok mtp =>
      if mtp.protocol = .coap ∧ mtp.enable = true ∧ (coapStart e mtp).2 ≠ uspErrOk then none
      else some mtp

theorem readAgentMtp_inst {e : Env} {inst : Int} {mtp : AgentMtp}
    (h : readAgentMtp e inst = .ok mtp) : mtp.inst = inst := by
  simp only [readAgentMtp, bind, Except.bind] at h
  repeat' split at h
  all_goals cases h
  rfl

theorem readAgentMtp_strings {e : Env} {inst : Int} {mtp : AgentMtp}
    (h : readAgentMtp e inst = .ok mtp) :
    mtp.stompAgentQueue.isSome ∧ mtp.coapPath.isSome := by
  simp only [readAgentMtp, bind, Except.bind] at h
  repeat' split at h
  all_goals cases h
  exact ⟨rfl, rfl⟩

theorem readAgentMtp_of_populatedAgentMtp {e : Env} {inst : Int} {mtp : AgentMtp}
    (h : populatedAgentMtp e inst = some mtp) : readAgentMtp e inst = .ok mtp := by
  unfold populatedAgentMtp at h
  split at h
  · cases h
  · split at h
    · cases h
    · cases h; assumption

theorem populatedAgentMtp_inst {e : Env} {inst : Int} {mtp : AgentMtp}
    (h : populatedAgentMtp e inst = some mtp) : mtp.inst = inst :=
  readAgentMtp_inst (readAgentMtp_of_populatedAgentMtp h)

/-- The slot population is left with, and the error it exits with, in the two cases. -/
theorem populateAgentMtp_spec (e : Env) (inst : Int) :
    ((populateAgentMtp e inst).2.2 = uspErrOk ↔ (populatedAgentMtp e inst).isSome) ∧
      ∀ mtp, populatedAgentMtp e inst = some mtp → (populateAgentMtp e inst).1 = mtp := by
  unfold populateAgentMtp populatedAgentMtp
  split
  · rename_i err _
    exact ⟨iff_of_false err.code_ne_ok (by simp), fun _ h => by cases h⟩
  · rename_i mtp _
    by_cases hc : mtp.protocol = .coap ∧ mtp.enable = true
    · by_cases hs : (coapStart e mtp).2 = uspErrOk <;> simp [hc, hs]
    · have : ¬ (mtp.protocol = .coap ∧ mtp.enable = true ∧ (coapStart e mtp).2 ≠ uspErrOk) :=
        fun h => hc ⟨h.1, h.2.1⟩
      simp only [if_neg hc, if_neg this]
      exact ⟨by simp, fun _ h => Option.some.inj h⟩

theorem processAgentMtpAdded_of_full {e : Env} {t : AgentMtps} {inst : Int}
    (h : findUnusedAgentMtp t = none) :
    processAgentMtpAdded e t inst = ⟨t, [], uspErrResourcesExceeded⟩ := by
  simp [processAgentMtpAdded, h]

/-- With a free slot, `ProcessAgentMtpAdded` writes the populated slot into the first one
and succeeds, or writes a released slot there and fails. -/
theorem processAgentMtpAdded_of_free (e : Env) (inst : Int) {t : AgentMtps} {k : Nat}
    {free : AgentMtp} (h : findUnusedAgentMtp t = some (k, free)) :
    let o := processAgentMtpAdded e t inst
    (o.err = uspErrOk ↔ (populatedAgentMtp e inst).isSome) ∧
      (o.agentMtps = t.set k (((populatedAgentMtp e inst).getD (destroyAgentMtp free)))) := by
  obtain ⟨herr, hmtp⟩ := populateAgentMtp_spec e inst
  simp only [processAgentMtpAdded, h]
  refine ⟨herr, ?_⟩
  cases hp : populatedAgentMtp e inst with
  | none =>
      have hne : (populateAgentMtp e inst).2.2 ≠ uspErrOk := fun h' => by simp [hp] at herr; exact herr h'
      simp only [if_pos hne, Option.getD_none]
      rfl
  | some mtp =>
      have hok : (populateAgentMtp e inst).2.2 = uspErrOk := herr.2 (by simp [hp])
      simp only [hok, ne_eq, not_true_eq_false, if_false, hmtp mtp hp, Option.getD_some]

theorem processAgentMtpAdded_of_failed {e : Env} {t : AgentMtps} {inst : Int}
    (herr : (processAgentMtpAdded e t inst).err ≠ uspErrOk) :
    (processAgentMtpAdded e t inst).agentMtps = t ∨
      ∃ k free, findUnusedAgentMtp t = some (k, free) ∧
        (processAgentMtpAdded e t inst).agentMtps = t.set k (destroyAgentMtp free) := by
  cases hfind : findUnusedAgentMtp t with
  | none => exact .inl (by rw [processAgentMtpAdded_of_full hfind])
  | some r =>
      obtain ⟨k, free⟩ := r
      obtain ⟨hiff, hagent⟩ := processAgentMtpAdded_of_free e inst hfind
      have hnone : populatedAgentMtp e inst = none :=
        Option.not_isSome_iff_eq_none.1 fun h => herr (hiff.2 h)
      exact .inr ⟨k, free, rfl, by rw [hagent, hnone, Option.getD_none]⟩

theorem processAgentMtpAdded_calls_of_populated (e : Env) (inst : Int) {t : AgentMtps} {k : Nat}
    {free mtp : AgentMtp} (h : findUnusedAgentMtp t = some (k, free))
    (hp : populatedAgentMtp e inst = some mtp) :
    ∃ pre, (processAgentMtpAdded e t inst).calls = pre ++
      if mtp.enable = true ∧ mtp.protocol = .stomp then reconnectIfSet mtp.stompConnectionInstance
      else [] := by
  obtain ⟨herr, hmtp⟩ := populateAgentMtp_spec e inst
  have hok : (populateAgentMtp e inst).2.2 = uspErrOk := herr.2 (by simp [hp])
  simp only [processAgentMtpAdded, h, hok, ne_eq, not_true_eq_false, if_false, hmtp mtp hp]
  exact ⟨_, rfl⟩

theorem deleteInstance_not_mem_processAgentMtpAdded (e : Env) (t : AgentMtps) (inst i err : Int) :
    Call.deleteInstance i err ∉ (processAgentMtpAdded e t inst).calls := by
  have hpop : Call.deleteInstance i err ∉ (populateAgentMtp e inst).2.1 := by
    unfold populateAgentMtp
    split
    · simp
    · split <;> simp [coapStart]
  unfold processAgentMtpAdded
  split
  · simp
  · generalize populateAgentMtp e inst = p at hpop ⊢
    obtain ⟨mtp, calls, code⟩ := p
    simp only [List.mem_append, not_or]
    exact ⟨hpop, by split <;> simp⟩

theorem deviceMtpStart_of_getInstances {e : Env} {v : List Int} (hv : e.getInstances = .ok v)
    (t : AgentMtps) : deviceMtpStart e t = deviceMtpStartLoop e t v := by
  simp only [deviceMtpStart, hv]

theorem filterMap_populatedAgentMtp {e : Env} {ms : List AgentMtp}
    (h : ∀ mtp ∈ ms, populatedAgentMtp e mtp.inst = some mtp) :
    (ms.map AgentMtp.inst).filterMap (populatedAgentMtp e) = ms := by
  rw [List.filterMap_map]
  conv_rhs => rw [← List.filterMap_some ms]
  exact List.filterMap_congr h

end LocalAgentMtp
