import LocalAgentMtp.System

/-!
The arguments of the calls `device_mtp.c` makes into the transports. Every
`DEVICE_STOMP_ScheduleReconnect` sits under a test that its connection is not `INVALID`,
and every `COAP_StartServer` is handed the path of the slot it starts. The lemmas below
follow each entry point's calls; whether the path is set is a fact about the table, so
the handlers' lemmas take it as a hypothesis on the slot they work on.
-/

namespace LocalAgentMtp

/-- Whether a call has the arguments its callee needs: a connection, not `INVALID`, for
`DEVICE_STOMP_ScheduleReconnect`, and a path, not `NULL`, for `COAP_StartServer`. -/
def Call.argumentsSet : Call → Bool
  | .scheduleReconnect c => c != invalid
  | .coapStartServer _ _ path _ => path.isSome
  | _ => true

theorem agentMtpStompReferenceBody_argumentsSet (e : Env) (inst1 : Int) (mtp : AgentMtp) :
    (agentMtpStompReferenceBody e inst1 mtp).calls.all Call.argumentsSet = true := by
  unfold agentMtpStompReferenceBody; split
  · rfl
  · dsimp only; split <;> simp [Call.argumentsSet]

theorem ParamWrite.body_argumentsSet {e : Env} {inst1 : Int} {w : ParamWrite} {mtp : AgentMtp}
    {r : SlotOutcome} (h : w.body e inst1 mtp = .ok r) (hp : mtp.coapPath.isSome) :
    r.calls.all Call.argumentsSet = true := by
  cases w <;> simp only [ParamWrite.body, Except.ok.injEq] at h
  case enable v =>
    subst h; unfold agentMtpEnableBody; split
    · rfl
    · dsimp only; split <;> (try split) <;> simp [coapStart, Call.argumentsSet, hp]
  case protocol v =>
    obtain ⟨p, hlookup, -⟩ := agentMtpProtocolBody_mtp h
    rw [agentMtpProtocolBody_eq e mtp hlookup, Except.ok.injEq] at h
    subst h
    split_ifs <;> simp [coapStart, Call.argumentsSet, hp]
  case stompReference => subst h; exact agentMtpStompReferenceBody_argumentsSet e inst1 mtp
  case stompDestination v =>
    unfold agentMtpStompDestinationBody at h
    dsimp only at h
    split at h
    · cases h
    · rename_i schedule hsched
      cases h
      dsimp only
      split
      · subst schedule
        split at hsched
        · split at hsched
          · cases hsched
          · simp only [Except.ok.injEq, decide_eq_true_eq] at hsched
            simp [Call.argumentsSet, hsched.2]
        · cases hsched
      · rfl
  case coapPort v =>
    subst h; unfold agentMtpCoapPortBody coapRestartBody; split
    · rfl
    · split <;> simp [coapStart, Call.argumentsSet, hp]
  case coapPath v =>
    subst h; unfold agentMtpCoapPathBody coapRestartBody
    split <;> simp [coapStart, Call.argumentsSet]

theorem processAgentMtpAdded_argumentsSet (e : Env) (t : AgentMtps) (inst : Int) :
    (processAgentMtpAdded e t inst).calls.all Call.argumentsSet = true := by
  have hpop : (populateAgentMtp e inst).2.1.all Call.argumentsSet = true := by
    unfold populateAgentMtp
    split
    · rfl
    · rename_i mtp hread
      split
      · simp [coapStart, Call.argumentsSet, (readAgentMtp_strings hread).2]
      · rfl
  unfold processAgentMtpAdded
  split
  · rfl
  · dsimp only
    rw [List.all_append, hpop, Bool.true_and]
    split_ifs <;> simp [Call.argumentsSet]

theorem notifyAgentMtpDeleted_argumentsSet (t : AgentMtps) (inst1 : Int) :
    (notifyAgentMtpDeleted t inst1).calls.all Call.argumentsSet = true := by
  unfold notifyAgentMtpDeleted
  split
  · rfl
  · split
    · rfl
    · dsimp only; split <;> simp [Call.argumentsSet]

theorem deviceMtpStartLoop_argumentsSet (e : Env) (v : List Int) :
    ∀ t, (deviceMtpStartLoop e t v).calls.all Call.argumentsSet = true := by
  induction v with
  | nil => exact fun _ => rfl
  | cons inst rest ih =>
      intro t
      have h₁ := processAgentMtpAdded_argumentsSet e t inst
      simp only [deviceMtpStartLoop]
      split
      · split
        · rw [List.all_append, h₁]; rfl
        · simp only [List.all_append, List.all_cons, h₁, notifyAgentMtpDeleted_argumentsSet, ih]
          rfl
      · rw [List.all_append, h₁, ih]; rfl

theorem deviceMtpStart_argumentsSet (e : Env) (t : AgentMtps) :
    (deviceMtpStart e t).calls.all Call.argumentsSet = true := by
  unfold deviceMtpStart
  split
  · rfl
  · exact deviceMtpStartLoop_argumentsSet e _ t

theorem deviceMtpNotifyStompConnDeleted_argumentsSet {e : Env} {t : AgentMtps} {c : Int}
    {o : Outcome} (h : deviceMtpNotifyStompConnDeleted e t c = .ok o) :
    o.calls.all Call.argumentsSet = true := by
  refine deviceMtpNotifyStompConnDeleted_preserves
    (fun o => o.calls.all Call.argumentsSet = true) (fun acc acc' hacc hs => ?_) rfl h
  cases hs with
  | skip => exact hacc
  | clear => rw [List.all_append, hacc]; rfl
  | notify inst o ho =>
      obtain ⟨k, mtp, r, -, hbody, rfl⟩ := withAgentMtp_eq_ok ho
      cases hbody
      rw [List.all_append, List.all_append, hacc, agentMtpStompReferenceBody_argumentsSet]; rfl

/-- Every call an operation the data model issues makes has its arguments set, in a state
whose occupied slots have their paths. -/
theorem Op.run_argumentsSet {e : Env} {s s' : Sys} {op : Op} {calls : List Call}
    (hpath : ∀ mtp ∈ s.agentMtps.slots, mtp.Occupied → mtp.coapPath.isSome)
    (hpos : ∀ i ∈ s.live, 0 < i) (hop : op.Allowed s) (h : op.run e s = .ok (s', calls)) :
    calls.all Call.argumentsSet = true := by
  cases op with
  | add inst =>
      rcases Op.run_add h with ⟨-, rfl⟩ | ⟨-, -, rfl, -⟩
      · rfl
      · exact processAgentMtpAdded_argumentsSet e _ inst
  | delete inst =>
      simp only [Op.run, Except.ok.injEq, Prod.mk.injEq] at h
      rw [← h.2]
      exact notifyAgentMtpDeleted_argumentsSet _ inst
  | write inst w =>
      obtain ⟨o, ho, -, rfl⟩ := Op.run_write h
      obtain ⟨k, mtp, r, hfind, hbody, rfl⟩ := withAgentMtp_eq_ok ho
      exact ParamWrite.body_argumentsSet hbody (hpath mtp (mem_of_findSlot_eq_some hfind)
        (findAgentMtpByInstance_occupied hfind (hpos inst hop)))
  | stompConnDeleted c =>
      obtain ⟨o, ho, -, rfl⟩ := Op.run_stompConnDeleted h
      exact deviceMtpNotifyStompConnDeleted_argumentsSet ho

end LocalAgentMtp
