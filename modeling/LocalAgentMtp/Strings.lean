import LocalAgentMtp.Calls

/-!
No occupied slot is ever without its strings. Population takes a slot while its strings
are still `NULL`, but every exit of `ProcessAgentMtpAdded` that has not read both of them
releases the slot; no other entry point frees a string without releasing the slot too.
So the three places that read the strings of an occupied slot, the `strcmp` of
`NotifyChange_AgentMtpStompDestination`, the `stomp_agent_queue[0]` of
`DEVICE_MTP_GetAgentStompQueue` and the path handed to `COAP_StartServer`, never see
`NULL`.
-/

namespace LocalAgentMtp

/-- Every occupied slot holds both of its strings. -/
def StringsSet (t : AgentMtps) : Prop :=
  ∀ mtp ∈ t.slots, mtp.Occupied → mtp.stompAgentQueue.isSome ∧ mtp.coapPath.isSome

/-- Whether a call, if it is to `COAP_StartServer`, hands it a path that is not `NULL`. -/
def Call.startPathOk : Call → Bool
  | .coapStartServer _ _ path _ => path.isSome
  | _ => true

theorem stringsSet_set {t : AgentMtps} (ht : StringsSet t) (k : Nat) {mtp : AgentMtp}
    (h : mtp.Occupied → mtp.stompAgentQueue.isSome ∧ mtp.coapPath.isSome) :
    StringsSet (t.set k mtp) := by
  intro m hm
  rcases List.mem_or_eq_of_mem_set hm with hm | rfl
  · exact ht m hm
  · exact h

theorem stringsSet_init : StringsSet agentMtpsInit :=
  fun mtp hm hocc => absurd hocc (agentMtpsInit_free mtp hm)

/-! ### Each entry point keeps the strings of occupied slots -/

theorem stringsSet_processAgentMtpAdded (e : Env) {t : AgentMtps} (inst : Int)
    (ht : StringsSet t) : StringsSet (processAgentMtpAdded e t inst).agentMtps := by
  cases hfind : findUnusedAgentMtp t with
  | none => rw [processAgentMtpAdded_of_full hfind]; exact ht
  | some r =>
      rw [(processAgentMtpAdded_of_free e inst hfind).2]
      apply stringsSet_set ht
      cases hp : populatedAgentMtp e inst with
      | none => exact fun h => absurd h (not_occupied_destroyAgentMtp r.2)
      | some mtp => exact fun _ => readAgentMtp_strings (readAgentMtp_of_populatedAgentMtp hp)

theorem stringsSet_notifyAgentMtpDeleted {t : AgentMtps} (inst1 : Int) (ht : StringsSet t) :
    StringsSet (notifyAgentMtpDeleted t inst1).agentMtps := by
  unfold notifyAgentMtpDeleted
  split
  · exact ht
  · split
    · exact ht
    · exact stringsSet_set ht _ fun h => absurd h (not_occupied_destroyAgentMtp _)

theorem stringsSet_notifyChange {e : Env} {t : AgentMtps} {inst1 : Int} {w : ParamWrite}
    {o : Outcome} (ht : StringsSet t) (h : w.notifyChange e t inst1 = .ok o) :
    StringsSet o.agentMtps := by
  obtain ⟨k, mtp, r, hfind, hbody, rfl⟩ := withAgentMtp_eq_ok h
  have hkeep := ParamWrite.keepsSlot hbody
  refine stringsSet_set ht k fun hocc => ?_
  have hmtp := ht mtp (mem_of_findSlot_eq_some hfind)
    (by rw [AgentMtp.Occupied, ← hkeep.inst_eq]; exact hocc)
  exact ⟨hkeep.queue_isSome hmtp.1, hkeep.path_isSome hmtp.2⟩

theorem stringsSet_deviceMtpNotifyStompConnDeleted {e : Env} {t : AgentMtps} {c : Int}
    {o : Outcome} (ht : StringsSet t) (h : deviceMtpNotifyStompConnDeleted e t c = .ok o) :
    StringsSet o.agentMtps := by
  refine deviceMtpNotifyStompConnDeleted_preserves (fun o => StringsSet o.agentMtps)
    (fun acc acc' hacc hs => ?_) ht h
  cases hs with
  | skip => exact hacc
  | clear => exact hacc
  | notify inst o ho => exact @stringsSet_notifyChange e _ inst (.stompReference "") o hacc ho

theorem stringsSet_deviceMtpStartLoop (e : Env) (v : List Int) :
    ∀ t, StringsSet t → StringsSet (deviceMtpStartLoop e t v).agentMtps := by
  induction v with
  | nil => exact fun t ht => ht
  | cons inst rest ih =>
      intro t ht
      have h₁ := stringsSet_processAgentMtpAdded e inst ht
      simp only [deviceMtpStartLoop]
      split
      · split
        · exact h₁
        · exact ih _ (stringsSet_notifyAgentMtpDeleted inst h₁)
      · exact ih _ h₁

theorem Reachable.stringsSet {s : Sys} (hs : Reachable s) : StringsSet s.agentMtps := by
  induction hs with
  | init => exact stringsSet_init
  | start e v hv _ _ _ =>
      simp only [deviceMtpStart, hv]
      exact stringsSet_deviceMtpStartLoop e v _ stringsSet_init
  | step e op _ _ hrun ih =>
      cases op with
      | add inst =>
          rcases Op.run_add hrun with ⟨rfl, -⟩ | ⟨-, h, -, -⟩
          · exact ih
          · rw [h]; exact stringsSet_processAgentMtpAdded e inst ih
      | delete inst =>
          simp only [Op.run, Except.ok.injEq, Prod.mk.injEq] at hrun
          obtain ⟨rfl, -⟩ := hrun
          exact stringsSet_notifyAgentMtpDeleted inst ih
      | write inst w =>
          obtain ⟨o, ho, rfl, -⟩ := Op.run_write hrun
          exact stringsSet_notifyChange ih ho
      | stompConnDeleted c =>
          obtain ⟨o, ho, rfl, -⟩ := Op.run_stompConnDeleted hrun
          exact stringsSet_deviceMtpNotifyStompConnDeleted ih ho

/-! ### The reads of the strings

What the invariant buys: the scan of `DEVICE_MTP_GetAgentStompQueue` and the `strcmp` of
the destination handler read only strings of occupied slots, and every call to
`COAP_StartServer` passes the path of the slot it starts, which population has just read
or a handler found occupied. -/

theorem agentStompQueueOf_ne_error {mtp : AgentMtp} {c : Int}
    (h : mtp.Occupied → mtp.stompAgentQueue.isSome ∧ mtp.coapPath.isSome) (f : Fault) :
    agentStompQueueOf c mtp ≠ .error f := by
  unfold agentStompQueueOf
  split
  · rename_i hc
    obtain ⟨q, hq⟩ := Option.isSome_iff_exists.1 (h hc.1).1
    rw [hq]
    exact fun h => nomatch h
  · exact fun h => nomatch h

theorem StringsSet.getAgentStompQueue_ne_error {t : AgentMtps} (ht : StringsSet t) (c : Int)
    (f : Fault) : deviceMtpGetAgentStompQueue t c ≠ .error f := by
  refine firstAnswer_ne_error (fun r hr g => ?_) f
  obtain ⟨mtp, hm, rfl⟩ := List.mem_map.1 hr
  exact agentStompQueueOf_ne_error (ht mtp hm) g

theorem agentMtpStompDestinationBody_ok {mtp : AgentMtp} (value : String)
    (hq : mtp.stompAgentQueue.isSome) : ∃ r, agentMtpStompDestinationBody value mtp = .ok r := by
  obtain ⟨q, hq⟩ := Option.isSome_iff_exists.1 hq
  unfold agentMtpStompDestinationBody
  simp only [hq]
  split
  · rename_i f hf
    split at hf <;> cases hf
  · exact ⟨_, rfl⟩

theorem ParamWrite.body_ne_nullDeref (e : Env) (inst1 : Int) (w : ParamWrite) {mtp : AgentMtp}
    (hq : mtp.stompAgentQueue.isSome) : w.body e inst1 mtp ≠ .error .nullDeref := by
  cases w with
  | stompDestination v =>
      obtain ⟨r, hr⟩ := agentMtpStompDestinationBody_ok v hq
      exact fun h => nomatch hr.symm.trans h
  | protocol v =>
      show agentMtpProtocolBody e v mtp ≠ _
      cases hp : textUtilsStringToEnum v mtpProtocols with
      | none => simp [agentMtpProtocolBody, hp]
      | some p => rw [agentMtpProtocolBody_eq e mtp hp]; exact fun h => nomatch h
  | _ => exact fun h => nomatch h

theorem Call.startPathOk_of_argumentsSet {calls : List Call}
    (h : calls.all Call.argumentsSet = true) : calls.all Call.startPathOk = true := by
  rw [List.all_eq_true] at h ⊢
  intro x hx
  have := h x hx
  cases x <;> first | rfl | exact this

/-- No string read sees `NULL`. In every reachable state every occupied slot holds both
its strings, `DEVICE_MTP_GetAgentStompQueue` never reads through `NULL`, no operation the
data model may issue stops on a `NULL` read, and every call to `COAP_StartServer` that an
operation makes, or that `DEVICE_MTP_Start` makes, hands it a path. -/
theorem reachable_strings_never_null {s : Sys} (hs : Reachable s) :
    (∀ mtp ∈ s.agentMtps.slots, mtp.Occupied →
        mtp.stompAgentQueue.isSome ∧ mtp.coapPath.isSome) ∧
      (∀ c, deviceMtpGetAgentStompQueue s.agentMtps c ≠ .error .nullDeref) ∧
      (∀ (e : Env) (op : Op), op.Allowed s → op.run e s ≠ .error .nullDeref) ∧
      (∀ (e : Env) (op : Op) (s' : Sys) (calls : List Call), op.Allowed s →
        op.run e s = .ok (s', calls) → calls.all Call.startPathOk = true) ∧
      (∀ e t, (deviceMtpStart e t).calls.all Call.startPathOk = true) := by
  have ht := hs.stringsSet
  have hlive := hs.live_pos_nodup.1
  refine ⟨ht, fun c => ht.getAgentStompQueue_ne_error c _, fun e op hop => ?_,
    fun e op s' calls hop hrun => ?_, fun e t => ?_⟩
  · cases op with
    | add inst => simp only [Op.run]; split <;> exact fun h => nomatch h
    | delete inst => exact fun h => nomatch h
    | write inst w =>
        intro h
        simp only [Op.run] at h
        split at h
        · rename_i f hw
          cases h
          rcases withAgentMtp_eq_error hw with ⟨-, hf⟩ | ⟨k, mtp, hfind, hbody⟩
          · cases hf
          · exact ParamWrite.body_ne_nullDeref e inst w (ht mtp (mem_of_findSlot_eq_some hfind)
              (findAgentMtpByInstance_occupied hfind (hlive inst hop))).1 hbody
        · cases h
    | stompConnDeleted c =>
        obtain ⟨o, ho⟩ := deviceMtpNotifyStompConnDeleted_ok e s.agentMtps c
        simp only [Op.run, ho]
        exact fun h => nomatch h
  · exact Call.startPathOk_of_argumentsSet
      (Op.run_argumentsSet (fun mtp hm hocc => (ht mtp hm hocc).2) hlive hop hrun)
  · exact Call.startPathOk_of_argumentsSet (deviceMtpStart_argumentsSet e t)

theorem reachable_strings_never_null_stompAdded :
    Reachable stompAdded ∧
      (∀ mtp ∈ stompAdded.agentMtps.slots, mtp.Occupied →
          mtp.stompAgentQueue.isSome ∧ mtp.coapPath.isSome) ∧
      (∀ c, deviceMtpGetAgentStompQueue stompAdded.agentMtps c ≠ .error .nullDeref) ∧
      (∀ (e : Env) (op : Op), op.Allowed stompAdded → op.run e stompAdded ≠ .error .nullDeref) ∧
      (∀ (e : Env) (op : Op) (s' : Sys) (calls : List Call), op.Allowed stompAdded →
        op.run e stompAdded = .ok (s', calls) → calls.all Call.startPathOk = true) ∧
      (∀ e t, (deviceMtpStart e t).calls.all Call.startPathOk = true) :=
  ⟨reachable_stompAdded, reachable_strings_never_null reachable_stompAdded⟩

end LocalAgentMtp
