import LocalAgentMtp.Accessors

/-!
The handlers the data model calls after a parameter of `Device.LocalAgent.MTP.{i}` has
been written, and `Notify_AgentMtpDeleted`.

Every change handler opens with `mtp = FindAgentMtpByInstance(inst1);
USP_ASSERT(mtp != NULL);` and then works on `*mtp` in place. `withAgentMtp` is that
opening together with the write back; what follows it in each handler is a function of
the slot alone, its body, and the lemmas of this file are about the bodies.
-/

namespace LocalAgentMtp

/-- `mtp = FindAgentMtpByInstance(inst1); USP_ASSERT(mtp != NULL);` followed by `body`
working on `*mtp` in place. -/
def withAgentMtp (t : AgentMtps) (inst1 : Int) (body : AgentMtp → Except Fault SlotOutcome) :
    Except Fault Outcome :=
  match findAgentMtpByInstance t inst1 with
  | none => .error .assertFailed
  | some (k, mtp) =>
      match body mtp with
      | .error f => .error f
      | .ok r => .ok ⟨t.set k r.mtp, r.calls, r.err⟩

/-- The calls `DEVICE_STOMP_ScheduleReconnect(c)` under the guard `c != INVALID` that
precedes each of them. -/
def reconnectIfSet (c : Int) : List Call :=
  if c ≠ invalid then [.scheduleReconnect c] else []

@[simp] theorem mem_reconnectIfSet {x : Call} {c : Int} :
    x ∈ reconnectIfSet c ↔ x = .scheduleReconnect c ∧ c ≠ invalid := by
  unfold reconnectIfSet; split <;> simp [*]

/-- `COAP_StartServer` on the slot's current port and path, and the call it makes. -/
def coapStart (e : Env) (mtp : AgentMtp) : Call × Int :=
  let err := e.coapStartServer mtp.inst mtp.coapPort mtp.coapPath
  (.coapStartServer mtp.inst mtp.coapPort mtp.coapPath err, err)

/-! ### The bodies -/

/-- The body of `NotifyChange_AgentMtpEnable`. -/
def agentMtpEnableBody (e : Env) (valBool : Bool) (mtp : AgentMtp) : SlotOutcome :=
  if valBool = mtp.enable then ⟨mtp, [], uspErrOk⟩
  else
    let mtp := { mtp with enable := valBool }
    match mtp.protocol with
    | .stomp => ⟨mtp, reconnectIfSet mtp.stompConnectionInstance, uspErrOk⟩
    | .coap =>
        if mtp.enable then ⟨mtp, [(coapStart e mtp).1], (coapStart e mtp).2⟩
        else ⟨mtp, [.coapStopServer mtp.inst], uspErrOk⟩
    | .none => ⟨mtp, [], uspErrOk⟩

/-- The body of `NotifyChange_AgentMtpProtocol`. The protocol is stored before the checks,
and an unknown name trips `USP_ASSERT(mtp->protocol != INVALID)`. -/
def agentMtpProtocolBody (e : Env) (value : String) (mtp : AgentMtp) :
    Except Fault SlotOutcome :=
  match textUtilsStringToEnum value mtpProtocols with
  | none => .error .assertFailed
  | some protocol =>
      let oldProtocol := mtp.protocol
      let mtp := { mtp with protocol := protocol }
      if mtp.enable = false then .ok ⟨mtp, [], uspErrOk⟩
      else if mtp.protocol = oldProtocol then .ok ⟨mtp, [], uspErrOk⟩
      else
        let calls := (if mtp.enable then reconnectIfSet mtp.stompConnectionInstance else []) ++
          (if oldProtocol = .coap ∧ mtp.enable then [.coapStopServer mtp.inst] else [])
        if mtp.protocol = .coap ∧ mtp.enable then
          .ok ⟨mtp, calls ++ [(coapStart e mtp).1], (coapStart e mtp).2⟩
        else .ok ⟨mtp, calls, uspErrOk⟩

/-- The body of `NotifyChange_AgentMtpStompReference`, which ignores the value it is given
and reads the reference back from the data model. -/
def agentMtpStompReferenceBody (e : Env) (inst1 : Int) (mtp : AgentMtp) : SlotOutcome :=
  match deviceMtpGetStompReference e (e.getStompReference inst1) with
  | .error err => ⟨{ mtp with stompConnectionInstance := invalid }, [], err.code⟩
  | .ok newConnectionInstance =>
      let lastConnectionInstance := mtp.stompConnectionInstance
      let mtp := { mtp with stompConnectionInstance := newConnectionInstance }
      if mtp.enable = true ∧ mtp.protocol = .stomp ∧
          lastConnectionInstance ≠ newConnectionInstance then
        ⟨mtp, reconnectIfSet lastConnectionInstance ++ reconnectIfSet newConnectionInstance,
          uspErrOk⟩
      else ⟨mtp, [], uspErrOk⟩

/-- The body of `NotifyChange_AgentMtpStompDestination`. `strcmp` reads the stored queue
only for an enabled STOMP slot, and faults on `NULL` there. -/
def agentMtpStompDestinationBody (value : String) (mtp : AgentMtp) :
    Except Fault SlotOutcome :=
  let scheduleReconnect : Except Fault Bool :=
    if mtp.enable = true ∧ mtp.protocol = .stomp then
      match mtp.stompAgentQueue with
      | none => .error .nullDeref
      | some q => .ok (decide (q ≠ value ∧ mtp.stompConnectionInstance ≠ invalid))
    else .ok false
  match scheduleReconnect with
  | .error f => .error f
  | .ok schedule =>
      let mtp := { mtp with stompAgentQueue := some value }
      .ok ⟨mtp, if schedule then [.scheduleReconnect mtp.stompConnectionInstance] else [],
        uspErrOk⟩

/-- The tail shared by the CoAP port and path handlers: restart the server of an enabled
CoAP slot on its current port and path. -/
def coapRestartBody (e : Env) (inst1 : Int) (mtp : AgentMtp) : SlotOutcome :=
  if mtp.protocol = .coap ∧ mtp.enable = true then
    ⟨mtp, [.coapStopServer inst1, (coapStart e mtp).1], (coapStart e mtp).2⟩
  else ⟨mtp, [], uspErrOk⟩

/-- The body of `NotifyChange_AgentMtpCoAPPort`: an unchanged port is a no-op. -/
def agentMtpCoapPortBody (e : Env) (inst1 : Int) (valUint : UInt32) (mtp : AgentMtp) :
    SlotOutcome :=
  if valUint = mtp.coapPort then ⟨mtp, [], uspErrOk⟩
  else coapRestartBody e inst1 { mtp with coapPort := valUint }

/-- The body of `NotifyChange_AgentMtpCoAPPath`, which, unlike the port handler, does not
compare the new value with the stored one. -/
def agentMtpCoapPathBody (e : Env) (inst1 : Int) (value : String) (mtp : AgentMtp) :
    SlotOutcome :=
  coapRestartBody e inst1 { mtp with coapPath := some value }

/-! ### The handlers -/

/-- `NotifyChange_AgentMtpEnable`. -/
def notifyChangeAgentMtpEnable (e : Env) (t : AgentMtps) (inst1 : Int) (valBool : Bool) :
    Except Fault Outcome :=
  withAgentMtp t inst1 fun mtp => .ok (agentMtpEnableBody e valBool mtp)

/-- `NotifyChange_AgentMtpProtocol`. -/
def notifyChangeAgentMtpProtocol (e : Env) (t : AgentMtps) (inst1 : Int) (value : String) :
    Except Fault Outcome :=
  withAgentMtp t inst1 (agentMtpProtocolBody e value)

/-- `NotifyChange_AgentMtpStompReference`. -/
def notifyChangeAgentMtpStompReference (e : Env) (t : AgentMtps) (inst1 : Int) :
    Except Fault Outcome :=
  withAgentMtp t inst1 fun mtp => .ok (agentMtpStompReferenceBody e inst1 mtp)

/-- `NotifyChange_AgentMtpStompDestination`. -/
def notifyChangeAgentMtpStompDestination (t : AgentMtps) (inst1 : Int) (value : String) :
    Except Fault Outcome :=
  withAgentMtp t inst1 (agentMtpStompDestinationBody value)

/-- `NotifyChange_AgentMtpCoAPPort`. -/
def notifyChangeAgentMtpCoapPort (e : Env) (t : AgentMtps) (inst1 : Int) (valUint : UInt32) :
    Except Fault Outcome :=
  withAgentMtp t inst1 fun mtp => .ok (agentMtpCoapPortBody e inst1 valUint mtp)

/-- `NotifyChange_AgentMtpCoAPPath`. -/
def notifyChangeAgentMtpCoapPath (e : Env) (t : AgentMtps) (inst1 : Int) (value : String) :
    Except Fault Outcome :=
  withAgentMtp t inst1 fun mtp => .ok (agentMtpCoapPathBody e inst1 value mtp)

/-- `Notify_AgentMtpDeleted`. An instance without a slot is a no-op, and so, through the
early return on `mtp->enable == false`, is a disabled one: only an enabled slot is torn
down and released. -/
def notifyAgentMtpDeleted (t : AgentMtps) (inst1 : Int) : Outcome :=
  match findAgentMtpByInstance t inst1 with
  | none => ⟨t, [], uspErrOk⟩
  | some (k, mtp) =>
      if mtp.enable = false then ⟨t, [], uspErrOk⟩
      else
        let calls : List Call :=
          match mtp.protocol with
          | .stomp => reconnectIfSet mtp.stompConnectionInstance
          | .coap => [.coapStopServer mtp.inst]
          | .none => []
        ⟨t.set k (destroyAgentMtp mtp), calls, uspErrOk⟩

/-- What `Notify_AgentMtpDeleted` does to the table: nothing when no slot holds the
instance or the slot found is disabled, and otherwise it releases that slot. -/
theorem notifyAgentMtpDeleted_cases (t : AgentMtps) (inst1 : Int) :
    (findAgentMtpByInstance t inst1 = none ∧ (notifyAgentMtpDeleted t inst1).agentMtps = t) ∨
      (∃ k mtp, findAgentMtpByInstance t inst1 = some (k, mtp) ∧ mtp.enable = false ∧
        (notifyAgentMtpDeleted t inst1).agentMtps = t) ∨
      ∃ k mtp, findAgentMtpByInstance t inst1 = some (k, mtp) ∧ mtp.enable = true ∧
        (notifyAgentMtpDeleted t inst1).agentMtps = t.set k (destroyAgentMtp mtp) := by
  unfold notifyAgentMtpDeleted
  split
  · exact .inl ⟨‹_›, rfl⟩
  · rename_i k mtp hfind
    split
    · exact .inr (.inl ⟨k, mtp, hfind, ‹_›, rfl⟩)
    · rename_i hen
      exact .inr (.inr ⟨k, mtp, hfind, by simpa using hen, rfl⟩)

theorem notifyAgentMtpDeleted_of_absent {t : AgentMtps} {inst1 : Int}
    (h : ∀ mtp ∈ t.slots, mtp.inst ≠ inst1) : notifyAgentMtpDeleted t inst1 = ⟨t, [], uspErrOk⟩ := by
  have hnone : findAgentMtpByInstance t inst1 = none :=
    findSlot_eq_none.2 fun mtp hm => by simpa using h mtp hm
  simp [notifyAgentMtpDeleted, hnone]

/-! ### What a body does to its slot

One lemma per body gives the slot it leaves; later proofs read the slot from these and
never unfold a body again. -/

theorem agentMtpEnableBody_mtp (e : Env) (valBool : Bool) (mtp : AgentMtp) :
    (agentMtpEnableBody e valBool mtp).mtp =
      if valBool = mtp.enable then mtp else { mtp with enable := valBool } := by
  unfold agentMtpEnableBody
  split
  · rfl
  · dsimp only
    split <;> (try split) <;> rfl

theorem agentMtpProtocolBody_eq (e : Env) (mtp : AgentMtp) {value : String} {p : MtpProtocol}
    (h : textUtilsStringToEnum value mtpProtocols = some p) :
    agentMtpProtocolBody e value mtp = .ok (if mtp.enable = true ∧ p ≠ mtp.protocol then
      ⟨{ mtp with protocol := p }, reconnectIfSet mtp.stompConnectionInstance ++
        (if mtp.protocol = .coap then [.coapStopServer mtp.inst] else []) ++
        (if p = .coap then [(coapStart e { mtp with protocol := p }).1] else []),
        if p = .coap then (coapStart e { mtp with protocol := p }).2 else uspErrOk⟩
      else ⟨{ mtp with protocol := p }, [], uspErrOk⟩) := by
  rw [agentMtpProtocolBody, h]
  dsimp only
  by_cases h₁ : mtp.enable = false
  · rw [if_pos h₁, if_neg (by simp [h₁])]
  by_cases h₂ : p = mtp.protocol
  · rw [if_neg h₁, if_pos h₂, if_neg (by simp [h₂])]
  have hen : mtp.enable = true := by simpa using h₁
  rw [if_neg h₁, if_neg h₂, if_pos (show mtp.enable = true ∧ p ≠ mtp.protocol from ⟨hen, h₂⟩)]
  by_cases h₃ : p = .coap
  · subst h₃
    simp [hen, Ne.symm h₂]
  · simp [hen, h₃]

theorem agentMtpProtocolBody_mtp {e : Env} {value : String} {mtp : AgentMtp} {r : SlotOutcome}
    (h : agentMtpProtocolBody e value mtp = .ok r) :
    ∃ protocol, textUtilsStringToEnum value mtpProtocols = some protocol ∧
      r.mtp = { mtp with protocol := protocol } := by
  cases hp : textUtilsStringToEnum value mtpProtocols with
  | none => simp [agentMtpProtocolBody, hp] at h
  | some p =>
      rw [agentMtpProtocolBody_eq e mtp hp, Except.ok.injEq] at h
      exact ⟨p, rfl, by rw [← h, apply_ite SlotOutcome.mtp, ite_self]⟩

/-- The connection a reference write leaves in the slot: the resolved one, or `INVALID`
when resolution fails. -/
def resolvedConnection (e : Env) (inst1 : Int) : Int :=
  match deviceMtpGetStompReference e (e.getStompReference inst1) with
  | .error _ => invalid
  | .ok n => n

theorem agentMtpStompReferenceBody_mtp (e : Env) (inst1 : Int) (mtp : AgentMtp) :
    (agentMtpStompReferenceBody e inst1 mtp).mtp =
      { mtp with stompConnectionInstance := resolvedConnection e inst1 } := by
  unfold agentMtpStompReferenceBody resolvedConnection
  split
  · rfl
  · dsimp only; split <;> rfl

theorem agentMtpStompDestinationBody_mtp {value : String} {mtp : AgentMtp} {r : SlotOutcome}
    (h : agentMtpStompDestinationBody value mtp = .ok r) :
    r.mtp = { mtp with stompAgentQueue := some value } := by
  unfold agentMtpStompDestinationBody at h
  dsimp only at h
  split at h
  · cases h
  · cases h; rfl

@[simp] theorem coapRestartBody_mtp (e : Env) (inst1 : Int) (mtp : AgentMtp) :
    (coapRestartBody e inst1 mtp).mtp = mtp := by
  unfold coapRestartBody; split <;> rfl

theorem agentMtpCoapPortBody_mtp (e : Env) (inst1 : Int) (valUint : UInt32) (mtp : AgentMtp) :
    (agentMtpCoapPortBody e inst1 valUint mtp).mtp =
      if valUint = mtp.coapPort then mtp else { mtp with coapPort := valUint } := by
  unfold agentMtpCoapPortBody; split <;> simp

theorem agentMtpCoapPathBody_mtp (e : Env) (inst1 : Int) (value : String) (mtp : AgentMtp) :
    (agentMtpCoapPathBody e inst1 value mtp).mtp = { mtp with coapPath := some value } := by
  simp [agentMtpCoapPathBody]

/-! ### The six change handlers as one

A write to a parameter of `Device.LocalAgent.MTP.{i}` triggers one of the six handlers;
`ParamWrite` names the parameter and the value, so that a statement about every handler
is one statement over `ParamWrite`. -/

/-- A write to one parameter of `Device.LocalAgent.MTP.{i}`, with the value written. -/
inductive ParamWrite where
  | enable (value : Bool)
  | protocol (value : String)
  | stompReference (value : String)
  | stompDestination (value : String)
  | coapPort (value : UInt32)
  | coapPath (value : String)

/-- The body of the handler a write triggers. -/
def ParamWrite.body (e : Env) (inst1 : Int) : ParamWrite → AgentMtp → Except Fault SlotOutcome
  | .enable v => fun mtp => .ok (agentMtpEnableBody e v mtp)
  | .protocol v => agentMtpProtocolBody e v
  | .stompReference _ => fun mtp => .ok (agentMtpStompReferenceBody e inst1 mtp)
  | .stompDestination v => agentMtpStompDestinationBody v
  | .coapPort v => fun mtp => .ok (agentMtpCoapPortBody e inst1 v mtp)
  | .coapPath v => fun mtp => .ok (agentMtpCoapPathBody e inst1 v mtp)

/-- The handler a write triggers: `NotifyChange_AgentMtp<param>` of the instance written. -/
def ParamWrite.notifyChange (e : Env) (t : AgentMtps) (inst1 : Int) (w : ParamWrite) :
    Except Fault Outcome :=
  withAgentMtp t inst1 (w.body e inst1)

theorem ParamWrite.notifyChange_eq (e : Env) (t : AgentMtps) (inst1 : Int) :
    (∀ v, (ParamWrite.enable v).notifyChange e t inst1 = notifyChangeAgentMtpEnable e t inst1 v) ∧
    (∀ v, (ParamWrite.protocol v).notifyChange e t inst1 =
      notifyChangeAgentMtpProtocol e t inst1 v) ∧
    (∀ v, (ParamWrite.stompReference v).notifyChange e t inst1 =
      notifyChangeAgentMtpStompReference e t inst1) ∧
    (∀ v, (ParamWrite.stompDestination v).notifyChange e t inst1 =
      notifyChangeAgentMtpStompDestination t inst1 v) ∧
    (∀ v, (ParamWrite.coapPort v).notifyChange e t inst1 =
      notifyChangeAgentMtpCoapPort e t inst1 v) ∧
    (∀ v, (ParamWrite.coapPath v).notifyChange e t inst1 =
      notifyChangeAgentMtpCoapPath e t inst1 v) :=
  ⟨fun _ => rfl, fun _ => rfl, fun _ => rfl, fun _ => rfl, fun _ => rfl, fun _ => rfl⟩

theorem withAgentMtp_eq_ok {t : AgentMtps} {inst1 : Int}
    {body : AgentMtp → Except Fault SlotOutcome} {o : Outcome}
    (h : withAgentMtp t inst1 body = .ok o) :
    ∃ k mtp r, findAgentMtpByInstance t inst1 = some (k, mtp) ∧ body mtp = .ok r ∧
      o = ⟨t.set k r.mtp, r.calls, r.err⟩ := by
  unfold withAgentMtp at h
  split at h
  · cases h
  · rename_i k mtp hfind
    split at h
    · cases h
    · rename_i r hbody
      cases h
      exact ⟨k, mtp, r, hfind, hbody, rfl⟩

theorem withAgentMtp_eq_error {t : AgentMtps} {inst1 : Int}
    {body : AgentMtp → Except Fault SlotOutcome} {f : Fault}
    (h : withAgentMtp t inst1 body = .error f) :
    (findAgentMtpByInstance t inst1 = none ∧ f = .assertFailed) ∨
      ∃ k mtp, findAgentMtpByInstance t inst1 = some (k, mtp) ∧ body mtp = .error f := by
  unfold withAgentMtp at h
  split at h
  · cases h; exact .inl ⟨‹_›, rfl⟩
  · split at h
    · cases h; exact .inr ⟨_, _, ‹_›, ‹_›⟩
    · cases h

/-- A slot after a handler body: the same instance number, and no string freed. -/
structure KeepsSlot (mtp mtp' : AgentMtp) : Prop where
  inst_eq : mtp'.inst = mtp.inst
  queue_isSome : mtp.stompAgentQueue.isSome → mtp'.stompAgentQueue.isSome
  path_isSome : mtp.coapPath.isSome → mtp'.coapPath.isSome

/-- No change handler moves a slot to another instance or frees one of its strings. -/
theorem ParamWrite.keepsSlot {e : Env} {inst1 : Int} {w : ParamWrite} {mtp : AgentMtp}
    {r : SlotOutcome} (h : w.body e inst1 mtp = .ok r) : KeepsSlot mtp r.mtp := by
  cases w <;> simp only [ParamWrite.body, Except.ok.injEq] at h
  case protocol =>
    obtain ⟨p, -, hr⟩ := agentMtpProtocolBody_mtp h
    rw [hr]; exact ⟨rfl, id, id⟩
  case stompDestination =>
    rw [agentMtpStompDestinationBody_mtp h]; exact ⟨rfl, fun _ => rfl, id⟩
  all_goals subst h
  case enable => rw [agentMtpEnableBody_mtp]; split <;> exact ⟨rfl, id, id⟩
  case stompReference => rw [agentMtpStompReferenceBody_mtp]; exact ⟨rfl, id, id⟩
  case coapPort => rw [agentMtpCoapPortBody_mtp]; split <;> exact ⟨rfl, id, id⟩
  case coapPath => rw [agentMtpCoapPathBody_mtp]; exact ⟨rfl, id, fun _ => rfl⟩

end LocalAgentMtp
