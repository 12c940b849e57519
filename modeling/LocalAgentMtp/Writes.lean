import LocalAgentMtp.Coherence

/-!
The change handlers against what a write means. Five of the six handlers compare the new
value, after conversion or resolution, with what the slot holds and do nothing when they
agree; `NotifyChange_AgentMtpCoAPPath` does not compare, so rewriting the path of an
enabled CoAP slot stops and restarts its server. `Validate_AgentMtpProtocol` accepts any
name `mtp_protocols` holds, the empty name of `kMtpProtocol_None` among them, so an
enabled slot can be left with no protocol, which `Get_MtpStatus` reports as `Error`.

On the CoAP side every server start an operation makes is for its slot as the operation
leaves it, enabled and CoAP on the port and path it starts with; but a delete of a
disabled instance keeps its slot, and a later delete of the same instance then finds that
slot instead of the enabled one, whose server is left running.
-/

namespace LocalAgentMtp

/-! ### Writing a field's current value -/

/-- A write whose value, after the handler's conversion or resolution, equals what the
slot holds. -/
def ParamWrite.Current (e : Env) (inst1 : Int) (mtp : AgentMtp) : ParamWrite → Prop
  | .enable v => v = mtp.enable
  | .protocol v => textUtilsStringToEnum v mtpProtocols = some mtp.protocol
  | .stompReference _ =>
      deviceMtpGetStompReference e (e.getStompReference inst1) = .ok mtp.stompConnectionInstance
  | .stompDestination v => mtp.stompAgentQueue = some v
  | .coapPort v => v = mtp.coapPort
  | .coapPath v => mtp.coapPath = some v

/-- Every body but the path handler's leaves the slot as it is and calls nothing when
given the current value. -/
theorem ParamWrite.body_of_current {e : Env} {inst1 : Int} {mtp : AgentMtp} {w : ParamWrite}
    (hw : ∀ v, w ≠ .coapPath v) (hcur : w.Current e inst1 mtp) :
    w.body e inst1 mtp = .ok ⟨mtp, [], uspErrOk⟩ := by
  cases w <;> simp only [ParamWrite.Current] at hcur
  case enable v => simp [ParamWrite.body, agentMtpEnableBody, hcur]
  case protocol v =>
    rw [ParamWrite.body, agentMtpProtocolBody_eq e mtp hcur, if_neg fun h => h.2 rfl]
  case stompReference v => simp [ParamWrite.body, agentMtpStompReferenceBody, hcur]
  case stompDestination v =>
    simp only [ParamWrite.body, agentMtpStompDestinationBody, hcur]
    split_ifs <;> simp [← hcur]
  case coapPort v => simp [ParamWrite.body, agentMtpCoapPortBody, hcur]
  case coapPath v => exact absurd rfl (hw v)

theorem agentMtpCoapPathBody_of_current (e : Env) (inst1 : Int) {mtp : AgentMtp} {v : String}
    (hcur : mtp.coapPath = some v) (hcoap : mtp.protocol = .coap) (hen : mtp.enable = true) :
    agentMtpCoapPathBody e inst1 v mtp =
      ⟨mtp, [.coapStopServer inst1, (coapStart e mtp).1], (coapStart e mtp).2⟩ := by
  rw [agentMtpCoapPathBody, ← hcur]
  show coapRestartBody e inst1 mtp = _
  simp [coapRestartBody, hcoap, hen]

/-- Writing a field's current value through any handler but the path's changes nothing and
calls nothing, in any table. -/
theorem ParamWrite.notifyChange_of_current {e : Env} {t : AgentMtps} {inst1 : Int} {k : Nat}
    {mtp : AgentMtp} {w : ParamWrite} (hfind : findAgentMtpByInstance t inst1 = some (k, mtp))
    (hw : ∀ v, w ≠ .coapPath v) (hcur : w.Current e inst1 mtp) :
    w.notifyChange e t inst1 = .ok ⟨t, [], uspErrOk⟩ := by
  have hset : t.set k mtp = t :=
    AgentMtps.ext_slots (set_eq_self_of_getElem? (findSlot_eq_some hfind).1)
  simp only [ParamWrite.notifyChange, withAgentMtp, hfind, ParamWrite.body_of_current hw hcur, hset]

theorem ParamWrite.notifyChange_of_current_stompRow :
    ∃ k mtp, findAgentMtpByInstance (processAgentMtpAdded stompRow agentMtpsInit 1).agentMtps 1 =
        some (k, mtp) ∧ (∀ v, ParamWrite.enable true ≠ .coapPath v) ∧
      (ParamWrite.enable true).Current stompRow 1 mtp ∧
      (ParamWrite.enable true).notifyChange stompRow
          (processAgentMtpAdded stompRow agentMtpsInit 1).agentMtps 1 =
        .ok ⟨(processAgentMtpAdded stompRow agentMtpsInit 1).agentMtps, [], uspErrOk⟩ :=
  ⟨0, _, rfl, (fun _ h => nomatch h), rfl,
    ParamWrite.notifyChange_of_current rfl (fun _ h => nomatch h) rfl⟩

def coapRow : Env := storeEnv true .coap "" "" 5683 "/usp"

/-- Rewriting the path an enabled CoAP MTP already has restarts its server. After instance 1
is added as such an MTP, writing its path `/usp` again leaves the table as it was but stops
and restarts the server of instance 1. -/
theorem notifyChangeAgentMtpCoapPath_restarts_on_current :
    ∃ r, runOps ⟨agentMtpsInit, []⟩ [(coapRow, .add 1)] = some r ∧ Reachable r.1 ∧
      (Op.write 1 (.coapPath "/usp")).Allowed r.1 ∧
      (∃ mtp ∈ r.1.agentMtps.slots, mtp.inst = 1 ∧ mtp.coapPath = some "/usp") ∧
      (Op.write 1 (.coapPath "/usp")).run coapRow r.1 =
        .ok (r.1, [.coapStopServer 1, .coapStartServer 1 5683 (some "/usp") uspErrOk]) :=
  ⟨_, rfl, @Reachable.runOps _ .init [(coapRow, .add 1)] _ rfl, by decide,
    ⟨_, List.getElem?_mem (show _[0]? = some _ from rfl), rfl, rfl⟩, rfl⟩

/-! ### The empty protocol name -/

theorem agentMtpProtocolBody_of_valid (e : Env) (mtp : AgentMtp) {value : String}
    (hv : validateAgentMtpProtocol value = uspErrOk) :
    ∃ r, agentMtpProtocolBody e value mtp = .ok r ∧
      r.mtp = { mtp with protocol := if value = "" then .none
        else if value = "STOMP" then .stomp else .coap } := by
  have hp : textUtilsStringToEnum value mtpProtocols =
      some (if value = "" then .none else if value = "STOMP" then .stomp else .coap) := by
    rcases (validateAgentMtpProtocol_eq_ok_iff value).1 hv with rfl | rfl | rfl <;> simp
  exact ⟨_, agentMtpProtocolBody_eq e mtp hp, by rw [apply_ite SlotOutcome.mtp, ite_self]⟩

/-- The empty protocol name leaves an enabled slot with no protocol. After instance 1 is
added as an enabled STOMP MTP, the write of the empty `Protocol`, which
`Validate_AgentMtpProtocol` accepts, leaves instance 1 live in an enabled slot with protocol
`kMtpProtocol_None`, and `Get_MtpStatus` reports `Error`. -/
theorem notifyChangeAgentMtpProtocol_accepts_empty :
    validateAgentMtpProtocol "" = uspErrOk ∧
      ∃ r, runOps ⟨agentMtpsInit, []⟩ [(stompRow, .add 1), (stompRow, .write 1 (.protocol ""))] =
          some r ∧ Reachable r.1 ∧ 1 ∈ r.1.live ∧
        (∃ mtp ∈ r.1.agentMtps.slots, mtp.Occupied ∧ mtp.enable = true ∧ mtp.protocol = .none) ∧
        getMtpStatus stompRow r.1.agentMtps 1 = .ok (some "Error") :=
  ⟨rfl, _, rfl,
    @Reachable.runOps _ .init [(stompRow, .add 1), (stompRow, .write 1 (.protocol ""))] _ rfl,
    by decide, ⟨_, List.getElem?_mem (show _[0]? = some _ from rfl), by decide, rfl, rfl⟩, rfl⟩

end LocalAgentMtp
