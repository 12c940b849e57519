import LocalAgentMtp.Slot

/-!
The boundary of `device_mtp.c`: the calls it makes into the data model, the STOMP module
and the CoAP module, and what those modules answer.

A call that changes another module's state (a reconnect scheduled, a server started or
stopped, a parameter written, an instance deleted) is recorded as a `Call`, in the order
the C code makes it. A call that only answers (a parameter read, a reference resolution,
the result of a server start) is a field of `Env`; an entry point reads the answers it
needs from the `Env` it is given, so a theorem that quantifies over every `Env` covers
every success and every failure of those calls.
-/

namespace LocalAgentMtp

/-- How the C program stops instead of returning: a failed `USP_ASSERT`, or a read through
a `NULL` string. -/
inductive Fault where
  | assertFailed
  | nullDeref
  deriving DecidableEq, Repr

/-- A return code other than `USP_ERR_OK`: what a call that failed hands back. A read
that succeeds hands back its value instead. -/
structure ErrCode where
  code : Int
  code_ne_ok : code ≠ uspErrOk
  deriving DecidableEq

/-- `mtp_status_t`. -/
inductive MtpStatus where
  | error
  | down
  | up
  deriving DecidableEq, Repr

/-- `mtp_statuses`, the names `Device.LocalAgent.MTP.{i}.Status` reports. -/
def mtpStatuses : List (MtpStatus × String) :=
  [(.error, "Error"), (.down, "Down"), (.up, "Up")]

/-- A call into another module that changes its state, with the arguments passed and,
where the C code reads it, the result. -/
inductive Call where
  /-- `DEVICE_STOMP_ScheduleReconnect(stomp_instance)` -/
  | scheduleReconnect (stompInstance : Int)
  /-- `COAP_StartServer(instance, AF_INET, "0.0.0.0", port, path)` and its result -/
  | coapStartServer (inst : Int) (port : UInt32) (path : Option String) (err : Int)
  /-- `COAP_StopServer(instance)` -/
  | coapStopServer (inst : Int)
  /-- `DATA_MODEL_SetParameterValue` of `""` into `Device.LocalAgent.MTP.<inst>.STOMP.Reference` -/
  | clearStompReference (inst : Int)
  /-- `DATA_MODEL_DeleteInstance` of `Device.LocalAgent.MTP.<inst>` and its result -/
  | deleteInstance (inst : Int) (err : Int)
  deriving DecidableEq, Repr

/-- The answers of the other modules. A read of `Device.LocalAgent.MTP.<i>.<param>` is
indexed by the instance number `i` the C code prints into the path. -/
structure Env where
  /-- `DATA_MODEL_GetInstances("Device.LocalAgent.MTP")` -/
  getInstances : Except ErrCode (List Int)
  /-- `DM_ACCESS_GetBool` of `Enable` -/
  getEnable : Int → Except ErrCode Bool
  /-- `DM_ACCESS_GetEnum` of `Protocol` through `mtp_protocols` -/
  getProtocol : Int → Except ErrCode MtpProtocol
  /-- `DATA_MODEL_GetParameterValue` of `STOMP.Reference` -/
  getStompReference : Int → Except ErrCode String
  /-- `DM_ACCESS_GetString` of `STOMP.Destination` -/
  getStompDestination : Int → Except ErrCode String
  /-- `DM_ACCESS_GetUnsigned` of `CoAP.Port` -/
  getCoapPort : Int → Except ErrCode UInt32
  /-- `DM_ACCESS_GetString` of `CoAP.Path` -/
  getCoapPath : Int → Except ErrCode String
  /-- `DM_ACCESS_ValidateReference(value, "Device.STOMP.Connection.{i}", &instance)` -/
  validateReference : String → Except ErrCode Int
  /-- the result of `COAP_StartServer` -/
  coapStartServer : Int → UInt32 → Option String → Int
  /-- whether `DATA_MODEL_SetParameterValue` of an empty `STOMP.Reference` of instance `i`
  gets as far as calling `NotifyChange_AgentMtpStompReference` -/
  clearStompReferenceNotifies : Int → Bool
  /-- the result of `DATA_MODEL_DeleteInstance`, which on success has called
  `Notify_AgentMtpDeleted` -/
  deleteInstance : Int → Int
  /-- `DEVICE_STOMP_GetMtpStatus` -/
  stompGetMtpStatus : Int → MtpStatus
  /-- `COAP_GetServerStatus` -/
  coapGetServerStatus : Int → MtpStatus
  /-- `DEVICE_STOMP_GetDestinationFromServer` -/
  stompGetDestinationFromServer : Int → String

structure Outcome where
  agentMtps : AgentMtps
  calls : List Call
  err : Int

structure SlotOutcome where
  mtp : AgentMtp
  calls : List Call
  err : Int

end LocalAgentMtp
