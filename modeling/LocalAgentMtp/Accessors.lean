import LocalAgentMtp.Interface

/-!
The entry points of `device_mtp.c` that change nothing: the validators the data model
calls before a write, the status and destination getters, and
`DEVICE_MTP_GetAgentStompQueue`, through which the STOMP module learns, connection by
connection, which queue the agent subscribes to.
-/

namespace LocalAgentMtp

/-- Modelled from the spec: `TEXT_UTILS_StringToEnum`, absent here, looks a string up by
name in an enumeration table and gives the value of the first entry of that name, or
`INVALID` (here `none`) when no entry has it. -/
def textUtilsStringToEnum {α : Type} (str : String) : List (α × String) → Option α
  | [] => none
  | (value, name) :: rest => if str = name then some value else textUtilsStringToEnum str rest

/-- Modelled from the spec: `TEXT_UTILS_EnumToString`, absent here, the name of the first
entry of a table with the given value (`none` for a value outside the table, which no
caller here passes). -/
def textUtilsEnumToString {α : Type} [DecidableEq α] (value : α) :
    List (α × String) → Option String
  | [] => none
  | (v, name) :: rest => if value = v then some name else textUtilsEnumToString value rest

/-- `DEVICE_MTP_EnumToString`. -/
def deviceMtpEnumToString (protocol : MtpProtocol) : Option String :=
  textUtilsEnumToString protocol mtpProtocols

@[simp] theorem textUtilsStringToEnum_mtpProtocols (str : String) :
    textUtilsStringToEnum str mtpProtocols =
      if str = "" then some .none else if str = "STOMP" then some .stomp
      else if str = "CoAP" then some .coap else none := by
  simp only [mtpProtocols, textUtilsStringToEnum]

/-! ### Validators -/

/-- `ValidateAdd_AgentMtp`: an add is refused exactly when no slot is free. -/
def validateAddAgentMtp (t : AgentMtps) : Int :=
  match findUnusedAgentMtp t with
  | none => uspErrResourcesExceeded
  | some _ => uspErrOk

/-- `Validate_AgentMtpProtocol`. -/
def validateAgentMtpProtocol (value : String) : Int :=
  match textUtilsStringToEnum value mtpProtocols with
  | none => uspErrInvalidValue
  | some _ => uspErrOk

/-- `DEVICE_MTP_ValidateStompReference`: an empty reference is accepted as it is, any
other must resolve in `Device.STOMP.Connection`. -/
def deviceMtpValidateStompReference (e : Env) (value : String) : Int :=
  if value = "" then uspErrOk
  else match e.validateReference value with
    | .ok _ => uspErrOk
    | .error err => err.code

/-- `DEVICE_MTP_GetStompReference`, given what `DATA_MODEL_GetParameterValue` read from the
reference parameter: `INVALID` for an empty reference, else the resolved connection. -/
def deviceMtpGetStompReference (e : Env) (read : Except ErrCode String) : Except ErrCode Int :=
  match read with
  | .error err => .error err
  | .ok value => if value = "" then .ok invalid else e.validateReference value

theorem validateAddAgentMtp_eq_ok_iff (t : AgentMtps) :
    validateAddAgentMtp t = uspErrOk ↔ ∃ mtp ∈ t.slots, ¬ mtp.Occupied := by
  unfold validateAddAgentMtp findUnusedAgentMtp
  cases h : findSlot (fun mtp => mtp.inst == invalid) t.slots with
  | none =>
      simp only [findSlot_eq_none, beq_eq_false_iff_ne] at h
      simp only [uspErrResourcesExceeded, uspErrOk, AgentMtp.Occupied, not_not]
      exact iff_of_false (by decide) fun ⟨mtp, hm, hfree⟩ => h mtp hm hfree
  | some r =>
      obtain ⟨-, hfree, -⟩ := findSlot_eq_some h
      exact iff_of_true rfl ⟨r.2, mem_of_findSlot_eq_some h, by simpa [AgentMtp.Occupied] using hfree⟩

theorem validateAgentMtpProtocol_eq_ok_iff (value : String) :
    validateAgentMtpProtocol value = uspErrOk ↔ value = "" ∨ value = "STOMP" ∨ value = "CoAP" := by
  unfold validateAgentMtpProtocol
  rw [textUtilsStringToEnum_mtpProtocols]
  split_ifs <;> simp_all [uspErrInvalidValue, uspErrOk]

/-- The names are matched exactly: a lower-case protocol name is refused. -/
example : validateAgentMtpProtocol "coap" = uspErrInvalidValue := by decide

theorem validateAgentMtpProtocol_eq_ok_iff_lookup (value : String) :
    validateAgentMtpProtocol value = uspErrOk ↔
      ∃ p, textUtilsStringToEnum value mtpProtocols = some p := by
  unfold validateAgentMtpProtocol
  split <;> simp_all [uspErrInvalidValue, uspErrOk]

/-! ### Getters -/

/-- `Get_MtpStatus`, as the text it copies into the buffer. -/
def getMtpStatus (e : Env) (t : AgentMtps) (inst1 : Int) : Except Fault (Option String) :=
  match findAgentMtpByInstance t inst1 with
  | none => .error .assertFailed
  | some (_, mtp) =>
      let status :=
        if mtp.enable then
          match mtp.protocol with
          | .stomp => e.stompGetMtpStatus mtp.stompConnectionInstance
          | .coap => e.coapGetServerStatus mtp.inst
          | .none => .error
        else .down
      .ok (textUtilsEnumToString status mtpStatuses)

/-- `Get_StompDestFromServer`. -/
def getStompDestFromServer (e : Env) (t : AgentMtps) (inst1 : Int) : Except Fault String :=
  match findAgentMtpByInstance t inst1 with
  | none => .error .assertFailed
  | some (_, mtp) =>
      .ok (if mtp.enable ∧ mtp.protocol = .stomp then
        e.stompGetDestinationFromServer mtp.stompConnectionInstance else "")

theorem getMtpStatus_of_disabled {e : Env} {t : AgentMtps} {inst1 : Int} {k : Nat}
    {mtp : AgentMtp} (hfind : findAgentMtpByInstance t inst1 = some (k, mtp))
    (hdis : mtp.enable = false) : getMtpStatus e t inst1 = .ok (some "Down") := by
  simp [getMtpStatus, hfind, hdis, mtpStatuses, textUtilsEnumToString]

theorem textUtilsEnumToString_mtpStatuses_eq_error {status : MtpStatus} :
    textUtilsEnumToString status mtpStatuses = some "Error" ↔ status = .error := by
  cases status <;> simp [textUtilsEnumToString, mtpStatuses]

theorem getMtpStatus_eq_error {e : Env} {t : AgentMtps} {inst1 : Int} {k : Nat}
    {mtp : AgentMtp} (hfind : findAgentMtpByInstance t inst1 = some (k, mtp))
    (herr : getMtpStatus e t inst1 = .ok (some "Error")) :
    mtp.enable = true ∧ (mtp.protocol = .none ∨
      (mtp.protocol = .stomp ∧ e.stompGetMtpStatus mtp.stompConnectionInstance = .error) ∨
      (mtp.protocol = .coap ∧ e.coapGetServerStatus mtp.inst = .error)) := by
  simp only [getMtpStatus, hfind, Except.ok.injEq, textUtilsEnumToString_mtpStatuses_eq_error]
    at herr
  cases hen : mtp.enable
  · simp only [hen, Bool.false_eq_true, if_false, reduceCtorEq] at herr
  · simp only [hen, if_true] at herr
    refine ⟨rfl, ?_⟩
    cases hp : mtp.protocol <;> simp only [hp] at herr
    · exact .inl rfl
    · exact .inr (.inl ⟨rfl, herr⟩)
    · exact .inr (.inr ⟨rfl, herr⟩)

/-! ### The queue of a STOMP connection

`DEVICE_MTP_GetAgentStompQueue` returns from the first slot that answers. What a slot
answers depends on that slot only, so the function is the first answer of the list of
per-slot answers, and two tables whose slots answer alike give the same queue. -/

/-- What the loop of `DEVICE_MTP_GetAgentStompQueue` makes of one slot: `ok none` to go on
to the next, `ok (some q)` to return `q`, and a fault where `stomp_agent_queue[0]` reads
through `NULL`. -/
def agentStompQueueOf (inst : Int) (mtp : AgentMtp) : Except Fault (Option String) :=
  if mtp.inst ≠ invalid ∧ mtp.enable = true ∧ mtp.stompConnectionInstance = inst ∧
      mtp.protocol = .stomp then
    match mtp.stompAgentQueue with
    | none => .error .nullDeref
    | some q => .ok (if q ≠ "" then some q else none)
  else .ok none

/-- The answer of a loop that returns from the first slot that answers. -/
def firstAnswer : List (Except Fault (Option String)) → Except Fault (Option String)
  | [] => .ok none
  | .ok none :: rest => firstAnswer rest
  | r :: _ => r

/-- `DEVICE_MTP_GetAgentStompQueue`: `ok none` is the `NULL` it returns. -/
def deviceMtpGetAgentStompQueue (t : AgentMtps) (inst : Int) : Except Fault (Option String) :=
  firstAnswer (t.slots.map (agentStompQueueOf inst))

theorem deviceMtpGetAgentStompQueue_set {t : AgentMtps} {k : Nat} {mtp mtp' : AgentMtp}
    {inst : Int} (hk : t.slots[k]? = some mtp)
    (h : agentStompQueueOf inst mtp' = agentStompQueueOf inst mtp) :
    deviceMtpGetAgentStompQueue (t.set k mtp') inst = deviceMtpGetAgentStompQueue t inst := by
  unfold deviceMtpGetAgentStompQueue
  rw [AgentMtps.map_set_of_eq _ hk h]

theorem firstAnswer_ne_error {l : List (Except Fault (Option String))}
    (h : ∀ r ∈ l, ∀ f, r ≠ .error f) (f : Fault) : firstAnswer l ≠ .error f := by
  induction l with
  | nil => simp [firstAnswer]
  | cons r rest ih =>
      rcases r with g | _ | q
      · exact absurd rfl (h _ (List.mem_cons_self _ _) g)
      · exact ih fun r hr => h r (List.mem_cons_of_mem _ hr)
      · simp [firstAnswer]

end LocalAgentMtp
