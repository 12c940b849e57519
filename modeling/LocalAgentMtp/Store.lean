import LocalAgentMtp.Coherence

/-!
The table as a cache of the data model. Each slot of `agent_mtps` copies the parameters of
one instance of `Device.LocalAgent.MTP.{i}`: `ProcessAgentMtpAdded` reads them when the
instance is added, and each `NotifyChange_AgentMtp<param>` copies the value just written,
after its validator (`Validate_AgentMtpProtocol`, `DEVICE_MTP_ValidateStompReference`) has
accepted it and the data model has stored it. `DEVICE_MTP_NotifyStompConnDeleted` writes
the empty reference for each slot it takes off a deleted connection.

The database is modelled here as a store of rows, together with the connection each
reference path names and the connections that exist; the answers of the data model are
read from it (`Store.env`). The main result says that along every run in which the store
takes each accepted write before its handler runs, from `DEVICE_MTP_Init` or from a
`DEVICE_MTP_Start` that reads the store, the table is a coherent cache: the slot
of each live instance holds what its stored row holds, and is what a fresh read of the row
gives. It needs the runs of `ReachableKeepingSlots`: the delete of a disabled instance
leaves its slot, which a later add of the instance, with a new row, does not refresh.
From it, `Get_MtpStatus` and `DEVICE_MTP_GetAgentStompQueue` report what the stored rows
of the live instances determine.
-/

namespace LocalAgentMtp

/-! ### The store -/

/-- A row of `Device.LocalAgent.MTP.{i}` as the database stores it. -/
structure Row where
  enable : Bool
  protocol : String
  reference : String
  destination : String
  coapPort : UInt32
  coapPath : String
  deriving DecidableEq, Repr

/-- The database: the stored rows, the connection each reference path names, and the
STOMP connections that exist. -/
structure Store where
  rows : Int → Row
  names : String → Option Int
  connections : List Int

/-- `DM_ACCESS_ValidateReference` against the store: the path must name a connection that
exists. -/
def Store.validateReference (st : Store) (value : String) : Except ErrCode Int :=
  match st.names value with
  | some c => if c ∈ st.connections then .ok c else .error ⟨uspErrInvalidValue, by decide⟩
  | none => .error ⟨uspErrInvalidValue, by decide⟩

/-- The data model's answers when its reads come from the store, the write of an empty
reference is taken, and the transports answer as in `base`. -/
def Store.env (st : Store) (base : Env) : Env :=
  { base with
    getEnable := fun i => .ok (st.rows i).enable
    getProtocol := fun i => match textUtilsStringToEnum (st.rows i).protocol mtpProtocols with
      | some p => .ok p
      | none => .error ⟨uspErrInvalidValue, by decide⟩
    getStompReference := fun i => .ok (st.rows i).reference
    getStompDestination := fun i => .ok (st.rows i).destination
    getCoapPort := fun i => .ok (st.rows i).coapPort
    getCoapPath := fun i => .ok (st.rows i).coapPath
    validateReference := st.validateReference
    clearStompReferenceNotifies := fun _ => true }

section EnvOfStore

variable (st : Store) (base : Env) (i : Int)

@[simp] theorem Store.env_getEnable : (st.env base).getEnable i = .ok (st.rows i).enable := rfl

@[simp] theorem Store.env_getProtocol : (st.env base).getProtocol i =
    match textUtilsStringToEnum (st.rows i).protocol mtpProtocols with
    | some p => .ok p
    | none => .error ⟨uspErrInvalidValue, by decide⟩ := rfl

@[simp] theorem Store.env_getStompReference :
    (st.env base).getStompReference i = .ok (st.rows i).reference := rfl

@[simp] theorem Store.env_getStompDestination :
    (st.env base).getStompDestination i = .ok (st.rows i).destination := rfl

@[simp] theorem Store.env_getCoapPort : (st.env base).getCoapPort i = .ok (st.rows i).coapPort := rfl

@[simp] theorem Store.env_getCoapPath : (st.env base).getCoapPath i = .ok (st.rows i).coapPath := rfl

@[simp] theorem Store.env_validateReference :
    (st.env base).validateReference = st.validateReference := rfl

@[simp] theorem Store.env_clearStompReferenceNotifies :
    (st.env base).clearStompReferenceNotifies i = true := rfl

@[simp] theorem Store.env_getInstances : (st.env base).getInstances = base.getInstances := rfl

end EnvOfStore

def Store.setRow (st : Store) (i : Int) (row : Row) : Store :=
  { st with rows := fun j => if j = i then row else st.rows j }

@[simp] theorem Store.setRow_rows_self (st : Store) (i : Int) (row : Row) :
    (st.setRow i row).rows i = row := by simp [Store.setRow]

theorem Store.setRow_rows_of_ne (st : Store) {i j : Int} (row : Row) (h : j ≠ i) :
    (st.setRow i row).rows j = st.rows j := by simp [Store.setRow, h]

def Row.write (row : Row) : ParamWrite → Row
  | .enable v => { row with enable := v }
  | .protocol v => { row with protocol := v }
  | .stompReference v => { row with reference := v }
  | .stompDestination v => { row with destination := v }
  | .coapPort v => { row with coapPort := v }
  | .coapPath v => { row with coapPath := v }

/-- The validators registered for the parameters: `Validate_AgentMtpProtocol` and
`DEVICE_MTP_ValidateStompReference`. -/
def ParamWrite.Valid (e : Env) : ParamWrite → Prop
  | .protocol v => validateAgentMtpProtocol v = uspErrOk
  | .stompReference v => deviceMtpValidateStompReference e v = uspErrOk
  | _ => True

/-- The values `DEVICE_MTP_Init` registers as the defaults of a new instance's parameters:
`Enable` false, `Protocol` "STOMP", `CoAP.Port` 5683, and empty `STOMP.Reference`,
`STOMP.Destination` and `CoAP.Path`. -/
def defaultRow : Row := ⟨false, "STOMP", "", "", 5683, ""⟩

/-- Every default passes the validator registered for its parameter, whatever the data
model answers. -/
theorem defaultRow_valid (e : Env) :
    ∀ w ∈ [ParamWrite.enable defaultRow.enable, .protocol defaultRow.protocol,
      .stompReference defaultRow.reference, .stompDestination defaultRow.destination,
      .coapPort defaultRow.coapPort, .coapPath defaultRow.coapPath], w.Valid e := by
  intro w hw
  simp only [List.mem_cons, List.not_mem_nil, or_false] at hw
  rcases hw with rfl | rfl | rfl | rfl | rfl | rfl
  case inr.inl => show validateAgentMtpProtocol "STOMP" = uspErrOk; decide
  case inr.inr.inl => exact if_pos rfl
  all_goals trivial

/-- The deletion of connection `c`: it stops existing, and each slot the cascade clears has
its stored reference emptied by the cascade's write. -/
def Store.deleteConnection (st : Store) (c : Int) (t : AgentMtps) : Store where
  rows i := if t.slots.any (fun mtp => mtp.inst = i ∧ refersToDeletedConn c mtp) then
    { st.rows i with reference := "" } else st.rows i
  names := st.names
  connections := st.connections.erase c

theorem Store.deleteConnection_rows_of_refers {st : Store} {c : Int} {t : AgentMtps}
    {mtp : AgentMtp} (hm : mtp ∈ t.slots) (hr : refersToDeletedConn c mtp) :
    (st.deleteConnection c t).rows mtp.inst = { st.rows mtp.inst with reference := "" } :=
  if_pos (List.any_eq_true.2 ⟨mtp, hm, by simp [hr]⟩)

theorem Store.storeClears_deleteConnection (st : Store) (base : Env) (c : Int) (t : AgentMtps) :
    StoreClears ((st.deleteConnection c t).env base) c t := fun _ hm hr =>
  ⟨rfl, by rw [Store.env_getStompReference, Store.deleteConnection_rows_of_refers hm hr]⟩

/-- The connection a stored reference stands for: `INVALID` for the empty one, and the one
it names otherwise. -/
def Store.refConnection (st : Store) (ref : String) : Option Int :=
  if ref = "" then some invalid else st.names ref

theorem Store.validateReference_eq_ok {st : Store} {value : String} {c : Int} :
    st.validateReference value = .ok c ↔ st.names value = some c ∧ c ∈ st.connections := by
  unfold Store.validateReference
  cases h : st.names value with
  | none => simp
  | some c' =>
      simp only [Option.some.injEq]
      split_ifs with hc
      · simp only [Except.ok.injEq]
        exact ⟨fun h => ⟨h, h ▸ hc⟩, And.left⟩
      · simp only [reduceCtorEq, false_iff]
        exact fun ⟨h, h'⟩ => hc (h ▸ h')

theorem refConnection_of_getStompReference {st : Store} {base : Env} {ref : String} {c : Int}
    (h : deviceMtpGetStompReference (st.env base) (.ok ref) = .ok c) :
    st.refConnection ref = some c := by
  simp only [deviceMtpGetStompReference] at h
  unfold Store.refConnection
  split_ifs at h ⊢ with hr
  · cases h; rfl
  · exact (Store.validateReference_eq_ok.1 h).1

/-! ### Slots that mirror the store -/

/-- A slot holds what its instance's stored row holds, each field as the code reads it. -/
def Mirrors (st : Store) (mtp : AgentMtp) : Prop :=
  mtp.enable = (st.rows mtp.inst).enable ∧
    textUtilsStringToEnum (st.rows mtp.inst).protocol mtpProtocols = some mtp.protocol ∧
    st.refConnection (st.rows mtp.inst).reference = some mtp.stompConnectionInstance ∧
    mtp.stompAgentQueue = some (st.rows mtp.inst).destination ∧
    mtp.coapPort = (st.rows mtp.inst).coapPort ∧ mtp.coapPath = some (st.rows mtp.inst).coapPath

theorem Mirrors.of_rows {st st' : Store} {mtp : AgentMtp} (hm : Mirrors st mtp)
    (hrow : st'.rows mtp.inst = st.rows mtp.inst) (hnames : st'.names = st.names) :
    Mirrors st' mtp := by
  unfold Mirrors Store.refConnection at *
  rw [hrow, hnames]; exact hm

theorem Mirrors.eq {st : Store} {a b : AgentMtp} (ha : Mirrors st a) (hb : Mirrors st b)
    (h : a.inst = b.inst) : a = b := by
  cases a; cases b
  obtain ⟨a₁, a₂, a₃, a₄, a₅, a₆⟩ := ha
  obtain ⟨b₁, b₂, b₃, b₄, b₅, b₆⟩ := hb
  dsimp only at h; subst h
  rw [AgentMtp.mk.injEq]
  exact ⟨rfl, a₁.trans b₁.symm, Option.some.inj (a₂.symm.trans b₂),
    Option.some.inj (a₃.symm.trans b₃), a₄.trans b₄.symm, a₅.trans b₅.symm, a₆.trans b₆.symm⟩

/-- A slot that population reads from the store mirrors it. -/
theorem readAgentMtp_mirrors {st : Store} {base : Env} {i : Int} {mtp : AgentMtp}
    (h : readAgentMtp (st.env base) i = .ok mtp) : Mirrors st mtp := by
  simp only [readAgentMtp, bind, Except.bind, Store.env_getEnable, Store.env_getProtocol,
    Store.env_getStompReference, Store.env_getStompDestination, Store.env_getCoapPort,
    Store.env_getCoapPath, pure, Except.pure] at h
  cases hp : textUtilsStringToEnum (st.rows i).protocol mtpProtocols with
  | none => simp only [hp, reduceCtorEq] at h
  | some p =>
      cases hr : deviceMtpGetStompReference (st.env base) (.ok (st.rows i).reference) with
      | error err => simp only [hp, hr, reduceCtorEq] at h
      | ok c =>
          simp only [hp, hr, Except.ok.injEq] at h
          subst h
          exact ⟨rfl, hp, refConnection_of_getStompReference hr, rfl, rfl, rfl⟩

theorem getStompReference_of_valid {st : Store} {base base' : Env} {i : Int} {row : Row}
    (hv : deviceMtpValidateStompReference (st.env base) row.reference = uspErrOk) :
    ∃ c, deviceMtpGetStompReference ((st.setRow i row).env base')
      (((st.setRow i row).env base').getStompReference i) = .ok c := by
  rw [Store.env_getStompReference, Store.setRow_rows_self]
  unfold deviceMtpValidateStompReference at hv
  simp only [deviceMtpGetStompReference]
  split_ifs at hv ⊢
  · exact ⟨_, rfl⟩
  · split at hv
    · exact ⟨_, ‹_›⟩
    · exact absurd hv (ErrCode.code_ne_ok _)

theorem resolvedConnection_of_valid {st : Store} {base base' : Env} {i : Int} {row : Row}
    (hv : deviceMtpValidateStompReference (st.env base) row.reference = uspErrOk) :
    st.refConnection row.reference = some (resolvedConnection ((st.setRow i row).env base') i) := by
  unfold resolvedConnection
  obtain ⟨c, hc⟩ := @getStompReference_of_valid st base base' i row hv
  rw [Store.env_getStompReference, Store.setRow_rows_self] at hc ⊢
  rw [hc]
  exact (refConnection_of_getStompReference hc :
    (st.setRow i row).refConnection row.reference = some c)

/-- A change handler, run once its write is stored, with a value its validator accepted,
leaves its slot mirroring the store. -/
theorem ParamWrite.body_mirrors {st : Store} {base : Env} {w : ParamWrite} {mtp : AgentMtp}
    {r : SlotOutcome} (hm : Mirrors st mtp) (hv : w.Valid (st.env base))
    (h : w.body ((st.setRow mtp.inst ((st.rows mtp.inst).write w)).env base) mtp.inst mtp = .ok r) :
    Mirrors (st.setRow mtp.inst ((st.rows mtp.inst).write w)) r.mtp := by
  obtain ⟨h₁, h₂, h₃, h₄, h₅, h₆⟩ := hm
  unfold Mirrors
  rw [(ParamWrite.keepsSlot h).inst_eq, Store.setRow_rows_self]
  cases w <;> simp only [ParamWrite.body, Except.ok.injEq] at h
  case enable v =>
    subst h
    rw [agentMtpEnableBody_mtp]
    split_ifs with hv'
    · exact ⟨hv'.symm, h₂, h₃, h₄, h₅, h₆⟩
    · exact ⟨rfl, h₂, h₃, h₄, h₅, h₆⟩
  case protocol v =>
    obtain ⟨p, hlookup, hr⟩ := agentMtpProtocolBody_mtp h
    rw [hr]
    exact ⟨h₁, hlookup, h₃, h₄, h₅, h₆⟩
  case stompReference v =>
    subst h
    rw [agentMtpStompReferenceBody_mtp]
    exact ⟨h₁, h₂, @resolvedConnection_of_valid st base base mtp.inst
      ((st.rows mtp.inst).write (.stompReference v)) hv, h₄, h₅, h₆⟩
  case stompDestination v =>
    rw [agentMtpStompDestinationBody_mtp h]
    exact ⟨h₁, h₂, h₃, rfl, h₅, h₆⟩
  case coapPort v =>
    subst h
    rw [agentMtpCoapPortBody_mtp]
    split_ifs with hv'
    · exact ⟨h₁, h₂, h₃, h₄, hv'.symm, h₆⟩
    · exact ⟨h₁, h₂, h₃, h₄, rfl, h₆⟩
  case coapPath v =>
    subst h
    rw [agentMtpCoapPathBody_mtp]
    exact ⟨h₁, h₂, h₃, h₄, h₅, rfl⟩

theorem Mirrors.deleteConnection {st : Store} {c : Int} {t : AgentMtps} (hd : InstancesDistinct t)
    {mtp : AgentMtp} (hm : mtp ∈ t.slots) (hocc : mtp.Occupied) (hmir : Mirrors st mtp) :
    Mirrors (st.deleteConnection c t) (clearedSlot c mtp) := by
  by_cases hr : refersToDeletedConn c mtp
  · have hrow := @Store.deleteConnection_rows_of_refers st c t mtp hm hr
    obtain ⟨h₁, h₂, -, h₄, h₅, h₆⟩ := hmir
    unfold Mirrors
    rw [clearedSlot_inst, hrow, clearedSlot, if_pos hr]
    exact ⟨h₁, h₂, rfl, h₄, h₅, h₆⟩
  · rw [clearedSlot, if_neg hr]
    refine hmir.of_rows (if_neg fun hany => ?_) rfl
    obtain ⟨x, hx, hxr⟩ := List.any_eq_true.1 hany
    obtain ⟨hxi, hxref⟩ := of_decide_eq_true hxr
    exact hr (hd.eq_of_inst_eq hm hocc hx hxi ▸ hxref)

/-! ### The table mirrors the store along a run -/

/-- Every occupied slot of the table mirrors the store. -/
def TableMirrors (st : Store) (t : AgentMtps) : Prop :=
  ∀ mtp ∈ t.slots, mtp.Occupied → Mirrors st mtp

theorem TableMirrors.set {st : Store} {t : AgentMtps} (ht : TableMirrors st t) (k : Nat)
    {x : AgentMtp} (hx : x.Occupied → Mirrors st x) : TableMirrors st (t.set k x) := by
  intro mtp hm hocc
  rcases List.mem_or_eq_of_mem_set hm with hm | rfl
  · exact ht mtp hm hocc
  · exact hx hocc

theorem TableMirrors.setRow {st : Store} {t : AgentMtps} {i : Int} (row : Row)
    (ht : TableMirrors st t) (hother : ∀ mtp ∈ t.slots, mtp.Occupied → mtp.inst ≠ i) :
    TableMirrors (st.setRow i row) t := fun mtp hm hocc =>
  (ht mtp hm hocc).of_rows (st.setRow_rows_of_ne row (hother mtp hm hocc)) rfl

theorem tableMirrors_processAgentMtpAdded {st : Store} {base : Env} {t : AgentMtps} (i : Int)
    (ht : TableMirrors st t) : TableMirrors st (processAgentMtpAdded (st.env base) t i).agentMtps := by
  cases hfind : findUnusedAgentMtp t with
  | none => rw [processAgentMtpAdded_of_full hfind]; exact ht
  | some r =>
      rw [(processAgentMtpAdded_of_free _ i hfind).2]
      refine ht.set _ ?_
      cases hp : populatedAgentMtp (st.env base) i with
      | none => exact fun hocc => absurd hocc (not_occupied_destroyAgentMtp r.2)
      | some mtp => exact fun _ => readAgentMtp_mirrors (readAgentMtp_of_populatedAgentMtp hp)

theorem tableMirrors_notifyAgentMtpDeleted {st : Store} {t : AgentMtps} (inst1 : Int)
    (ht : TableMirrors st t) : TableMirrors st (notifyAgentMtpDeleted t inst1).agentMtps := by
  rcases notifyAgentMtpDeleted_cases t inst1 with ⟨-, h⟩ | ⟨-, -, -, -, h⟩ | ⟨k, mtp, -, -, h⟩ <;>
    rw [h]
  · exact ht
  · exact ht
  · exact ht.set k fun hocc => absurd hocc (not_occupied_destroyAgentMtp mtp)

/-- A change handler run after its write is stored leaves the table mirroring the store,
when the instances of the table it leaves are distinct: another slot of the instance
written would keep the row the store no longer has. -/
theorem tableMirrors_notifyChange {st : Store} {base : Env} {t : AgentMtps} {i : Int}
    {w : ParamWrite} {o : Outcome} (ht : TableMirrors st t) (hv : w.Valid (st.env base))
    (hpos : 0 < i) (hd : InstancesDistinct o.agentMtps)
    (h : w.notifyChange ((st.setRow i ((st.rows i).write w)).env base) t i = .ok o) :
    TableMirrors (st.setRow i ((st.rows i).write w)) o.agentMtps := by
  obtain ⟨k, mtp, r, hfind, hbody, rfl⟩ := withAgentMtp_eq_ok h
  have hocc := findAgentMtpByInstance_occupied hfind hpos
  obtain rfl : mtp.inst = i := beq_iff_eq.1 (findSlot_eq_some hfind).2.1
  have hr := ParamWrite.body_mirrors (ht mtp (mem_of_findSlot_eq_some hfind) hocc) hv hbody
  have hinst := (ParamWrite.keepsSlot hbody).inst_eq
  have hmem : r.mtp ∈ (t.set k r.mtp).slots :=
    List.mem_iff_getElem?.2 ⟨k, by simp [findSlot_lt_length hfind]⟩
  intro x hx hxocc
  by_cases hxi : x.inst = mtp.inst
  · rw [hd.eq_of_inst_eq hmem (by rw [AgentMtp.Occupied, hinst]; exact hocc) hx (hxi.trans hinst.symm)]
    exact hr
  · rcases List.mem_or_eq_of_mem_set hx with hx | rfl
    · exact (ht x hx hxocc).of_rows (Store.setRow_rows_of_ne _ _ hxi) rfl
    · exact hr

theorem tableMirrors_deviceMtpNotifyStompConnDeleted {st : Store} {base : Env} {t : AgentMtps}
    {c : Int} {o : Outcome} (ht : TableMirrors st t) (hd : InstancesDistinct t)
    (h : deviceMtpNotifyStompConnDeleted ((st.deleteConnection c t).env base) t c = .ok o) :
    TableMirrors (st.deleteConnection c t) o.agentMtps := by
  obtain ⟨o', ho', hslots, -, -⟩ :=
    deviceMtpNotifyStompConnDeleted_spec hd (st.storeClears_deleteConnection base c t)
  obtain rfl := Except.ok.inj (h.symm.trans ho')
  intro x hx hocc
  rw [hslots] at hx
  obtain ⟨y, hy, rfl⟩ := List.mem_map.1 hx
  have hyocc : y.Occupied := by rw [AgentMtp.Occupied, ← clearedSlot_inst c]; exact hocc
  exact Mirrors.deleteConnection hd hy hyocc (ht y hy hyocc)

/-- A successful `DEVICE_MTP_Start` whose reads come from the store leaves a table that
mirrors it: each slot it fills holds what population read. -/
theorem tableMirrors_deviceMtpStart {st : Store} {base : Env} {v : List Int}
    (hv : base.getInstances = .ok v) (hnd : v.Nodup) (hpos : ∀ i ∈ v, 0 < i)
    (hok : (deviceMtpStart (st.env base) agentMtpsInit).err = uspErrOk) :
    TableMirrors st (deviceMtpStart (st.env base) agentMtpsInit).agentMtps := by
  have hv' : (st.env base).getInstances = .ok v := hv
  simp only [deviceMtpStart, hv'] at hok ⊢
  obtain ⟨⟨ms, frees, hslots, -, hpop, hfree⟩, -⟩ :=
    deviceMtpStartLoop_spec _ v [] agentMtpsInit (startTable_init _) hnd hpos
      (fun _ _ h => nomatch h) (fun _ h => nomatch h) hok
  intro mtp hm hocc
  rcases List.mem_append.1 (hslots ▸ hm) with hm | hm
  · exact readAgentMtp_mirrors (readAgentMtp_of_populatedAgentMtp (hpop mtp hm))
  · exact absurd hocc (hfree mtp hm)

/-- The runs of `ReachableKeepingSlots` against a store, from `DEVICE_MTP_Init` or from a
successful `DEVICE_MTP_Start` right after it that reads the store. The store takes each
write, once its validator has accepted it, before the handler runs: an added instance has
its row stored first, and the deletion of a connection removes it and has the cascade's
writes of the empty reference stored. -/
inductive CoherentRun : Store → Sys → Prop
  | init (st : Store) : CoherentRun st ⟨agentMtpsInit, []⟩
  | start (st : Store) (base : Env) (v : List Int) : base.getInstances = .ok v → v.Nodup →
      (∀ i ∈ v, 0 < i) → (deviceMtpStart (st.env base) agentMtpsInit).err = uspErrOk →
      CoherentRun st ⟨(deviceMtpStart (st.env base) agentMtpsInit).agentMtps,
        (v.filter (populates (st.env base))).take maxAgentMtps⟩
  | add {st : Store} {s s' : Sys} {calls : List Call} (base : Env) (i : Int) (row : Row) :
      CoherentRun st s → (Op.add i).Allowed s →
      (Op.add i).run ((st.setRow i row).env base) s = .ok (s', calls) →
      CoherentRun (st.setRow i row) s'
  | delete {st : Store} {s s' : Sys} {calls : List Call} (base : Env) (i : Int) :
      CoherentRun st s → (Op.delete i).Allowed s → ¬ (Op.delete i).DeletesDisabled s →
      (Op.delete i).run (st.env base) s = .ok (s', calls) → CoherentRun st s'
  | write {st : Store} {s s' : Sys} {calls : List Call} (base : Env) (i : Int) (w : ParamWrite) :
      CoherentRun st s → (Op.write i w).Allowed s → w.Valid (st.env base) →
      (Op.write i w).run ((st.setRow i ((st.rows i).write w)).env base) s = .ok (s', calls) →
      CoherentRun (st.setRow i ((st.rows i).write w)) s'
  | stompConnDeleted {st : Store} {s s' : Sys} {calls : List Call} (base : Env) (c : Int) :
      CoherentRun st s →
      (Op.stompConnDeleted c).run ((st.deleteConnection c s.agentMtps).env base) s = .ok (s', calls) →
      CoherentRun (st.deleteConnection c s.agentMtps) s'

theorem CoherentRun.keepingSlots {st : Store} {s : Sys} (h : CoherentRun st s) :
    ReachableKeepingSlots s := by
  induction h with
  | init => exact .init
  | start st base v hv hnd hpos hok => exact .start (st.env base) v hv hnd hpos hok
  | add base i row _ hallow hrun ih => exact .step _ _ ih hallow (fun h => h) hrun
  | delete base i _ hallow hkeep hrun ih => exact .step _ _ ih hallow hkeep hrun
  | write base i w _ hallow _ hrun ih => exact .step _ _ ih hallow (fun h => h) hrun
  | stompConnDeleted base c _ hrun ih => exact .step _ (.stompConnDeleted c) ih trivial id hrun

theorem CoherentRun.tableMirrors {st : Store} {s : Sys} (h : CoherentRun st s) :
    TableMirrors st s.agentMtps := by
  induction h with
  | init => exact fun mtp hm hocc => absurd hocc (agentMtpsInit_free mtp hm)
  | start st base v hv hnd hpos hok => exact tableMirrors_deviceMtpStart hv hnd hpos hok
  | @add st s _ _ base i row hprev hallow hrun ih =>
      have ht : TableMirrors (st.setRow i row) s.agentMtps := ih.setRow row fun mtp hm hocc hi =>
        hallow.2 (hi ▸ hprev.keepingSlots.perm.subset (mem_heldInstances.2 ⟨mtp, hm, hocc, rfl⟩))
      rcases Op.run_add hrun with ⟨rfl, -⟩ | ⟨-, h, -, -⟩
      · exact ht
      · rw [h]; exact tableMirrors_processAgentMtpAdded i ht
  | delete base i _ _ _ hrun ih =>
      simp only [Op.run, Except.ok.injEq, Prod.mk.injEq] at hrun
      obtain ⟨rfl, -⟩ := hrun
      exact tableMirrors_notifyAgentMtpDeleted i ih
  | write base i w hprev hallow hv hrun ih =>
      have hd := (CoherentRun.write base i w hprev hallow hv hrun).keepingSlots.instancesDistinct
      obtain ⟨o, ho, rfl, -⟩ := Op.run_write hrun
      exact tableMirrors_notifyChange ih hv (hprev.keepingSlots.reachable.live_pos_nodup.1 i hallow)
        hd ho
  | stompConnDeleted base c hprev hrun ih =>
      obtain ⟨o, ho, rfl, -⟩ := Op.run_stompConnDeleted hrun
      exact tableMirrors_deviceMtpNotifyStompConnDeleted ih hprev.keepingSlots.instancesDistinct ho

theorem CoherentRun.find_mirrors {st : Store} {s : Sys} (h : CoherentRun st s) {i : Int}
    (hi : i ∈ s.live) : ∃ k mtp, findAgentMtpByInstance s.agentMtps i = some (k, mtp) ∧
      mtp.inst = i ∧ mtp.Occupied ∧ Mirrors st mtp := by
  have hs := h.keepingSlots
  obtain ⟨k, mtp, hfind⟩ := findAgentMtpByInstance_of_held (hs.perm.symm.subset hi)
  have hocc := findAgentMtpByInstance_occupied hfind (hs.reachable.live_pos_nodup.1 i hi)
  exact ⟨k, mtp, hfind, beq_iff_eq.1 (findSlot_eq_some hfind).2.1, hocc,
    h.tableMirrors mtp (mem_of_findSlot_eq_some hfind) hocc⟩

/-- Along every run against a store that takes each accepted write before its handler runs,
and that never deletes a disabled instance, the table caches the store: the slot
`FindAgentMtpByInstance` finds for each live instance holds what its stored row holds, and
a fresh read of the row, when it succeeds, gives that very slot. -/
theorem CoherentRun.tableMirrorsStore {st : Store} {s : Sys} (h : CoherentRun st s) (base : Env) :
    ∀ i ∈ s.live, ∃ k mtp, findAgentMtpByInstance s.agentMtps i = some (k, mtp) ∧
      Mirrors st mtp ∧ ∀ mtp', readAgentMtp (st.env base) i = .ok mtp' → mtp' = mtp := by
  intro i hi
  obtain ⟨k, mtp, hfind, hinst, -, hmir⟩ := h.find_mirrors hi
  exact ⟨k, mtp, hfind, hmir, fun mtp' hread =>
    (readAgentMtp_mirrors hread).eq hmir ((readAgentMtp_inst hread).trans hinst.symm)⟩

def stompStore : Store where
  rows _ := ⟨true, "STOMP", "Device.STOMP.Connection.1", "q", 5683, ""⟩
  names ref := if ref = "Device.STOMP.Connection.1" then some 1 else none
  connections := [1]

theorem CoherentRun.tableMirrorsStore_stompStore :
    ∃ st s, CoherentRun st s ∧ s.live = [1] ∧
      ∀ i ∈ s.live, ∃ k mtp, findAgentMtpByInstance s.agentMtps i = some (k, mtp) ∧
        Mirrors st mtp ∧ ∀ mtp', readAgentMtp (st.env stompRow) i = .ok mtp' → mtp' = mtp :=
  have h := CoherentRun.stompConnDeleted stompRow 1
    (CoherentRun.add stompRow 1 (stompStore.rows 1) (.init stompStore) (by decide) rfl) rfl
  ⟨_, _, h, rfl, CoherentRun.tableMirrorsStore h stompRow⟩

/-! ### What the readers of the table report

`Get_MtpStatus` reads the slot of one instance, and `DEVICE_MTP_GetAgentStompQueue`, which
the STOMP module calls to pick the queue it subscribes to, scans every slot. Along a coherent
run both report what the stored rows of the live instances determine. -/

/-- The status the stored row of instance `i` determines, with the transports answering as
in `e`. -/
def Store.status (st : Store) (e : Env) (i : Int) : MtpStatus :=
  if (st.rows i).enable then
    match textUtilsStringToEnum (st.rows i).protocol mtpProtocols,
        st.refConnection (st.rows i).reference with
    | some .stomp, some c => e.stompGetMtpStatus c
    | some .coap, _ => e.coapGetServerStatus i
    | _, _ => .error
  else .down

/-- The queue the stored row of instance `i` has the agent use on connection `c`: the
destination of an enabled STOMP MTP on `c`, when it is not empty. -/
def Store.queueFor (st : Store) (c i : Int) : Option String :=
  if (st.rows i).enable = true ∧
      textUtilsStringToEnum (st.rows i).protocol mtpProtocols = some .stomp ∧
      st.refConnection (st.rows i).reference = some c ∧ (st.rows i).destination ≠ "" then
    some (st.rows i).destination
  else none

theorem Mirrors.getMtpStatus_eq {st : Store} {mtp : AgentMtp} (hm : Mirrors st mtp) (e : Env)
    {t : AgentMtps} {k : Nat} (hfind : findAgentMtpByInstance t mtp.inst = some (k, mtp)) :
    getMtpStatus e t mtp.inst = .ok (textUtilsEnumToString (st.status e mtp.inst) mtpStatuses) := by
  obtain ⟨h₁, h₂, h₃, -, -, -⟩ := hm
  rw [getMtpStatus, hfind]
  simp only [Store.status, ← h₁, h₂, h₃]
  cases mtp.protocol <;> rfl

theorem Mirrors.agentStompQueueOf_eq {st : Store} {mtp : AgentMtp} (hm : Mirrors st mtp)
    (hocc : mtp.Occupied) (c : Int) :
    agentStompQueueOf c mtp = .ok (st.queueFor c mtp.inst) := by
  obtain ⟨h₁, h₂, h₃, h₄, -, -⟩ := hm
  have hocc : mtp.inst ≠ invalid := hocc
  unfold agentStompQueueOf Store.queueFor
  rw [h₄, ← h₁, h₂, h₃]
  by_cases h : mtp.enable = true ∧ mtp.stompConnectionInstance = c ∧ mtp.protocol = .stomp
  · simp [hocc, h]
  · simp only [Option.some.injEq]
    rw [if_neg fun h' => h ⟨h'.2.1, h'.2.2⟩, if_neg fun h' => h ⟨h'.1, h'.2.2.1, h'.2.1⟩]

theorem firstAnswer_map_ok {α : Type} (g : α → Option String) (l : List α) :
    firstAnswer (l.map fun x => .ok (g x)) = .ok (l.findSome? g) := by
  induction l with
  | nil => rfl
  | cons x rest ih =>
      cases hx : g x with
      | none => simp only [List.map_cons, hx, List.findSome?_cons, firstAnswer, ih]
      | some q => simp only [List.map_cons, hx, List.findSome?_cons, firstAnswer]

theorem TableMirrors.getAgentStompQueue {st : Store} {t : AgentMtps} (ht : TableMirrors st t)
    (c : Int) : deviceMtpGetAgentStompQueue t c =
      .ok (t.slots.findSome? fun x => if x.Occupied then st.queueFor c x.inst else none) := by
  rw [deviceMtpGetAgentStompQueue, ← firstAnswer_map_ok]
  congr 1
  refine List.map_congr_left fun x hx => ?_
  by_cases hocc : x.Occupied
  · rw [if_pos hocc, (ht x hx hocc).agentStompQueueOf_eq hocc c]
  · rw [if_neg hocc]
    exact agentStompQueueOf_of_not_serves fun hserves => hocc hserves.1

/-- Along a coherent run the table's readers report the stored configuration. The status
of each live instance is the one its stored row determines. `DEVICE_MTP_GetAgentStompQueue(c)`
returns the stored destination of some live instance configured as an enabled STOMP MTP on
`c`, and `NULL` exactly when no live instance is. -/
theorem CoherentRun.readersReportStore {st : Store} {s : Sys} (h : CoherentRun st s) (e : Env) :
    (∀ i ∈ s.live, getMtpStatus e s.agentMtps i =
      .ok (textUtilsEnumToString (st.status e i) mtpStatuses)) ∧
    ∀ c, ((∀ i ∈ s.live, st.queueFor c i = none) ∧
        deviceMtpGetAgentStompQueue s.agentMtps c = .ok none) ∨
      ∃ i ∈ s.live, ∃ q, st.queueFor c i = some q ∧
        deviceMtpGetAgentStompQueue s.agentMtps c = .ok (some q) := by
  refine ⟨fun i hi => ?_, fun c => ?_⟩
  · obtain ⟨k, mtp, hfind, rfl, -, hmir⟩ := h.find_mirrors hi
    exact hmir.getMtpStatus_eq e hfind
  rw [h.tableMirrors.getAgentStompQueue c]
  cases hf : s.agentMtps.slots.findSome? fun x => if x.Occupied then st.queueFor c x.inst else none with
  | none =>
      refine .inl ⟨fun i hi => ?_, rfl⟩
      obtain ⟨k, mtp, hfind, rfl, hocc, -⟩ := h.find_mirrors hi
      simpa only [if_pos hocc] using
        List.findSome?_eq_none_iff.1 hf mtp (mem_of_findSlot_eq_some hfind)
  | some q =>
      obtain ⟨x, hx, hgx⟩ := List.exists_of_findSome?_eq_some hf
      by_cases hocc : x.Occupied
      · rw [if_pos hocc] at hgx
        exact .inr ⟨x.inst, h.keepingSlots.perm.subset (mem_heldInstances.2 ⟨x, hx, hocc, rfl⟩),
          q, hgx, rfl⟩
      · rw [if_neg hocc] at hgx
        cases hgx

theorem CoherentRun.readersReportStore_stompStore :
    ∃ st s, CoherentRun st s ∧ s.live = [1] ∧
      (∀ i ∈ s.live, getMtpStatus stompRow s.agentMtps i =
        .ok (textUtilsEnumToString (st.status stompRow i) mtpStatuses)) ∧
      ∀ c, ((∀ i ∈ s.live, st.queueFor c i = none) ∧
          deviceMtpGetAgentStompQueue s.agentMtps c = .ok none) ∨
        ∃ i ∈ s.live, ∃ q, st.queueFor c i = some q ∧
          deviceMtpGetAgentStompQueue s.agentMtps c = .ok (some q) :=
  have h := CoherentRun.add stompRow 1 (stompStore.rows 1) (.init stompStore) (by decide) rfl
  ⟨_, _, h, rfl, CoherentRun.readersReportStore h stompRow⟩

end LocalAgentMtp
