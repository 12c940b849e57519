import LocalAgentMtp.StoreServers

/-!
Writes to different instances do not interfere. A change handler looks up the slot of its
own instance, rewrites that slot only, and keeps its instance number; what its body reads
from the data model is the row of its own instance and the connections a reference may
name, and from the transports only the results of `COAP_StartServer`. So two writes to
different instances, each stored before its handler runs, can be taken in either order:
both orders leave the same store and the same table, and each handler asks the other
modules for the same things in both.

The CoAP module keeps state (`Servers`), so a start may be answered differently in the two
orders. Each step therefore takes its own transports here, and the calls are compared by
what `device_mtp.c` asks for (`Call.request`), the results the transports hand back left
out. The data model is free to run the change notifications of a request that sets
parameters of several instances in any order.
-/

namespace LocalAgentMtp

/-! ### What the calls ask for -/

/-- A call without the result the other module handed back: what `device_mtp.c` asked for. -/
def Call.request : Call → Call
  | .coapStartServer inst port path _ => .coapStartServer inst port path uspErrOk
  | .deleteInstance inst _ => .deleteInstance inst uspErrOk
  | c => c

/-- The slot a handler body leaves and what its calls ask for. -/
def SlotOutcome.request (r : SlotOutcome) : AgentMtp × List Call :=
  (r.mtp, r.calls.map Call.request)

@[simp] theorem coapStart_request (e : Env) (mtp : AgentMtp) :
    (coapStart e mtp).1.request = .coapStartServer mtp.inst mtp.coapPort mtp.coapPath uspErrOk :=
  rfl

theorem coapRestartBody_request (e e' : Env) (inst1 : Int) (mtp : AgentMtp) :
    (coapRestartBody e' inst1 mtp).request = (coapRestartBody e inst1 mtp).request := by
  unfold coapRestartBody; split_ifs <;> rfl

theorem agentMtpEnableBody_request (e e' : Env) (v : Bool) (mtp : AgentMtp) :
    (agentMtpEnableBody e' v mtp).request = (agentMtpEnableBody e v mtp).request := by
  unfold agentMtpEnableBody
  split_ifs
  · rfl
  · cases mtp.protocol <;> dsimp only
    split_ifs <;> rfl

/-- A handler's body reads the rows of the store and, from the transports, only the result
of `COAP_StartServer`: whatever the transports answer, it leaves the same slot and asks for
the same calls. -/
theorem ParamWrite.body_request (st : Store) (base base' : Env) (i : Int) (w : ParamWrite)
    (mtp : AgentMtp) :
    (w.body (st.env base') i mtp).map SlotOutcome.request =
      (w.body (st.env base) i mtp).map SlotOutcome.request := by
  cases w with
  | enable v => exact congrArg Except.ok (agentMtpEnableBody_request _ _ v mtp)
  | protocol v =>
      simp only [ParamWrite.body, agentMtpProtocolBody]
      split
      · rfl
      · simp only [apply_ite (Except.map SlotOutcome.request)]
        simp only [Except.map, SlotOutcome.request, List.map_append, List.map_singleton,
          coapStart_request]
  | stompReference v => rfl
  | stompDestination v => rfl
  | coapPort v =>
      simp only [ParamWrite.body, agentMtpCoapPortBody]
      split_ifs
      · rfl
      · exact congrArg Except.ok (coapRestartBody_request _ _ i _)
  | coapPath v => exact congrArg Except.ok (coapRestartBody_request _ _ i _)

theorem withAgentMtp_request {t : AgentMtps} {i : Int} {b b' : AgentMtp → Except Fault SlotOutcome}
    (h : ∀ m, (b' m).map SlotOutcome.request = (b m).map SlotOutcome.request) {o : Outcome}
    (ho : withAgentMtp t i b = .ok o) :
    ∃ o', withAgentMtp t i b' = .ok o' ∧ o'.agentMtps = o.agentMtps ∧
      o'.calls.map Call.request = o.calls.map Call.request := by
  obtain ⟨k, m, r, hf, hr, rfl⟩ := withAgentMtp_eq_ok ho
  have hm := h m
  rw [hr] at hm
  cases hb : b' m with
  | error f => rw [hb] at hm; cases hm
  | ok r' =>
      rw [hb] at hm
      obtain ⟨hmtp, hcalls⟩ := Prod.mk.inj (Except.ok.inj hm)
      exact ⟨⟨t.set k r'.mtp, r'.calls, r'.err⟩, by simp only [withAgentMtp, hf, hb],
        congrArg (t.set k) hmtp, hcalls⟩

/-! ### Two writes -/

theorem findAgentMtpByInstance_set_of_ne {t : AgentMtps} {k : Nat} {a b : AgentMtp} {j : Int}
    (hk : t.slots[k]? = some a) (hb : b.inst = a.inst) (hj : a.inst ≠ j) :
    findAgentMtpByInstance (t.set k b) j = findAgentMtpByInstance t j := by
  unfold findAgentMtpByInstance
  rw [AgentMtps.slots_set, findSlot_set hk (by rw [hb])]
  cases h : findSlot (fun mtp => mtp.inst == j) t.slots with
  | none => rfl
  | some r =>
      obtain ⟨hget, hp, -⟩ := findSlot_eq_some h
      have hne : r.1 ≠ k := by
        rintro hrk
        rw [hrk, hk] at hget
        obtain rfl := Option.some.inj hget
        exact hj (beq_iff_eq.1 hp)
      simp [hne]

/-- Two lookups-and-rewrites of different instances, with bodies that keep the instance of
their slot, commute: if one order succeeds, so does the other, with the same table and
with each body making the same calls. -/
theorem withAgentMtp_comm {t : AgentMtps} {i j : Int} (hij : i ≠ j)
    {b₁ b₂ : AgentMtp → Except Fault SlotOutcome}
    (hb₁ : ∀ m r, b₁ m = .ok r → r.mtp.inst = m.inst)
    (hb₂ : ∀ m r, b₂ m = .ok r → r.mtp.inst = m.inst) {o₁ o₂ : Outcome}
    (h₁ : withAgentMtp t i b₁ = .ok o₁) (h₂ : withAgentMtp o₁.agentMtps j b₂ = .ok o₂) :
    ∃ o₂' o₁', withAgentMtp t j b₂ = .ok o₂' ∧ withAgentMtp o₂'.agentMtps i b₁ = .ok o₁' ∧
      o₁'.agentMtps = o₂.agentMtps ∧ o₁'.calls = o₁.calls ∧ o₂'.calls = o₂.calls := by
  obtain ⟨k, m, r₁, hf₁, hr₁, rfl⟩ := withAgentMtp_eq_ok h₁
  obtain ⟨k', m', r₂, hf₂, hr₂, rfl⟩ := withAgentMtp_eq_ok h₂
  obtain ⟨hk, hmi, -⟩ := findSlot_eq_some hf₁
  rw [findAgentMtpByInstance_set_of_ne hk (hb₁ m r₁ hr₁) (beq_iff_eq.1 hmi ▸ hij)] at hf₂
  obtain ⟨hk', hmj, -⟩ := findSlot_eq_some hf₂
  have hf₁' : findAgentMtpByInstance (t.set k' r₂.mtp) i = some (k, m) := by
    rw [findAgentMtpByInstance_set_of_ne hk' (hb₂ m' r₂ hr₂) (beq_iff_eq.1 hmj ▸ hij.symm)]
    exact hf₁
  have hkk : k' ≠ k := by
    rintro rfl
    obtain rfl := Option.some.inj (hk.symm.trans hk')
    exact hij ((beq_iff_eq.1 hmi).symm.trans (beq_iff_eq.1 hmj))
  refine ⟨⟨t.set k' r₂.mtp, r₂.calls, r₂.err⟩, ⟨(t.set k' r₂.mtp).set k r₁.mtp, r₁.calls, r₁.err⟩,
    by simp only [withAgentMtp, hf₂, hr₂], by simp only [withAgentMtp, hf₁', hr₁], ?_, rfl, rfl⟩
  exact AgentMtps.ext_slots (List.set_comm _ _ _ hkk)

theorem ParamWrite.body_setRow_of_ne (st : Store) {i j : Int} (hij : i ≠ j) (row : Row)
    (base : Env) (w : ParamWrite) : w.body ((st.setRow i row).env base) j = w.body (st.env base) j := by
  funext mtp
  cases w
  case stompReference =>
    simp only [ParamWrite.body, agentMtpStompReferenceBody, deviceMtpGetStompReference,
      Store.env_getStompReference, st.setRow_rows_of_ne row hij.symm]
    rfl
  all_goals rfl

theorem Store.setRow_comm (st : Store) {i j : Int} (hij : i ≠ j) (a b : Row) :
    (st.setRow i a).setRow j b = (st.setRow j b).setRow i a := by
  simp only [Store.setRow, Store.mk.injEq, and_true]
  funext k
  by_cases hki : k = i
  · simp [hki, hij]
  · simp [hki]

/-- Writes to two different instances commute, whatever the transports answer. When the
store takes a write to instance `i` and its handler runs, and then a write to another
instance `j` and its handler, the other order also succeeds, with each step answered by
transports of its own: it leaves the same store and the same table, and each handler asks
for the same calls as before; only the results of `COAP_StartServer` may differ. -/
theorem Op.write_comm {st : Store} {base₁ base₂ base₁' base₂' : Env} {s s₁ s₂ : Sys}
    {i j : Int} {w₁ w₂ : ParamWrite} {c₁ c₂ : List Call} (hij : i ≠ j)
    (h₁ : (Op.write i w₁).run ((st.setRow i ((st.rows i).write w₁)).env base₁) s = .ok (s₁, c₁))
    (h₂ : (Op.write j w₂).run (((st.setRow i ((st.rows i).write w₁)).setRow j
      ((st.rows j).write w₂)).env base₂) s₁ = .ok (s₂, c₂)) :
    ∃ s₁' c₁' c₂', (Op.write j w₂).run ((st.setRow j ((st.rows j).write w₂)).env base₂') s =
        .ok (s₁', c₂') ∧
      (Op.write i w₁).run (((st.setRow j ((st.rows j).write w₂)).setRow i
        ((st.rows i).write w₁)).env base₁') s₁' = .ok (s₂, c₁') ∧
      c₁'.map Call.request = c₁.map Call.request ∧ c₂'.map Call.request = c₂.map Call.request ∧
      (st.setRow i ((st.rows i).write w₁)).setRow j ((st.rows j).write w₂) =
        (st.setRow j ((st.rows j).write w₂)).setRow i ((st.rows i).write w₁) := by
  obtain ⟨o₁, ho₁, rfl, rfl⟩ := Op.run_write h₁
  obtain ⟨o₂, ho₂, rfl, rfl⟩ := Op.run_write h₂
  set a := (st.rows i).write w₁
  set b := (st.rows j).write w₂
  have hcomm := st.setRow_comm hij a b
  -- in the other order each handler reads the same rows; only the transports' answers differ
  have hbody₁ : ∀ m, (w₁.body (((st.setRow j b).setRow i a).env base₁') i m).map
      SlotOutcome.request = (w₁.body ((st.setRow i a).env base₁) i m).map SlotOutcome.request := by
    intro m
    rw [← hcomm, ParamWrite.body_setRow_of_ne _ hij.symm, ParamWrite.body_request]
  have hbody₂ : ∀ m, (w₂.body ((st.setRow j b).env base₂') j m).map SlotOutcome.request =
      (w₂.body (((st.setRow i a).setRow j b).env base₂) j m).map SlotOutcome.request := by
    intro m
    rw [ParamWrite.body_request _ base₂, hcomm, ParamWrite.body_setRow_of_ne _ hij]
  obtain ⟨o₂', o₁', h₂', h₁', htab, hc₁, hc₂⟩ := withAgentMtp_comm hij
    (fun m r h => (ParamWrite.keepsSlot h).inst_eq) (fun m r h => (ParamWrite.keepsSlot h).inst_eq)
    ho₁ ho₂
  obtain ⟨p₂, hp₂, htab₂, hreq₂⟩ := withAgentMtp_request hbody₂ h₂'
  obtain ⟨p₁, hp₁, htab₁, hreq₁⟩ := withAgentMtp_request hbody₁ (htab₂ ▸ h₁')
  refine ⟨⟨p₂.agentMtps, s.live⟩, p₁.calls, p₂.calls, ?_, ?_, hc₁ ▸ hreq₁, hc₂ ▸ hreq₂, hcomm⟩
  · simp only [Op.run, ParamWrite.notifyChange, hp₂]
  · simp only [Op.run, ParamWrite.notifyChange, hp₁, htab₁, htab]

def twoCoapInstances : Sys :=
  ⟨(processAgentMtpAdded (coapStore.env coapRow)
    (processAgentMtpAdded (coapStore.env coapRow) agentMtpsInit 1).agentMtps 2).agentMtps, [1, 2]⟩

def coapStartRefused : Env := { coapRow with coapStartServer := fun _ _ _ => uspErrInternalError }

theorem Op.write_comm_coapRestarts :
    ∃ s₁ s₂ c₁ c₂,
      (Op.write 1 (.coapPort 5684)).run ((coapStore.setRow 1
        ((coapStore.rows 1).write (.coapPort 5684))).env coapRow) twoCoapInstances = .ok (s₁, c₁) ∧
      (Op.write 2 (.coapPath "/x")).run (((coapStore.setRow 1
        ((coapStore.rows 1).write (.coapPort 5684))).setRow 2
          ((coapStore.rows 2).write (.coapPath "/x"))).env coapRow) s₁ = .ok (s₂, c₂) ∧
      ∃ s₁' c₁' c₂', (Op.write 2 (.coapPath "/x")).run ((coapStore.setRow 2
          ((coapStore.rows 2).write (.coapPath "/x"))).env coapStartRefused) twoCoapInstances =
            .ok (s₁', c₂') ∧
        (Op.write 1 (.coapPort 5684)).run (((coapStore.setRow 2
          ((coapStore.rows 2).write (.coapPath "/x"))).setRow 1
            ((coapStore.rows 1).write (.coapPort 5684))).env coapStartRefused) s₁' = .ok (s₂, c₁') ∧
        c₁'.map Call.request = c₁.map Call.request ∧ c₂'.map Call.request = c₂.map Call.request ∧
        (coapStore.setRow 1 ((coapStore.rows 1).write (.coapPort 5684))).setRow 2
            ((coapStore.rows 2).write (.coapPath "/x")) =
          (coapStore.setRow 2 ((coapStore.rows 2).write (.coapPath "/x"))).setRow 1
            ((coapStore.rows 1).write (.coapPort 5684)) :=
  ⟨_, _, _, _, rfl, rfl, Op.write_comm (by decide) rfl rfl⟩

end LocalAgentMtp
