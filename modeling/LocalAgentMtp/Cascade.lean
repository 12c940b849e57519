import Mathlib.Logic.Relation
import LocalAgentMtp.Handlers

/-!
`DEVICE_MTP_NotifyStompConnDeleted`, called when a row of `Device.STOMP.Connection` is
deleted. For each occupied STOMP slot that refers to the deleted connection, it writes an
empty `STOMP.Reference` through the data model, which calls back into
`NotifyChange_AgentMtpStompReference` on that instance before the loop goes on to the
next slot; the loop reads each slot as the earlier callbacks left the table.
-/

namespace LocalAgentMtp

/-- The test of the loop of `DEVICE_MTP_NotifyStompConnDeleted`: an occupied STOMP slot
that refers to the deleted connection. Slots of the other protocols are passed over. -/
def refersToDeletedConn (stompInstance : Int) (mtp : AgentMtp) : Prop :=
  mtp.inst ≠ invalid ∧ mtp.protocol = .stomp ∧ mtp.stompConnectionInstance = stompInstance

instance (stompInstance : Int) (mtp : AgentMtp) :
    Decidable (refersToDeletedConn stompInstance mtp) :=
  inferInstanceAs (Decidable (mtp.inst ≠ invalid ∧ mtp.protocol = .stomp ∧
    mtp.stompConnectionInstance = stompInstance))

/-- One iteration of the loop, at slot `i`: the reference of a slot that refers to the
deleted connection is cleared, and the data model's callback, if the write gets that
far, runs on the table as it stands. -/
def stompConnDeletedAt (e : Env) (stompInstance : Int) (i : Nat) (acc : Outcome) :
    Except Fault Outcome :=
  match acc.agentMtps.slots[i]? with
  | none => .ok acc
  | some mtp =>
      if refersToDeletedConn stompInstance mtp then
        let calls := acc.calls ++ [.clearStompReference mtp.inst]
        if e.clearStompReferenceNotifies mtp.inst then
          match notifyChangeAgentMtpStompReference e acc.agentMtps mtp.inst with
          | .error f => .error f
          | .ok o => .ok ⟨o.agentMtps, calls ++ o.calls, acc.err⟩
        else .ok ⟨acc.agentMtps, calls, acc.err⟩
      else .ok acc

/-- The loop over the slot indices still to visit. -/
def stompConnDeletedLoop (e : Env) (stompInstance : Int) : List Nat → Outcome → Except Fault Outcome
  | [], acc => .ok acc
  | i :: rest, acc =>
      match stompConnDeletedAt e stompInstance i acc with
      | .error f => .error f
      | .ok acc => stompConnDeletedLoop e stompInstance rest acc

/-- `DEVICE_MTP_NotifyStompConnDeleted`, which returns nothing: its `Outcome` carries the
table and the calls, with `USP_ERR_OK`. -/
def deviceMtpNotifyStompConnDeleted (e : Env) (t : AgentMtps) (stompInstance : Int) :
    Except Fault Outcome :=
  stompConnDeletedLoop e stompInstance (List.range maxAgentMtps) ⟨t, [], uspErrOk⟩

/-! ### The loop as a sequence of reference writes

One iteration of the loop does nothing, or records the write of an empty reference that
does not get as far as the callback, or records it and runs the callback on the table as
it stands. The loop is a chain of such steps, so a property of outcomes that each step
keeps holds of the outcome the loop leaves. -/

/-- What one iteration of the loop can do. -/
inductive CascadeStep (e : Env) (acc : Outcome) : Outcome → Prop
  | skip : CascadeStep e acc acc
  | clear (inst : Int) :
      CascadeStep e acc ⟨acc.agentMtps, acc.calls ++ [.clearStompReference inst], acc.err⟩
  | notify (inst : Int) (o : Outcome) :
      notifyChangeAgentMtpStompReference e acc.agentMtps inst = .ok o →
      CascadeStep e acc ⟨o.agentMtps, acc.calls ++ [.clearStompReference inst] ++ o.calls, acc.err⟩

theorem stompConnDeletedAt_step {e : Env} {c : Int} {i : Nat} {acc acc' : Outcome}
    (h : stompConnDeletedAt e c i acc = .ok acc') : CascadeStep e acc acc' := by
  unfold stompConnDeletedAt at h
  split at h
  · cases h; exact .skip
  · split at h
    · split at h
      · split at h
        · cases h
        · rename_i o ho
          cases h; exact .notify _ o ho
      · cases h; exact .clear _
    · cases h; exact .skip

theorem stompConnDeletedLoop_steps {e : Env} {c : Int} (idx : List Nat) :
    ∀ acc o, stompConnDeletedLoop e c idx acc = .ok o → Relation.ReflTransGen (CascadeStep e) acc o := by
  induction idx with
  | nil => intro acc o h; cases h; exact .refl
  | cons i rest ih =>
      intro acc o h
      simp only [stompConnDeletedLoop] at h
      split at h
      · cases h
      · rename_i acc' hstep
        exact .head (stompConnDeletedAt_step hstep) (ih acc' o h)

theorem deviceMtpNotifyStompConnDeleted_steps {e : Env} {t : AgentMtps} {c : Int} {o : Outcome}
    (h : deviceMtpNotifyStompConnDeleted e t c = .ok o) :
    Relation.ReflTransGen (CascadeStep e) ⟨t, [], uspErrOk⟩ o :=
  stompConnDeletedLoop_steps _ _ _ h

/-- A property of outcomes each step keeps holds after the cascade. -/
theorem deviceMtpNotifyStompConnDeleted_preserves (P : Outcome → Prop) {e : Env} {t : AgentMtps}
    {c : Int} {o : Outcome} (hstep : ∀ acc acc', P acc → CascadeStep e acc acc' → P acc')
    (h₀ : P ⟨t, [], uspErrOk⟩) (h : deviceMtpNotifyStompConnDeleted e t c = .ok o) : P o := by
  have hsteps := deviceMtpNotifyStompConnDeleted_steps h
  clear h
  induction hsteps with
  | refl => exact h₀
  | tail _ hs ih => exact hstep _ _ ih hs

/-! ### The callback always finds its slot

The loop calls back only for the instance of a slot of the table as it stands, so the
`USP_ASSERT` of the callback's lookup holds and the cascade runs to its end. -/

theorem notifyChangeAgentMtpStompReference_ok (e : Env) {t : AgentMtps} {mtp : AgentMtp}
    (hm : mtp ∈ t.slots) : ∃ o, notifyChangeAgentMtpStompReference e t mtp.inst = .ok o := by
  unfold notifyChangeAgentMtpStompReference withAgentMtp
  split
  · rename_i hnone
    simpa using findSlot_eq_none.1 hnone mtp hm
  · exact ⟨_, rfl⟩

theorem stompConnDeletedAt_ok (e : Env) (c : Int) (i : Nat) (acc : Outcome) :
    ∃ acc', stompConnDeletedAt e c i acc = .ok acc' := by
  unfold stompConnDeletedAt
  split
  · exact ⟨_, rfl⟩
  · rename_i mtp hget
    obtain ⟨o, ho⟩ := notifyChangeAgentMtpStompReference_ok e (List.getElem?_mem hget)
    simp only [ho]
    split <;> (try split) <;> exact ⟨_, rfl⟩

theorem stompConnDeletedLoop_ok (e : Env) (c : Int) (idx : List Nat) :
    ∀ acc, ∃ o, stompConnDeletedLoop e c idx acc = .ok o := by
  induction idx with
  | nil => exact fun acc => ⟨acc, rfl⟩
  | cons i rest ih =>
      intro acc
      obtain ⟨acc', h⟩ := stompConnDeletedAt_ok e c i acc
      simp only [stompConnDeletedLoop, h]
      exact ih acc'

/-- `DEVICE_MTP_NotifyStompConnDeleted` never faults. -/
theorem deviceMtpNotifyStompConnDeleted_ok (e : Env) (t : AgentMtps) (c : Int) :
    ∃ o, deviceMtpNotifyStompConnDeleted e t c = .ok o :=
  stompConnDeletedLoop_ok e c _ _

end LocalAgentMtp
