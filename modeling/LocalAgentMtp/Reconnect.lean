import LocalAgentMtp.Strings

/-!
What a STOMP connection subscribes to, and the reconnects that tell it. The STOMP module
asks `DEVICE_MTP_GetAgentStompQueue(c)` for the queue of connection `c` when it connects,
so an operation that changes that answer must schedule a reconnect of `c`. The answer is
that of the first slot that serves `c`, so it changes only through the answer of a slot an
operation rewrites; each entry point schedules `c` whenever it rewrites a slot that serves
`c` before or after, provided the reference handler can read and resolve the reference.
When that read fails, `NotifyChange_AgentMtpStompReference` sets the slot's connection to
`INVALID` and returns without a reconnect.
-/

namespace LocalAgentMtp

/-- A slot `DEVICE_MTP_GetAgentStompQueue(c)` may answer from: the condition of its loop. -/
def AgentMtp.Serves (c : Int) (mtp : AgentMtp) : Prop :=
  mtp.inst ≠ invalid ∧ mtp.enable = true ∧ mtp.stompConnectionInstance = c ∧
    mtp.protocol = .stomp

theorem agentStompQueueOf_of_not_serves {c : Int} {mtp : AgentMtp} (h : ¬ mtp.Serves c) :
    agentStompQueueOf c mtp = .ok none := by
  unfold agentStompQueueOf AgentMtp.Serves at *; rw [if_neg h]

theorem serves_of_agentStompQueueOf_ne {c : Int} {mtp mtp' : AgentMtp}
    (h : agentStompQueueOf c mtp' ≠ agentStompQueueOf c mtp) : mtp.Serves c ∨ mtp'.Serves c := by
  by_contra hn
  push_neg at hn
  exact h (by rw [agentStompQueueOf_of_not_serves hn.1, agentStompQueueOf_of_not_serves hn.2])

theorem agentStompQueueOf_ne_of_set {t : AgentMtps} {k : Nat} {mtp mtp' : AgentMtp} {c : Int}
    (hk : t.slots[k]? = some mtp)
    (h : deviceMtpGetAgentStompQueue (t.set k mtp') c ≠ deviceMtpGetAgentStompQueue t c) :
    agentStompQueueOf c mtp' ≠ agentStompQueueOf c mtp :=
  fun heq => h (deviceMtpGetAgentStompQueue_set hk heq)

/-! ### Each entry point reconnects what it changes -/

/-- A change handler's body that changes its slot's answer for a connection `c` schedules a
reconnect of `c`, given, for a write of `STOMP.Reference`, that the reference of the
instance resolves. -/
theorem ParamWrite.body_reconnects {e : Env} {inst1 c : Int} {w : ParamWrite} {mtp : AgentMtp}
    {r : SlotOutcome}
    (hres : ∀ v, w = .stompReference v →
      ∃ c', deviceMtpGetStompReference e (e.getStompReference inst1) = .ok c')
    (hc : c ≠ invalid) (h : w.body e inst1 mtp = .ok r)
    (hne : agentStompQueueOf c r.mtp ≠ agentStompQueueOf c mtp) :
    .scheduleReconnect c ∈ r.calls := by
  cases w <;> simp only [ParamWrite.body, Except.ok.injEq] at h
  case enable v =>
    subst h
    rw [agentMtpEnableBody_mtp] at hne
    split_ifs at hne with hv
    · exact absurd rfl hne
    · obtain ⟨hp, hconn⟩ : mtp.protocol = .stomp ∧ mtp.stompConnectionInstance = c := by
        rcases serves_of_agentStompQueueOf_ne hne with h | h <;> exact ⟨h.2.2.2, h.2.2.1⟩
      simp [agentMtpEnableBody, hv, hp, hconn, hc]
  case protocol v =>
    obtain ⟨p, hlookup, hr⟩ := agentMtpProtocolBody_mtp h
    rw [hr] at hne
    obtain ⟨hen, hconn⟩ : mtp.enable = true ∧ mtp.stompConnectionInstance = c := by
      rcases serves_of_agentStompQueueOf_ne hne with h | h <;> exact ⟨h.2.1, h.2.2.1⟩
    have hp : p ≠ mtp.protocol := fun hp => hne (by rw [hp])
    rw [agentMtpProtocolBody_eq e mtp hlookup, if_pos ⟨hen, hp⟩, Except.ok.injEq] at h
    subst h
    simp [hconn, hc]
  case stompReference =>
    obtain ⟨c', hc'⟩ := hres _ rfl
    subst h
    rw [agentMtpStompReferenceBody_mtp] at hne
    simp only [resolvedConnection, hc'] at hne
    have hserve := serves_of_agentStompQueueOf_ne hne
    have hlast : mtp.stompConnectionInstance ≠ c' := fun h => hne (by rw [← h])
    obtain ⟨hen, hp⟩ : mtp.enable = true ∧ mtp.protocol = .stomp := by
      rcases hserve with h | h <;> exact ⟨h.2.1, h.2.2.2⟩
    unfold agentMtpStompReferenceBody
    rw [hc']
    dsimp only
    rw [if_pos ⟨hen, hp, hlast⟩]
    rcases hserve with h | h
    · simp [h.2.2.1, hc]
    · simp [show c' = c from h.2.2.1, hc]
  case stompDestination v =>
    rw [agentMtpStompDestinationBody_mtp h] at hne
    obtain ⟨-, hen, hconn, hp⟩ : mtp.Serves c := (serves_of_agentStompQueueOf_ne hne).elim id id
    unfold agentMtpStompDestinationBody at h
    cases hq : mtp.stompAgentQueue with
    | none => simp [hq, hen, hp] at h
    | some q =>
        have hqv : q ≠ v := fun hqv => hne (by simp only [← hqv, ← hq])
        simp only [hq, hen, hp, and_self, if_true] at h
        cases h
        simp [hqv, hconn, hc]
  case coapPort v =>
    subst h
    rw [agentMtpCoapPortBody_mtp] at hne
    split_ifs at hne <;> exact absurd rfl hne
  case coapPath v =>
    subst h
    exact absurd (by rw [agentMtpCoapPathBody_mtp]; rfl) hne

theorem ParamWrite.notifyChange_reconnects {e : Env} {t : AgentMtps} {inst1 c : Int}
    {w : ParamWrite} {o : Outcome}
    (hres : ∀ v, w = .stompReference v →
      ∃ c', deviceMtpGetStompReference e (e.getStompReference inst1) = .ok c')
    (hc : c ≠ invalid) (h : w.notifyChange e t inst1 = .ok o)
    (hne : deviceMtpGetAgentStompQueue o.agentMtps c ≠ deviceMtpGetAgentStompQueue t c) :
    .scheduleReconnect c ∈ o.calls := by
  obtain ⟨k, mtp, r, hfind, hbody, rfl⟩ := withAgentMtp_eq_ok h
  exact ParamWrite.body_reconnects hres hc hbody
    (agentStompQueueOf_ne_of_set (findSlot_eq_some hfind).1 hne)

theorem processAgentMtpAdded_reconnects (e : Env) (t : AgentMtps) (inst : Int) {c : Int}
    (hc : c ≠ invalid)
    (hne : deviceMtpGetAgentStompQueue (processAgentMtpAdded e t inst).agentMtps c ≠
      deviceMtpGetAgentStompQueue t c) :
    .scheduleReconnect c ∈ (processAgentMtpAdded e t inst).calls := by
  cases hfind : findUnusedAgentMtp t with
  | none => rw [processAgentMtpAdded_of_full hfind] at hne; exact absurd rfl hne
  | some r =>
      obtain ⟨k, free⟩ := r
      obtain ⟨hk, hfree, -⟩ := findSlot_eq_some hfind
      rw [(processAgentMtpAdded_of_free e inst hfind).2] at hne
      have hserves : ((populatedAgentMtp e inst).getD (destroyAgentMtp free)).Serves c := by
        rcases serves_of_agentStompQueueOf_ne (agentStompQueueOf_ne_of_set hk hne) with h | h
        · exact absurd (beq_iff_eq.1 hfree) h.1
        · exact h
      cases hp : populatedAgentMtp e inst with
      | none => rw [hp] at hserves; exact absurd rfl hserves.1
      | some mtp =>
          rw [hp, Option.getD_some] at hserves
          obtain ⟨pre, hcalls⟩ := processAgentMtpAdded_calls_of_populated e inst hfind hp
          rw [hcalls, if_pos ⟨hserves.2.1, hserves.2.2.2⟩]
          simp [hserves.2.2.1, hc]

theorem notifyAgentMtpDeleted_reconnects (t : AgentMtps) (inst1 : Int) {c : Int}
    (hc : c ≠ invalid)
    (hne : deviceMtpGetAgentStompQueue (notifyAgentMtpDeleted t inst1).agentMtps c ≠
      deviceMtpGetAgentStompQueue t c) :
    .scheduleReconnect c ∈ (notifyAgentMtpDeleted t inst1).calls := by
  cases hfind : findAgentMtpByInstance t inst1 with
  | none => simp only [notifyAgentMtpDeleted, hfind] at hne; exact absurd rfl hne
  | some r =>
      obtain ⟨k, mtp⟩ := r
      by_cases hen : mtp.enable = false
      · simp only [notifyAgentMtpDeleted, hfind, hen, if_true] at hne; exact absurd rfl hne
      · simp only [notifyAgentMtpDeleted, hfind, hen, if_false] at hne ⊢
        rcases serves_of_agentStompQueueOf_ne
            (agentStompQueueOf_ne_of_set (findSlot_eq_some hfind).1 hne) with h | h
        · rw [h.2.2.2]; simp [h.2.2.1, hc]
        · exact absurd rfl h.1

theorem deviceMtpStartLoop_reconnects (e : Env) {c : Int} (hc : c ≠ invalid) (v : List Int) :
    ∀ t, deviceMtpGetAgentStompQueue (deviceMtpStartLoop e t v).agentMtps c ≠
        deviceMtpGetAgentStompQueue t c →
      .scheduleReconnect c ∈ (deviceMtpStartLoop e t v).calls := by
  induction v with
  | nil => exact fun t h => absurd rfl h
  | cons x rest ih =>
      intro t hne
      have hadd := processAgentMtpAdded_reconnects e t x hc
      simp only [deviceMtpStartLoop] at hne ⊢
      split_ifs at hne ⊢
      · exact List.mem_append_left _ (hadd hne)
      · -- population failed and its delete succeeded: one of the three parts changed the queue
        have hdel := notifyAgentMtpDeleted_reconnects (processAgentMtpAdded e t x).agentMtps x hc
        have hrest := ih (notifyAgentMtpDeleted (processAgentMtpAdded e t x).agentMtps x).agentMtps
        simp only [List.mem_append, List.mem_cons, reduceCtorEq, false_or]
        by_contra hnot
        push_neg at hnot
        exact hne ((not_not.1 (mt hrest hnot.2)).trans
          ((not_not.1 (mt hdel hnot.1.2)).trans (not_not.1 (mt hadd hnot.1.1))))
      · have hrest := ih (processAgentMtpAdded e t x).agentMtps
        rw [List.mem_append]
        by_contra hnot
        push_neg at hnot
        exact hne ((not_not.1 (mt hrest hnot.2)).trans (not_not.1 (mt hadd hnot.1)))

theorem deviceMtpStart_reconnects (e : Env) (t : AgentMtps) {c : Int} (hc : c ≠ invalid)
    (hne : deviceMtpGetAgentStompQueue (deviceMtpStart e t).agentMtps c ≠
      deviceMtpGetAgentStompQueue t c) :
    .scheduleReconnect c ∈ (deviceMtpStart e t).calls := by
  unfold deviceMtpStart at hne ⊢
  cases h : e.getInstances with
  | error => simp only [h] at hne; exact absurd rfl hne
  | ok v => simp only [h] at hne ⊢; exact deviceMtpStartLoop_reconnects e hc v t hne

/-- The cascade reconnects every connection whose queue its re-entries change. -/
theorem deviceMtpNotifyStompConnDeleted_reconnects {e : Env} {t : AgentMtps} {c₀ c : Int}
    {o : Outcome}
    (hres : ∀ i, ∃ c', deviceMtpGetStompReference e (e.getStompReference i) = .ok c')
    (hc : c ≠ invalid) (h : deviceMtpNotifyStompConnDeleted e t c₀ = .ok o)
    (hne : deviceMtpGetAgentStompQueue o.agentMtps c ≠ deviceMtpGetAgentStompQueue t c) :
    .scheduleReconnect c ∈ o.calls := by
  refine (deviceMtpNotifyStompConnDeleted_preserves
    (fun o => deviceMtpGetAgentStompQueue o.agentMtps c = deviceMtpGetAgentStompQueue t c ∨
      .scheduleReconnect c ∈ o.calls) (fun acc acc' hacc hs => ?_) (.inl rfl) h).resolve_left hne
  cases hs with
  | skip => exact hacc
  | clear => exact hacc.imp id (List.mem_append_left _)
  | notify inst o ho =>
      by_cases hq : deviceMtpGetAgentStompQueue o.agentMtps c =
          deviceMtpGetAgentStompQueue acc.agentMtps c
      · exact hacc.imp hq.trans fun h => List.mem_append_left _ (List.mem_append_left _ h)
      · exact .inr (List.mem_append_right _
          (@ParamWrite.notifyChange_reconnects e _ inst c (.stompReference "") o (fun _ _ => hres inst) hc
            ho hq))

/-- No operation changes what a STOMP connection subscribes to without scheduling its
reconnect, in any state and with any answers, so long as every reference the handlers read
back resolves. -/
theorem Op.run_reconnects {e : Env} {s s' : Sys} {op : Op} {calls : List Call} {c : Int}
    (hres : ∀ i, ∃ c', deviceMtpGetStompReference e (e.getStompReference i) = .ok c')
    (hc : c ≠ invalid) (h : op.run e s = .ok (s', calls))
    (hne : deviceMtpGetAgentStompQueue s'.agentMtps c ≠ deviceMtpGetAgentStompQueue s.agentMtps c) :
    .scheduleReconnect c ∈ calls := by
  cases op with
  | add inst =>
      rcases Op.run_add h with ⟨rfl, -⟩ | ⟨-, htab, rfl, -⟩
      · exact absurd rfl hne
      · rw [htab] at hne
        exact processAgentMtpAdded_reconnects e _ inst hc hne
  | delete inst =>
      simp only [Op.run, Except.ok.injEq, Prod.mk.injEq] at h
      obtain ⟨rfl, rfl⟩ := h
      exact notifyAgentMtpDeleted_reconnects _ inst hc hne
  | write inst w =>
      obtain ⟨o, ho, rfl, rfl⟩ := Op.run_write h
      exact ParamWrite.notifyChange_reconnects (fun _ _ => hres inst) hc ho hne
  | stompConnDeleted c₀ =>
      obtain ⟨o, ho, rfl, rfl⟩ := Op.run_stompConnDeleted h
      exact deviceMtpNotifyStompConnDeleted_reconnects hres hc ho hne

theorem Op.run_reconnects_stompRow :
    (∀ i, ∃ c', deviceMtpGetStompReference stompRow (stompRow.getStompReference i) = .ok c') ∧
      (1 : Int) ≠ invalid ∧
      ∃ s' calls, (Op.add 1).run stompRow ⟨agentMtpsInit, []⟩ = .ok (s', calls) ∧
        deviceMtpGetAgentStompQueue s'.agentMtps 1 ≠ deviceMtpGetAgentStompQueue agentMtpsInit 1 ∧
        .scheduleReconnect 1 ∈ calls := by
  have hres : ∀ i, ∃ c', deviceMtpGetStompReference stompRow (stompRow.getStompReference i) =
      .ok c' := fun _ => ⟨1, rfl⟩
  have hq : deviceMtpGetAgentStompQueue (processAgentMtpAdded stompRow agentMtpsInit 1).agentMtps 1 ≠
      deviceMtpGetAgentStompQueue agentMtpsInit 1 := fun h =>
    nomatch (h : (Except.ok (some "q") : Except Fault (Option String)) = .ok none)
  exact ⟨hres, by decide, _, _, rfl, hq,
    @Op.run_reconnects stompRow ⟨agentMtpsInit, []⟩ _ (.add 1) _ 1 hres (by decide) rfl hq⟩

def referenceReadFails : Env :=
  { stompRow with getStompReference := fun _ => .error ⟨uspErrInternalError, by decide⟩ }

/-- A reference handler whose read fails takes the slot off its connection without a
reconnect. After instance 1 is added, enabled, on connection 1 with queue `q`, the
handler of its `STOMP.Reference`, with the read failing, leaves connection 1 without a
queue and calls nothing. -/
theorem notifyChangeAgentMtpStompReference_drops_queue :
    ∃ r, runOps ⟨agentMtpsInit, []⟩ [(stompRow, .add 1)] = some r ∧ Reachable r.1 ∧
      (Op.write 1 (.stompReference "")).Allowed r.1 ∧
      deviceMtpGetAgentStompQueue r.1.agentMtps 1 = .ok (some "q") ∧
      ∃ s' calls, (Op.write 1 (.stompReference "")).run referenceReadFails r.1 = .ok (s', calls) ∧
        deviceMtpGetAgentStompQueue s'.agentMtps 1 = .ok none ∧ calls = [] :=
  ⟨_, rfl, @Reachable.runOps _ .init [(stompRow, .add 1)] _ rfl, by decide, rfl, _, _, rfl, rfl,
    rfl⟩

/-! ### The connection a reconnect names -/

theorem ne_invalid_of_argumentsSet {calls : List Call} {c : Int}
    (h : calls.all Call.argumentsSet = true) (hm : .scheduleReconnect c ∈ calls) :
    c ≠ invalid := by
  simpa [Call.argumentsSet] using List.all_eq_true.1 h _ hm

/-- `DEVICE_STOMP_ScheduleReconnect` is never called with `INVALID`: not by an operation
the data model issues in a reachable state, and not by `DEVICE_MTP_Start`. -/
theorem Reachable.scheduleReconnect_ne_invalid {s : Sys} (hs : Reachable s) :
    (∀ (e : Env) (op : Op) (s' : Sys) (calls : List Call) (c : Int), op.Allowed s →
        op.run e s = .ok (s', calls) → .scheduleReconnect c ∈ calls → c ≠ invalid) ∧
      ∀ (e : Env) (t : AgentMtps) (c : Int),
        .scheduleReconnect c ∈ (deviceMtpStart e t).calls → c ≠ invalid :=
  ⟨fun _ _ _ _ _ hop h hm => ne_invalid_of_argumentsSet
      (Op.run_argumentsSet (fun mtp hm hocc => (hs.stringsSet mtp hm hocc).2)
        hs.live_pos_nodup.1 hop h) hm,
    fun e t _ hm => ne_invalid_of_argumentsSet (deviceMtpStart_argumentsSet e t) hm⟩

theorem Reachable.scheduleReconnect_ne_invalid_stompAdded :
    Reachable stompAdded ∧
      (∀ (e : Env) (op : Op) (s' : Sys) (calls : List Call) (c : Int),
          op.Allowed stompAdded → op.run e stompAdded = .ok (s', calls) →
          .scheduleReconnect c ∈ calls → c ≠ invalid) ∧
        ∀ (e : Env) (t : AgentMtps) (c : Int),
          .scheduleReconnect c ∈ (deviceMtpStart e t).calls → c ≠ invalid :=
  ⟨reachable_stompAdded, Reachable.scheduleReconnect_ne_invalid reachable_stompAdded⟩

end LocalAgentMtp
