import LocalAgentMtp.Writes

/-!
The CoAP servers against the table. `COAP_StartServer` and `COAP_StopServer` are made by
`ProcessAgentMtpAdded`, `Notify_AgentMtpDeleted` and the Enable, Protocol, CoAP port and
CoAP path handlers; the servers running after a run are read off the log of its calls, a
successful start of an instance running its server on the start's port and path until a
stop of that instance.

Every entry point touches the server of one instance at most, and in one of four ways
(`ServerCalls`), measured against the server the slot of the instance asks for: one on its
port and path for an enabled CoAP slot, none otherwise. `DEVICE_MTP_Start` is a loop of
such entry points, each on an instance no slot holds yet. On the runs from
`DEVICE_MTP_Init`, or from a successful `DEVICE_MTP_Start` right after it, that never
delete a disabled instance, so that each instance is held by one slot at most, it follows
that a running server is that of an enabled CoAP slot of its
instance, that no start is made for a running server, and that when every start succeeds
every enabled CoAP slot runs its server on its current port and path. A delete of a
disabled instance keeps its slot, and then a later delete of the same instance finds that
slot and leaves the server of the enabled one running.
-/

namespace LocalAgentMtp

/-! ### The servers a log of calls leaves running -/

def Call.isServer : Call → Bool
  | .coapStartServer .. => true
  | .coapStopServer _ => true
  | _ => false

def serverCalls (calls : List Call) : List Call := calls.filter Call.isServer

/-- The server of instance `i` after one more call. -/
def serverStep (i : Int) (server : Option (UInt32 × Option String)) :
    Call → Option (UInt32 × Option String)
  | .coapStartServer j port path err => if j = i ∧ err = uspErrOk then some (port, path) else server
  | .coapStopServer j => if j = i then none else server
  | _ => server

/-- The server of instance `i` a log of calls leaves: that of the last successful start of
`i`, on its port and path, unless a stop of `i` came after it. -/
def runningServer (calls : List Call) (i : Int) : Option (UInt32 × Option String) :=
  calls.foldl (serverStep i) none

/-- Whether a log of calls leaves the server of instance `i` running. -/
def serverRunning (calls : List Call) (i : Int) : Bool := (runningServer calls i).isSome

theorem runningServer_append (l₁ l₂ : List Call) (i : Int) :
    runningServer (l₁ ++ l₂) i = l₂.foldl (serverStep i) (runningServer l₁ i) :=
  List.foldl_append _ _ _ _

theorem foldl_serverStep_serverCalls (calls : List Call) (i : Int)
    (a : Option (UInt32 × Option String)) :
    (serverCalls calls).foldl (serverStep i) a = calls.foldl (serverStep i) a := by
  induction calls generalizing a with
  | nil => rfl
  | cons c rest ih =>
      unfold serverCalls at ih ⊢
      cases c <;> simp only [List.filter_cons, Call.isServer, if_true, Bool.false_eq_true,
        if_false, List.foldl_cons, serverStep, ih]

@[simp] theorem serverCalls_nil : serverCalls [] = [] := rfl

@[simp] theorem serverCalls_append (l₁ l₂ : List Call) :
    serverCalls (l₁ ++ l₂) = serverCalls l₁ ++ serverCalls l₂ := List.filter_append _ _

@[simp] theorem serverCalls_cons (c : Call) (l : List Call) :
    serverCalls (c :: l) = if c.isServer then c :: serverCalls l else serverCalls l := by
  unfold serverCalls; rw [List.filter_cons]

@[simp] theorem serverCalls_reconnectIfSet (c : Int) : serverCalls (reconnectIfSet c) = [] := by
  unfold reconnectIfSet; split <;> rfl

/-- No call of a log starts the server of an instance that the calls before it left
running. -/
def NoStartWhileRunning (log : List Call) : Prop :=
  ∀ pre i port path err post, log = pre ++ .coapStartServer i port path err :: post →
    serverRunning pre i = false

theorem NoStartWhileRunning.append {l₁ l₂ : List Call} (h₁ : NoStartWhileRunning l₁)
    (h₂ : ∀ pre i port path err post, l₂ = pre ++ .coapStartServer i port path err :: post →
      (pre.foldl (serverStep i) (runningServer l₁ i)).isSome = false) :
    NoStartWhileRunning (l₁ ++ l₂) := by
  intro pre i port path err post h
  rcases List.append_eq_append_iff.1 h with ⟨a', rfl, h'⟩ | ⟨c', rfl, h'⟩
  · rw [serverRunning, runningServer_append]; exact h₂ a' i port path err post h'
  · cases c' with
    | nil => simpa [serverRunning] using h₂ [] i port path err post (by simpa using h'.symm)
    | cons x c'' =>
        simp only [List.cons_append, List.cons.injEq] at h'
        obtain ⟨rfl, rfl⟩ := h'
        exact h₁ pre i port path err c'' rfl

/-! ### The server a slot asks for -/

/-- The server an enabled CoAP slot runs, on its port and path; other slots run none. -/
def expectedServer (mtp : AgentMtp) : Option (UInt32 × Option String) :=
  if mtp.enable = true ∧ mtp.protocol = .coap then some (mtp.coapPort, mtp.coapPath) else none

theorem expectedServer_eq_some {mtp : AgentMtp} {x : UInt32 × Option String} :
    expectedServer mtp = some x ↔
      mtp.enable = true ∧ mtp.protocol = .coap ∧ (mtp.coapPort, mtp.coapPath) = x := by
  unfold expectedServer; split_ifs with h <;> simp_all

@[simp] theorem expectedServer_destroyAgentMtp (mtp : AgentMtp) :
    expectedServer (destroyAgentMtp mtp) = none := rfl

/-- The server the table asks for instance `i`: that of the slot `FindAgentMtpByInstance`
finds for it. -/
def heldServer (t : AgentMtps) (i : Int) : Option (UInt32 × Option String) :=
  match findAgentMtpByInstance t i with
  | some (_, mtp) => expectedServer mtp
  | none => none

theorem heldServer_of_find {t : AgentMtps} {i : Int} {k : Nat} {mtp : AgentMtp}
    (h : findAgentMtpByInstance t i = some (k, mtp)) : heldServer t i = expectedServer mtp := by
  simp [heldServer, h]

theorem heldServer_of_absent {t : AgentMtps} {i : Int} (h : ∀ mtp ∈ t.slots, mtp.inst ≠ i) :
    heldServer t i = none := by
  have hnone : findAgentMtpByInstance t i = none :=
    findSlot_eq_none.2 fun mtp hm => by simpa using h mtp hm
  simp [heldServer, hnone]

theorem heldServer_set {t : AgentMtps} {k : Nat} {a b : AgentMtp} {i : Int}
    (hk : t.slots[k]? = some a) (hp : (b.inst == i) = (a.inst == i))
    (hexp : a.inst = i → expectedServer b = expectedServer a) :
    heldServer (t.set k b) i = heldServer t i := by
  unfold heldServer findAgentMtpByInstance
  rw [AgentMtps.slots_set, findSlot_set hk hp]
  cases hf : findSlot (fun mtp => mtp.inst == i) t.slots with
  | none => rfl
  | some r =>
      obtain ⟨hget, hpass, -⟩ := findSlot_eq_some hf
      by_cases hr : r.1 = k
      · rw [hr, hk, Option.some.injEq] at hget
        subst hget
        simpa [hr] using hexp (by simpa using hpass)
      · simp [hr]

theorem heldServer_set_of_only {t : AgentMtps} {k : Nat} {b : AgentMtp} {i : Int}
    (hk : k < t.slots.length) (honly : ∀ j x, t.slots[j]? = some x → x.inst = i → j = k)
    (hb : b.inst = i ∨ expectedServer b = none) :
    heldServer (t.set k b) i = expectedServer b := by
  by_cases hbi : b.inst = i
  · refine heldServer_of_find (findSlot_eq_some_of
      (show (t.set k b).slots[k]? = some b by simp [hk]) (by simp [hbi]) ?_)
    intro j hj x hx
    rw [AgentMtps.slots_set, List.getElem?_set_ne (by omega)] at hx
    simpa using fun h => absurd (honly j x hx h) (by omega)
  · rw [hb.resolve_left hbi]
    refine heldServer_of_absent fun x hx hxi => ?_
    obtain ⟨j, hj⟩ := List.mem_iff_getElem?.1 hx
    rw [AgentMtps.slots_set] at hj
    by_cases hjk : j = k
    · subst hjk; simp [hk] at hj; exact hbi (hj ▸ hxi)
    · rw [List.getElem?_set_ne (Ne.symm hjk)] at hj; exact hjk (honly j x hj hxi)

theorem heldServer_set_of_find {t : AgentMtps} {k : Nat} {a b : AgentMtp} {i : Int}
    (hfind : findAgentMtpByInstance t i = some (k, a)) (hinst : b.inst = a.inst) :
    heldServer (t.set k b) i = expectedServer b := by
  refine heldServer_of_find (show findSlot _ (t.set k b).slots = some (k, b) from ?_)
  rw [AgentMtps.slots_set, findSlot_set (findSlot_eq_some hfind).1 (by rw [hinst]),
    show findSlot _ t.slots = _ from hfind]
  simp

theorem heldServer_of_mem {t : AgentMtps} (hd : InstancesDistinct t) {mtp : AgentMtp}
    (hm : mtp ∈ t.slots) (hocc : mtp.Occupied) : heldServer t mtp.inst = expectedServer mtp := by
  obtain ⟨k, hk⟩ := List.mem_iff_getElem?.1 hm
  exact heldServer_of_find (findSlot_eq_some_of hk (by simp) fun j hj x hx => by
    simpa using hd.before hk hocc hj hx)

/-! ### The server calls of one step

Each entry point touches the server of one instance at most, in one of four ways: it
leaves it alone, stops it, starts it when it does not run, or stops and starts it again.
`before` and `after` are the servers the table asks for that instance around the step. -/

inductive ServerCalls (i : Int) (before after : Option (UInt32 × Option String)) :
    List Call → Prop
  | keep : after = before → ServerCalls i before after []
  | stop : after = none → ServerCalls i before after [.coapStopServer i]
  | start (port : UInt32) (path : Option String) (err : Int) : before = none →
      (err = uspErrOk → after = some (port, path)) → (after = none ∨ after = some (port, path)) →
      ServerCalls i before after [.coapStartServer i port path err]
  | restart (port : UInt32) (path : Option String) (err : Int) : after = some (port, path) →
      ServerCalls i before after [.coapStopServer i, .coapStartServer i port path err]

section ServerCalls

variable {i : Int} {before after : Option (UInt32 × Option String)} {calls : List Call}

theorem ServerCalls.foldl_other (h : ServerCalls i before after calls) {j : Int} (hj : j ≠ i)
    (a : Option (UInt32 × Option String)) : calls.foldl (serverStep j) a = a := by
  cases h <;> simp [serverStep, Ne.symm hj]

theorem ServerCalls.fit (h : ServerCalls i before after calls) {a : Option (UInt32 × Option String)}
    (ha : a = none ∨ a = before) :
    calls.foldl (serverStep i) a = none ∨ calls.foldl (serverStep i) a = after := by
  cases h with
  | keep h => subst h; simpa using ha
  | stop => simp [serverStep]
  | start port path err hb hok _ =>
      obtain rfl : a = none := ha.elim id (· ▸ hb)
      by_cases herr : err = uspErrOk <;> simp [serverStep, herr, hok]
  | restart port path err h => by_cases herr : err = uspErrOk <;> simp [serverStep, herr, h]

theorem ServerCalls.up (h : ServerCalls i before after calls)
    (hok : ∀ port path err, .coapStartServer i port path err ∈ calls → err = uspErrOk) :
    calls.foldl (serverStep i) before = after := by
  cases h with
  | keep h => exact h.symm
  | stop h => simp [serverStep, h]
  | start port path err _ hafter _ =>
      have herr := hok port path err (by simp)
      simp [serverStep, herr, hafter herr]
  | restart port path err h =>
      have herr := hok port path err (by simp)
      simp [serverStep, herr, h]

theorem ServerCalls.startsStopped (h : ServerCalls i before after calls)
    {a : Option (UInt32 × Option String)} (ha : a = none ∨ a = before) {pre post : List Call}
    {j : Int} {port : UInt32} {path : Option String} {err : Int}
    (hc : calls = pre ++ .coapStartServer j port path err :: post) :
    j = i ∧ pre.foldl (serverStep i) a = none := by
  cases h with
  | keep => simp at hc
  | stop => rcases pre with _ | ⟨x, _ | ⟨y, pre⟩⟩ <;> simp at hc
  | start port' path' err' hb =>
      rcases pre with _ | ⟨x, _ | ⟨y, pre⟩⟩ <;> simp at hc
      exact ⟨hc.1.1.symm, ha.elim id (· ▸ hb)⟩
  | restart =>
      rcases pre with _ | ⟨x, _ | ⟨y, pre⟩⟩ <;> simp at hc
      exact ⟨hc.2.1.1.symm, by simp [← hc.1, serverStep]⟩

theorem ServerCalls.start_mem (h : ServerCalls i before after calls) {j : Int} {port : UInt32}
    {path : Option String} (hm : .coapStartServer j port path uspErrOk ∈ calls) :
    j = i ∧ after = some (port, path) := by
  cases h with
  | keep => cases hm
  | stop => simp at hm
  | start _ _ _ _ hok =>
      simp only [List.mem_singleton, Call.coapStartServer.injEq] at hm
      obtain ⟨rfl, rfl, rfl, rfl⟩ := hm
      exact ⟨rfl, hok rfl⟩
  | restart _ _ _ hafter =>
      simp only [List.mem_cons, Call.coapStartServer.injEq, reduceCtorEq, false_or,
        List.mem_singleton, List.not_mem_nil, or_false] at hm
      obtain ⟨rfl, rfl, rfl, -⟩ := hm
      exact ⟨rfl, hafter⟩

end ServerCalls

/-! ### The server calls of each entry point -/

theorem serverCalls_agentMtpStompReferenceBody (e : Env) (inst1 : Int) (mtp : AgentMtp) :
    serverCalls (agentMtpStompReferenceBody e inst1 mtp).calls = [] := by
  unfold agentMtpStompReferenceBody
  split
  · rfl
  · dsimp only; split <;> simp

theorem coapRestartBody_serverCalls (e : Env) {mtp mtp' : AgentMtp} (hinst : mtp'.inst = mtp.inst)
    (hen : mtp'.enable = mtp.enable) (hprot : mtp'.protocol = mtp.protocol) :
    ServerCalls mtp.inst (expectedServer mtp) (expectedServer (coapRestartBody e mtp.inst mtp').mtp)
      (serverCalls (coapRestartBody e mtp.inst mtp').calls) := by
  unfold coapRestartBody
  split_ifs with h
  · simp only [coapStart, serverCalls_cons, Call.isServer, if_true, serverCalls_nil, hinst]
    exact .restart _ _ _ (by simp [expectedServer, h.1, h.2])
  · refine .keep ?_
    have h' : ¬ (mtp.enable = true ∧ mtp.protocol = .coap) := by
      rw [← hen, ← hprot]; exact fun h'' => h ⟨h''.2, h''.1⟩
    unfold expectedServer
    rw [if_neg h', if_neg (by rwa [hen, hprot])]

theorem agentMtpEnableBody_serverCalls (e : Env) (v : Bool) (mtp : AgentMtp) :
    ServerCalls mtp.inst (expectedServer mtp) (expectedServer (agentMtpEnableBody e v mtp).mtp)
      (serverCalls (agentMtpEnableBody e v mtp).calls) := by
  unfold agentMtpEnableBody
  split_ifs with hv
  · exact .keep rfl
  dsimp only
  split <;> rename_i hp
  · simp only [serverCalls_reconnectIfSet]
    exact .keep (by simp [expectedServer, hp])
  · split_ifs with hen
    · simp only [coapStart, serverCalls_cons, Call.isServer, if_true, serverCalls_nil]
      have hoff : mtp.enable = false := by simpa [hen] using Ne.symm hv
      exact .start _ _ _ (by simp [expectedServer, hoff]) (fun _ => by simp [expectedServer, hen, hp])
        (.inr (by simp [expectedServer, hen, hp]))
    · exact .stop (by simp [expectedServer, hen])
  · exact .keep (by simp [expectedServer, hp])

theorem agentMtpProtocolBody_serverCalls (e : Env) {v : String} {mtp : AgentMtp}
    {r : SlotOutcome} (h : agentMtpProtocolBody e v mtp = .ok r) :
    ServerCalls mtp.inst (expectedServer mtp) (expectedServer r.mtp) (serverCalls r.calls) := by
  obtain ⟨p, hlookup, -⟩ := agentMtpProtocolBody_mtp h
  rw [agentMtpProtocolBody_eq e mtp hlookup, Except.ok.injEq] at h
  subst h
  by_cases hch : mtp.enable = true ∧ p ≠ mtp.protocol
  · rw [if_pos hch]
    simp only [serverCalls_append, serverCalls_reconnectIfSet, List.nil_append]
    by_cases hcoap : p = .coap
    · subst hcoap
      have hold : mtp.protocol ≠ .coap := Ne.symm hch.2
      simp only [hold, if_false, if_true, coapStart, serverCalls_nil, serverCalls_cons,
        Call.isServer, List.nil_append]
      exact .start _ _ _ (by simp [expectedServer, hold]) (fun _ => by simp [expectedServer, hch.1])
        (.inr (by simp [expectedServer, hch.1]))
    · rw [if_neg hcoap, serverCalls_nil, List.append_nil]
      by_cases hold : mtp.protocol = .coap
      · simp only [hold, if_true, serverCalls_cons, Call.isServer, serverCalls_nil]
        exact .stop (by simp [expectedServer, hcoap])
      · rw [if_neg hold, serverCalls_nil]
        exact .keep (by simp [expectedServer, hcoap, hold])
  · rw [if_neg hch]
    refine .keep ?_
    by_cases hen : mtp.enable = true
    · obtain rfl : p = mtp.protocol := by_contra fun hne => hch ⟨hen, hne⟩
      rfl
    · simp [expectedServer, hen]

/-- The server calls of each change handler's body on a slot of the instance it changes. -/
theorem ParamWrite.body_serverCalls {e : Env} {w : ParamWrite} {mtp : AgentMtp} {r : SlotOutcome}
    (h : w.body e mtp.inst mtp = .ok r) :
    ServerCalls mtp.inst (expectedServer mtp) (expectedServer r.mtp) (serverCalls r.calls) := by
  cases w <;> simp only [ParamWrite.body, Except.ok.injEq] at h
  case enable v => subst h; exact agentMtpEnableBody_serverCalls e v mtp
  case protocol v => exact agentMtpProtocolBody_serverCalls e h
  case stompReference v =>
    subst h
    rw [serverCalls_agentMtpStompReferenceBody, agentMtpStompReferenceBody_mtp]
    exact .keep rfl
  case stompDestination v =>
    rw [agentMtpStompDestinationBody_mtp h]
    unfold agentMtpStompDestinationBody at h
    dsimp only at h
    split at h
    · cases h
    · cases h
      split <;> exact .keep rfl
  case coapPort v =>
    subst h
    unfold agentMtpCoapPortBody
    split_ifs
    · exact .keep rfl
    · exact coapRestartBody_serverCalls e rfl rfl rfl
  case coapPath v =>
    subst h
    exact coapRestartBody_serverCalls e rfl rfl rfl

theorem processAgentMtpAdded_serverCalls (e : Env) (inst : Int) {t : AgentMtps} {k : Nat}
    {free : AgentMtp} (hfree : findUnusedAgentMtp t = some (k, free)) :
    ∃ b, (processAgentMtpAdded e t inst).agentMtps = t.set k b ∧
      (b.inst = inst ∨ (b.inst = invalid ∧ expectedServer b = none)) ∧
      ServerCalls inst none (expectedServer b) (serverCalls (processAgentMtpAdded e t inst).calls) := by
  cases hread : readAgentMtp e inst with
  | error err =>
      obtain ⟨m, hpop⟩ : ∃ m, populateAgentMtp e inst = (m, [], err.code) :=
        ⟨_, by simp only [populateAgentMtp, hread]; rfl⟩
      simp only [processAgentMtpAdded, hfree, hpop, ne_eq, err.code_ne_ok, not_false_eq_true,
        if_true]
      exact ⟨_, rfl, .inr ⟨rfl, rfl⟩, .keep rfl⟩
  | ok mtp =>
      have hinst := readAgentMtp_inst hread
      by_cases hcoap : mtp.protocol = .coap ∧ mtp.enable = true
      · have hpop : populateAgentMtp e inst =
            (mtp, [(coapStart e mtp).1], (coapStart e mtp).2) := by
          simp only [populateAgentMtp, hread, if_pos hcoap]
        have hup : expectedServer mtp = some (mtp.coapPort, mtp.coapPath) := by
          simp [expectedServer, hcoap.1, hcoap.2]
        by_cases herr : e.coapStartServer mtp.inst mtp.coapPort mtp.coapPath = uspErrOk
        · simp only [processAgentMtpAdded, hfree, hpop, coapStart, herr, ne_eq, not_true_eq_false,
            if_false, hcoap.1, reduceCtorEq, and_false, List.append_nil, serverCalls_cons,
            Call.isServer, if_true, serverCalls_nil]
          exact ⟨_, rfl, .inl hinst, hinst ▸ .start _ _ _ rfl (fun _ => hup) (.inr hup)⟩
        · simp only [processAgentMtpAdded, hfree, hpop, coapStart, herr, ne_eq,
            not_false_eq_true, if_true, destroyAgentMtp, Bool.false_eq_true, false_and, if_false,
            List.append_nil, serverCalls_cons, Call.isServer, serverCalls_nil]
          exact ⟨_, rfl, .inr ⟨rfl, rfl⟩, hinst ▸ .start _ _ _ rfl (fun h => absurd h herr) (.inl rfl)⟩
      · have hpop : populateAgentMtp e inst = (mtp, [], uspErrOk) := by
          simp only [populateAgentMtp, hread, if_neg hcoap]
        have hoff : expectedServer mtp = none := by
          simp only [expectedServer]; rw [if_neg fun h => hcoap ⟨h.2, h.1⟩]
        simp only [processAgentMtpAdded, hfree, hpop, ne_eq, not_true_eq_false, if_false,
          List.nil_append]
        refine ⟨_, rfl, .inl hinst, ?_⟩
        split_ifs <;> simp only [serverCalls_reconnectIfSet, serverCalls_nil] <;> exact .keep hoff

theorem processAgentMtpAdded_servers (e : Env) {t : AgentMtps} {inst : Int}
    (habs : ∀ x ∈ t.slots, x.inst ≠ inst) :
    ServerCalls inst (heldServer t inst) (heldServer (processAgentMtpAdded e t inst).agentMtps inst)
        (serverCalls (processAgentMtpAdded e t inst).calls) ∧
      ∀ j, 0 < j → j ≠ inst →
        heldServer (processAgentMtpAdded e t inst).agentMtps j = heldServer t j := by
  cases hfree : findUnusedAgentMtp t with
  | none =>
      rw [processAgentMtpAdded_of_full hfree]
      exact ⟨.keep rfl, fun _ _ _ => rfl⟩
  | some r =>
      obtain ⟨k, free⟩ := r
      obtain ⟨b, hb, hbinst, hc⟩ := processAgentMtpAdded_serverCalls e inst hfree
      obtain ⟨hkfree, hfreeinv, -⟩ := findSlot_eq_some hfree
      have hfreeinv : free.inst = invalid := by simpa using hfreeinv
      rw [hb]
      refine ⟨?_, fun j hj hji => heldServer_set hkfree ?_ ?_⟩
      · rw [heldServer_of_absent habs, heldServer_set_of_only (findSlot_lt_length hfree)
          (fun j x hx hxi => absurd hxi (habs x (List.getElem?_mem hx))) (hbinst.imp_right And.right)]
        exact hc
      · have hb' : b.inst ≠ j := by
          rcases hbinst with h' | ⟨h', -⟩ <;> rw [h'] <;> [exact Ne.symm hji; (simp only [invalid]; omega)]
        have hf' : free.inst ≠ j := by rw [hfreeinv]; simp only [invalid]; omega
        simp [hb', hf']
      · intro h'; rw [hfreeinv] at h'; simp only [invalid] at h'; omega

theorem notifyAgentMtpDeleted_serverCalls {t : AgentMtps} {inst1 : Int}
    (hd : InstancesDistinct t) (hpos : 0 < inst1) :
    ServerCalls inst1 (heldServer t inst1) (heldServer (notifyAgentMtpDeleted t inst1).agentMtps inst1)
        (serverCalls (notifyAgentMtpDeleted t inst1).calls) ∧
      ∀ j, 0 < j → j ≠ inst1 →
        heldServer (notifyAgentMtpDeleted t inst1).agentMtps j = heldServer t j := by
  unfold notifyAgentMtpDeleted
  split
  · exact ⟨.keep rfl, fun _ _ _ => rfl⟩
  · rename_i k mtp hfind
    obtain ⟨hk, hinst, -⟩ := findSlot_eq_some hfind
    have hinst : mtp.inst = inst1 := by simpa using hinst
    split_ifs with hen
    · exact ⟨.keep rfl, fun _ _ _ => rfl⟩
    · have hafter : heldServer (t.set k (destroyAgentMtp mtp)) inst1 = none :=
        heldServer_set_of_only (findSlot_lt_length hfind)
          (fun j x hj hx => hd.index_eq hk (findAgentMtpByInstance_occupied hfind hpos) hj
            (hx.trans hinst.symm)) (.inr rfl)
      refine ⟨?_, fun j hj hji => heldServer_set hk ?_ fun h => absurd (hinst.symm.trans h) hji.symm⟩
      · rw [heldServer_of_find hfind, hafter]
        dsimp only
        split <;> rename_i hp
        · simp only [serverCalls_reconnectIfSet]
          exact .keep (by simp [expectedServer, hp])
        · simp only [serverCalls_cons, Call.isServer, if_true, serverCalls_nil, hinst]
          exact .stop rfl
        · exact .keep (by simp [expectedServer, hp])
      · have : invalid ≠ j := by simp only [invalid]; omega
        simp [destroyAgentMtp, this, hinst, Ne.symm hji]

theorem deviceMtpNotifyStompConnDeleted_servers {e : Env} {t : AgentMtps} {c : Int} {o : Outcome}
    (h : deviceMtpNotifyStompConnDeleted e t c = .ok o) :
    serverCalls o.calls = [] ∧ ∀ j, heldServer o.agentMtps j = heldServer t j := by
  refine deviceMtpNotifyStompConnDeleted_preserves
    (fun o => serverCalls o.calls = [] ∧ ∀ j, heldServer o.agentMtps j = heldServer t j)
    (fun acc acc' hacc hs => ?_) ⟨rfl, fun _ => rfl⟩ h
  cases hs with
  | skip => exact hacc
  | clear => simpa [Call.isServer] using hacc
  | notify inst o ho =>
      obtain ⟨k, mtp, r, hfind, hbody, rfl⟩ := withAgentMtp_eq_ok ho
      cases hbody
      refine ⟨by simp [hacc.1, Call.isServer, serverCalls_agentMtpStompReferenceBody], fun j => ?_⟩
      rw [← hacc.2 j]
      exact heldServer_set (findSlot_eq_some hfind).1 (by rw [agentMtpStompReferenceBody_mtp])
        fun _ => by rw [agentMtpStompReferenceBody_mtp]; rfl

/-- What an operation of a run without deletes of disabled instances does to the servers:
its server calls are those of one positive instance, taking the server the table asks for
it from before to after, and the server the table asks for any other positive instance
stays as it was. -/
theorem Op.run_serverCalls {e : Env} {s s' : Sys} {op : Op} {calls : List Call}
    (hs : ReachableKeepingSlots s) (hallow : op.Allowed s) (h : op.run e s = .ok (s', calls)) :
    ∃ i, 0 < i ∧ ServerCalls i (heldServer s.agentMtps i) (heldServer s'.agentMtps i) (serverCalls calls) ∧
      ∀ j, 0 < j → j ≠ i → heldServer s'.agentMtps j = heldServer s.agentMtps j := by
  have hlive := hs.reachable.live_pos_nodup.1
  cases op with
  | add inst =>
      rcases Op.run_add h with ⟨rfl, rfl⟩ | ⟨-, htab, rfl, -⟩
      · exact ⟨inst, hallow.1, .keep rfl, fun _ _ _ => rfl⟩
      have habs : ∀ x ∈ s.agentMtps.slots, x.inst ≠ inst := fun x hx hxi =>
        hallow.2 (hs.perm.subset (mem_heldInstances.2
          ⟨x, hx, AgentMtp.occupied_of_pos (hxi ▸ hallow.1), hxi⟩))
      rw [htab]
      exact ⟨inst, hallow.1, processAgentMtpAdded_servers e habs⟩
  | delete inst =>
      simp only [Op.run, Except.ok.injEq, Prod.mk.injEq] at h
      obtain ⟨rfl, rfl⟩ := h
      exact ⟨inst, hlive inst hallow, notifyAgentMtpDeleted_serverCalls hs.instancesDistinct (hlive inst hallow)⟩
  | write inst w =>
      obtain ⟨o, ho, rfl, rfl⟩ := Op.run_write h
      obtain ⟨k, mtp, r, hfind, hbody, rfl⟩ := withAgentMtp_eq_ok ho
      obtain ⟨hk, hinst, -⟩ := findSlot_eq_some hfind
      have hinst : mtp.inst = inst := by simpa using hinst
      have hkeep := (ParamWrite.keepsSlot hbody).inst_eq
      subst hinst
      refine ⟨mtp.inst, hlive _ hallow, ?_, fun j _ hji =>
        heldServer_set hk (by rw [hkeep]) fun h' => absurd h'.symm hji⟩
      rw [heldServer_of_find hfind, heldServer_set_of_find hfind hkeep]
      exact ParamWrite.body_serverCalls hbody
  | stompConnDeleted c =>
      obtain ⟨o, ho, rfl, rfl⟩ := Op.run_stompConnDeleted h
      obtain ⟨hcalls, hheld⟩ := deviceMtpNotifyStompConnDeleted_servers ho
      exact ⟨1, by decide, by rw [hcalls, hheld]; exact .keep rfl, fun j _ _ => hheld j⟩

/-! ### Starts

Whatever the state, a successful start is for the slot the operation leaves. -/

theorem notifyAgentMtpDeleted_no_coapStart (t : AgentMtps) (inst1 i : Int) (port : UInt32)
    (path : Option String) (err : Int) :
    .coapStartServer i port path err ∉ (notifyAgentMtpDeleted t inst1).calls := by
  unfold notifyAgentMtpDeleted
  split
  · simp
  · dsimp only; split_ifs <;> (try split) <;> simp

/-- Every successful `COAP_StartServer(i, port, path)` an operation makes is for a slot of
the table it leaves that holds `i`, enabled and CoAP, on that port and path. -/
theorem Op.run_coapStartServer {e : Env} {s s' : Sys} {op : Op} {calls : List Call} {i : Int}
    {port : UInt32} {path : Option String} (h : op.run e s = .ok (s', calls))
    (hm : .coapStartServer i port path uspErrOk ∈ calls) :
    ∃ mtp ∈ s'.agentMtps.slots, mtp.inst = i ∧ mtp.enable = true ∧ mtp.protocol = .coap ∧
      mtp.coapPort = port ∧ mtp.coapPath = path := by
  have hserver : .coapStartServer i port path uspErrOk ∈ serverCalls calls :=
    List.mem_filter.2 ⟨hm, rfl⟩
  cases op with
  | add inst =>
      rcases Op.run_add h with ⟨-, rfl⟩ | ⟨-, htab, rfl, -⟩
      · cases hm
      cases hfree : findUnusedAgentMtp s.agentMtps with
      | none => rw [processAgentMtpAdded_of_full hfree] at hm; cases hm
      | some r =>
          obtain ⟨k, free⟩ := r
          obtain ⟨b, hb, hbinst, hc⟩ := processAgentMtpAdded_serverCalls e inst hfree
          obtain ⟨rfl, hafter⟩ := hc.start_mem hserver
          obtain ⟨hen, hcoap, hx⟩ := expectedServer_eq_some.1 hafter
          have hbi : b.inst = i := hbinst.resolve_right fun ⟨_, h⟩ => by simp [h] at hafter
          rw [htab, hb]
          exact ⟨b, List.mem_set _ _ (findSlot_lt_length hfree) _, hbi, hen, hcoap, Prod.mk.inj hx⟩
  | delete inst =>
      simp only [Op.run, Except.ok.injEq, Prod.mk.injEq] at h
      obtain ⟨-, rfl⟩ := h
      exact absurd hm (notifyAgentMtpDeleted_no_coapStart _ _ _ _ _ _)
  | write inst w =>
      obtain ⟨o, ho, rfl, rfl⟩ := Op.run_write h
      obtain ⟨k, mtp, r, hfind, hbody, rfl⟩ := withAgentMtp_eq_ok ho
      have hinst : mtp.inst = inst := by simpa using (findSlot_eq_some hfind).2.1
      subst hinst
      obtain ⟨rfl, hafter⟩ := (ParamWrite.body_serverCalls hbody).start_mem hserver
      obtain ⟨hen, hcoap, hx⟩ := expectedServer_eq_some.1 hafter
      exact ⟨r.mtp, List.mem_set _ _ (findSlot_lt_length hfind) _,
        (ParamWrite.keepsSlot hbody).inst_eq, hen, hcoap, Prod.mk.inj hx⟩
  | stompConnDeleted c =>
      obtain ⟨o, ho, rfl, rfl⟩ := Op.run_stompConnDeleted h
      rw [(deviceMtpNotifyStompConnDeleted_servers ho).1] at hserver
      cases hserver

theorem Op.run_coapStartServer_coapRow :
    ∃ s' calls, (Op.add 1).run coapRow ⟨agentMtpsInit, []⟩ = .ok (s', calls) ∧
      .coapStartServer 1 5683 (some "/usp") uspErrOk ∈ calls ∧
      ∃ mtp ∈ s'.agentMtps.slots, mtp.inst = 1 ∧ mtp.enable = true ∧ mtp.protocol = .coap ∧
        mtp.coapPort = 5683 ∧ mtp.coapPath = some "/usp" :=
  ⟨_, _, rfl, by decide, @Op.run_coapStartServer coapRow ⟨agentMtpsInit, []⟩ _ (.add 1) _ 1 5683
    (some "/usp") rfl (by decide)⟩

/-! ### Servers over whole runs -/

/-- The runs of `ReachableKeepingSlots`, from `DEVICE_MTP_Init` or from a successful
`DEVICE_MTP_Start` right after it, with the log of the calls they made. -/
inductive LoggedKeepingSlots : Sys → List Call → Prop
  | init : LoggedKeepingSlots ⟨agentMtpsInit, []⟩ []
  | start (e : Env) (v : List Int) : e.getInstances = .ok v → v.Nodup → (∀ i ∈ v, 0 < i) →
      (deviceMtpStart e agentMtpsInit).err = uspErrOk →
      LoggedKeepingSlots ⟨(deviceMtpStart e agentMtpsInit).agentMtps,
        (v.filter (populates e)).take maxAgentMtps⟩ (deviceMtpStart e agentMtpsInit).calls
  | step {s s' : Sys} {log calls : List Call} (e : Env) (op : Op) :
      LoggedKeepingSlots s log → op.Allowed s → ¬ op.DeletesDisabled s →
      op.run e s = .ok (s', calls) → LoggedKeepingSlots s' (log ++ calls)

theorem LoggedKeepingSlots.keepingSlots {s : Sys} {log : List Call}
    (hs : LoggedKeepingSlots s log) : ReachableKeepingSlots s := by
  induction hs with
  | init => exact .init
  | start e v hv hnd hpos hok => exact .start e v hv hnd hpos hok
  | step e op _ hallow hkeep hrun ih => exact .step e op ih hallow hkeep hrun

/-- The servers a log of calls leaves running, against a table: a running server is the one
the table asks for its instance; when every start has succeeded, each positive instance
runs the server the table asks for it; and no call started a running server. -/
structure ServersMatch (t : AgentMtps) (log : List Call) : Prop where
  fit : ∀ i, runningServer log i = none ∨ (0 < i ∧ runningServer log i = heldServer t i)
  up : (∀ i port path err, .coapStartServer i port path err ∈ log → err = uspErrOk) →
    ∀ i, 0 < i → runningServer log i = heldServer t i
  startsStopped : NoStartWhileRunning log

theorem ServersMatch.init : ServersMatch agentMtpsInit [] where
  fit _ := .inl rfl
  up _ i hi := (heldServer_of_absent fun x hx => by
    rw [show x = _ from List.eq_of_mem_replicate hx]; simp only [invalid]; omega).symm
  startsStopped _ _ _ _ _ _ h := by simp at h

/-- One step whose server calls are those of instance `i` keeps the servers in step with
the table. -/
theorem ServersMatch.step {t t' : AgentMtps} {log calls : List Call} {i : Int}
    (hm : ServersMatch t log) (hi : 0 < i)
    (hc : ServerCalls i (heldServer t i) (heldServer t' i) (serverCalls calls))
    (hother : ∀ j, 0 < j → j ≠ i → heldServer t' j = heldServer t j) :
    ServersMatch t' (log ++ calls) := by
  have hrun : ∀ j, runningServer (log ++ calls) j =
      (serverCalls calls).foldl (serverStep j) (runningServer log j) := fun j => by
    rw [runningServer_append, foldl_serverStep_serverCalls]
  have hfrom : runningServer log i = none ∨ runningServer log i = heldServer t i :=
    (hm.fit i).imp_right And.right
  refine ⟨fun j => ?_, fun hok j hj => ?_, hm.startsStopped.append fun pre j port path err post hcalls => ?_⟩
  · rw [hrun]
    by_cases hji : j = i
    · subst hji; exact (hc.fit hfrom).imp_right fun h => ⟨hi, h⟩
    · rw [hc.foldl_other hji]
      exact (hm.fit j).imp_right fun ⟨hj, h⟩ => ⟨hj, h.trans (hother j hj hji).symm⟩
  · have hlog := hm.up fun i port path err hm' => hok i port path err (List.mem_append_left _ hm')
    rw [hrun]
    by_cases hji : j = i
    · subst hji
      rw [hlog j hj]
      exact hc.up fun port path err hm' =>
        hok j port path err (List.mem_append_right _ (List.mem_of_mem_filter hm'))
    · rw [hc.foldl_other hji, hlog j hj, hother j hj hji]
  · have hsplit : serverCalls calls =
        serverCalls pre ++ .coapStartServer j port path err :: serverCalls post := by
      rw [hcalls]; simp [Call.isServer]
    obtain ⟨rfl, hnone⟩ := hc.startsStopped hfrom hsplit
    rw [← foldl_serverStep_serverCalls, hnone]; rfl

theorem inst_of_mem_processAgentMtpAdded {e : Env} {t : AgentMtps} {inst : Int} {y : AgentMtp}
    (hy : y ∈ (processAgentMtpAdded e t inst).agentMtps.slots) :
    y ∈ t.slots ∨ y.inst = inst ∨ y.inst = invalid := by
  cases hfree : findUnusedAgentMtp t with
  | none => rw [processAgentMtpAdded_of_full hfree] at hy; exact .inl hy
  | some r =>
      rw [(processAgentMtpAdded_of_free e inst hfree).2, AgentMtps.slots_set] at hy
      rcases List.mem_or_eq_of_mem_set hy with hy | rfl
      · exact .inl hy
      cases hp : populatedAgentMtp e inst with
      | none => exact .inr (.inr rfl)
      | some mtp => exact .inr (.inl (populatedAgentMtp_inst hp))

theorem ServersMatch.startLoop {e : Env} (v : List Int) :
    ∀ {t : AgentMtps} {log : List Call}, ServersMatch t log → v.Nodup → (∀ i ∈ v, 0 < i) →
      (∀ i ∈ v, ∀ x ∈ t.slots, x.inst ≠ i) →
      ServersMatch (deviceMtpStartLoop e t v).agentMtps (log ++ (deviceMtpStartLoop e t v).calls) := by
  induction v with
  | nil => intro t log hm _ _ _; simpa [deviceMtpStartLoop] using hm
  | cons x rest ih =>
      intro t log hm hnd hpos habs
      rw [List.nodup_cons] at hnd
      have hx := hpos x (List.mem_cons_self _ _)
      have hrest : ∀ i ∈ rest, 0 < i := fun i hi => hpos i (List.mem_cons_of_mem _ hi)
      obtain ⟨hc, hother⟩ := processAgentMtpAdded_servers e (habs x (List.mem_cons_self _ _))
      have hm' := hm.step hx hc hother
      have habs' : ∀ i ∈ rest, ∀ y ∈ (processAgentMtpAdded e t x).agentMtps.slots, y.inst ≠ i := by
        intro i hi y hy hyi
        rcases inst_of_mem_processAgentMtpAdded hy with hy | hyx | hyinv
        · exact habs i (List.mem_cons_of_mem _ hi) y hy hyi
        · exact hnd.1 (hyx ▸ hyi ▸ hi)
        · have := hrest i hi
          rw [← hyi, hyinv, invalid] at this
          omega
      have hdel : ∀ err, ServersMatch (processAgentMtpAdded e t x).agentMtps
          (log ++ (processAgentMtpAdded e t x).calls ++ [.deleteInstance x err]) :=
        fun err => hm'.step hx (.keep rfl) fun _ _ _ => rfl
      simp only [deviceMtpStartLoop]
      split_ifs with herr hfail
      · simpa only [List.append_assoc] using hdel (e.deleteInstance x)
      · have hgone : ∀ y ∈ (processAgentMtpAdded e t x).agentMtps.slots, y.inst ≠ x := by
          intro y hy hyx
          rcases processAgentMtpAdded_of_failed herr with h | ⟨k, free, -, h⟩
          · exact habs x (List.mem_cons_self _ _) y (h ▸ hy) hyx
          · rw [h, AgentMtps.slots_set] at hy
            rcases List.mem_or_eq_of_mem_set hy with hy | rfl
            · exact habs x (List.mem_cons_self _ _) y hy hyx
            · rw [destroyAgentMtp_inst, invalid] at hyx
              omega
        rw [notifyAgentMtpDeleted_of_absent hgone]
        simpa only [List.append_assoc, List.cons_append, List.nil_append, List.singleton_append]
          using ih (hdel (e.deleteInstance x)) hnd.2 hrest habs'
      · simpa only [List.append_assoc] using ih hm' hnd.2 hrest habs'

/-- `DEVICE_MTP_Start` right after `DEVICE_MTP_Init`, over distinct positive instances,
leaves the servers in step with the table it builds. -/
theorem ServersMatch.ofStart {e : Env} {v : List Int} (hv : e.getInstances = .ok v)
    (hnd : v.Nodup) (hpos : ∀ i ∈ v, 0 < i) :
    ServersMatch (deviceMtpStart e agentMtpsInit).agentMtps (deviceMtpStart e agentMtpsInit).calls := by
  have := @ServersMatch.startLoop e v _ _ .init hnd hpos fun i hi x hx hxi =>
    agentMtpsInit_free x hx (AgentMtp.occupied_of_pos (hxi ▸ hpos i hi))
  simpa only [deviceMtpStart, hv, List.nil_append] using this

theorem LoggedKeepingSlots.serversMatch {s : Sys} {log : List Call}
    (hs : LoggedKeepingSlots s log) : ServersMatch s.agentMtps log := by
  induction hs with
  | init => exact ServersMatch.init
  | start e v hv hnd hpos _ => exact ServersMatch.ofStart hv hnd hpos
  | step e op hprev hallow _ hrun ih =>
      obtain ⟨i, hi, hc, hother⟩ := Op.run_serverCalls hprev.keepingSlots hallow hrun
      exact ih.step hi hc hother

/-- On the runs from `DEVICE_MTP_Init` or a successful `DEVICE_MTP_Start` that never
delete a disabled instance, the CoAP servers match the table. A running server is that of an occupied, enabled CoAP slot of its
instance, on the slot's port and path; no `COAP_StartServer` is made for an instance whose
server runs; and when every start has succeeded, every occupied enabled CoAP slot runs its
server, started last on its current port and path. -/
theorem LoggedKeepingSlots.coapServers {s : Sys} {log : List Call} (hs : LoggedKeepingSlots s log) :
    (∀ i, serverRunning log i = true → ∃ mtp ∈ s.agentMtps.slots, mtp.Occupied ∧ mtp.inst = i ∧
      mtp.enable = true ∧ mtp.protocol = .coap ∧
      runningServer log i = some (mtp.coapPort, mtp.coapPath)) ∧
    NoStartWhileRunning log ∧
    ((∀ i port path err, .coapStartServer i port path err ∈ log → err = uspErrOk) →
      ∀ mtp ∈ s.agentMtps.slots, mtp.Occupied → mtp.enable = true → mtp.protocol = .coap →
        runningServer log mtp.inst = some (mtp.coapPort, mtp.coapPath)) := by
  have hm := hs.serversMatch
  have hks := hs.keepingSlots
  refine ⟨fun i hrun => ?_, hm.startsStopped, fun hok mtp hmem hocc hen hcoap => ?_⟩
  · obtain ⟨x, hx⟩ := Option.isSome_iff_exists.1 hrun
    obtain ⟨hi, hheld⟩ := (hm.fit i).resolve_left (by rw [hx]; exact Option.some_ne_none x)
    cases hfind : findAgentMtpByInstance s.agentMtps i with
    | none => simp [heldServer, hfind, hx] at hheld
    | some r =>
        obtain ⟨k, mtp⟩ := r
        rw [heldServer_of_find hfind, hx] at hheld
        obtain ⟨hen, hcoap, rfl⟩ := expectedServer_eq_some.1 hheld.symm
        exact ⟨mtp, mem_of_findSlot_eq_some hfind, findAgentMtpByInstance_occupied hfind hi,
          by simpa using (findSlot_eq_some hfind).2.1, hen, hcoap, hx⟩
  · have hpos : 0 < mtp.inst := hks.reachable.live_pos_nodup.1 _
      (hks.perm.subset (mem_heldInstances.2 ⟨mtp, hmem, hocc, rfl⟩))
    rw [hm.up hok _ hpos, heldServer_of_mem hks.instancesDistinct hmem hocc]
    simp [expectedServer, hen, hcoap]

theorem LoggedKeepingSlots.coapServers_coapRow :
    ∃ s log, (Op.add 1).run coapRow ⟨agentMtpsInit, []⟩ = .ok (s, log) ∧
      (∀ i, serverRunning ([] ++ log) i = true → ∃ mtp ∈ s.agentMtps.slots, mtp.Occupied ∧
        mtp.inst = i ∧ mtp.enable = true ∧ mtp.protocol = .coap ∧
        runningServer ([] ++ log) i = some (mtp.coapPort, mtp.coapPath)) ∧
      NoStartWhileRunning ([] ++ log) ∧
      ((∀ i port path err, .coapStartServer i port path err ∈ [] ++ log → err = uspErrOk) →
        ∀ mtp ∈ s.agentMtps.slots, mtp.Occupied → mtp.enable = true → mtp.protocol = .coap →
          runningServer ([] ++ log) mtp.inst = some (mtp.coapPort, mtp.coapPath)) :=
  ⟨_, _, rfl, LoggedKeepingSlots.coapServers (.step coapRow (.add 1) .init (by decide) (fun h => h) rfl)⟩

def coapRowDisabled : Env := storeEnv false .coap "" "" 5683 "/usp"

/-- A server outlives the delete of its instance and is started again while it runs. Add
instance 1 disabled and delete it, which leaves its slot; add it again enabled on CoAP,
which starts its server in a second slot; delete it, which finds the first slot and
returns early. No instance is live but the server of instance 1 runs, and adding 1 again
calls `COAP_StartServer(1, ...)` while it runs. -/
theorem notifyAgentMtpDeleted_leaves_coap_server :
    ∃ r, runOps ⟨agentMtpsInit, []⟩ [(coapRowDisabled, .add 1), (coapRowDisabled, .delete 1),
        (coapRow, .add 1), (coapRow, .delete 1)] = some r ∧ Reachable r.1 ∧ r.1.live = [] ∧
      serverRunning r.2 1 = true ∧ (Op.add 1).Allowed r.1 ∧
      ∃ s' calls, (Op.add 1).run coapRow r.1 = .ok (s', calls) ∧
        calls = [.coapStartServer 1 5683 (some "/usp") uspErrOk] ∧
        ¬ NoStartWhileRunning (r.2 ++ calls) :=
  ⟨_, rfl, @Reachable.runOps _ .init [(coapRowDisabled, .add 1), (coapRowDisabled, .delete 1),
      (coapRow, .add 1), (coapRow, .delete 1)] _ rfl, rfl, rfl, by decide, _, _, rfl, rfl,
    fun h => absurd (h _ 1 5683 (some "/usp") uspErrOk [] rfl) (by decide)⟩

end LocalAgentMtp
