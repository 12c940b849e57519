import Mathlib.Data.List.Basic

/-!
The slot table of `device_mtp.c`: the array `agent_mtps` of `MAX_AGENT_MTPS` entries of
type `agent_mtp_t`, and the three primitives every entry point goes through, the scan for
a free slot, the scan for a slot by instance number, and the release of a slot.

The model is of the build with `ENABLE_COAP` defined, so a slot carries both transport
groups. A `char *` field is an `Option String`, `none` standing for `NULL`. The array is a
list of slots, in index order, whose length is fixed by the structure that holds it; a
pointer into the array is the index of the slot together with its contents.
-/

namespace LocalAgentMtp

/-- Modelled from the spec: `INVALID` of `common_defs.h`, absent here, the reserved
sentinel that marks a slot free and a STOMP reference unset. The agent's value is -1,
which no instance number of the data model takes. -/
def invalid : Int := -1

/-- Modelled from the spec: `USP_ERR_OK` of `usp_err_codes.h`, absent here. -/
def uspErrOk : Int := 0

/-- Modelled from the spec: `USP_ERR_INTERNAL_ERROR`, the fatal registration failure. -/
def uspErrInternalError : Int := 7003

/-- Modelled from the spec: `USP_ERR_RESOURCES_EXCEEDED`, an add beyond the capacity. -/
def uspErrResourcesExceeded : Int := 7005

/-- Modelled from the spec: `USP_ERR_INVALID_VALUE`, a rejected parameter value. -/
def uspErrInvalidValue : Int := 7012

/-- `MAX_CONTROLLERS` of `vendor_defs.h`. -/
def maxControllers : Nat := 5

/-- `MAX_AGENT_MTPS` of `vendor_defs.h`, the number of slots of `agent_mtps`. -/
def maxAgentMtps : Nat := maxControllers

/-- `mtp_protocol_t` of the `ENABLE_COAP` build: `kMtpProtocol_None`, `kMtpProtocol_STOMP`
and `kMtpProtocol_CoAP`. -/
inductive MtpProtocol where
  | none
  | stomp
  | coap
  deriving DecidableEq, Repr

/-- `mtp_protocols`, the table between protocol names and `mtp_protocol_t`. -/
def mtpProtocols : List (MtpProtocol × String) :=
  [(.none, ""), (.stomp, "STOMP"), (.coap, "CoAP")]

/-- `agent_mtp_t`, one entry of the `Device.LocalAgent.MTP.{i}` table. The C field
`instance` is `inst` here, `instance` being a keyword of Lean. -/
structure AgentMtp where
  inst : Int
  enable : Bool
  protocol : MtpProtocol
  stompConnectionInstance : Int
  stompAgentQueue : Option String
  coapPort : UInt32
  coapPath : Option String
  deriving DecidableEq, Repr

/-- A slot is occupied when its instance number is not the sentinel. -/
def AgentMtp.Occupied (mtp : AgentMtp) : Prop := mtp.inst ≠ invalid

instance (mtp : AgentMtp) : Decidable mtp.Occupied :=
  inferInstanceAs (Decidable (mtp.inst ≠ invalid))

theorem AgentMtp.occupied_of_pos {mtp : AgentMtp} (h : 0 < mtp.inst) : mtp.Occupied := by
  unfold AgentMtp.Occupied invalid; omega

/-- The array `agent_mtps`; its length is `MAX_AGENT_MTPS` by construction. -/
structure AgentMtps where
  slots : List AgentMtp
  length_slots : slots.length = maxAgentMtps

/-- Writing `*mtp` back through a pointer to slot `k`. -/
def AgentMtps.set (t : AgentMtps) (k : Nat) (mtp : AgentMtp) : AgentMtps :=
  ⟨t.slots.set k mtp, by rw [List.length_set, t.length_slots]⟩

@[simp] theorem AgentMtps.slots_set (t : AgentMtps) (k : Nat) (mtp : AgentMtp) :
    (t.set k mtp).slots = t.slots.set k mtp := rfl

theorem AgentMtps.ext_slots {t u : AgentMtps} (h : t.slots = u.slots) : t = u := by
  cases t; cases u; cases h; rfl

theorem set_eq_self_of_getElem? {α : Type} {l : List α} {k : Nat} {a : α} (h : l[k]? = some a) :
    l.set k a = l := by
  refine List.ext_getElem? fun j => ?_
  rw [List.getElem?_set]
  split
  · subst_vars; simp [(List.getElem?_eq_some_iff.1 h).1, h]
  · rfl

theorem AgentMtps.map_set_of_eq {β : Type} (f : AgentMtp → β) {t : AgentMtps} {k : Nat}
    {mtp mtp' : AgentMtp} (hk : t.slots[k]? = some mtp) (h : f mtp' = f mtp) :
    (t.set k mtp').slots.map f = t.slots.map f := by
  rw [AgentMtps.slots_set, List.map_set, h]
  exact set_eq_self_of_getElem? (by simp [hk])

/-! ### The scans

`FindUnusedAgentMtp` and `FindAgentMtpByInstance` are the same loop over the array with
a different test, and both return a pointer to the first slot that passes it. -/

/-- The first slot, from index 0 up, that `p` accepts, as its index and contents. -/
def findSlot (p : AgentMtp → Bool) : List AgentMtp → Option (Nat × AgentMtp)
  | [] => none
  | mtp :: rest =>
      if p mtp then some (0, mtp) else (findSlot p rest).map fun r => (r.1 + 1, r.2)

/-- `FindUnusedAgentMtp`. -/
def findUnusedAgentMtp (t : AgentMtps) : Option (Nat × AgentMtp) :=
  findSlot (fun mtp => mtp.inst == invalid) t.slots

/-- `FindAgentMtpByInstance`. -/
def findAgentMtpByInstance (t : AgentMtps) (inst : Int) : Option (Nat × AgentMtp) :=
  findSlot (fun mtp => mtp.inst == inst) t.slots

theorem findSlot_eq_some {p : AgentMtp → Bool} {l : List AgentMtp} {k : Nat}
    {mtp : AgentMtp} (h : findSlot p l = some (k, mtp)) :
    l[k]? = some mtp ∧ p mtp = true ∧ ∀ j < k, ∀ x, l[j]? = some x → p x = false := by
  induction l generalizing k with
  | nil => cases h
  | cons y rest ih =>
      cases hy : p y
      · simp only [findSlot, hy, Bool.false_eq_true, if_false, Option.map_eq_some'] at h
        obtain ⟨⟨k', mtp'⟩, hrest, hk⟩ := h
        simp only [Prod.mk.injEq] at hk
        obtain ⟨rfl, rfl⟩ := hk
        obtain ⟨hget, hp, hbefore⟩ := ih hrest
        refine ⟨by simpa using hget, hp, fun j hj x hx => ?_⟩
        cases j with
        | zero => simp only [List.getElem?_cons_zero, Option.some.injEq] at hx; rwa [← hx]
        | succ j => exact hbefore j (by omega) x (by simpa using hx)
      · simp only [findSlot, hy, if_true, Option.some.injEq, Prod.mk.injEq] at h
        obtain ⟨rfl, rfl⟩ := h
        exact ⟨List.getElem?_cons_zero, hy, fun j hj => absurd hj (Nat.not_lt_zero j)⟩

theorem findSlot_eq_some_of {p : AgentMtp → Bool} {l : List AgentMtp} {k : Nat} {mtp : AgentMtp}
    (hk : l[k]? = some mtp) (hp : p mtp = true)
    (hbefore : ∀ j < k, ∀ x, l[j]? = some x → p x = false) : findSlot p l = some (k, mtp) := by
  induction l generalizing k with
  | nil => cases hk
  | cons y rest ih =>
      cases k with
      | zero =>
          obtain rfl : y = mtp := by simpa using hk
          simp [findSlot, hp]
      | succ k =>
          have hy : p y = false := hbefore 0 (Nat.succ_pos k) y (by simp)
          have := ih (by simpa using hk) fun j hj x hx =>
            hbefore (j + 1) (by omega) x (by simpa using hx)
          simp [findSlot, hy, this]

theorem findSlot_eq_none {p : AgentMtp → Bool} {l : List AgentMtp} :
    findSlot p l = none ↔ ∀ mtp ∈ l, p mtp = false := by
  induction l with
  | nil => simp [findSlot]
  | cons y rest ih =>
      by_cases hy : p y <;> simp [findSlot, hy, ih]

theorem findSlot_lt_length {p : AgentMtp → Bool} {l : List AgentMtp} {k : Nat}
    {mtp : AgentMtp} (h : findSlot p l = some (k, mtp)) : k < l.length :=
  (List.getElem?_eq_some_iff.1 (findSlot_eq_some h).1).1

theorem mem_of_findSlot_eq_some {p : AgentMtp → Bool} {l : List AgentMtp} {k : Nat}
    {mtp : AgentMtp} (h : findSlot p l = some (k, mtp)) : mtp ∈ l :=
  List.getElem?_mem (findSlot_eq_some h).1

theorem findAgentMtpByInstance_occupied {t : AgentMtps} {inst : Int} {k : Nat} {mtp : AgentMtp}
    (h : findAgentMtpByInstance t inst = some (k, mtp)) (hpos : 0 < inst) : mtp.Occupied :=
  AgentMtp.occupied_of_pos (beq_iff_eq.1 (findSlot_eq_some h).2.1 ▸ hpos)

theorem findSlot_append_of_false {p : AgentMtp → Bool} {l₁ : List AgentMtp}
    (h : ∀ mtp ∈ l₁, p mtp = false) (l₂ : List AgentMtp) :
    findSlot p (l₁ ++ l₂) = (findSlot p l₂).map fun r => (r.1 + l₁.length, r.2) := by
  induction l₁ with
  | nil => rw [List.nil_append, List.length_nil]; cases findSlot p l₂ <;> rfl
  | cons y rest ih =>
      rw [List.cons_append, findSlot, if_neg (by simp [h y (List.mem_cons_self _ _)]),
        ih fun m hm => h m (List.mem_cons_of_mem _ hm), Option.map_map]
      congr 1

theorem findSlot_set {p : AgentMtp → Bool} {l : List AgentMtp} {k : Nat} {a b : AgentMtp}
    (hk : l[k]? = some a) (hp : p b = p a) :
    findSlot p (l.set k b) = (findSlot p l).map fun r => if r.1 = k then (k, b) else r := by
  induction l generalizing k with
  | nil => cases hk
  | cons y rest ih =>
      cases k with
      | zero =>
          obtain rfl : y = a := by simpa using hk
          by_cases hy : p y
          · simp [findSlot, hy, hp]
          · simp [findSlot, hy, hp, Option.map_map, Function.comp_def]
      | succ k =>
          by_cases hy : p y
          · simp [findSlot, hy]
          · simp only [List.set_cons_succ, findSlot, hy, Bool.false_eq_true, if_false,
              ih (by simpa using hk), Option.map_map]
            congr 1; funext r; by_cases hr : r.1 = k <;> simp [hr]

/-! ### Releasing and initialising slots -/

/-- `DestroyAgentMtp`: every field back to its free value, the strings freed. -/
def destroyAgentMtp (mtp : AgentMtp) : AgentMtp :=
  { mtp with inst := invalid, protocol := .none, enable := false,
             stompConnectionInstance := invalid, stompAgentQueue := none,
             coapPath := none, coapPort := 0 }

/-- The value `memset(agent_mtps, 0, ...)` leaves in a slot before `DEVICE_MTP_Init`
marks it unused. -/
def zeroAgentMtp : AgentMtp :=
  { inst := 0, enable := false, protocol := .none, stompConnectionInstance := 0,
    stompAgentQueue := none, coapPort := 0, coapPath := none }

/-- The table `DEVICE_MTP_Init` leaves: every slot zeroed and marked unused. -/
def agentMtpsInit : AgentMtps :=
  ⟨List.replicate maxAgentMtps { zeroAgentMtp with inst := invalid }, List.length_replicate _ _⟩

/-- `DEVICE_MTP_Init`. `registrations` are the return codes of the `USP_REGISTER_*` calls,
whose bitwise or the function tests against `USP_ERR_OK`. -/
def deviceMtpInit (registrations : List Int) : AgentMtps × Int :=
  (agentMtpsInit,
    if registrations.all (· == uspErrOk) then uspErrOk else uspErrInternalError)

/-- `DEVICE_MTP_Stop`: every occupied slot released. -/
def deviceMtpStop (t : AgentMtps) : AgentMtps :=
  ⟨t.slots.map fun mtp => if mtp.inst ≠ invalid then destroyAgentMtp mtp else mtp,
    by rw [List.length_map, t.length_slots]⟩

@[simp] theorem destroyAgentMtp_inst (mtp : AgentMtp) : (destroyAgentMtp mtp).inst = invalid :=
  rfl

@[simp] theorem destroyAgentMtp_enable (mtp : AgentMtp) :
    (destroyAgentMtp mtp).enable = false := rfl

@[simp] theorem destroyAgentMtp_protocol (mtp : AgentMtp) :
    (destroyAgentMtp mtp).protocol = .none := rfl

theorem not_occupied_destroyAgentMtp (mtp : AgentMtp) : ¬ (destroyAgentMtp mtp).Occupied :=
  fun h => h rfl

theorem agentMtpsInit_free : ∀ mtp ∈ agentMtpsInit.slots, ¬ mtp.Occupied := by
  intro mtp hmtp
  rw [agentMtpsInit, List.mem_replicate] at hmtp
  rw [hmtp.2]
  exact fun h => h rfl

theorem deviceMtpStop_free (t : AgentMtps) : ∀ mtp ∈ (deviceMtpStop t).slots, ¬ mtp.Occupied := by
  intro mtp hmtp
  obtain ⟨x, -, rfl⟩ := List.mem_map.1 hmtp
  by_cases hx : x.inst ≠ invalid
  · rw [if_pos hx]; exact not_occupied_destroyAgentMtp x
  · rw [if_neg hx]; exact fun h => hx h

end LocalAgentMtp
