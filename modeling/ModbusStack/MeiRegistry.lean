import ModbusStack.Machine
import ModbusStack.Mei
import ModbusStack.SlotTable

/-! The registry of MEI handlers as a bounded finite map, over every sequence of calls. -/
set_option autoImplicit false

namespace ModbusStack
open ByteMemory Machine SlotTable

abbrev Registered := MeiHandlerFn × Nat

inductive MeiCall where
  | register (meiType : Byte) (handler : Option MeiHandlerFn) (context : Nat)
  | unregister (meiType : Byte)
  | clear
  | init

def meiStep (cfg : Platform) (s : Server) : MeiCall → MeiResult × Server
  | .register meiType handler context => mbMeiRegisterHandler cfg s meiType handler context
  | .unregister meiType => mbMeiUnregisterHandler cfg s meiType
  | .clear => (.ok,mbMeiClearHandlers s)
  | .init => (.ok,mbInit s)

/-- A bounded map with the calls of the registry: what the registry is for. -/
noncomputable def registryStep (capacity : Nat) (registry : Byte → Option Registered) :
    MeiCall → MeiResult × (Byte → Option Registered)
  | .register _ none _ => (.errorArgument,registry)
  | .register meiType (some handler) context =>
    if ¬ meiTypeIsApplicationConfigurable meiType then (.errorType,registry)
    else if registry meiType = none ∧ size registry = capacity then (.errorCapacity,registry)
    else (.ok,Function.update registry meiType (some (handler,context)))
  | .unregister meiType =>
    if ¬ meiTypeIsApplicationConfigurable meiType then (.errorType,registry)
    else if registry meiType = none then (.errorNotFound,registry)
    else (.ok,Function.update registry meiType none)
  | .clear | .init => (.ok,fun _ => none)

def MeiHandlerEntry.slot (e : MeiHandlerEntry) : Option (Byte × Registered) :=
  if e.inUse ≠ 0#8 then e.handler.map fun handler => (e.meiType,handler,e.context) else none

def MeiState.slots (table : MeiState) (i : Nat) : Option (Byte × Registered) := (table i).slot

/-- The table holds the map, no entry in use lacks a handler, and the two types that the
application cannot configure are absent. -/
structure HoldsRegistry (cfg : Platform) (table : MeiState) (registry : Byte → Option Registered) :
    Prop where
  represents : Represents cfg.meiMaxHandlers table.slots registry
  handled : ∀ i, (table i).inUse ≠ 0#8 → (table i).handler.isSome = true
  reserved : ∀ meiType, meiTypeIsApplicationConfigurable meiType = false → registry meiType = none

section Scans
variable {table : MeiState} {meiType : Byte}

/-- The scan for a slot goes past the holes before it settles for one. -/
theorem scanHandlers_spec (table : MeiState) (meiType : Byte) (n i : Nat) (free : Option Nat) :
    match scanHandlers table meiType n i free with
    | .inl j => j < i+n ∧ (table j).inUse ≠ 0#8 ∧ (table j).meiType = meiType
    | .inr found =>
      (∀ j, i ≤ j → j < i+n → (table j).inUse ≠ 0#8 → (table j).meiType ≠ meiType) ∧
      match found with
      | none => free = none ∧ ∀ j, i ≤ j → j < i+n → (table j).inUse ≠ 0#8
      | some j => free = some j ∨ j < i+n ∧ (table j).inUse = 0#8 := by
  induction n generalizing i free with
  | zero =>
    simp only [scanHandlers]
    refine ⟨fun j hi hj => by omega,?_⟩
    cases free with
    | none => exact ⟨rfl,fun j hi hj => by omega⟩
    | some j => exact Or.inl rfl
  | succ n ih =>
    simp only [scanHandlers]
    by_cases huse : (table i).inUse = 0#8
    · simp only [huse,ne_eq,not_true_eq_false,if_false]
      have h := ih (i+1) (free <|> some i)
      generalize scanHandlers table meiType n (i+1) (free <|> some i) = out at h ⊢
      cases out with
      | inl j => exact ⟨by omega,h.2⟩
      | inr found =>
        refine ⟨?_,?_⟩
        · intro j hi hj hu
          by_cases he : j = i
          · subst he
            exact absurd huse hu
          · exact h.1 j (by omega) (by omega) hu
        · have h2 := h.2
          cases found with
          | none =>
            cases free with
            | none => cases h2.1
            | some k => cases h2.1
          | some j =>
            rcases h2 with h2 | h2
            · cases free with
              | none =>
                obtain rfl : i = j := by simpa using h2
                exact Or.inr ⟨by omega,huse⟩
              | some k => exact Or.inl h2
            · exact Or.inr ⟨by omega,h2.2⟩
    · simp only [huse,ne_eq,not_false_eq_true,if_true]
      by_cases htype : (table i).meiType = meiType
      · simp only [htype,if_true]
        exact ⟨by omega,huse,trivial⟩
      · simp only [htype,if_false]
        have h := ih (i+1) free
        generalize scanHandlers table meiType n (i+1) free = out at h ⊢
        cases out with
        | inl j => exact ⟨by omega,h.2⟩
        | inr found =>
          refine ⟨?_,?_⟩
          · intro j hi hj hu
            by_cases he : j = i
            · subst he
              exact htype
            · exact h.1 j (by omega) (by omega) hu
          · have h2 := h.2
            cases found with
            | none =>
              refine ⟨h2.1,fun j hi hj => ?_⟩
              by_cases he : j = i
              · subst he
                exact huse
              · exact h2.2 j (by omega) (by omega)
            | some j =>
              rcases h2 with h2 | h2
              · exact Or.inl h2
              · exact Or.inr ⟨by omega,h2.2⟩

theorem findHandler_some {cfg : Platform} {i : Nat} (h : findHandler cfg table meiType = some i) :
    i < cfg.meiMaxHandlers ∧ (table i).inUse ≠ 0#8 ∧ (table i).meiType = meiType := by
  have hmem := List.mem_of_find?_eq_some h
  have hp := List.find?_some h
  simp only [decide_eq_true_eq] at hp
  exact ⟨List.mem_range.mp hmem,hp⟩

theorem findHandler_none {cfg : Platform} (h : findHandler cfg table meiType = none) (i : Nat)
    (hi : i < cfg.meiMaxHandlers) (hu : (table i).inUse ≠ 0#8) : (table i).meiType ≠ meiType := by
  have hp := List.find?_eq_none.mp h i (List.mem_range.mpr hi)
  simp only [decide_eq_true_eq,not_and] at hp
  exact hp hu

end Scans

section Entries
variable {cfg : Platform} {table : MeiState} {registry : Byte → Option Registered} {i : Nat}

theorem slots_put (table : MeiState) (i : Nat) (e : MeiHandlerEntry) :
    MeiState.slots (put table i e) = Function.update (MeiState.slots table) i e.slot := by
  funext j
  by_cases h : j = i
  · subst h
    simp [MeiState.slots]
  · rw [Function.update_of_ne h,MeiState.slots,put_other _ _ _ _ h,MeiState.slots]

theorem HoldsRegistry.slot_used (h : HoldsRegistry cfg table registry) (hu : (table i).inUse ≠ 0#8) :
    ∃ handler, (table i).handler = some handler ∧
      table.slots i = some ((table i).meiType,handler,(table i).context) := by
  obtain ⟨handler,hh⟩ := Option.isSome_iff_exists.mp (h.handled i hu)
  exact ⟨handler,hh,by simp [MeiState.slots,MeiHandlerEntry.slot,hu,hh]⟩

theorem slot_free (hu : (table i).inUse = 0#8) : table.slots i = none := by
  simp [MeiState.slots,MeiHandlerEntry.slot,hu]

theorem slot_some {meiType : Byte} {v : Registered} (h : table.slots i = some (meiType,v)) :
    (table i).inUse ≠ 0#8 ∧ (table i).meiType = meiType := by
  simp only [MeiState.slots,MeiHandlerEntry.slot] at h
  split at h
  · rename_i hu
    obtain ⟨handler,-,he⟩ := Option.map_eq_some_iff.mp h
    cases he
    exact ⟨hu,rfl⟩
  · cases h

theorem HoldsRegistry.absent_of_scan (h : HoldsRegistry cfg table registry) {meiType : Byte}
    (hscan : ∀ j < cfg.meiMaxHandlers, (table j).inUse ≠ 0#8 → (table j).meiType ≠ meiType) :
    registry meiType = none := by
  rw [h.represents.absent]
  intro j hj v hs
  obtain ⟨hu,ht⟩ := slot_some hs
  exact hscan j hj hu ht

theorem HoldsRegistry.present (h : HoldsRegistry cfg table registry) (hi : i < cfg.meiMaxHandlers)
    (hu : (table i).inUse ≠ 0#8) :
    ∃ handler, (table i).handler = some handler ∧
      registry (table i).meiType = some (handler,(table i).context) := by
  obtain ⟨handler,hh,hs⟩ := h.slot_used hu
  exact ⟨handler,hh,h.represents.lookup_slot hi hs⟩

theorem HoldsRegistry.cleared : HoldsRegistry cfg MeiState.cleared fun _ => none where
  represents := by
    have h : MeiState.slots .cleared = fun _ => none := by
      funext i
      rfl
    rw [h]
    exact .empty
  handled := fun i hu => absurd rfl hu
  reserved := fun _ _ => rfl

theorem HoldsRegistry.put_entry (h : HoldsRegistry cfg table registry) {meiType : Byte}
    {handler : MeiHandlerFn} {context : Nat} {e : MeiHandlerEntry} (hi : i < cfg.meiMaxHandlers)
    (htype : meiTypeIsApplicationConfigurable meiType = true)
    (he : e.inUse ≠ 0#8 ∧ e.meiType = meiType ∧ e.handler = some handler ∧ e.context = context)
    (hslot : (∃ v, table.slots i = some (meiType,v)) ∨
      table.slots i = none ∧ registry meiType = none) :
    HoldsRegistry cfg (put table i e) (Function.update registry meiType (some (handler,context))) := by
  obtain ⟨hu,ht,hh,hc⟩ := he
  have hentry : e.slot = some (meiType,handler,context) := by
    simp [MeiHandlerEntry.slot,hu,ht,hh,hc]
  refine ⟨?_,?_,?_⟩
  · rw [slots_put,hentry]
    exact h.represents.set hi hslot
  · intro j
    by_cases hj : j = i
    · subst hj
      simp [hh]
    · rw [put_other _ _ _ _ hj]
      exact h.handled j
  · intro t hreserved
    rw [Function.update_of_ne]
    · exact h.reserved t hreserved
    · rintro rfl
      rw [hreserved] at htype
      cases htype

theorem HoldsRegistry.put_free (h : HoldsRegistry cfg table registry) {meiType : Byte}
    {v : Registered} (hi : i < cfg.meiMaxHandlers) (hslot : table.slots i = some (meiType,v)) :
    HoldsRegistry cfg (put table i ⟨0,0,none,0⟩) (Function.update registry meiType none) := by
  refine ⟨?_,?_,?_⟩
  · rw [slots_put]
    exact h.represents.erase hi hslot
  · intro j
    by_cases hj : j = i
    · subst hj
      intro hu
      simp at hu
    · rw [put_other _ _ _ _ hj]
      exact h.handled j
  · intro t hreserved
    rw [Function.update_apply]
    split
    · rfl
    · exact h.reserved t hreserved

end Entries

section Calls
variable {cfg : Platform} {s : Server} {registry : Byte → Option Registered}

def Agrees (cfg : Platform) (out : MeiResult × Server)
    (expected : MeiResult × (Byte → Option Registered)) : Prop :=
  out.1 = expected.1 ∧ HoldsRegistry cfg out.2.data.mei expected.2

theorem mbMeiRegisterHandler_agrees (h : HoldsRegistry cfg s.data.mei registry) (meiType : Byte)
    (handler : Option MeiHandlerFn) (context : Nat) :
    Agrees cfg (mbMeiRegisterHandler cfg s meiType handler context)
      (registryStep cfg.meiMaxHandlers registry (.register meiType handler context)) := by
  cases handler with
  | none => exact ⟨rfl,h⟩
  | some handler =>
    simp only [mbMeiRegisterHandler,registryStep]
    by_cases htype : meiTypeIsApplicationConfigurable meiType = true
    · simp only [htype,not_true_eq_false,if_false,Server.emit_data]
      have hscan := scanHandlers_spec s.data.mei meiType cfg.meiMaxHandlers 0 none
      generalize scanHandlers s.data.mei meiType cfg.meiMaxHandlers 0 none = found at hscan ⊢
      cases found with
      | inl i =>
        obtain ⟨hi,hu,ht⟩ := hscan
        rw [Nat.zero_add] at hi
        obtain ⟨_,_,hs⟩ := h.slot_used hu
        rw [ht] at hs
        rw [if_neg (by simp [h.represents.lookup_slot hi hs])]
        exact ⟨rfl,h.put_entry hi htype ⟨hu,ht,rfl,rfl⟩ (.inl ⟨_,hs⟩)⟩
      | inr found =>
        obtain ⟨hnew,hfound⟩ := hscan
        simp only [Nat.zero_add] at hnew hfound
        have habsent := h.absent_of_scan fun j hj => hnew j (Nat.zero_le j) hj
        cases found with
        | none =>
          have hfull : size registry = cfg.meiMaxHandlers := by
            rw [h.represents.full_iff]
            intro i hi
            obtain ⟨_,_,hs⟩ := h.slot_used (hfound.2 i (Nat.zero_le i) hi)
            simp [hs]
          rw [if_pos ⟨habsent,hfull⟩]
          exact ⟨rfl,h⟩
        | some i =>
          obtain ⟨hi,hu⟩ := hfound.resolve_left (by simp)
          have hroom : size registry ≠ cfg.meiMaxHandlers := by
            rw [ne_eq,h.represents.full_iff]
            exact fun hall => hall i hi (slot_free hu)
          rw [if_neg (fun hc => hroom hc.2)]
          exact ⟨rfl,h.put_entry hi htype ⟨by simp,rfl,rfl,rfl⟩ (.inr ⟨slot_free hu,habsent⟩)⟩
    · rw [if_pos htype,if_pos htype]
      exact ⟨rfl,h⟩

theorem mbMeiUnregisterHandler_agrees (h : HoldsRegistry cfg s.data.mei registry) (meiType : Byte) :
    Agrees cfg (mbMeiUnregisterHandler cfg s meiType)
      (registryStep cfg.meiMaxHandlers registry (.unregister meiType)) := by
  simp only [mbMeiUnregisterHandler,registryStep]
  by_cases htype : meiTypeIsApplicationConfigurable meiType = true
  · simp only [htype,not_true_eq_false,if_false,Server.emit_data]
    cases hfind : findHandler cfg s.data.mei meiType with
    | none =>
      have habsent := h.absent_of_scan (findHandler_none hfind)
      simp only [habsent,if_true]
      exact ⟨rfl,h⟩
    | some i =>
      obtain ⟨hi,hu,ht⟩ := findHandler_some hfind
      obtain ⟨handler,-,hs⟩ := h.slot_used hu
      rw [ht] at hs
      have hpresent := h.represents.lookup_slot hi hs
      rw [if_neg (by simp [hpresent])]
      exact ⟨rfl,h.put_free hi hs⟩
  · rw [if_pos htype,if_pos htype]
    exact ⟨rfl,h⟩

theorem meiStep_agrees (h : HoldsRegistry cfg s.data.mei registry) (call : MeiCall) :
    Agrees cfg (meiStep cfg s call) (registryStep cfg.meiMaxHandlers registry call) := by
  cases call with
  | register meiType handler context => exact mbMeiRegisterHandler_agrees h meiType handler context
  | unregister meiType => exact mbMeiUnregisterHandler_agrees h meiType
  | clear => exact ⟨rfl,.cleared⟩
  | init => exact ⟨rfl,.cleared⟩

end Calls

section Dispatch
variable {cfg : Platform} {s : Server} {registry : Byte → Option Registered}

/-- The answer to a request, made of what the registered handler returns. -/
def handlerAnswer (registered : Registered) (pdu : Mem Byte) (len responseCapacity : Nat) :
    Except Byte (List Byte) :=
  let limit := responseLimit responseCapacity
  if limit < 2 then .error exServerFailure
  else
    let (result,data) := registered.1 registered.2 (pdu 1) (slice pdu 2 (len-2)) (limit-2)
    if result ≠ 0#8 then
      .error (if meiExceptionIsValid result then result else exServerFailure)
    else if limit-2 < data.length ∨ 251 < data.length then .error exServerFailure
    else .ok ([0x2B#8,pdu 1] ++ data)

def Event.isMeiHandler : Event → Bool
  | .meiHandler _ => true
  | _ => false

def Server.handlerCalls (s : Server) : List Event := s.trace.filter Event.isMeiHandler

theorem emit_handlerCalls (s : Server) (e : Event) (h : e.isMeiHandler = false) :
    (s.emit e).handlerCalls = s.handlerCalls := by
  simp [Server.handlerCalls,Server.emit,h]

theorem HoldsRegistry.found (h : HoldsRegistry cfg s.data.mei registry) (meiType : Byte) :
    (((findHandler cfg s.data.mei meiType).map s.data.mei).bind fun e =>
      e.handler.map fun handler => (handler,e.context)) = registry meiType := by
  cases hfind : findHandler cfg s.data.mei meiType with
  | none =>
    rw [h.absent_of_scan (findHandler_none hfind)]
    rfl
  | some i =>
    obtain ⟨hi,hu,ht⟩ := findHandler_some hfind
    obtain ⟨handler,hh,hpresent⟩ := h.present hi hu
    rw [ht] at hpresent
    rw [hpresent]
    simp [hh]

theorem mbMeiIsRegistered_eq (h : HoldsRegistry cfg s.data.mei registry) (meiType : Byte) :
    (mbMeiIsRegistered cfg s meiType).1 = (registry meiType).isSome := by
  simp only [mbMeiIsRegistered]
  by_cases htype : meiTypeIsApplicationConfigurable meiType = true
  · simp only [htype,not_true_eq_false,if_false,Server.emit_data]
    rw [← h.found meiType]
    cases hfind : findHandler cfg s.data.mei meiType with
    | none => rfl
    | some i =>
      obtain ⟨handler,hh,-⟩ := h.present (findHandler_some hfind).1 (findHandler_some hfind).2.1
      simp [hh]
  · rw [if_pos htype,h.reserved meiType (by simpa using htype)]
    rfl

theorem mbMeiProcessRequest_absent (h : HoldsRegistry cfg s.data.mei registry) (pdu : Mem Byte)
    (len responseCapacity : Nat) (htype : pdu 1 ≠ 0x0E#8) (habsent : registry (pdu 1) = none) :
    (mbMeiProcessRequest cfg s pdu len responseCapacity).1 = .error exIllegalDataValue ∧
      (mbMeiProcessRequest cfg s pdu len responseCapacity).2.handlerCalls = s.handlerCalls := by
  have hfound := h.found (pdu 1)
  rw [habsent] at hfound
  simp only [mbMeiProcessRequest,htype,if_false,Server.emit_data,hfound]
  split
  · exact ⟨rfl,rfl⟩
  split
  · exact ⟨rfl,rfl⟩
  · exact ⟨rfl,by rw [emit_handlerCalls _ _ rfl,emit_handlerCalls _ _ rfl]⟩

theorem mbMeiProcessRequest_present (h : HoldsRegistry cfg s.data.mei registry) (pdu : Mem Byte)
    (len responseCapacity : Nat) (hlen : 2 ≤ len ∧ len ≤ modbusPduMaxSize) (h0 : pdu 0 = 0x2B#8)
    {registered : Registered} (hpresent : registry (pdu 1) = some registered) :
    (mbMeiProcessRequest cfg s pdu len responseCapacity).1 =
      handlerAnswer registered pdu len responseCapacity := by
  have hfound := h.found (pdu 1)
  rw [hpresent] at hfound
  have htype : pdu 1 ≠ 0x0E#8 ∧ pdu 1 ≠ 0x0D#8 := by
    constructor
    · intro he
      rw [h.reserved (pdu 1) (by rw [he]; rfl)] at hpresent
      cases hpresent
    · intro he
      rw [h.reserved (pdu 1) (by rw [he]; rfl)] at hpresent
      cases hpresent
  have hok : ¬ (len < 2 ∨ modbusPduMaxSize < len ∨ pdu 0 ≠ 0x2B#8) := by
    simp only [h0,ne_eq,not_true_eq_false,or_false]
    omega
  simp only [mbMeiProcessRequest,hok,htype.1,htype.2,if_false,Server.emit_data,hfound,handlerAnswer]
  split
  · rfl
  split
  · rfl
  split <;> rfl

end Dispatch

section Runs
variable (cfg : Platform) (s : Server) (calls : List MeiCall)

def serverAfter : Server := run (meiStep cfg) s calls

noncomputable def registryAfter : Byte → Option Registered :=
  run (registryStep cfg.meiMaxHandlers) (fun _ => none) calls

structure RegistryRefines : Prop where
  results : (records (meiStep cfg) s calls).map Record.output =
    (records (registryStep cfg.meiMaxHandlers) (fun _ => none) calls).map Record.output
  table : Represents cfg.meiMaxHandlers (serverAfter cfg s calls).data.mei.slots
    (registryAfter cfg calls)
  bounded : size (registryAfter cfg calls) ≤ cfg.meiMaxHandlers
  reserved : registryAfter cfg calls 0x0D#8 = none ∧ registryAfter cfg calls 0x0E#8 = none
  capacity : ∀ meiType handler context, meiTypeIsApplicationConfigurable meiType = true →
    ((mbMeiRegisterHandler cfg (serverAfter cfg s calls) meiType (some handler) context).1 =
        .errorCapacity ↔
      registryAfter cfg calls meiType = none ∧ size (registryAfter cfg calls) = cfg.meiMaxHandlers)
  unchanged : ∀ meiType handler context,
    (mbMeiRegisterHandler cfg (serverAfter cfg s calls) meiType handler context).1 = .errorCapacity →
    (mbMeiRegisterHandler cfg (serverAfter cfg s calls) meiType handler context).2.data =
      (serverAfter cfg s calls).data
  sets : ∀ meiType handler context, meiTypeIsApplicationConfigurable meiType = true →
    (mbMeiRegisterHandler cfg (serverAfter cfg s calls) meiType (some handler) context).1 ≠
      .errorCapacity →
    (mbMeiRegisterHandler cfg (serverAfter cfg s calls) meiType (some handler) context).1 = .ok ∧
      Represents cfg.meiMaxHandlers
        (mbMeiRegisterHandler cfg (serverAfter cfg s calls) meiType (some handler)
          context).2.data.mei.slots
        (Function.update (registryAfter cfg calls) meiType (some (handler,context)))
  registered : ∀ meiType, (mbMeiIsRegistered cfg (serverAfter cfg s calls) meiType).1 =
    (registryAfter cfg calls meiType).isSome
  dispatched : ∀ pdu len responseCapacity entry, 2 ≤ len → len ≤ modbusPduMaxSize →
    pdu 0 = 0x2B#8 → registryAfter cfg calls (pdu 1) = some entry →
    (mbMeiProcessRequest cfg (serverAfter cfg s calls) pdu len responseCapacity).1 =
      handlerAnswer entry pdu len responseCapacity
  absent : ∀ pdu len responseCapacity, pdu 1 ≠ 0x0E#8 → registryAfter cfg calls (pdu 1) = none →
    (mbMeiProcessRequest cfg (serverAfter cfg s calls) pdu len responseCapacity).1 =
        .error exIllegalDataValue ∧
      (mbMeiProcessRequest cfg (serverAfter cfg s calls) pdu len responseCapacity).2.handlerCalls =
        (serverAfter cfg s calls).handlerCalls

end Runs

/-- Whatever the calls, the registry and the map stay in lockstep. -/
theorem meiStep_lockstep {cfg : Platform} {s : Server} {registry : Byte → Option Registered}
    (h : HoldsRegistry cfg s.data.mei registry) (calls : List MeiCall) :
    (records (meiStep cfg) s calls).map Record.output =
        (records (registryStep cfg.meiMaxHandlers) registry calls).map Record.output ∧
      HoldsRegistry cfg (run (meiStep cfg) s calls).data.mei
        (run (registryStep cfg.meiMaxHandlers) registry calls) := by
  induction calls generalizing s registry with
  | nil => exact ⟨rfl,h⟩
  | cons call calls ih =>
    obtain ⟨hout,hholds⟩ := meiStep_agrees h call
    obtain ⟨houts,hrest⟩ := ih hholds
    refine ⟨?_,hrest⟩
    simp only [records,List.map_cons,hout,houts]

theorem mbMeiRegisterHandler_capacity (cfg : Platform) (s : Server) (meiType : Byte)
    (handler : Option MeiHandlerFn) (context : Nat)
    (h : (mbMeiRegisterHandler cfg s meiType handler context).1 = .errorCapacity) :
    (mbMeiRegisterHandler cfg s meiType handler context).2.data = s.data := by
  cases handler with
  | none => rfl
  | some handler =>
    simp only [mbMeiRegisterHandler] at h ⊢
    by_cases htype : ¬ meiTypeIsApplicationConfigurable meiType = true
    · rw [if_pos htype]
    · rw [if_neg htype] at h ⊢
      generalize scanHandlers (s.emit .lock).data.mei meiType cfg.meiMaxHandlers 0 none = found at h ⊢
      match found with
      | .inl i => cases h
      | .inr none => rfl
      | .inr (some i) => cases h

/-- The registry refines a bounded finite map; type 0E is not its concern. -/
theorem meiRegistry_refines (cfg : Platform) (s : Server) (hs : s.data.mei = .cleared)
    (calls : List MeiCall) : RegistryRefines cfg s calls := by
  have hstart : HoldsRegistry cfg s.data.mei fun _ => none := by
    rw [hs]
    exact .cleared
  obtain ⟨hresults,hholds⟩ := meiStep_lockstep hstart calls
  have hregister := fun meiType handler context =>
    mbMeiRegisterHandler_agrees hholds meiType (some handler) context
  refine ⟨hresults,hholds.represents,hholds.represents.size_le,
    ⟨hholds.reserved _ rfl,hholds.reserved _ rfl⟩,?_,?_,?_,mbMeiIsRegistered_eq hholds,?_,?_⟩
  · intro meiType handler context htype
    rw [serverAfter,(hregister meiType handler context).1]
    simp only [registryStep,htype,not_true_eq_false,if_false,registryAfter]
    split
    · rename_i hfull
      exact ⟨fun _ => hfull,fun _ => rfl⟩
    · rename_i hroom
      constructor
      · intro h
        cases h
      · exact fun hfull => absurd hfull hroom
  · intro meiType handler context
    exact mbMeiRegisterHandler_capacity cfg _ meiType handler context
  · intro meiType handler context htype hne
    obtain ⟨hout,hafter⟩ := hregister meiType handler context
    rw [serverAfter,hout] at hne
    rw [serverAfter,hout,registryAfter]
    simp only [registryStep,htype,not_true_eq_false,if_false] at hne hafter ⊢
    split at hne
    · exact absurd rfl hne
    · rename_i hroom
      rw [if_neg hroom] at hafter ⊢
      exact ⟨rfl,hafter.represents⟩
  · intro pdu len responseCapacity entry h2 hmax h0 hpresent
    exact mbMeiProcessRequest_present hholds pdu len responseCapacity ⟨h2,hmax⟩ h0 hpresent
  · intro pdu len responseCapacity htype habsent
    exact mbMeiProcessRequest_absent hholds pdu len responseCapacity htype habsent

def echoHandler : MeiHandlerFn := fun _ _ data _ => (0#8,data)

/-- The second of two handlers is left behind a hole, and registered again there. -/
def holeCalls : List MeiCall :=
  [.register 0x10#8 (some echoHandler) 7,.register 0x11#8 (some echoHandler) 8,.unregister 0x10#8,
    .register 0x11#8 (some echoHandler) 9]

theorem meiRegistry_refines_echo :
    (((serverAfter .standard .zeroed holeCalls).data.mei 0).inUse = 0#8 ∧
      ((serverAfter .standard .zeroed holeCalls).data.mei 1).meiType = 0x11#8 ∧
      ((serverAfter .standard .zeroed holeCalls).data.mei 1).context = 9) ∧
    RegistryRefines .standard .zeroed holeCalls :=
  ⟨by decide +kernel,meiRegistry_refines .standard .zeroed rfl holeCalls⟩

def identifiedServer : Server :=
  (mbDeviceIdConfigure .standard .zeroed 0x01#8
    (some fun i => ⟨BitVec.ofNat 8 i,some fun _ => 0x41#8,2⟩) 3).2

def deviceIdRequest : Mem Byte := store (fun _ => 0#8) 0 [0x2B#8,0x0E#8,0x01#8,0x00#8]

/-- Type 0E is not registered, and yet its request is answered. -/
theorem deviceIdRequest_answered :
    identifiedServer.data.mei = .cleared ∧
    registryAfter .standard [] (deviceIdRequest 1) = none ∧
    (mbMeiProcessRequest .standard (serverAfter .standard identifiedServer []) deviceIdRequest 4
      modbusPduMaxSize).1 ≠ .error exIllegalDataValue := by
  refine ⟨rfl,rfl,fun h => ?_⟩
  have hok : (mbMeiProcessRequest .standard identifiedServer deviceIdRequest 4
      modbusPduMaxSize).1.isOk = true := by decide +kernel
  have herror : (mbMeiProcessRequest .standard identifiedServer deviceIdRequest 4
      modbusPduMaxSize).1 = .error exIllegalDataValue := h
  rw [herror] at hok
  cases hok

end ModbusStack
