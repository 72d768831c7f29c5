import ModbusStack.FileRecordWrites
import ModbusStack.RegisterMap
import ModbusStack.Retransmission

/-! A request may be sent again: carried out in the state that it has left, every PDU gets the
same answer and changes nothing more. -/
set_option autoImplicit false

namespace ModbusStack
open ByteMemory Retransmission

/-- The same answer and the same data model; the traces may differ. -/
def SameEffect {ε : Type} (out out' : ε × Server) : Prop :=
  out.1 = out'.1 ∧ out.2.data = out'.2.data

def OfData {ε : Type} (handler : Server → ε × Server) : Prop :=
  ∀ s s', s.data = s'.data → SameEffect (handler s) (handler s')

/-- In any state with the data model that it has left, a handler has the same effect. -/
def Repeats {ε : Type} (handler : Server → ε × Server) : Prop :=
  ∀ s s', s'.data = (handler s).2.data → SameEffect (handler s') (handler s)

theorem Repeats.of_quiet {ε : Type} {handler : Server → ε × Server} (h : OfData handler)
    (hquiet : ∀ s, (handler s).2.data = s.data) : Repeats handler := by
  intro s s' hs
  exact h s' s (hs.trans (hquiet s))

theorem OfData.intro {ε : Type} {handler : Server → ε × Server}
    (h : ∀ data serverId trace serverId' trace',
      SameEffect (handler ⟨data,serverId,trace⟩) (handler ⟨data,serverId',trace'⟩)) :
    OfData handler := by
  rintro ⟨data,serverId,trace⟩ ⟨data',serverId',trace'⟩ rfl
  exact h data serverId trace serverId' trace'

theorem SameEffect.refl {ε : Type} {answer : ε} {s s' : Server} (h : s.data = s'.data) :
    SameEffect (answer,s) (answer,s') := ⟨rfl,h⟩

theorem SameEffect.ite {ε : Type} {c : Prop} {i i' : Decidable c} {a a' b b' : ε × Server}
    (h : c → SameEffect a a') (h' : ¬ c → SameEffect b b') :
    SameEffect (@ite _ c i a b) (@ite _ c i' a' b') := by
  by_cases hc : c
  · simpa [hc] using h hc
  · simpa [hc] using h' hc

section Functions
variable (cfg : Platform) (pdu : Mem Byte) (len capacity : Nat)

/-! What each handler answers and does, from the data model. -/

theorem readBits_ofData (function : Byte) (limit : Nat) (get : DataModel → Word → Byte) :
    OfData fun s => readBits s function limit get pdu len capacity := by
  refine .intro fun data _ _ _ _ => ?_
  simp only [readBits]
  split_ifs <;> exact ⟨rfl,rfl⟩

theorem readRegisters_ofData (function : Byte) (limit : Nat) (get : DataModel → Word → Word) :
    OfData fun s => readRegisters s function limit get pdu len capacity := by
  refine .intro fun data _ _ _ _ => ?_
  simp only [readRegisters]
  split_ifs <;> exact ⟨rfl,rfl⟩

theorem mbFileRecordProcessReadRequest_ofData :
    OfData fun s => mbFileRecordProcessReadRequest s pdu len capacity := by
  refine .intro fun data _ _ _ _ => ?_
  refine .ite (fun _ => .refl rfl) fun _ => .ite (fun _ => .refl rfl) fun _ => ?_
  dsimp only [Server.emit_data]
  cases validateReadSubrequests data.fileRecord pdu len len 2 0 with
  | error e => exact .refl rfl
  | ok total => exact .ite (fun _ => .refl rfl) fun _ => .refl rfl

theorem mbFifoProcessReadRequest_ofData :
    OfData fun s => mbFifoProcessReadRequest s pdu len capacity := by
  refine .intro fun data _ _ _ _ => .ite (fun _ => .refl rfl) fun _ => ?_
  dsimp only [Server.emit_data]
  cases findFifoUnlocked data.fifo (be16 (pdu 1) (pdu 2)) with
  | none => exact .refl rfl
  | some queue =>
    exact .ite (fun _ => .refl rfl) fun _ => .ite (fun _ => .refl rfl) fun _ =>
      .ite (fun _ => .refl rfl) fun _ => .refl rfl

theorem mbDeviceIdProcessRequest_ofData (code objectId : Byte) :
    OfData fun s => mbDeviceIdProcessRequest s code objectId capacity := by
  refine .intro fun data _ _ _ _ => .ite (fun _ => .refl rfl) fun _ =>
    .ite (fun _ => .refl rfl) fun _ => .ite (fun _ => .ite (fun _ => .refl rfl) fun _ => ?_)
      fun _ => .ite (fun _ => .refl rfl) fun _ => ?_
  · dsimp only [Server.emit_data]
    cases findObjectIndex data.deviceId (conformityCategory data.deviceId.conformityLevel) objectId with
    | none => exact .refl rfl
    | some index => exact .ite (fun _ => .refl rfl) fun _ => .refl rfl
  · -- the two calls of the page loop differ in how their arguments are decided
    dsimp only [Server.emit_data]
    split <;> rename_i hpage <;> split <;> rename_i hpage'
    · exact .refl rfl
    · exact absurd (hpage.symm.trans hpage') (by simp)
    · exact absurd (hpage.symm.trans hpage') (by simp)
    · obtain rfl := Option.some.inj (hpage.symm.trans hpage')
      exact .refl rfl

theorem mbMeiProcessRequest_ofData : OfData fun s => mbMeiProcessRequest cfg s pdu len capacity := by
  refine .intro fun data _ _ _ _ => .ite (fun _ => .refl rfl) fun _ =>
    .ite (fun _ => .ite (fun _ => .refl rfl) fun _ => mbDeviceIdProcessRequest_ofData capacity _ _ _ _ rfl)
      fun _ => .ite (fun _ => .refl rfl) fun _ => ?_
  dsimp only [Server.emit_data]
  cases ((findHandler cfg data.mei (pdu 1)).map data.mei).bind fun e =>
      e.handler.map fun h => (h,e.context) with
  | none => exact .refl rfl
  | some entry =>
    exact .ite (fun _ => .refl rfl) fun _ => .ite (fun _ => .refl rfl) fun _ =>
      .ite (fun _ => .refl rfl) fun _ => .refl rfl

end Functions

/-! The writes: an assignment of constants, made twice, is made once. -/

/-- What a write makes of the data model, and the answer that it gives afterwards. -/
structure Assigns {ε : Type} (handler : Server → ε × Server) (answer : DataModel → ε)
    (assign : DataModel → DataModel) : Prop where
  answered : ∀ s, (handler s).1 = answer (assign s.data)
  assigned : ∀ s, (handler s).2.data = assign s.data
  twice : ∀ d, assign (assign d) = assign d

def Assigning {ε : Type} (handler : Server → ε × Server) : Prop :=
  ∃ answer assign, Assigns handler answer assign

namespace Assigning
variable {ε : Type} {handler : Server → ε × Server}

theorem ofData (h : Assigning handler) : OfData handler := by
  obtain ⟨answer,assign,h⟩ := h
  intro s s' hs
  exact ⟨by rw [h.answered,h.answered,hs],by rw [h.assigned,h.assigned,hs]⟩

theorem repeats (h : Assigning handler) : Repeats handler := by
  obtain ⟨answer,assign,h⟩ := h
  intro s s' hs
  rw [h.assigned] at hs
  exact ⟨by rw [h.answered,h.answered,hs,h.twice],by rw [h.assigned,h.assigned,hs,h.twice]⟩

theorem refuse (e : ε) : Assigning fun s => (e,s) :=
  ⟨fun _ => e,id,fun _ => rfl,fun _ => rfl,fun _ => rfl⟩

theorem ite {c : Prop} [Decidable c] {handler' : Server → ε × Server} (h : c → Assigning handler)
    (h' : ¬ c → Assigning handler') : Assigning fun s => if c then handler s else handler' s := by
  by_cases hc : c
  · simpa only [if_pos hc] using h hc
  · simpa only [if_neg hc] using h' hc

end Assigning

theorem overwrite_overwrite {α : Type} (m : Mem α) (first count : Nat) (value : Nat → α) :
    overwrite (overwrite m first count value) first count value = overwrite m first count value := by
  funext k
  simp only [overwrite]
  split <;> rfl

theorem put_put {α : Type} (m : Mem α) (k : Nat) (v : α) : put (put m k v) k v = put m k v := by
  funext i
  simp only [put]
  split <;> rfl

theorem maskWrite_again (current andMask orMask : Word) :
    (((current &&& andMask) ||| (orMask &&& ~~~andMask)) &&& andMask) ||| (orMask &&& ~~~andMask) =
      (current &&& andMask) ||| (orMask &&& ~~~andMask) := by
  ext i hi
  simp only [BitVec.getElem_or,BitVec.getElem_and,BitVec.getElem_not]
  cases current[i] <;> cases andMask[i] <;> cases orMask[i] <;> rfl

section Writes
variable (cfg : Platform) (pdu : Mem Byte) (len capacity : Nat)

theorem writeSingleCoil_assigning : Assigning fun s => writeSingleCoil cfg s pdu len capacity := by
  refine .ite (fun _ => .refuse _) fun _ => .ite (fun _ => .refuse _) fun hrange =>
    .ite (fun _ => .refuse _) fun _ => .ite (fun _ => .refuse _) fun _ => ?_
  have hin : (readBe16 (pdu.off 1)).toNat < cfg.maxCoils := by
    simpa using (rangeIsValid_iff.mp (not_not.mp hrange)).2
  refine ⟨fun _ => .ok (slice pdu 0 5),fun d => { d with coils := put d.coils _ _ },fun _ => rfl,
    fun s => mbSetCoil_data cfg s _ _ hin,?_⟩
  · intro d
    simp only [put_put]

theorem writeSingleRegister_assigning :
    Assigning fun s => writeSingleRegister cfg s pdu len capacity := by
  refine .ite (fun _ => .refuse _) fun _ => .ite (fun _ => .refuse _) fun hrange =>
    .ite (fun _ => .refuse _) fun _ => ?_
  have hin : (readBe16 (pdu.off 1)).toNat < cfg.maxHregs := by
    simpa using (rangeIsValid_iff.mp (not_not.mp hrange)).2
  refine ⟨fun _ => .ok (slice pdu 0 5),fun d =>
    { d with holdingRegisters := put d.holdingRegisters _ _ },fun _ => rfl,
    fun s => mbSetHreg_data cfg s _ _ hin,?_⟩
  · intro d
    simp only [put_put]

theorem maskWriteRegister_assigning :
    Assigning fun s => maskWriteRegister cfg s pdu len capacity := by
  refine .ite (fun _ => .refuse _) fun _ => .ite (fun _ => .refuse _) fun hrange =>
    .ite (fun _ => .refuse _) fun _ => ?_
  have hin : (readBe16 (pdu.off 1)).toNat < cfg.maxHregs := by
    simpa using (rangeIsValid_iff.mp (not_not.mp hrange)).2
  refine ⟨fun _ => .ok (slice pdu 0 7),fun d => { d with
    holdingRegisters := put d.holdingRegisters (readBe16 (pdu.off 1)).toNat
      ((d.holdingRegisters (readBe16 (pdu.off 1)).toNat &&& readBe16 (pdu.off 3)) |||
        (readBe16 (pdu.off 5) &&& ~~~(readBe16 (pdu.off 3)))) },fun _ => rfl,
    fun s => mbMaskWriteHreg_data cfg s _ _ _ hin,?_⟩
  · intro d
    simp only [put_same,maskWrite_again,put_put]

theorem writeMultipleCoils_assigning :
    Assigning fun s => writeMultipleCoils cfg s pdu len capacity := by
  refine .ite (fun _ => .refuse _) fun _ => .ite (fun _ => .refuse _) fun _ =>
    .ite (fun _ => .refuse _) fun hrange => .ite (fun _ => .refuse _) fun _ =>
    .ite (fun _ => .refuse _) fun _ => ?_
  have hin := (rangeIsValid_iff.mp (not_not.mp hrange)).2
  refine ⟨fun _ => .ok _,fun d => { d with coils := overwrite d.coils _ _ _ },fun _ => rfl,
    fun s => setCoils_data cfg _ _ _ 0 s hin,?_⟩
  intro d
  simp only [overwrite_overwrite]

theorem writeMultipleRegisters_assigning :
    Assigning fun s => writeMultipleRegisters cfg s pdu len capacity := by
  refine .ite (fun _ => .refuse _) fun _ => .ite (fun _ => .refuse _) fun _ =>
    .ite (fun _ => .refuse _) fun hrange => .ite (fun _ => .refuse _) fun _ =>
    .ite (fun _ => .refuse _) fun _ => ?_
  have hin := (rangeIsValid_iff.mp (not_not.mp hrange)).2
  refine ⟨fun _ => .ok _,fun d => { d with holdingRegisters := overwrite d.holdingRegisters _ _ _ },
    fun _ => rfl,fun s => setHregs_data cfg _ _ _ 0 s hin,?_⟩
  intro d
  simp only [overwrite_overwrite]

/-- The registers are read after the write, so the repetition reads the same. -/
theorem readWriteMultipleRegisters_assigning :
    Assigning fun s => readWriteMultipleRegisters cfg s pdu len capacity := by
  refine .ite (fun _ => .refuse _) fun _ => .ite (fun _ => .refuse _) fun _ =>
    .ite (fun _ => .refuse _) fun hrange => .ite (fun _ => .refuse _) fun _ =>
    .ite (fun _ => .refuse _) fun _ => ?_
  have hin := (rangeIsValid_iff.mp (not_not.mp (not_or.mp hrange).2)).2
  have hdata := fun s => setHregs_data cfg (readBe16 (pdu.off 5))
    (fun i => readBe16 (pdu.off (10+i*2))) (readBe16 (pdu.off 7)).toNat 0 s hin
  refine ⟨fun d => .ok ([0x17#8,BitVec.ofNat 8 ((readBe16 (pdu.off 3)).toNat*2)] ++ encodeWords
    ((List.range (readBe16 (pdu.off 3)).toNat).map fun i =>
      mbGetHreg cfg d (elementAddress (readBe16 (pdu.off 1)) i))),
    fun d => { d with holdingRegisters := overwrite d.holdingRegisters _ _ _ },fun s => ?_,hdata,?_⟩
  · dsimp only
    rw [hdata]
  · intro d
    simp only [overwrite_overwrite]

/-! FC21: the words that the second pass assigns. -/

def recordCells (base : Nat) (words : List Word) : Nat → Option Word := fun k =>
  if base ≤ k then words[k-base]? else none

theorem store_eq_overlay (m : Mem Word) (base : Nat) (words : List Word) :
    store m base words = overlay m (recordCells base words) := by
  funext k
  rw [store_apply,overlay,recordCells]
  split <;> rfl

def assignedRecords (st : FileRecordState) : (fuel offset : Nat) → List (Nat → Option Word)
  | 0, _ => []
  | fuel+1, offset =>
    if offset < len then
      let r := readSubrequest pdu offset
      let rest := assignedRecords st fuel (offset+7+r.recordLength.toNat*2)
      match findFileRecordUnlocked st r.fileNumber with
      | some file => recordCells (file.records+r.recordNumber.toNat)
          (wordsAt pdu (offset+7) r.recordLength.toNat) :: rest
      | none => rest
    else []

theorem applyWriteSubrequests_overlay (fuel offset : Nat) (s : Server) :
    (applyWriteSubrequests pdu len fuel offset s).data = { s.data with
      memory := (assignedRecords pdu len s.data.fileRecord fuel offset).foldl overlay
        s.data.memory } := by
  induction fuel generalizing offset s with
  | zero => rfl
  | succ fuel ih =>
    simp only [applyWriteSubrequests,assignedRecords]
    split
    · cases findFileRecordUnlocked s.data.fileRecord (readSubrequest pdu offset).fileNumber with
      | none => exact ih _ s
      | some file =>
        dsimp only
        rw [ih,writeRecords_eq,writeWords_data,store_eq_overlay]
        rfl
    · rfl

theorem foldl_overlay_again (cells : List (Nat → Option Word)) (m : Mem Word) :
    cells.foldl overlay (cells.foldl overlay m) = cells.foldl overlay m := by
  funext k
  rw [foldl_overlay,foldl_overlay]
  cases lastValue cells k <;> rfl

/-- FC21 with a table of files: the same refusal, or the same assignments, whatever the words. -/
theorem mbFileRecordProcessWriteRequest_verdict (st : FileRecordState) :
    (∃ e, ∀ s, s.data.fileRecord = st →
      (mbFileRecordProcessWriteRequest s pdu len capacity).1 = .error e ∧
      (mbFileRecordProcessWriteRequest s pdu len capacity).2.data = s.data) ∨
    (∀ s, s.data.fileRecord = st →
      (mbFileRecordProcessWriteRequest s pdu len capacity).1 = .ok (slice pdu 0 len) ∧
      (mbFileRecordProcessWriteRequest s pdu len capacity).2.data = { s.data with
        memory := (assignedRecords pdu len st len 2).foldl overlay s.data.memory }) := by
  unfold mbFileRecordProcessWriteRequest
  by_cases hshort : len < 2
  · exact .inl ⟨_,fun s _ => by rw [if_pos hshort]; exact ⟨rfl,rfl⟩⟩
  by_cases hframe : (pdu 1).toNat < 9 ∨ 251 < (pdu 1).toNat ∨ len ≠ 2+(pdu 1).toNat
  · exact .inl ⟨_,fun s _ => by rw [if_neg hshort,if_pos hframe]; exact ⟨rfl,rfl⟩⟩
  simp only [if_neg hshort,if_neg hframe,Server.emit_data]
  cases hv : validateWriteSubrequests st pdu len len 2 0 with
  | error e =>
    refine .inl ⟨e,?_⟩
    rintro s rfl
    rw [hv]
    exact ⟨rfl,rfl⟩
  | ok counted =>
    by_cases htiled : counted.1 ≠ len ∨ counted.2 = 0
    · refine .inl ⟨exIllegalDataValue,?_⟩
      rintro s rfl
      simp only [hv,if_pos htiled]
      exact ⟨trivial,rfl⟩
    by_cases hroom : responseLimit capacity < len
    · refine .inl ⟨exServerFailure,?_⟩
      rintro s rfl
      simp only [hv,if_neg htiled,if_pos hroom]
      exact ⟨trivial,rfl⟩
    · refine .inr ?_
      rintro s rfl
      simp only [hv,if_neg htiled,if_neg hroom]
      exact ⟨trivial,by rw [Server.emit_data,applyWriteSubrequests_overlay]; rfl⟩

theorem mbFileRecordProcessWriteRequest_repeats :
    OfData (fun s => mbFileRecordProcessWriteRequest s pdu len capacity) ∧
      Repeats fun s => mbFileRecordProcessWriteRequest s pdu len capacity := by
  constructor
  · intro s s' h
    rcases mbFileRecordProcessWriteRequest_verdict pdu len capacity s'.data.fileRecord with
      ⟨e,hrefused⟩ | haccepted
    · obtain ⟨h1,h2⟩ := hrefused s (by rw [h])
      obtain ⟨h1',h2'⟩ := hrefused s' rfl
      exact ⟨h1.trans h1'.symm,by rw [h2,h2',h]⟩
    · obtain ⟨h1,h2⟩ := haccepted s (by rw [h])
      obtain ⟨h1',h2'⟩ := haccepted s' rfl
      exact ⟨h1.trans h1'.symm,by rw [h2,h2',h]⟩
  · intro s s' h
    rcases mbFileRecordProcessWriteRequest_verdict pdu len capacity s.data.fileRecord with
      ⟨e,hrefused⟩ | haccepted
    · obtain ⟨h1,h2⟩ := hrefused s rfl
      obtain ⟨h1',h2'⟩ := hrefused s' (by rw [h,h2])
      exact ⟨h1'.trans h1.symm,h2'.trans h⟩
    · obtain ⟨h1,h2⟩ := haccepted s rfl
      obtain ⟨h1',h2'⟩ := haccepted s' (by rw [h,h2])
      refine ⟨h1'.trans h1.symm,?_⟩
      rw [h2',h,h2]
      simp only [foldl_overlay_again]

/-! All functions together. -/

theorem processPduFunction_repeats :
    OfData (fun s => processPduFunction cfg s pdu len capacity) ∧
      Repeats fun s => processPduFunction cfg s pdu len capacity := by
  have hrefuse : ∀ e : Byte, OfData (fun s => ((.error e : Except Byte (List Byte)),s)) ∧
      Repeats fun s => ((.error e : Except Byte (List Byte)),s) := fun e =>
    ⟨(Assigning.refuse _).ofData,(Assigning.refuse _).repeats⟩
  have hwrite : ∀ {handler : Server → Except Byte (List Byte) × Server}, Assigning handler →
      OfData handler ∧ Repeats handler := fun h => ⟨h.ofData,h.repeats⟩
  have hread : ∀ {handler : Server → Except Byte (List Byte) × Server}, OfData handler →
      (∀ s, (handler s).2.data = s.data) → OfData handler ∧ Repeats handler := fun h hq =>
    ⟨h,.of_quiet h hq⟩
  unfold processPduFunction
  by_cases hlen : len = 0
  · simp only [if_pos hlen]
    exact hrefuse _
  simp only [if_neg hlen]
  split
  · exact hread (readBits_ofData _ _ _ _ _ _) fun s => (readBits_handles s pdu len capacity _ _ _).2.1
  · exact hread (readBits_ofData _ _ _ _ _ _) fun s => (readBits_handles s pdu len capacity _ _ _).2.1
  · exact hread (readRegisters_ofData _ _ _ _ _ _) fun s =>
      (readRegisters_handles s pdu len capacity _ _ _).2.1
  · exact hread (readRegisters_ofData _ _ _ _ _ _) fun s =>
      (readRegisters_handles s pdu len capacity _ _ _).2.1
  · exact hwrite (writeSingleCoil_assigning cfg pdu len capacity)
  · exact hwrite (writeSingleRegister_assigning cfg pdu len capacity)
  · exact hwrite (writeMultipleCoils_assigning cfg pdu len capacity)
  · exact hwrite (writeMultipleRegisters_assigning cfg pdu len capacity)
  · exact hread (mbFileRecordProcessReadRequest_ofData pdu len capacity) fun s =>
      (mbFileRecordProcessReadRequest_handles s pdu len capacity).2.1
  · exact mbFileRecordProcessWriteRequest_repeats pdu len capacity
  · exact hwrite (maskWriteRegister_assigning cfg pdu len capacity)
  · exact hwrite (readWriteMultipleRegisters_assigning cfg pdu len capacity)
  · exact hread (mbFifoProcessReadRequest_ofData pdu len capacity) fun s =>
      (mbFifoProcessReadRequest_handles s pdu len capacity).2.1
  · exact hread (mbMeiProcessRequest_ofData cfg pdu len capacity) fun s =>
      (mbMeiProcessRequest_handles cfg s pdu len capacity).2.1
  · exact hrefuse _

end Writes

def pduEffect (cfg : Platform) (pdu : Mem Byte) (len capacity : Nat) (d : DataModel) :
    Except PduError (List Byte) × DataModel :=
  let out := mbProcessPdu cfg ⟨d,.cleared,[]⟩ pdu len capacity
  (out.1,out.2.data)

section Effects
variable (cfg : Platform) (pdu : Mem Byte) (len capacity : Nat)

theorem mbProcessPdu_repeats :
    OfData (fun s => mbProcessPdu cfg s pdu len capacity) ∧
      Repeats fun s => mbProcessPdu cfg s pdu len capacity := by
  obtain ⟨hdata,hrepeats⟩ := processPduFunction_repeats cfg pdu len capacity
  have hanswer : ∀ s s', SameEffect (processPduFunction cfg s pdu len capacity)
      (processPduFunction cfg s' pdu len capacity) → ¬ (len = 0 ∨ modbusPduMaxSize < len) →
      ¬ capacity < 2 → SameEffect (mbProcessPdu cfg s pdu len capacity)
        (mbProcessPdu cfg s' pdu len capacity) := by
    intro s s' h hlen hroom
    simp only [mbProcessPdu,if_neg hlen,if_neg hroom]
    generalize processPduFunction cfg s pdu len capacity = out at h
    generalize processPduFunction cfg s' pdu len capacity = out' at h
    obtain ⟨answer,after⟩ := out
    obtain ⟨answer',after'⟩ := out'
    obtain ⟨rfl,h⟩ := h
    cases answer <;> exact .refl h
  have hafter : ∀ s, ¬ (len = 0 ∨ modbusPduMaxSize < len) → ¬ capacity < 2 →
      (mbProcessPdu cfg s pdu len capacity).2 = (processPduFunction cfg s pdu len capacity).2 := by
    intro s hlen hroom
    simp only [mbProcessPdu,if_neg hlen,if_neg hroom]
    split <;> rename_i h <;> rw [h]
  constructor
  · intro s s' h
    by_cases hlen : len = 0 ∨ modbusPduMaxSize < len
    · simp only [mbProcessPdu,if_pos hlen]
      exact .refl h
    by_cases hroom : capacity < 2
    · simp only [mbProcessPdu,if_neg hlen,if_pos hroom]
      exact .refl h
    exact hanswer s s' (hdata s s' h) hlen hroom
  · intro s s' h
    by_cases hlen : len = 0 ∨ modbusPduMaxSize < len
    · simp only [mbProcessPdu,if_pos hlen] at h ⊢
      exact .refl h
    by_cases hroom : capacity < 2
    · simp only [mbProcessPdu,if_neg hlen,if_pos hroom] at h ⊢
      exact .refl h
    rw [hafter s hlen hroom] at h
    exact hanswer s' s (hrepeats s s' h) hlen hroom

theorem mbProcessPdu_effect (s : Server) :
    (mbProcessPdu cfg s pdu len capacity).1 = (pduEffect cfg pdu len capacity s.data).1 ∧
      (mbProcessPdu cfg s pdu len capacity).2.data = (pduEffect cfg pdu len capacity s.data).2 :=
  (mbProcessPdu_repeats cfg pdu len capacity).1 s ⟨s.data,.cleared,[]⟩ rfl

theorem pduEffect_repeatable : Repeatable (pduEffect cfg pdu len capacity) := by
  intro d
  have h := (mbProcessPdu_repeats cfg pdu len capacity).2 ⟨d,.cleared,[]⟩
    ⟨(pduEffect cfg pdu len capacity d).2,.cleared,[]⟩ rfl
  exact Prod.ext h.1 h.2

theorem executed_data (n : Nat) (s : Server) :
    (executed (fun s => mbProcessPdu cfg s pdu len capacity) n s).data =
      executed (pduEffect cfg pdu len capacity) n s.data := by
  induction n with
  | zero => rfl
  | succ n ih => rw [executed_succ,executed_succ,(mbProcessPdu_effect cfg pdu len capacity _).2,ih]

end Effects

/-- However often a PDU is carried out again, it gets its first answer, and the data model is as
after the first time. MEI handlers are taken to answer the same call alike every time and to leave
the data model alone. -/
theorem mbProcessPdu_retransmitted (cfg : Platform) (s : Server) (pdu : Mem Byte)
    (len capacity n : Nat) :
    (mbProcessPdu cfg (executed (fun s => mbProcessPdu cfg s pdu len capacity) n s) pdu len
        capacity).1 = (mbProcessPdu cfg s pdu len capacity).1 ∧
      (executed (fun s => mbProcessPdu cfg s pdu len capacity) (n+1) s).data =
        (mbProcessPdu cfg s pdu len capacity).2.data := by
  have hrepeatable := pduEffect_repeatable cfg pdu len capacity
  constructor
  · rw [(mbProcessPdu_effect cfg pdu len capacity _).1,executed_data,answer_executed hrepeatable,
      (mbProcessPdu_effect cfg pdu len capacity s).1]
  · rw [executed_data,executed_of_pos hrepeatable (Nat.succ_pos n),
      (mbProcessPdu_effect cfg pdu len capacity s).2]

end ModbusStack
