import ModbusStack.TcpReassembly

/-! Any interleaving of callbacks over any number of connections: what each connection is
handed, answered and aborted for depends on its own stream alone. -/
set_option autoImplicit false

namespace ModbusStack
open ByteMemory Machine StreamFraming

section Log
variable (c : Nat)

def receivedBy (log : List TcpEvent) : List Byte :=
  log.flatMap fun
    | .received pcb bytes => if pcb = c then bytes else []
    | _ => []

def handedBy (log : List TcpEvent) : List (List Byte) :=
  log.filterMap fun
    | .handed pcb adu => if pcb = c then some adu else none
    | _ => none

def writtenBy (log : List TcpEvent) : List (List Byte) :=
  log.filterMap fun
    | .written pcb response => if pcb = c then some response else none
    | _ => none

def handedAll (log : List TcpEvent) : List (Nat × List Byte) :=
  log.filterMap fun
    | .handed pcb adu => some (pcb,adu)
    | _ => none

@[simp] theorem receivedBy_append (log log' : List TcpEvent) :
    receivedBy c (log ++ log') = receivedBy c log ++ receivedBy c log' := by
  simp [receivedBy]

@[simp] theorem handedBy_append (log log' : List TcpEvent) :
    handedBy c (log ++ log') = handedBy c log ++ handedBy c log' := by
  simp [handedBy]

@[simp] theorem writtenBy_append (log log' : List TcpEvent) :
    writtenBy c (log ++ log') = writtenBy c log ++ writtenBy c log' := by
  simp [writtenBy]

@[simp] theorem handedAll_append (log log' : List TcpEvent) :
    handedAll (log ++ log') = handedAll log ++ handedAll log' := by
  simp [handedAll]

end Log

def replay (cfg : Platform) (s : Server) : List (Nat × List Byte) → List (Nat × List Byte) × Server
  | [] => ([],s)
  | (pcb,adu) :: rest =>
    let out := mbtcpProcessAdu cfg s (ofList adu) adu.length tcpAduMaxSize
    let answer := match out.1 with
      | .ok response => [(pcb,response)]
      | .error _ => []
    (answer ++ (replay cfg out.2 rest).1,(replay cfg out.2 rest).2)

def answersFor (c : Nat) (answers : List (Nat × List Byte)) : List (List Byte) :=
  answers.filterMap fun p => if p.1 = c then some p.2 else none

theorem replay_append (cfg : Platform) (s : Server) (xs ys : List (Nat × List Byte)) :
    replay cfg s (xs ++ ys) =
      ((replay cfg s xs).1 ++ (replay cfg (replay cfg s xs).2 ys).1,
        (replay cfg (replay cfg s xs).2 ys).2) := by
  induction xs generalizing s with
  | nil => simp [replay]
  | cons x xs ih => simp [replay,ih]

theorem exchange_log (cfg : Platform) (pcb : Nat) (s : Server) (adus : List (List Byte)) :
    (∀ c, receivedBy c (exchange cfg pcb s adus).1 = []) ∧
    (∀ c, handedBy c (exchange cfg pcb s adus).1 = if pcb = c then adus else []) ∧
    handedAll (exchange cfg pcb s adus).1 = adus.map (pcb,·) ∧
    (∀ c, writtenBy c (exchange cfg pcb s adus).1 =
      answersFor c (replay cfg s (adus.map (pcb,·))).1) ∧
    (∀ c, .aborted c ∉ (exchange cfg pcb s adus).1) ∧
    (exchange cfg pcb s adus).2 = (replay cfg s (adus.map (pcb,·))).2 := by
  induction adus generalizing s with
  | nil => simp [exchange,receivedBy,handedBy,handedAll,writtenBy,replay,answersFor]
  | cons adu adus ih =>
    simp only [exchange,replay,List.map_cons]
    obtain ⟨h1,h2,h3,h4,h5,h6⟩ :=
      ih (mbtcpProcessAdu cfg s (ofList adu) adu.length tcpAduMaxSize).2
    cases (mbtcpProcessAdu cfg s (ofList adu) adu.length tcpAduMaxSize).1 with
    | error e =>
      refine ⟨fun c => ?_,fun c => ?_,?_,fun c => ?_,fun c => ?_,h6⟩
      · exact h1 c
      · have := h2 c
        simp only [handedBy] at this ⊢
        by_cases hc : pcb = c <;> simp [hc] at this ⊢ <;> exact this
      · simp only [handedAll] at h3 ⊢
        simpa using h3
      · exact h4 c
      · simpa using h5 c
    | ok response =>
      refine ⟨fun c => ?_,fun c => ?_,?_,fun c => ?_,fun c => ?_,h6⟩
      · exact h1 c
      · have := h2 c
        simp only [handedBy] at this ⊢
        by_cases hc : pcb = c <;> simp [hc] at this ⊢ <;> exact this
      · simp only [handedAll] at h3 ⊢
        simpa using h3
      · have := h4 c
        simp only [writtenBy,answersFor] at this ⊢
        by_cases hc : pcb = c <;> simp [hc] at this ⊢ <;> exact this
      · simpa using h5 c

structure Connected (cfg : Platform) (s0 : Server) (t : TcpServer) : Prop where
  slot : ∀ c i, t.arg c = some i → c ≠ 0 ∧ (t.clients i).pcb = c
  waiting : ∀ c i, t.arg c = some i →
    (t.clients i).contents = (mbapFrames (receivedBy c t.log)).rest ∧
      (mbapFrames (receivedBy c t.log)).failed = false
  incomplete : ∀ i, mbapNext (t.clients i).contents = .more
  handed : ∀ c, handedBy c t.log = (mbapFrames (receivedBy c t.log)).frames
  aborted : ∀ c, .aborted c ∈ t.log ↔ (mbapFrames (receivedBy c t.log)).failed = true
  answers : ∀ c, writtenBy c t.log = answersFor c (replay cfg s0 (handedAll t.log)).1
  server : t.server = (replay cfg s0 (handedAll t.log)).2

structure Fresh (t : TcpServer) (c : Nat) : Prop where
  arg : t.arg c = none
  received : receivedBy c t.log = []

section Steps
variable {cfg : Platform} {lwip : Lwip} {s0 : Server} {t : TcpServer}

structure ConnectedExcept (cfg : Platform) (s0 : Server) (c i : Nat) (t : TcpServer) : Prop where
  own : t.arg c = some i
  slot : ∀ c' j, t.arg c' = some j → c' ≠ 0 ∧ (t.clients j).pcb = c'
  waiting : ∀ c' j, c' ≠ c → t.arg c' = some j →
    (t.clients j).contents = (mbapFrames (receivedBy c' t.log)).rest ∧
      (mbapFrames (receivedBy c' t.log)).failed = false
  incomplete : ∀ j, j ≠ i → mbapNext (t.clients j).contents = .more
  handed : ∀ c', handedBy c' t.log = (mbapFrames (receivedBy c' t.log)).frames
  aborted : ∀ c', c' ≠ c → (.aborted c' ∈ t.log ↔ (mbapFrames (receivedBy c' t.log)).failed = true)
  alive : .aborted c ∉ t.log
  answers : ∀ c', writtenBy c' t.log = answersFor c' (replay cfg s0 (handedAll t.log)).1
  server : t.server = (replay cfg s0 (handedAll t.log)).2

theorem Connected.except (h : Connected cfg s0 t) {c i : Nat} (hi : t.arg c = some i) :
    ConnectedExcept cfg s0 c i t :=
  ⟨hi,h.slot,fun c' j _ => h.waiting c' j,fun j _ => h.incomplete j,h.handed,
    fun c' _ => h.aborted c',by rw [h.aborted,(h.waiting c i hi).2]; simp,h.answers,h.server⟩

def TcpEvent.isEnd (c : Nat) (e : TcpEvent) : Prop := e = .closed c ∨ e = .aborted c

theorem ConnectedExcept.release {c i : Nat} (h : ConnectedExcept cfg s0 c i t) (e : TcpEvent)
    (he : e.isEnd c) (hab : e = .aborted c ↔ (mbapFrames (receivedBy c t.log)).failed = true) :
    Connected cfg s0 ((releaseClient { t with arg := put t.arg c none } i).emit e) := by
  have hsilent : (∀ c', receivedBy c' [e] = [] ∧ handedBy c' [e] = [] ∧ writtenBy c' [e] = []) ∧
      handedAll [e] = [] := by
    rcases he with rfl | rfl <;> exact ⟨fun _ => ⟨rfl,rfl,rfl⟩,rfl⟩
  obtain ⟨hs,hall⟩ := hsilent
  have hlog : ((releaseClient { t with arg := put t.arg c none } i).emit e).log = t.log ++ [e] := rfl
  have hother : ∀ j, j ≠ i → ((releaseClient { t with arg := put t.arg c none } i).emit e).clients j =
    t.clients j := fun j hj => put_other _ _ _ _ hj
  have hkeep : ∀ c' j, put t.arg c none c' = some j → c' ≠ c ∧ t.arg c' = some j ∧ j ≠ i := by
    intro c' j hj
    by_cases hc : c' = c
    · subst hc
      simp at hj
    · rw [put_other _ _ _ _ hc] at hj
      refine ⟨hc,hj,?_⟩
      rintro rfl
      exact hc ((h.slot c' j hj).2.symm.trans (h.slot c j h.own).2)
  refine ⟨?_,?_,?_,?_,?_,?_,?_⟩
  · intro c' j hj
    obtain ⟨-,h1,h2⟩ := hkeep c' j hj
    rw [hother j h2]
    exact h.slot c' j h1
  · intro c' j hj
    obtain ⟨h0,h1,h2⟩ := hkeep c' j hj
    rw [hother j h2,hlog,receivedBy_append,(hs c').1,List.append_nil]
    exact h.waiting c' j h0 h1
  · intro j
    by_cases hj : j = i
    · subst hj
      have : ((releaseClient { t with arg := put t.arg c none } j).emit e).clients j =
        { t.clients j with pcb := 0, rxCount := 0 } := put_same _ _ _
      rw [this]
      rfl
    · rw [hother j hj]
      exact h.incomplete j hj
  · intro c'
    rw [hlog,handedBy_append,receivedBy_append,(hs c').1,(hs c').2.1,List.append_nil,List.append_nil]
    exact h.handed c'
  · intro c'
    rw [hlog,receivedBy_append,(hs c').1,List.append_nil,List.mem_append,List.mem_singleton]
    by_cases hc : c' = c
    · subst hc
      rw [← hab,eq_comm]
      exact ⟨fun h' => h'.resolve_left h.alive,Or.inr⟩
    · rw [← h.aborted c' hc]
      refine ⟨fun h' => h'.resolve_right ?_,Or.inl⟩
      rcases he with rfl | rfl
      · simp
      · simpa using hc
  · intro c'
    rw [hlog,writtenBy_append,handedAll_append,hall,(hs c').2.2,List.append_nil,List.append_nil]
    exact h.answers c'
  · rw [hlog,handedAll_append,hall,List.append_nil]
    exact h.server

/-- Working through a packet: everything is as it should be, up to this connection's slot. -/
theorem Connected.feed (h : Connected cfg s0 t) {c i : Nat} (hi : t.arg c = some i)
    (bytes : List Byte) {out : Bool × TcpServer}
    (hfed : Fed cfg i ((t.clients i).contents ++ bytes) (t.emit (.received c bytes)) out) :
    ConnectedExcept cfg s0 c i out.2 ∧
      mbapFrames (receivedBy c out.2.log) = (mbapFrames ((t.clients i).contents ++ bytes)).prepend
        (mbapFrames (receivedBy c t.log)).frames := by
  have hpcb : (t.clients i).pcb = c := (h.slot c i hi).2
  obtain ⟨hrest,hfailed⟩ := h.waiting c i hi
  have hlog : out.2.log = t.log ++ [.received c bytes] ++
      (exchange cfg c t.server (mbapFrames ((t.clients i).contents ++ bytes)).frames).1 := by
    rw [hfed.log]
    simp only [TcpServer.emit,hpcb]
  have hserver : out.2.server =
      (exchange cfg c t.server (mbapFrames ((t.clients i).contents ++ bytes)).frames).2 := by
    rw [hfed.server]
    simp only [TcpServer.emit,hpcb]
  obtain ⟨e1,e2,e3,e4,e5,e6⟩ := exchange_log cfg c t.server
    (mbapFrames ((t.clients i).contents ++ bytes)).frames
  have hrecv : ∀ c', receivedBy c' out.2.log =
      receivedBy c' t.log ++ if c = c' then bytes else [] := by
    intro c'
    rw [hlog,receivedBy_append,receivedBy_append,e1 c']
    simp [receivedBy]
  have hframes : mbapFrames (receivedBy c out.2.log) =
      (mbapFrames ((t.clients i).contents ++ bytes)).prepend
        (mbapFrames (receivedBy c t.log)).frames := by
    rw [hrecv c,if_pos rfl,hrest]
    simp only [mbapFrames] at hfailed ⊢
    rw [deframe_append,hfailed]
    rfl
  have hsame : ∀ c', c' ≠ c → receivedBy c' out.2.log = receivedBy c' t.log := by
    intro c' hc
    rw [hrecv c',if_neg (Ne.symm hc),List.append_nil]
  have harg : out.2.arg = t.arg := hfed.arg
  have hmem : ∀ c', .aborted c' ∈ out.2.log ↔ .aborted c' ∈ t.log := by
    intro c'
    rw [hlog]
    simp [e5 c']
  have hall : handedAll out.2.log = handedAll t.log ++
      (mbapFrames ((t.clients i).contents ++ bytes)).frames.map (c,·) := by
    rw [hlog,handedAll_append,handedAll_append,e3]
    simp [handedAll]
  have hslot_ne : ∀ c' j, c' ≠ c → t.arg c' = some j → j ≠ i := by
    rintro c' j hc hj rfl
    exact hc ((h.slot c' j hj).2.symm.trans hpcb)
  refine ⟨⟨by rw [harg]; exact hi,?_,?_,?_,?_,?_,?_,?_,?_⟩,hframes⟩
  · intro c' j hj
    rw [harg] at hj
    by_cases hji : j = i
    · subst hji
      rw [hfed.pcb]
      exact h.slot c' j hj
    · rw [hfed.others j hji]
      exact h.slot c' j hj
  · intro c' j hc hj
    rw [harg] at hj
    rw [hfed.others j (hslot_ne c' j hc hj),hsame c' hc]
    exact h.waiting c' j hj
  · intro j hj
    rw [hfed.others j hj]
    exact h.incomplete j
  · intro c'
    rw [hlog,handedBy_append,handedBy_append,e2 c',← hlog,h.handed c']
    by_cases hc : c' = c
    · subst hc
      rw [hframes,if_pos rfl]
      simp [handedBy,Deframed.prepend]
    · rw [hsame c' hc,if_neg (Ne.symm hc)]
      simp [handedBy]
  · intro c' hc
    rw [hmem,hsame c' hc]
    exact h.aborted c'
  · rw [hmem,h.aborted,hfailed]
    simp
  · intro c'
    rw [hall,replay_append,← h.server,hlog,writtenBy_append,writtenBy_append,e4 c',h.answers c']
    simp [writtenBy,answersFor]
  · rw [hall,replay_append,← h.server,hserver]
    exact e6

theorem Connected.receive (h : Connected cfg s0 t)
    (hwrite : ∀ pcb response, lwip.tcpWrite pcb response = 0) (c : Nat)
    (packet : Option (List (List Byte))) (error : Int) :
    Connected cfg s0 (mbReceive cfg lwip t c packet error).2 := by
  simp only [mbReceive]
  cases hi : t.arg c with
  | none => exact h
  | some i =>
    cases packet with
    | none =>
      have hrel := (h.except hi).release (.closed c) (Or.inl rfl) (by simp [(h.waiting c i hi).2])
      simp only
      split <;> exact hrel
    | some parts =>
      simp only
      split
      · exact h
      · have hfed := feedSegments_fed cfg hwrite parts
          (t.emit (.received c parts.flatten)) (h.incomplete i)
        obtain ⟨hex,hframes⟩ := h.feed hi parts.flatten hfed
        rcases hout : feedSegments cfg lwip i parts (t.emit (.received c parts.flatten)) with ⟨ok,t'⟩
        rw [hout] at hfed hex hframes
        have hfailed : (mbapFrames (receivedBy c t'.log)).failed = !ok := by
          rw [hframes]
          simpa [Deframed.prepend,TcpServer.emit] using (congrArg Bool.not hfed.ok).symm
        cases ok with
        | false => exact hex.release (.aborted c) (Or.inr rfl) (by simp [hfailed])
        | true =>
          obtain ⟨hrest,hnext⟩ := hfed.next_contents
          show Connected cfg s0 t'
          simp only at hex hframes
          refine ⟨hex.slot,fun c' j hj => ?_,fun j => ?_,hex.handed,fun c' => ?_,hex.answers,
            hex.server⟩
          · by_cases hc : c' = c
            · subst hc
              obtain rfl : i = j := by
                have := hex.own
                rw [hj] at this
                exact (Option.some.inj this).symm
              refine ⟨?_,hfailed⟩
              rw [hrest,hframes]
              rfl
            · exact hex.waiting c' j hc hj
          · by_cases hj : j = i
            · subst hj
              exact hnext
            · exact hex.incomplete j hj
          · by_cases hc : c' = c
            · subst hc
              rw [hfailed]
              simpa using hex.alive
            · exact hex.aborted c' hc

theorem Connected.connectionError (h : Connected cfg s0 t) (c : Nat) :
    Connected cfg s0 (mbConnectionError t c).2 := by
  simp only [mbConnectionError]
  cases hi : t.arg c with
  | none => exact h
  | some i => exact (h.except hi).release (.closed c) (Or.inl rfl) (by simp [(h.waiting c i hi).2])

theorem Connected.accept (h : Connected cfg s0 t) (c : Nat) (error : Int)
    (hfresh : error = 0 → c ≠ 0 → Fresh t c) :
    Connected cfg s0 (mbAccept cfg t c error).2 := by
  simp only [mbAccept]
  split
  · exact h
  rename_i hok
  have hf : Fresh t c := hfresh (by tauto) (by tauto)
  have hempty : mbapFrames [] = ⟨[],[],false⟩ := deframe_more rfl
  simp only [allocateClient]
  cases hfind : (List.range cfg.tcpMaxClients).find? fun i => decide ((t.clients i).pcb = 0) with
  | none =>
    refine ⟨h.slot,?_,h.incomplete,?_,?_,?_,?_⟩
    all_goals simp only [TcpServer.emit,receivedBy_append,handedBy_append,writtenBy_append,
      handedAll_append]
    · intro c' i hi
      simpa [receivedBy] using h.waiting c' i hi
    · intro c'
      simpa [receivedBy,handedBy] using h.handed c'
    · intro c'
      simpa [receivedBy] using h.aborted c'
    · intro c'
      simpa [writtenBy,handedAll] using h.answers c'
    · simpa [handedAll] using h.server
  | some i =>
    have hfree : (t.clients i).pcb = 0 := by simpa using List.find?_some hfind
    have hne : ∀ c' j, t.arg c' = some j → j ≠ i := by
      rintro c' j hj rfl
      have := h.slot c' j hj
      omega
    have hkeep : ∀ c' j, put t.arg c (some i) c' = some j →
        (c' = c ∧ j = i) ∨ (t.arg c' = some j ∧ j ≠ i) := by
      intro c' j hj
      by_cases hc : c' = c
      · subst hc
        rw [put_same] at hj
        exact Or.inl ⟨rfl,(Option.some.inj hj).symm⟩
      · rw [put_other _ _ _ _ hc] at hj
        exact Or.inr ⟨hj,hne c' j hj⟩
    refine ⟨?_,?_,?_,?_,?_,?_,?_⟩
    all_goals simp only [TcpServer.emit,TcpServer.setClient,receivedBy_append,handedBy_append,
      writtenBy_append,handedAll_append]
    · intro c' j hj
      rcases hkeep c' j hj with ⟨rfl,rfl⟩ | ⟨hj',hji⟩
      · rw [put_same]
        exact ⟨by tauto,rfl⟩
      · rw [put_other _ _ _ _ hji]
        exact h.slot c' j hj'
    · intro c' j hj
      rcases hkeep c' j hj with ⟨rfl,rfl⟩ | ⟨hj',hji⟩
      · rw [put_same,hf.received]
        simp [receivedBy,hempty,TcpClient.contents]
      · rw [put_other _ _ _ _ hji]
        simpa [receivedBy] using h.waiting c' j hj'
    · intro j
      by_cases hji : j = i
      · subst hji
        rw [put_same]
        rfl
      · rw [put_other _ _ _ _ hji]
        exact h.incomplete j
    · intro c'
      simpa [receivedBy,handedBy] using h.handed c'
    · intro c'
      simpa [receivedBy] using h.aborted c'
    · intro c'
      simpa [writtenBy,handedAll] using h.answers c'
    · simpa [handedAll] using h.server

def TcpCallback.opens : TcpCallback → Option Nat
  | .accept newPcb error => if error ≠ 0 ∨ newPcb = 0 then none else some newPcb
  | _ => none

end Steps

end ModbusStack
