import ModbusStack.InBounds
import ModbusStack.Machine
import ModbusStack.ResponseBounds
import ModbusStack.StreamFraming
import ModbusStack.TcpServer

/-! Stream reassembly: whatever the callbacks, the segments and the slots, each connection's
own stream is cut into its MBAP frames. -/
set_option autoImplicit false

namespace ModbusStack
open ByteMemory Machine StreamFraming

def mbapLength (bs : List Byte) : Nat := (be16 (ofList bs 4) (ofList bs 5)).toNat

def mbapNext (bs : List Byte) : Verdict :=
  if bs.length < 7 then .more
  else if mbapLength bs < 2 ∨ 254 < mbapLength bs then .malformed
  else if bs.length < 6+mbapLength bs then .more
  else .frame (6+mbapLength bs)

theorem mbapLength_append (bs cs : List Byte) (h : 7 ≤ bs.length) :
    mbapLength (bs ++ cs) = mbapLength bs := by
  simp only [mbapLength]
  rw [ofList_append_left bs cs 4 (by omega),ofList_append_left bs cs 5 (by omega)]

/-- The MBAP frame format: the length is in bytes 4 and 5 and must be 2 to 254. -/
def mbap : Delimiter Byte where
  next := mbapNext
  next_frame := by
    intro bs n h
    simp only [mbapNext] at h
    split at h
    · cases h
    split at h
    · cases h
    split at h
    · cases h
    · cases h
      omega
  next_append := by
    intro bs cs h
    simp only [mbapNext] at h ⊢
    split at h
    · exact absurd rfl h
    rename_i h7
    rw [mbapLength_append bs cs (by omega)]
    simp only [List.length_append,h7,show ¬ bs.length+cs.length < 7 by omega,if_false]
    split
    · rfl
    rename_i hbad
    simp only [hbad,if_false] at h
    split at h
    · exact absurd rfl h
    rename_i hlen
    rw [if_neg (by omega),if_neg hlen]

def hasModbusProtocol (adu : List Byte) : Bool := ofList adu 2 = 0#8 ∧ ofList adu 3 = 0#8

def mbapFrames (stream : List Byte) : Deframed Byte := deframe mbap hasModbusProtocol stream

theorem mbapNext_frame {bs : List Byte} {n : Nat} (h : mbapNext bs = .frame n) :
    n = 6+mbapLength bs ∧ 2 ≤ mbapLength bs ∧ mbapLength bs ≤ 254 ∧ n ≤ bs.length := by
  simp only [mbapNext] at h
  split at h
  · cases h
  split at h
  · cases h
  split at h
  · cases h
  · cases h
    omega

theorem mbapNext_more {bs : List Byte} (h : mbapNext bs = .more) : bs.length ≤ 259 := by
  simp only [mbapNext] at h
  split at h
  · omega
  split at h
  · cases h
  split at h
  · omega
  · cases h

/-- A delimited frame is answered exactly when its protocol id is zero. -/
theorem mbtcpProcessAdu_frame (cfg : Platform) (s : Server) {bs : List Byte} {n : Nat}
    (h : mbapNext bs = .frame n) :
    (∃ r, (mbtcpProcessAdu cfg s (ofList (bs.take n)) n tcpAduMaxSize).1 = .ok r) ↔
      hasModbusProtocol (bs.take n) = true := by
  obtain ⟨hn,h2,h254,hle⟩ := mbapNext_frame h
  have hlen : (bs.take n).length = n := by simp [hle]
  have happ : ∀ i, i < n → ofList (bs.take n) i = ofList bs i := by
    intro i hi
    have := ofList_append_left (bs.take n) (bs.drop n) i (by omega)
    rw [List.take_append_drop] at this
    exact this.symm
  have hfield : (readBe16 ((ofList (bs.take n)).off 4)).toNat = mbapLength bs := by
    rw [readBe16_off,happ 4 (by omega),happ 5 (by omega)]
    rfl
  have hsize : ¬ (n < 8 ∨ 260 < n) := by omega
  simp only [mbtcpProcessAdu,hsize,if_false,hfield,hasModbusProtocol,decide_eq_true_eq]
  split
  · rename_i hp
    constructor
    · rintro ⟨r,hr⟩
      cases hr
    · tauto
  · rename_i hp
    rw [if_neg (by omega),if_neg (by decide)]
    obtain ⟨r,s',hr⟩ := mbProcessPdu_ok cfg s ((ofList (bs.take n)).off 7) (n-7) (tcpAduMaxSize-7)
      ⟨by omega,by simp only [modbusPduMaxSize]; omega⟩ (by decide)
    rw [hr]
    exact ⟨fun _ => by tauto,fun _ => ⟨_,rfl⟩⟩

def TcpClient.contents (c : TcpClient) : List Byte := slice c.rxBuffer 0 c.rxCount

/-- What handing over these frames, one after the other, puts in the log and does to the
data model. -/
def exchange (cfg : Platform) (pcb : Nat) (s : Server) : List (List Byte) → List TcpEvent × Server
  | [] => ([],s)
  | adu :: adus =>
    let out := mbtcpProcessAdu cfg s (ofList adu) adu.length tcpAduMaxSize
    let answer := match out.1 with
      | .ok response => [.written pcb response]
      | .error _ => []
    (.handed pcb adu :: answer ++ (exchange cfg pcb out.2 adus).1,(exchange cfg pcb out.2 adus).2)

theorem exchange_append (cfg : Platform) (pcb : Nat) (s : Server) (xs ys : List (List Byte)) :
    exchange cfg pcb s (xs ++ ys) =
      ((exchange cfg pcb s xs).1 ++ (exchange cfg pcb (exchange cfg pcb s xs).2 ys).1,
        (exchange cfg pcb (exchange cfg pcb s xs).2 ys).2) := by
  induction xs generalizing s with
  | nil => simp [exchange]
  | cons x xs ih => simp [exchange,ih]

section Feeding
variable (cfg : Platform) (lwip : Lwip) (i : Nat)

structure Fed (bs : List Byte) (t : TcpServer) (out : Bool × TcpServer) : Prop where
  ok : out.1 = !(mbapFrames bs).failed
  pcb : (out.2.clients i).pcb = (t.clients i).pcb
  others : ∀ j, j ≠ i → out.2.clients j = t.clients j
  arg : out.2.arg = t.arg
  log : out.2.log = t.log ++ (exchange cfg (t.clients i).pcb t.server (mbapFrames bs).frames).1
  server : out.2.server = (exchange cfg (t.clients i).pcb t.server (mbapFrames bs).frames).2
  contents : (mbapFrames bs).failed = false →
    (out.2.clients i).contents = (mbapFrames bs).rest

variable {cfg lwip i}

theorem Fed.incomplete {t : TcpServer} {bs : List Byte} (h : mbapNext bs = .more)
    (hc : (t.clients i).contents = bs) : Fed cfg i bs t (true,t) := by
  have hd : mbapFrames bs = ⟨[],bs,false⟩ := deframe_more h
  exact ⟨by simp [hd],rfl,fun _ _ => rfl,rfl,by simp [hd,exchange],by simp [hd,exchange],
    fun _ => by simp [hd,hc]⟩

theorem Fed.failed_append {t t' : TcpServer} {bs : List Byte} (h : Fed cfg i bs t (false,t'))
    (cs : List Byte) : Fed cfg i (bs ++ cs) t (false,t') := by
  have hf : (mbapFrames bs).failed = true := by simpa using h.ok.symm
  have hd : mbapFrames (bs ++ cs) = { mbapFrames bs with rest := (mbapFrames bs).rest ++ cs } := by
    rw [mbapFrames,deframe_append,← mbapFrames,if_pos hf]
  exact ⟨by rw [hd]; exact h.ok,h.pcb,h.others,h.arg,by rw [hd]; exact h.log,
    by rw [hd]; exact h.server,by rw [hd]; simp [hf]⟩

theorem Fed.trans {t t' : TcpServer} {bs cs : List Byte} {out : Bool × TcpServer}
    (h : Fed cfg i bs t (true,t')) (h' : Fed cfg i ((mbapFrames bs).rest ++ cs) t' out) :
    Fed cfg i (bs ++ cs) t out := by
  have hf : (mbapFrames bs).failed = false := by simpa using h.ok.symm
  have hd : mbapFrames (bs ++ cs) =
      (mbapFrames ((mbapFrames bs).rest ++ cs)).prepend (mbapFrames bs).frames := by
    simp only [mbapFrames]
    rw [deframe_append,← mbapFrames,if_neg (by simp [hf])]
  have hpcb : (t'.clients i).pcb = (t.clients i).pcb := h.pcb
  have hserver := h.server
  have hlog := h.log
  simp only at hserver hlog
  refine ⟨by rw [hd]; exact h'.ok,h'.pcb.trans hpcb,
    fun j hj => (h'.others j hj).trans (h.others j hj),h'.arg.trans h.arg,?_,?_,?_⟩
  · rw [hd,h'.log,hpcb,hserver,hlog]
    simp [Deframed.prepend,exchange_append]
  · rw [hd,h'.server,hpcb,hserver]
    simp [Deframed.prepend,exchange_append]
  · rw [hd]
    exact h'.contents

theorem Fed.of_setClient {t : TcpServer} {c : TcpClient} {bs : List Byte} {out : Bool × TcpServer}
    (h : Fed cfg i bs (t.setClient i c) out) (hc : c.pcb = (t.clients i).pcb) :
    Fed cfg i bs t out := by
  have hself : (t.setClient i c).clients i = c := put_same _ _ _
  have hlog := h.log
  have hserver := h.server
  have hpcb := h.pcb
  rw [hself,hc] at hlog hserver hpcb
  exact ⟨h.ok,hpcb,fun j hj => (h.others j hj).trans (put_other _ _ _ _ hj),h.arg,hlog,hserver,
    h.contents⟩

theorem Fed.next_contents {t t' : TcpServer} {bs : List Byte} (h : Fed cfg i bs t (true,t')) :
    (t'.clients i).contents = (mbapFrames bs).rest ∧ mbapNext (t'.clients i).contents = .more := by
  have hf : (mbapFrames bs).failed = false := by simpa using h.ok.symm
  have hrest := h.contents hf
  refine ⟨hrest,?_⟩
  simp only at hrest
  rw [hrest]
  exact next_rest _ hf

/-- The code's size test and the frame format agree on what a slot holds. -/
theorem mbapNext_contents (c : TcpClient) :
    mbapNext c.contents = match expectedAduSize c.rxBuffer c.rxCount with
      | .unknown => .more
      | .invalid => .malformed
      | .known n => if c.rxCount < n then .more else .frame n := by
  have hlen : c.contents.length = c.rxCount := by simp [TcpClient.contents]
  simp only [mbapNext,expectedAduSize,hlen]
  split
  · rfl
  · have hagree := agreeUpTo_ofList_slice c.rxBuffer c.rxCount
    have hfield : mbapLength c.contents = (be16 (c.rxBuffer 4) (c.rxBuffer 5)).toNat := by
      simp only [mbapLength,TcpClient.contents]
      rw [← hagree 4 (by omega),← hagree 5 (by omega)]
    rw [hfield]
    by_cases hbad : (be16 (c.rxBuffer 4) (c.rxBuffer 5)).toNat < 2 ∨
        254 < (be16 (c.rxBuffer 4) (c.rxBuffer 5)).toNat
    · have hbad' : (be16 (c.rxBuffer 4) (c.rxBuffer 5)).toNat < 2 ∨
          tcpAduMaxSize < 6+(be16 (c.rxBuffer 4) (c.rxBuffer 5)).toNat := by
        simp only [tcpAduMaxSize]
        omega
      simp only [hbad,hbad',if_true]
    · have hgood : ¬ ((be16 (c.rxBuffer 4) (c.rxBuffer 5)).toNat < 2 ∨
          tcpAduMaxSize < 6+(be16 (c.rxBuffer 4) (c.rxBuffer 5)).toNat) := by
        simp only [tcpAduMaxSize]
        omega
      simp only [hbad,hgood,if_false]

theorem contents_after_frame (c : TcpClient) (n pcb : Nat) :
    TcpClient.contents ⟨pcb,if 0 < c.rxCount-n then
      store c.rxBuffer 0 (slice c.rxBuffer n (c.rxCount-n)) else c.rxBuffer,c.rxCount-n⟩ =
    c.contents.drop n := by
  simp only [TcpClient.contents,slice_drop,Nat.zero_add]
  split
  · have := slice_store c.rxBuffer 0 (slice c.rxBuffer n (c.rxCount-n))
    simpa using this
  · rw [show c.rxCount-n = 0 by omega]
    rfl

variable (cfg)

theorem processBufferedFrames_fed (hwrite : ∀ pcb response, lwip.tcpWrite pcb response = 0)
    (fuel : Nat) (t : TcpServer) (hfuel : (t.clients i).rxCount ≤ fuel) :
    Fed cfg i (t.clients i).contents t (processBufferedFrames cfg lwip i fuel t) := by
  induction fuel generalizing t with
  | zero =>
    refine Fed.incomplete ?_ rfl
    simp [mbapNext,TcpClient.contents,show (t.clients i).rxCount = 0 by omega]
  | succ fuel ih =>
    have hnext := mbapNext_contents (t.clients i)
    simp only [processBufferedFrames]
    cases hsize : expectedAduSize (t.clients i).rxBuffer (t.clients i).rxCount with
    | unknown =>
      rw [hsize] at hnext
      exact Fed.incomplete hnext rfl
    | invalid =>
      rw [hsize] at hnext
      have hd : mbapFrames (t.clients i).contents = ⟨[],(t.clients i).contents,true⟩ :=
        deframe_malformed hnext
      exact ⟨by simp [hd],rfl,fun _ _ => rfl,rfl,by simp [hd,exchange],by simp [hd,exchange],
        by simp [hd]⟩
    | known n =>
      rw [hsize] at hnext
      simp only at hnext ⊢
      split
      · rename_i hlt
        rw [if_pos hlt] at hnext
        exact Fed.incomplete hnext rfl
      · rename_i hge
        rw [if_neg hge] at hnext
        have htake : slice (t.clients i).rxBuffer 0 n = (t.clients i).contents.take n := by
          rw [TcpClient.contents,slice_take _ _ _ _ (by omega)]
        have hlen : ((t.clients i).contents.take n).length = n := by
          rw [← htake]
          simp
        have hagree := agreeUpTo_ofList_slice (t.clients i).rxBuffer n
        rw [htake] at hagree
        have hframe := mbtcpProcessAdu_frame cfg t.server hnext
        rw [htake,mbtcpProcessAdu_congr cfg _ _ hagree]
        simp only [TcpServer.emit]
        cases hout : mbtcpProcessAdu cfg t.server (ofList ((t.clients i).contents.take n)) n
            tcpAduMaxSize with
        | mk result server =>
          rw [hout] at hframe
          cases result with
          | error e =>
            have hp : hasModbusProtocol ((t.clients i).contents.take n) = false := by
              rw [← Bool.not_eq_true,← hframe]
              simp
            have hd : mbapFrames (t.clients i).contents = _ := deframe_rejected hnext hp
            exact ⟨by simp [hd],rfl,fun _ _ => rfl,rfl,by simp [hd,exchange,hlen,hout],
              by simp [hd,exchange,hlen,hout],by simp [hd]⟩
          | ok response =>
            have hp : hasModbusProtocol ((t.clients i).contents.take n) = true := by
              rw [← hframe]
              exact ⟨response,rfl⟩
            have hd : mbapFrames (t.clients i).contents = _ := deframe_accepted hnext hp
            have hpos := (mbap.next_frame _ n hnext).1
            simp only [hwrite,ne_eq,not_true_eq_false,if_false]
            have hself : ∀ (u : TcpServer) (c : TcpClient), (u.setClient i c).clients i = c :=
              fun u c => put_same _ _ _
            have hcont := contents_after_frame (t.clients i) n (t.clients i).pcb
            have hrest := ih (({ t with
              server := server
              log := t.log ++ [.handed (t.clients i).pcb ((t.clients i).contents.take n)] ++
                [.written (t.clients i).pcb response] } : TcpServer).setClient i
                ⟨(t.clients i).pcb,if 0 < (t.clients i).rxCount-n then
                  store (t.clients i).rxBuffer 0
                    (slice (t.clients i).rxBuffer n ((t.clients i).rxCount-n))
                  else (t.clients i).rxBuffer,(t.clients i).rxCount-n⟩) (by rw [hself]; simp only; omega)
            rw [hself,hcont] at hrest
            refine ⟨?_,?_,fun j hj => ?_,hrest.arg,?_,?_,?_⟩
            · rw [hd]
              exact hrest.ok
            · rw [hrest.pcb,hself]
            · rw [hrest.others j hj]
              exact put_other _ _ _ _ hj
            · rw [hrest.log,hself,hd]
              simp [TcpServer.setClient,Deframed.prepend,exchange,hlen,hout,mbapFrames]
            · rw [hrest.server,hself,hd]
              simp [TcpServer.setClient,Deframed.prepend,exchange,hlen,hout,mbapFrames]
            · rw [hd]
              exact hrest.contents

def TcpServer.copyIn (t : TcpServer) (i k : Nat) (data : List Byte) : TcpServer :=
  t.setClient i ⟨(t.clients i).pcb,store (t.clients i).rxBuffer (t.clients i).rxCount (data.take k),
    (t.clients i).rxCount+k⟩

/-- The feed loop without the branch for a full buffer. -/
def feedWithoutRefill (cfg : Platform) (lwip : Lwip) (i : Nat) :
    (fuel : Nat) → List Byte → TcpServer → Bool × TcpServer
  | 0, _, t => (true,t)
  | fuel+1, data, t =>
    if data.length = 0 then (true,t)
    else
      let k := min data.length (tcpAduMaxSize-(t.clients i).rxCount)
      let (ok,t) := processBufferedFrames cfg lwip i ((t.clients i).rxCount+k) (t.copyIn i k data)
      if ¬ ok then (false,t) else feedWithoutRefill cfg lwip i fuel (data.drop k) t

/-- One turn: the bytes that fit are copied and worked through, and the slot is again between
frames unless the stream has failed. -/
theorem copyIn_fed (hwrite : ∀ pcb response, lwip.tcpWrite pcb response = 0) (k : Nat)
    (data : List Byte) (t : TcpServer) (hk : k ≤ data.length) :
    Fed cfg i ((t.clients i).contents ++ data.take k) t
      (processBufferedFrames cfg lwip i ((t.clients i).rxCount+k) (t.copyIn i k data)) := by
  have hself : (t.copyIn i k data).clients i = ⟨(t.clients i).pcb,
    store (t.clients i).rxBuffer (t.clients i).rxCount (data.take k),(t.clients i).rxCount+k⟩ :=
    put_same _ _ _
  have hfed := processBufferedFrames_fed cfg hwrite ((t.clients i).rxCount+k)
    (t.copyIn i k data) (by rw [hself])
  have hcont : ((t.copyIn i k data).clients i).contents =
      (t.clients i).contents ++ data.take k := by
    have := slice_store_end (t.clients i).rxBuffer (t.clients i).rxCount (data.take k)
    rwa [show (data.take k).length = k by simp [hk],show (t.clients i).rxCount+k =
      ((t.copyIn i k data).clients i).rxCount by rw [hself],show store (t.clients i).rxBuffer
      (t.clients i).rxCount (data.take k) = ((t.copyIn i k data).clients i).rxBuffer by rw [hself]]
      at this
  rw [hcont] at hfed
  exact hfed.of_setClient rfl

/-- A slot between frames has room, so the full-buffer branch is never taken, and one turn
for each byte is enough. -/
theorem feedReceivedBytes_eq (hwrite : ∀ pcb response, lwip.tcpWrite pcb response = 0)
    (fuel fuel' : Nat) (data : List Byte) (t : TcpServer) (hfuel : data.length ≤ fuel)
    (hfuel' : data.length ≤ fuel') (hmore : mbapNext (t.clients i).contents = .more) :
    feedReceivedBytes cfg lwip i fuel data t = feedWithoutRefill cfg lwip i fuel' data t := by
  induction fuel generalizing fuel' data t with
  | zero =>
    obtain rfl : data = [] := by simpa using hfuel
    cases fuel' <;> simp [feedReceivedBytes,feedWithoutRefill]
  | succ fuel ih =>
    by_cases hdata : data.length = 0
    · cases fuel' <;> simp [feedReceivedBytes,feedWithoutRefill,hdata]
    · obtain ⟨fuel'',rfl⟩ := Nat.exists_eq_succ_of_ne_zero (show fuel' ≠ 0 by omega)
      have hroom : (t.clients i).rxCount ≤ 259 := by
        simpa [TcpClient.contents] using mbapNext_more hmore
      have hfree : ¬ (tcpAduMaxSize-(t.clients i).rxCount = 0) := by
        simp only [tcpAduMaxSize]
        omega
      simp only [feedReceivedBytes,feedWithoutRefill,hdata,hfree,if_false,not_true_eq_false]
      generalize hk : min data.length (tcpAduMaxSize-(t.clients i).rxCount) = k
      have hk1 : 1 ≤ k ∧ k ≤ data.length := by simp only [tcpAduMaxSize] at hk; omega
      have hfed := copyIn_fed cfg (i := i) hwrite k data t hk1.2
      have hcopy : t.setClient i ⟨(t.clients i).pcb,store (t.clients i).rxBuffer
          (t.clients i).rxCount (data.take k),(t.clients i).rxCount+k⟩ = t.copyIn i k data := rfl
      rw [hcopy]
      rcases hout : processBufferedFrames cfg lwip i ((t.clients i).rxCount+k)
        (t.copyIn i k data) with ⟨ok,t'⟩
      rw [hout] at hfed
      cases ok with
      | false => rfl
      | true =>
        exact ih fuel'' (data.drop k) t' (by simp; omega) (by simp; omega) hfed.next_contents.2

theorem feedReceivedBytes_fed (hwrite : ∀ pcb response, lwip.tcpWrite pcb response = 0)
    (fuel : Nat) (data : List Byte) (t : TcpServer) (hfuel : data.length ≤ fuel)
    (hmore : mbapNext (t.clients i).contents = .more) :
    Fed cfg i ((t.clients i).contents ++ data) t (feedReceivedBytes cfg lwip i fuel data t) := by
  rw [feedReceivedBytes_eq cfg hwrite fuel fuel data t hfuel hfuel hmore]
  induction fuel generalizing data t with
  | zero =>
    obtain rfl : data = [] := by simpa using hfuel
    rw [List.append_nil]
    exact Fed.incomplete hmore rfl
  | succ fuel ih =>
    by_cases hdata : data.length = 0
    · rw [List.length_eq_zero_iff.mp hdata,List.append_nil]
      exact Fed.incomplete hmore rfl
    · have hroom : (t.clients i).rxCount ≤ 259 := by
        simpa [TcpClient.contents] using mbapNext_more hmore
      simp only [feedWithoutRefill,hdata,if_false]
      generalize hk : min data.length (tcpAduMaxSize-(t.clients i).rxCount) = k
      have hk1 : 1 ≤ k ∧ k ≤ data.length := by simp only [tcpAduMaxSize] at hk; omega
      have hfed := copyIn_fed cfg (i := i) hwrite k data t hk1.2
      rcases hout : processBufferedFrames cfg lwip i ((t.clients i).rxCount+k)
        (t.copyIn i k data) with ⟨ok,t'⟩
      rw [hout] at hfed
      rw [show (t.clients i).contents ++ data =
        (t.clients i).contents ++ data.take k ++ data.drop k by simp]
      cases ok with
      | false => exact hfed.failed_append _
      | true =>
        obtain ⟨hrest,hnext⟩ := hfed.next_contents
        have hih := ih (data.drop k) t' (by simp; omega) hnext
        rw [hrest] at hih
        exact hfed.trans hih

theorem feedSegments_fed (hwrite : ∀ pcb response, lwip.tcpWrite pcb response = 0)
    (parts : List (List Byte)) (t : TcpServer)
    (hmore : mbapNext (t.clients i).contents = .more) :
    Fed cfg i ((t.clients i).contents ++ parts.flatten) t (feedSegments cfg lwip i parts t) := by
  induction parts generalizing t with
  | nil =>
    rw [List.flatten_nil,List.append_nil]
    exact Fed.incomplete hmore rfl
  | cons part parts ih =>
    have hfed := feedReceivedBytes_fed cfg hwrite part.length part t (le_refl _) hmore
    simp only [feedSegments,List.flatten_cons]
    rw [← List.append_assoc]
    cases hout : feedReceivedBytes cfg lwip i part.length part t with
    | mk ok t' =>
      rw [hout] at hfed
      cases ok with
      | false => exact hfed.failed_append _
      | true =>
        obtain ⟨hrest,hnext⟩ := hfed.next_contents
        have hih := ih t' hnext
        rw [hrest] at hih
        exact hfed.trans hih

end Feeding

end ModbusStack
