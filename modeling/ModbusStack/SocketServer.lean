import ModbusStack.TcpConnections

/-! The demo server on POSIX sockets, `posix_server.c`: one client after the other, whatever the
calls of the kernel return. -/
set_option autoImplicit false

namespace ModbusStack
open ByteMemory Machine StreamFraming

/-- Where `main`, `process_client` and `send_all` stand: before a test of `keep_running`
(`accepting`, `receiving`), before the call behind it (`accept`, `recv`), or at the head of another
loop. `sending` has the rest of the response. -/
inductive SocketPhase where
  | accepting
  | accept
  | receiving
  | recv
  | framing
  | sending (expected : Nat) (data : List Byte)
  | stopped
  deriving DecidableEq, Repr

/-- The clients are numbered in the order in which they come. The buffer of `process_client` lies
on the stack and starts with what was there. -/
structure SocketServer where
  keepRunning : Bool
  phase : SocketPhase
  clientFd : Nat
  buffer : Mem Byte
  buffered : Nat
  server : Server
  accepted : Nat
  log : List TcpEvent

inductive KernelResult where
  | done | interrupted | failed
  deriving DecidableEq, Repr

/-- What a call of the kernel returns: `data` is what `recv` has ready, `count` how many bytes
`send` takes. A call uses what it needs. -/
structure KernelAnswer where
  result : KernelResult
  data : List Byte
  count : Nat
  deriving DecidableEq, Repr

inductive SocketInput where
  | signal
  | proceed (k : KernelAnswer)
  deriving DecidableEq, Repr

namespace SocketServer
variable (t : SocketServer)

def emit (e : TcpEvent) : SocketServer := { t with log := t.log ++ [e] }

/-- `process_client` returns, and the socket is closed. -/
def hangUp : SocketServer := { t.emit (.closed t.clientFd) with phase := .accepting }

def afterFrames : SocketServer :=
  if t.buffered = tcpAduMaxSize then t.hangUp else { t with phase := .receiving }

def acceptClient (k : KernelAnswer) : SocketServer :=
  match k.result with
  | .interrupted => { t with phase := .accepting }
  | .failed => { t with phase := .stopped }
  | .done => { t.emit (.accepted t.accepted) with
    phase := .receiving
    clientFd := t.accepted
    buffered := 0
    accepted := t.accepted+1 }

def receive (k : KernelAnswer) : SocketServer :=
  match k.result with
  | .interrupted => { t with phase := .receiving }
  | .failed => t.hangUp
  | .done =>
    let received := k.data.take (tcpAduMaxSize-t.buffered)
    if received.length = 0 then t.hangUp
    else { t.emit (.received t.clientFd received) with
      phase := .framing
      buffer := store t.buffer t.buffered received
      buffered := t.buffered+received.length }

def handOver (cfg : Platform) (expected : Nat) : SocketServer :=
  let (result,server) := mbtcpProcessAdu cfg t.server t.buffer expected tcpAduMaxSize
  let t := { t.emit (.handed t.clientFd (slice t.buffer 0 expected)) with server := server }
  match result with
  | .error _ => t.hangUp
  | .ok response => { t with phase := .sending expected response }

/-- A turn of the frame loop up to `send_all`. -/
def frame (cfg : Platform) : SocketServer :=
  if t.buffered < 7 then t.afterFrames
  else
    let lengthField := be16 (t.buffer 4) (t.buffer 5)
    let expected := 6+lengthField.toNat
    if lengthField.toNat < 2 ∨ tcpAduMaxSize < expected then t.hangUp
    else if t.buffered < expected then t.afterFrames
    else t.handOver cfg expected

/-- A turn of the loop of `send_all`, and what follows it. -/
def send (k : KernelAnswer) (expected : Nat) (data : List Byte) : SocketServer :=
  if data.length = 0 then
    let remaining := t.buffered-expected
    { t with
      phase := .framing
      buffer := if 0 < remaining then store t.buffer 0 (slice t.buffer expected remaining)
        else t.buffer
      buffered := remaining }
  else
    match k.result with
    | .interrupted => t
    | .failed => t.hangUp
    | .done => { t.emit (.written t.clientFd (data.take k.count)) with
      phase := .sending expected (data.drop k.count) }

def proceed (cfg : Platform) (k : KernelAnswer) : SocketServer :=
  match t.phase with
  | .accepting => if t.keepRunning then { t with phase := .accept } else { t with phase := .stopped }
  | .accept => t.acceptClient k
  | .receiving => if t.keepRunning then { t with phase := .recv } else t.hangUp
  | .recv => t.receive k
  | .framing => t.frame cfg
  | .sending expected data => t.send k expected data
  | .stopped => t

def contents : List Byte := slice t.buffer 0 t.buffered

end SocketServer

def socketStep (cfg : Platform) (t : SocketServer) (x : SocketInput) :
    List TcpEvent × SocketServer :=
  let after :=
    match x with
    | .signal => { t with keepRunning := false }
    | .proceed k => t.proceed cfg k
  (after.log.drop t.log.length,after)

/-! What a client gets. -/

def answered (cfg : Platform) (s0 : Server) (c : Nat) (log : List TcpEvent) : List Byte :=
  (answersFor c (replay cfg s0 (handedAll log)).1).flatten

structure SocketServer.Served (cfg : Platform) (s0 : Server) (t : SocketServer) : Prop where
  server : t.server = (replay cfg s0 (handedAll t.log)).2
  fresh : ∀ c, t.accepted ≤ c → receivedBy c t.log = [] ∧ handedBy c t.log = [] ∧
    (writtenBy c t.log).flatten = answered cfg s0 c t.log
  handed : ∀ c, handedBy c t.log <+: (mbapFrames (receivedBy c t.log)).frames
  written : ∀ c, (writtenBy c t.log).flatten <+: answered cfg s0 c t.log

/-- The connection being served, with `bs` still to be cut into frames and `data` to be sent. -/
structure SocketServer.Serving (cfg : Platform) (s0 : Server) (bs data : List Byte)
    (t : SocketServer) : Prop where
  client : t.clientFd < t.accepted
  bounded : t.buffered ≤ tcpAduMaxSize
  frames : mbapFrames (receivedBy t.clientFd t.log) =
    (mbapFrames bs).prepend (handedBy t.clientFd t.log)
  written : (writtenBy t.clientFd t.log).flatten ++ data = answered cfg s0 t.clientFd t.log

def SocketServer.AtHead (cfg : Platform) (s0 : Server) (t : SocketServer) : Prop :=
  match t.phase with
  | .accepting | .accept | .stopped => True
  | .receiving | .recv => t.Serving cfg s0 t.contents [] ∧ mbapNext t.contents = .more
  | .framing => t.Serving cfg s0 t.contents []
  | .sending expected data => t.Serving cfg s0 (t.contents.drop expected) data ∧
    mbapNext t.contents = .frame expected

/-! What each step does to the traffic. -/

section Traffic
variable {cfg : Platform} {s0 : Server} {t t' : SocketServer}

structure SocketServer.SameTraffic (t t' : SocketServer) : Prop where
  received : ∀ c, receivedBy c t'.log = receivedBy c t.log
  handed : ∀ c, handedBy c t'.log = handedBy c t.log
  written : ∀ c, writtenBy c t'.log = writtenBy c t.log
  all : handedAll t'.log = handedAll t.log
  server : t'.server = t.server
  accepted : t.accepted ≤ t'.accepted

theorem SocketServer.SameTraffic.answered (h : t.SameTraffic t') (c : Nat) :
    answered cfg s0 c t'.log = answered cfg s0 c t.log := by
  unfold ModbusStack.answered
  rw [h.all]

theorem SocketServer.Served.still (h : t.Served cfg s0) (hs : t.SameTraffic t') :
    t'.Served cfg s0 where
  server := by rw [hs.server,hs.all]; exact h.server
  fresh := fun c hc => by
    rw [hs.received,hs.handed,hs.written,hs.answered]
    exact h.fresh c (hs.accepted.trans hc)
  handed := fun c => by rw [hs.received,hs.handed]; exact h.handed c
  written := fun c => by rw [hs.written,hs.answered]; exact h.written c

theorem SocketServer.SameTraffic.quiet {e : TcpEvent}
    (he : (∃ c, e = .closed c) ∨ ∃ c, e = .accepted c) (hlog : t'.log = t.log ++ [e])
    (hserver : t'.server = t.server) (haccepted : t.accepted ≤ t'.accepted) :
    t.SameTraffic t' := by
  rcases he with ⟨c,rfl⟩ | ⟨c,rfl⟩
  · exact ⟨by simp [hlog,receivedBy],by simp [hlog,handedBy],by simp [hlog,writtenBy],
      by simp [hlog,handedAll],hserver,haccepted⟩
  · exact ⟨by simp [hlog,receivedBy],by simp [hlog,handedBy],by simp [hlog,writtenBy],
      by simp [hlog,handedAll],hserver,haccepted⟩

theorem hangUp_sameTraffic (t : SocketServer) : t.SameTraffic t.hangUp :=
  .quiet (.inl ⟨t.clientFd,rfl⟩) rfl rfl (le_refl _)

/-- The frames of a stream stay when more of it comes. -/
theorem mbapFrames_grow (bs cs : List Byte) :
    (mbapFrames bs).frames <+: (mbapFrames (bs ++ cs)).frames := by
  unfold mbapFrames
  rw [deframe_append]
  split
  · exact List.prefix_refl _
  · exact List.prefix_append _ _

theorem SocketServer.Served.receive (h : t.Served cfg s0) {bs : List Byte}
    (hlog : t'.log = t.log ++ [.received t.clientFd bs]) (hserver : t'.server = t.server)
    (haccepted : t'.accepted = t.accepted) (hclient : t.clientFd < t.accepted) :
    t'.Served cfg s0 := by
  have hanswered (c : Nat) : answered cfg s0 c t'.log = answered cfg s0 c t.log := by
    simp [answered,hlog,handedAll]
  have hhanded (c : Nat) : handedBy c t'.log = handedBy c t.log := by simp [hlog,handedBy]
  have hwritten (c : Nat) : writtenBy c t'.log = writtenBy c t.log := by simp [hlog,writtenBy]
  refine ⟨?_,fun c hc => ?_,fun c => ?_,fun c => ?_⟩
  · rw [hserver,h.server]
    simp [hlog,handedAll]
  · rw [haccepted] at hc
    rw [hhanded,hwritten,hanswered]
    have hne : t.clientFd ≠ c := by omega
    refine ⟨?_,(h.fresh c hc).2⟩
    rw [hlog,receivedBy_append,(h.fresh c hc).1]
    simp [receivedBy,hne]
  · rw [hhanded,hlog,receivedBy_append]
    exact (h.handed c).trans (mbapFrames_grow _ _)
  · rw [hwritten,hanswered]
    exact h.written c

theorem answered_handed (cfg : Platform) (s0 : Server) (c client : Nat) (log : List TcpEvent)
    (adu : List Byte) : answered cfg s0 c (log ++ [.handed client adu]) = answered cfg s0 c log ++
      if client = c then
        match (mbtcpProcessAdu cfg (replay cfg s0 (handedAll log)).2 (ofList adu) adu.length
          tcpAduMaxSize).1 with
        | .ok response => response
        | .error _ => []
      else [] := by
  have hall : handedAll (log ++ [.handed client adu]) = handedAll log ++ [(client,adu)] := by
    simp [handedAll]
  unfold answered
  rw [hall,replay_append]
  simp only [answersFor,List.filterMap_append,List.flatten_append,replay,List.append_nil]
  congr 1
  cases (mbtcpProcessAdu cfg (replay cfg s0 (handedAll log)).2 (ofList adu) adu.length
    tcpAduMaxSize).1 with
  | error e => simp
  | ok response => by_cases hc : client = c <;> simp [hc]

theorem SocketServer.Served.hand (h : t.Served cfg s0) {bs adu : List Byte} {rest : List (List Byte)}
    (hs : t.Serving cfg s0 bs []) (hframes : (mbapFrames bs).frames = adu :: rest)
    (hlog : t'.log = t.log ++ [.handed t.clientFd adu])
    (hserver : t'.server = (mbtcpProcessAdu cfg t.server (ofList adu) adu.length tcpAduMaxSize).2)
    (haccepted : t'.accepted = t.accepted) : t'.Served cfg s0 := by
  have hreceived (c : Nat) : receivedBy c t'.log = receivedBy c t.log := by simp [hlog,receivedBy]
  have hwritten (c : Nat) : writtenBy c t'.log = writtenBy c t.log := by simp [hlog,writtenBy]
  have hhanded (c : Nat) : handedBy c t'.log =
      handedBy c t.log ++ if t.clientFd = c then [adu] else [] := by
    rw [hlog,handedBy_append]
    by_cases hc : t.clientFd = c <;> simp [handedBy,hc]
  have hanswered (c : Nat) := answered_handed cfg s0 c t.clientFd t.log adu
  rw [← hlog] at hanswered
  refine ⟨?_,fun c hc => ?_,fun c => ?_,fun c => ?_⟩
  · have hall : handedAll t'.log = handedAll t.log ++ [(t.clientFd,adu)] := by
      rw [hlog,handedAll_append]
      rfl
    rw [hserver,hall,replay_append,h.server]
    rfl
  · rw [haccepted] at hc
    have hne : t.clientFd ≠ c := by
      have := hs.client
      omega
    rw [hreceived,hwritten,hhanded,hanswered,if_neg hne,if_neg hne,List.append_nil,List.append_nil]
    exact h.fresh c hc
  · rw [hreceived,hhanded]
    by_cases hc : t.clientFd = c
    · subst hc
      rw [if_pos rfl,hs.frames]
      refine ⟨rest,?_⟩
      simp [Deframed.prepend,hframes]
    · rw [if_neg hc,List.append_nil]
      exact h.handed c
  · rw [hwritten,hanswered]
    exact (h.written c).trans (List.prefix_append _ _)

theorem SocketServer.Served.write (h : t.Served cfg s0) {bs data sent rest : List Byte}
    (hs : t.Serving cfg s0 bs data) (hdata : data = sent ++ rest)
    (hlog : t'.log = t.log ++ [.written t.clientFd sent]) (hserver : t'.server = t.server)
    (haccepted : t'.accepted = t.accepted) : t'.Served cfg s0 := by
  have hreceived (c : Nat) : receivedBy c t'.log = receivedBy c t.log := by simp [hlog,receivedBy]
  have hhanded (c : Nat) : handedBy c t'.log = handedBy c t.log := by simp [hlog,handedBy]
  have hanswered (c : Nat) : answered cfg s0 c t'.log = answered cfg s0 c t.log := by
    simp [answered,hlog,handedAll]
  have hwritten (c : Nat) : writtenBy c t'.log =
      writtenBy c t.log ++ if t.clientFd = c then [sent] else [] := by
    rw [hlog,writtenBy_append]
    by_cases hc : t.clientFd = c <;> simp [writtenBy,hc]
  refine ⟨?_,fun c hc => ?_,fun c => ?_,fun c => ?_⟩
  · rw [hserver,h.server]
    simp [hlog,handedAll]
  · rw [haccepted] at hc
    have hne : t.clientFd ≠ c := by
      have := hs.client
      omega
    rw [hreceived,hhanded,hanswered,hwritten,if_neg hne,List.append_nil]
    exact h.fresh c hc
  · rw [hreceived,hhanded]
    exact h.handed c
  · rw [hanswered,hwritten]
    by_cases hc : t.clientFd = c
    · subst hc
      rw [if_pos rfl,← hs.written,hdata]
      refine ⟨rest,?_⟩
      simp
    · rw [if_neg hc,List.append_nil]
      exact h.written c

end Traffic

/-! The steps. -/

structure SocketServer.Sound (cfg : Platform) (s0 : Server) (t : SocketServer) : Prop where
  served : t.Served cfg s0
  head : t.AtHead cfg s0

section Steps
variable {cfg : Platform} {s0 : Server} {t : SocketServer}

theorem SocketServer.Served.hangUp (h : t.Served cfg s0) : t.hangUp.Sound cfg s0 :=
  ⟨h.still (hangUp_sameTraffic t),trivial⟩

theorem SocketServer.Served.goOn (h : t.Served cfg s0) (phase : SocketPhase) :
    SocketServer.Served cfg s0 { t with phase := phase } :=
  h.still ⟨fun _ => rfl,fun _ => rfl,fun _ => rfl,rfl,rfl,le_refl _⟩

theorem SocketServer.Serving.goOn {bs data : List Byte} (hs : t.Serving cfg s0 bs data)
    (phase : SocketPhase) : SocketServer.Serving cfg s0 bs data { t with phase := phase } :=
  ⟨hs.client,hs.bounded,hs.frames,hs.written⟩

theorem SocketServer.Served.acceptClient (h : t.Served cfg s0) (k : KernelAnswer) :
    (t.acceptClient k).Sound cfg s0 := by
  unfold SocketServer.acceptClient
  split
  · exact ⟨h.goOn _,trivial⟩
  · exact ⟨h.goOn _,trivial⟩
  · obtain ⟨hreceived,hhanded,hwritten⟩ := h.fresh t.accepted (le_refl _)
    generalize ht' : ({ t.emit (.accepted t.accepted) with
      phase := .receiving
      clientFd := t.accepted
      buffered := 0
      accepted := t.accepted+1 } : SocketServer) = t'
    have hsame : t.SameTraffic t' := by
      subst ht'
      exact .quiet (.inr ⟨t.accepted,rfl⟩) rfl rfl (Nat.le_succ _)
    have hclient : t'.clientFd = t.accepted := by rw [← ht']
    have hcontents : t'.contents = [] := by rw [← ht']; rfl
    have hempty : mbapFrames [] = ⟨[],[],false⟩ := deframe_more rfl
    refine ⟨h.still hsame,?_⟩
    unfold SocketServer.AtHead
    rw [show t'.phase = .receiving by rw [← ht']]
    refine ⟨⟨?_,?_,?_,?_⟩,by rw [hcontents]; rfl⟩
    · rw [← ht']
      exact Nat.lt_succ_self _
    · rw [← ht']
      exact Nat.zero_le _
    · rw [hclient,hsame.received,hsame.handed,hreceived,hhanded,hcontents,hempty]
      rfl
    · rw [hclient,hsame.written,hsame.answered,List.append_nil]
      exact hwritten

theorem SocketServer.Serving.receive (h : t.Served cfg s0) (hs : t.Serving cfg s0 t.contents [])
    (hmore : mbapNext t.contents = .more) (k : KernelAnswer) : (t.receive k).Sound cfg s0 := by
  unfold SocketServer.receive
  split
  · exact ⟨h.goOn _,hs.goOn _,hmore⟩
  · exact h.hangUp
  · dsimp only
    split
    · exact h.hangUp
    · generalize hbs : k.data.take (tcpAduMaxSize-t.buffered) = bs
      have hlength : bs.length ≤ tcpAduMaxSize-t.buffered := by
        rw [← hbs,List.length_take]
        exact Nat.min_le_left _ _
      have hcontents : mbapFrames t.contents = ⟨[],t.contents,false⟩ := deframe_more hmore
      have hframes := hs.frames
      rw [hcontents] at hframes
      refine ⟨h.receive rfl rfl rfl hs.client,hs.client,?_,?_,?_⟩
      · have hbounded := hs.bounded
        show t.buffered+bs.length ≤ tcpAduMaxSize
        omega
      · have hstored : slice (store t.buffer t.buffered bs) 0 (t.buffered+bs.length) =
            t.contents ++ bs := slice_store_end t.buffer t.buffered bs
        show mbapFrames (receivedBy t.clientFd (t.log ++ [.received t.clientFd bs])) =
          (mbapFrames (slice (store t.buffer t.buffered bs) 0 (t.buffered+bs.length))).prepend
            (handedBy t.clientFd (t.log ++ [.received t.clientFd bs]))
        have hreceived : receivedBy t.clientFd (t.log ++ [.received t.clientFd bs]) =
            receivedBy t.clientFd t.log ++ bs := by simp [receivedBy]
        have hhanded : handedBy t.clientFd (t.log ++ [.received t.clientFd bs]) =
            handedBy t.clientFd t.log := by simp [handedBy]
        rw [hstored,hreceived,hhanded]
        unfold mbapFrames at hframes ⊢
        rw [deframe_append,hframes]
        simp [Deframed.prepend]
      · have hwritten := hs.written
        show (writtenBy t.clientFd (t.log ++ [.received t.clientFd bs])).flatten ++ [] =
          answered cfg s0 t.clientFd (t.log ++ [.received t.clientFd bs])
        simpa [writtenBy,answered,handedAll] using hwritten

theorem SocketServer.Serving.afterFrames (h : t.Served cfg s0)
    (hs : t.Serving cfg s0 t.contents []) (hmore : mbapNext t.contents = .more) :
    t.afterFrames.Sound cfg s0 := by
  unfold SocketServer.afterFrames
  split
  · exact h.hangUp
  · exact ⟨h.goOn _,hs.goOn _,hmore⟩

theorem handOver_eq {n : Nat} (hnext : mbapNext t.contents = .frame n) :
    (t.contents.take n).length = n ∧ t.handOver cfg n =
      let out := mbtcpProcessAdu cfg t.server (ofList (t.contents.take n)) n tcpAduMaxSize
      let t' := { t.emit (.handed t.clientFd (t.contents.take n)) with server := out.2 }
      match out.1 with
      | .error _ => t'.hangUp
      | .ok response => { t' with phase := .sending n response } := by
  obtain ⟨-,-,-,hn⟩ := mbapNext_frame hnext
  have hcount : t.contents.length = t.buffered := slice_length _ _ _
  have htake : slice t.buffer 0 n = t.contents.take n := by
    rw [SocketServer.contents,slice_take _ _ _ _ (by omega)]
  have hagree := agreeUpTo_ofList_slice t.buffer n
  rw [htake] at hagree
  refine ⟨by rw [← htake,slice_length],?_⟩
  unfold SocketServer.handOver
  rw [htake,mbtcpProcessAdu_congr cfg _ _ hagree]

theorem SocketServer.Serving.handOver (h : t.Served cfg s0) (hs : t.Serving cfg s0 t.contents [])
    {n : Nat} (hnext : mbapNext t.contents = .frame n) : (t.handOver cfg n).Sound cfg s0 := by
  obtain ⟨hlength,he⟩ := @handOver_eq cfg t n hnext
  have hframe := mbtcpProcessAdu_frame cfg t.server hnext
  rw [he]
  rcases hout : mbtcpProcessAdu cfg t.server (ofList (t.contents.take n)) n tcpAduMaxSize
    with ⟨result,server⟩
  rw [hout] at hframe
  generalize ht' : ({ t.emit (.handed t.clientFd (t.contents.take n)) with server := server } :
    SocketServer) = t'
  have hhand {rest : List (List Byte)}
      (hframes : (mbapFrames t.contents).frames = t.contents.take n :: rest) : t'.Served cfg s0 := by
    subst ht'
    refine h.hand hs hframes rfl ?_ rfl
    rw [hlength,hout]
  cases result with
  | error e =>
    have hprotocol : hasModbusProtocol (t.contents.take n) = false := by
      rw [← Bool.not_eq_true,← hframe]
      simp
    have hrejected : mbapFrames t.contents = ⟨[t.contents.take n],t.contents.drop n,true⟩ :=
      deframe_rejected hnext hprotocol
    have hclosed := (hhand (congrArg Deframed.frames hrejected)).hangUp
    subst ht'
    exact hclosed
  | ok response =>
    have hprotocol : hasModbusProtocol (t.contents.take n) = true := hframe.mp ⟨response,rfl⟩
    have haccepted : mbapFrames t.contents =
        (mbapFrames (t.contents.drop n)).prepend [t.contents.take n] :=
      deframe_accepted hnext hprotocol
    have hserved := hhand (congrArg Deframed.frames haccepted)
    have hclient : t'.clientFd = t.clientFd := by rw [← ht']; rfl
    have hcontents : t'.contents = t.contents := by rw [← ht']; rfl
    have hlog : t'.log = t.log ++ [.handed t.clientFd (t.contents.take n)] := by rw [← ht']; rfl
    have hserving : SocketServer.Serving cfg s0 (t'.contents.drop n) response
        { t' with phase := .sending n response } := by
      refine ⟨?_,?_,?_,?_⟩
      · rw [← ht']
        exact hs.client
      · rw [← ht']
        exact hs.bounded
      · have hreceived : receivedBy t.clientFd t'.log = receivedBy t.clientFd t.log := by
          simp [hlog,receivedBy]
        have hhanded : handedBy t.clientFd t'.log =
            handedBy t.clientFd t.log ++ [t.contents.take n] := by simp [hlog,handedBy]
        show mbapFrames (receivedBy t'.clientFd t'.log) =
          (mbapFrames (t'.contents.drop n)).prepend (handedBy t'.clientFd t'.log)
        rw [hclient,hcontents,hreceived,hhanded,hs.frames,haccepted]
        simp [Deframed.prepend]
      · have hwritten : writtenBy t.clientFd t'.log = writtenBy t.clientFd t.log := by
          simp [hlog,writtenBy]
        have hbefore := hs.written
        rw [List.append_nil] at hbefore
        show (writtenBy t'.clientFd t'.log).flatten ++ response =
          answered cfg s0 t'.clientFd t'.log
        rw [hclient,hwritten,hlog,answered_handed,if_pos rfl,← h.server,hlength,hout,hbefore]
    have hsending : SocketServer.Sound cfg s0 { t' with phase := .sending n response } := by
      refine ⟨hserved.still ⟨fun _ => rfl,fun _ => rfl,fun _ => rfl,rfl,rfl,le_refl _⟩,
        hserving,?_⟩
      show mbapNext t'.contents = .frame n
      rw [hcontents]
      exact hnext
    subst ht'
    exact hsending

/-- The tests of the frame loop are those of the frame format. -/
theorem frame_eq (cfg : Platform) (t : SocketServer) : t.frame cfg =
    match mbapNext t.contents with
    | .more => t.afterFrames
    | .malformed => t.hangUp
    | .frame n => t.handOver cfg n := by
  have hnext : mbapNext t.contents = _ := mbapNext_contents ⟨0,t.buffer,t.buffered⟩
  rw [hnext]
  unfold SocketServer.frame expectedAduSize
  dsimp only
  by_cases hshort : t.buffered < 7
  · rw [if_pos hshort,if_pos hshort]
  · rw [if_neg hshort,if_neg hshort]
    by_cases hbad : (be16 (t.buffer 4) (t.buffer 5)).toNat < 2 ∨
        tcpAduMaxSize < 6+(be16 (t.buffer 4) (t.buffer 5)).toNat
    · rw [if_pos hbad,if_pos hbad]
    · rw [if_neg hbad,if_neg hbad]
      dsimp only
      by_cases hpart : t.buffered < 6+(be16 (t.buffer 4) (t.buffer 5)).toNat
      · rw [if_pos hpart,if_pos hpart]
      · rw [if_neg hpart,if_neg hpart]

theorem SocketServer.Serving.frame (h : t.Served cfg s0) (hs : t.Serving cfg s0 t.contents []) :
    (t.frame cfg).Sound cfg s0 := by
  rw [frame_eq]
  cases hnext : mbapNext t.contents with
  | more => exact hs.afterFrames h hnext
  | malformed => exact h.hangUp
  | frame n => exact hs.handOver h hnext

theorem SocketServer.Serving.send (h : t.Served cfg s0) {n : Nat} {data : List Byte}
    (hs : t.Serving cfg s0 (t.contents.drop n) data) (hnext : mbapNext t.contents = .frame n)
    (hphase : t.phase = .sending n data) (k : KernelAnswer) :
    (t.send k n data).Sound cfg s0 := by
  unfold SocketServer.send
  split
  · rename_i hempty
    obtain rfl := List.length_eq_zero_iff.mp hempty
    have hcontents := contents_after_frame ⟨0,t.buffer,t.buffered⟩ n 0
    refine ⟨h.still ⟨fun _ => rfl,fun _ => rfl,fun _ => rfl,rfl,rfl,le_refl _⟩,?_⟩
    refine ⟨hs.client,(Nat.sub_le _ _).trans hs.bounded,?_,hs.written⟩
    exact hs.frames.trans (congrArg (fun bs => (mbapFrames bs).prepend _) hcontents.symm)
  · split
    · refine ⟨h,?_⟩
      unfold SocketServer.AtHead
      rw [hphase]
      exact ⟨hs,hnext⟩
    · exact h.hangUp
    · refine ⟨h.write hs (List.take_append_drop k.count data).symm rfl rfl rfl,
        ⟨hs.client,hs.bounded,?_,?_⟩,hnext⟩
      · have hframes := hs.frames
        show mbapFrames (receivedBy t.clientFd (t.log ++ [.written t.clientFd _])) =
          (mbapFrames (t.contents.drop n)).prepend
            (handedBy t.clientFd (t.log ++ [.written t.clientFd _]))
        simpa [receivedBy,handedBy] using hframes
      · have hwritten := hs.written
        show (writtenBy t.clientFd (t.log ++ [.written t.clientFd (data.take k.count)])).flatten ++
          data.drop k.count = answered cfg s0 t.clientFd (t.log ++ [.written t.clientFd _])
        rw [writtenBy_append,List.flatten_append,List.append_assoc]
        have hsent : (writtenBy t.clientFd [.written t.clientFd (data.take k.count)]).flatten ++
            data.drop k.count = data := by simp [writtenBy]
        have hall : answered cfg s0 t.clientFd
            (t.log ++ [.written t.clientFd (data.take k.count)]) =
              answered cfg s0 t.clientFd t.log := by simp [answered,handedAll]
        rw [hsent,hall]
        exact hwritten

theorem SocketServer.Sound.step (h : t.Sound cfg s0) (x : SocketInput) :
    (socketStep cfg t x).2.Sound cfg s0 := by
  have hhead := h.head
  unfold SocketServer.AtHead at hhead
  cases x with
  | signal =>
    refine ⟨h.served.still ⟨fun _ => rfl,fun _ => rfl,fun _ => rfl,rfl,rfl,le_refl _⟩,?_⟩
    show SocketServer.AtHead cfg s0 { t with keepRunning := false }
    unfold SocketServer.AtHead
    dsimp only
    cases hphase : t.phase with
    | accepting | accept | stopped => trivial
    | receiving | recv =>
      rw [hphase] at hhead
      exact ⟨⟨hhead.1.client,hhead.1.bounded,hhead.1.frames,hhead.1.written⟩,hhead.2⟩
    | framing =>
      rw [hphase] at hhead
      exact ⟨hhead.client,hhead.bounded,hhead.frames,hhead.written⟩
    | sending n data =>
      rw [hphase] at hhead
      exact ⟨⟨hhead.1.client,hhead.1.bounded,hhead.1.frames,hhead.1.written⟩,hhead.2⟩
  | proceed k =>
    show (t.proceed cfg k).Sound cfg s0
    unfold SocketServer.proceed
    cases hphase : t.phase with
    | accepting =>
      dsimp only
      split
      · exact ⟨h.served.goOn _,trivial⟩
      · exact ⟨h.served.goOn _,trivial⟩
    | accept => exact h.served.acceptClient k
    | receiving =>
      rw [hphase] at hhead
      dsimp only
      split
      · exact ⟨h.served.goOn _,hhead.1.goOn _,hhead.2⟩
      · exact h.served.hangUp
    | recv =>
      rw [hphase] at hhead
      exact hhead.1.receive h.served hhead.2 k
    | framing =>
      rw [hphase] at hhead
      exact SocketServer.Serving.frame h.served hhead
    | sending n data =>
      rw [hphase] at hhead
      exact hhead.1.send h.served hhead.2 hphase k
    | stopped => exact h

end Steps

/-! Why a client is dropped. -/

/-- The server has been told to stop, a call has failed, the client has closed its side, or its
stream is malformed and all before that has been answered. -/
inductive SocketServer.Drops (cfg : Platform) (s0 : Server) (t : SocketServer) (k : KernelAnswer) :
    Prop where
  | stopping (hphase : t.phase = .receiving) (h : t.keepRunning = false)
  | failed (h : k.result = .failed)
  | finished (hphase : t.phase = .recv) (h : k.data = [])
  | malformed (h : (mbapFrames (receivedBy t.clientFd t.log)).failed = true)
      (handed : handedBy t.clientFd (t.proceed cfg k).log =
        (mbapFrames (receivedBy t.clientFd t.log)).frames)
      (written : (writtenBy t.clientFd (t.proceed cfg k).log).flatten =
        answered cfg s0 t.clientFd (t.proceed cfg k).log)

section Drops
variable {cfg : Platform} {s0 : Server} {t : SocketServer} {k : KernelAnswer}

theorem socketStep_events {es : List TcpEvent} (hlog : (t.proceed cfg k).log = t.log ++ es) :
    (socketStep cfg t (.proceed k)).1 = es := by
  show (t.proceed cfg k).log.drop t.log.length = es
  rw [hlog,List.drop_left]

theorem SocketServer.Serving.drops_malformed (hs : t.Serving cfg s0 t.contents [])
    (hnext : mbapNext t.contents = .malformed) (hlog : (t.proceed cfg k).log =
      t.log ++ [.closed t.clientFd]) : t.Drops cfg s0 k := by
  have hframes := hs.frames
  have hwritten := hs.written
  rw [show mbapFrames t.contents = ⟨[],t.contents,true⟩ from deframe_malformed hnext] at hframes
  refine .malformed (by rw [hframes]; rfl) ?_ ?_
  · rw [hlog,hframes]
    simp [handedBy,Deframed.prepend]
  · rw [hlog]
    simpa [writtenBy,answered,handedAll] using hwritten

theorem SocketServer.Serving.drops_rejected (h : t.Served cfg s0)
    (hs : t.Serving cfg s0 t.contents []) {n : Nat} (hnext : mbapNext t.contents = .frame n)
    {e : AduError} (hout : (mbtcpProcessAdu cfg t.server (ofList (t.contents.take n)) n
      tcpAduMaxSize).1 = .error e) (hlog : (t.proceed cfg k).log =
        t.log ++ [.handed t.clientFd (t.contents.take n)] ++ [.closed t.clientFd]) :
    t.Drops cfg s0 k := by
  have hlength := (@handOver_eq cfg t n hnext).1
  have hframe := mbtcpProcessAdu_frame cfg t.server hnext
  have hprotocol : hasModbusProtocol (t.contents.take n) = false := by
    rw [← Bool.not_eq_true,← hframe,hout]
    simp
  have hframes := hs.frames
  have hwritten := hs.written
  rw [show mbapFrames t.contents = ⟨[t.contents.take n],t.contents.drop n,true⟩ from
    deframe_rejected hnext hprotocol] at hframes
  refine .malformed (by rw [hframes]; rfl) ?_ ?_
  · rw [hlog,hframes]
    simp [handedBy,Deframed.prepend]
  · have hanswered : answered cfg s0 t.clientFd (t.proceed cfg k).log =
        answered cfg s0 t.clientFd (t.log ++ [.handed t.clientFd (t.contents.take n)]) := by
      rw [hlog]
      simp [answered,handedAll]
    rw [hanswered,answered_handed,if_pos rfl,← h.server,hlength,hout,hlog]
    simpa [writtenBy] using hwritten

theorem SocketServer.Sound.drops (h : t.Sound cfg s0) {c : Nat}
    (hc : .closed c ∈ (socketStep cfg t (.proceed k)).1) : c = t.clientFd ∧ t.Drops cfg s0 k := by
  have hhead := h.head
  unfold SocketServer.AtHead at hhead
  -- a step that ends with the socket being closed, and one that does not
  have hclosed {es : List TcpEvent} (hlog : (t.proceed cfg k).log = t.log ++ es)
      (hes : ∀ c, .closed c ∈ es → c = t.clientFd) : c = t.clientFd :=
    hes c (socketStep_events hlog ▸ hc)
  have hopen {es : List TcpEvent} (hlog : (t.proceed cfg k).log = t.log ++ es)
      (hes : ∀ c, .closed c ∉ es) : c = t.clientFd ∧ t.Drops cfg s0 k :=
    absurd (socketStep_events hlog ▸ hc) (hes c)
  have hsame (hlog : (t.proceed cfg k).log = t.log) : c = t.clientFd ∧ t.Drops cfg s0 k :=
    @hopen [] (by rw [hlog,List.append_nil]) (by simp)
  have hend (hlog : (t.proceed cfg k).log = t.log ++ [.closed t.clientFd]) : c = t.clientFd :=
    hclosed hlog (by simp)
  cases hphase : t.phase with
  | stopped =>
    have he : t.proceed cfg k = t := by simp [SocketServer.proceed,hphase]
    exact hsame (by rw [he])
  | accepting =>
    have he : t.proceed cfg k =
        if t.keepRunning then { t with phase := .accept } else { t with phase := .stopped } := by
      simp [SocketServer.proceed,hphase]
    split at he
    · exact hsame (by rw [he])
    · exact hsame (by rw [he])
  | accept =>
    have he : t.proceed cfg k = t.acceptClient k := by simp [SocketServer.proceed,hphase]
    unfold SocketServer.acceptClient at he
    split at he
    · exact hsame (by rw [he])
    · exact hsame (by rw [he])
    · exact @hopen [.accepted t.accepted] (congrArg SocketServer.log he) (by simp)
  | receiving =>
    have he : t.proceed cfg k = if t.keepRunning then { t with phase := .recv } else t.hangUp := by
      simp [SocketServer.proceed,hphase]
    split at he
    · exact hsame (by rw [he])
    · rename_i hstop
      exact ⟨hend (congrArg SocketServer.log he),.stopping hphase (by simpa using hstop)⟩
  | recv =>
    have he : t.proceed cfg k = t.receive k := by simp [SocketServer.proceed,hphase]
    rw [hphase] at hhead
    have hroom : t.contents.length ≤ 259 := mbapNext_more hhead.2
    unfold SocketServer.receive at he
    split at he
    · exact hsame (by rw [he])
    · rename_i hfailed
      exact ⟨hend (congrArg SocketServer.log he),.failed hfailed⟩
    · dsimp only at he
      split at he
      · rename_i hnone
        refine ⟨hend (congrArg SocketServer.log he),.finished hphase ?_⟩
        have hcount : t.contents.length = t.buffered := slice_length _ _ _
        have hfree : 0 < tcpAduMaxSize-t.buffered := by
          simp only [tcpAduMaxSize]
          omega
        rw [List.length_take] at hnone
        exact List.length_eq_zero_iff.mp (by omega)
      · exact @hopen [.received t.clientFd _] (congrArg SocketServer.log he) (by simp)
  | framing =>
    rw [hphase] at hhead
    have he : t.proceed cfg k = t.frame cfg := by simp [SocketServer.proceed,hphase]
    rw [frame_eq] at he
    cases hnext : mbapNext t.contents with
    | more =>
      rw [hnext] at he
      have hroom : t.contents.length ≤ 259 := mbapNext_more hnext
      have hcount : t.contents.length = t.buffered := slice_length _ _ _
      have hfree : t.buffered ≠ tcpAduMaxSize := by
        simp only [tcpAduMaxSize]
        omega
      dsimp only at he
      rw [SocketServer.afterFrames,if_neg hfree] at he
      exact hsame (by rw [he])
    | malformed =>
      rw [hnext] at he
      have hlog : (t.proceed cfg k).log = t.log ++ [.closed t.clientFd] :=
        congrArg SocketServer.log he
      exact ⟨hend hlog,hhead.drops_malformed hnext hlog⟩
    | frame n =>
      rw [hnext] at he
      dsimp only at he
      rw [(handOver_eq hnext).2] at he
      rcases hout : mbtcpProcessAdu cfg t.server (ofList (t.contents.take n)) n tcpAduMaxSize
        with ⟨result,server⟩
      rw [hout] at he
      cases result with
      | error e =>
        have hlog : (t.proceed cfg k).log = t.log ++ [.handed t.clientFd (t.contents.take n)] ++
            [.closed t.clientFd] := congrArg SocketServer.log he
        refine ⟨hclosed (hlog.trans (List.append_assoc _ _ _)) (by simp),?_⟩
        exact hhead.drops_rejected h.served hnext (congrArg Prod.fst hout) hlog
      | ok response =>
        exact @hopen [.handed t.clientFd (t.contents.take n)] (congrArg SocketServer.log he)
          (by simp)
  | sending n data =>
    have he : t.proceed cfg k = t.send k n data := by simp [SocketServer.proceed,hphase]
    unfold SocketServer.send at he
    split at he
    · exact hsame (by rw [he])
    · split at he
      · exact hsame (by rw [he])
      · rename_i hfailed
        exact ⟨hend (congrArg SocketServer.log he),.failed hfailed⟩
      · exact @hopen [.written t.clientFd _] (congrArg SocketServer.log he) (by simp)

end Drops

/-- The client `c` has been answered for all that `recv` has returned of its stream. -/
def SocketServer.Finished (cfg : Platform) (s0 : Server) (c : Nat) (t : SocketServer) : Prop :=
  handedBy c t.log = (mbapFrames (receivedBy c t.log)).frames ∧
    (writtenBy c t.log).flatten = answered cfg s0 c t.log

/-- Before `recv` the client has been answered, and the rest of its stream lies in the buffer. -/
theorem SocketServer.Sound.receiving {cfg : Platform} {s0 : Server} {t : SocketServer}
    (h : t.Sound cfg s0) (hphase : t.phase = .receiving ∨ t.phase = .recv) :
    t.Finished cfg s0 t.clientFd ∧ t.buffered < tcpAduMaxSize ∧
      (mbapFrames (receivedBy t.clientFd t.log)).failed = false ∧
      t.contents = (mbapFrames (receivedBy t.clientFd t.log)).rest := by
  have hhead := h.head
  unfold SocketServer.AtHead at hhead
  obtain ⟨hs,hmore⟩ : t.Serving cfg s0 t.contents [] ∧ mbapNext t.contents = .more := by
    rcases hphase with hphase | hphase
    · rw [hphase] at hhead
      exact hhead
    · rw [hphase] at hhead
      exact hhead
  have hroom : t.contents.length ≤ 259 := mbapNext_more hmore
  have hcount : t.contents.length = t.buffered := slice_length _ _ _
  have hframes := hs.frames
  rw [show mbapFrames t.contents = ⟨[],t.contents,false⟩ from deframe_more hmore] at hframes
  have hwritten := hs.written
  rw [List.append_nil] at hwritten
  refine ⟨⟨?_,hwritten⟩,?_,by rw [hframes]; rfl,by rw [hframes]; rfl⟩
  · rw [hframes]
    exact (List.append_nil _).symm
  · simp only [tcpAduMaxSize]
    omega

end ModbusStack
