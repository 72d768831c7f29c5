import ModbusStack.SocketServer
import ModbusStack.WellFormedResponses

/-! The end of the demo server after a signal, and its agreement with the lwIP server. -/
set_option autoImplicit false

namespace ModbusStack
open ByteMemory Machine StreamFraming

/-! The server stops. -/

def SocketServer.Brief (t : SocketServer) : Prop :=
  ∀ expected data, t.phase = .sending expected data → data.length ≤ tcpAduMaxSize

def TcpEvent.isIntake : TcpEvent → Bool
  | .accepted _ | .received _ _ => true
  | _ => false

def SocketServer.LetsIn (t : SocketServer) : TcpEvent → Prop
  | .accepted c => t.phase = .accept ∧ c = t.accepted
  | .received c _ => t.phase = .recv ∧ c = t.clientFd
  | _ => False

def SocketServer.OnlyLetsIn (t t' : SocketServer) : Prop :=
  ∃ events, t'.log = t.log ++ events ∧
    (events.filter TcpEvent.isIntake = [] ∨
      ∃ e, events.filter TcpEvent.isIntake = [e] ∧ t.LetsIn e)

section Stopping
variable {cfg : Platform} {s0 : Server} {t : SocketServer} {k : KernelAnswer}

theorem handOver_phase (t : SocketServer) (n : Nat) : (t.handOver cfg n).phase = .accepting ∨
    ∃ response, (t.handOver cfg n).phase = .sending n response ∧
      response.length ≤ tcpAduMaxSize ∧ (t.handOver cfg n).buffered = t.buffered := by
  have hlength (response : List Byte) := mbtcpProcessAdu_response cfg t.server t.buffer n
    tcpAduMaxSize response
  unfold SocketServer.handOver
  generalize mbtcpProcessAdu cfg t.server t.buffer n tcpAduMaxSize = out at hlength
  obtain ⟨result,server⟩ := out
  cases result with
  | error e => exact .inl rfl
  | ok response =>
    exact .inr ⟨response,rfl,(hlength response rfl).maximum.trans (Nat.min_le_left _ _),rfl⟩

theorem afterFrames_phase (t : SocketServer) :
    t.afterFrames.phase = .accepting ∨ t.afterFrames.phase = .receiving := by
  unfold SocketServer.afterFrames
  split
  · exact .inl rfl
  · exact .inr rfl

theorem SocketServer.Brief.step (h : t.Brief) (x : SocketInput) :
    (socketStep cfg t x).2.Brief := by
  have hnone {t' : SocketServer} (hphase : ∀ n data, t'.phase ≠ .sending n data) : t'.Brief :=
    fun n data hp => absurd hp (hphase n data)
  have hhangUp : t.hangUp.Brief := hnone fun _ _ => by simp [SocketServer.hangUp]
  cases x with
  | signal => exact h
  | proceed k =>
    show (t.proceed cfg k).Brief
    unfold SocketServer.proceed
    split
    · split <;> exact hnone fun _ _ => by simp
    · unfold SocketServer.acceptClient
      split <;> exact hnone fun _ _ => by simp
    · split
      · exact hnone fun _ _ => by simp
      · exact hhangUp
    · unfold SocketServer.receive
      split
      · exact hnone fun _ _ => by simp
      · exact hhangUp
      · dsimp only
        split
        · exact hhangUp
        · exact hnone fun _ _ => by simp
    · rw [frame_eq]
      split
      · rcases afterFrames_phase t with hp | hp
        · exact hnone fun _ _ => by simp [hp]
        · exact hnone fun _ _ => by simp [hp]
      · exact hhangUp
      · rename_i n hnext
        rcases @handOver_phase cfg t n with hp | ⟨response,hp,hlength,-⟩
        · exact hnone fun _ _ => by simp [hp]
        · intro n' data hp'
          rw [hp] at hp'
          cases hp'
          exact hlength
    · rename_i n data hphase
      unfold SocketServer.send
      split
      · exact hnone fun _ _ => by simp
      · split
        · exact h
        · exact hhangUp
        · intro n' data' hp
          cases hp
          rw [List.length_drop]
          exact (Nat.sub_le _ _).trans (h n data hphase)
    · exact h

theorem SocketServer.Finished.hangUp {c : Nat} (h : t.Finished cfg s0 c) :
    t.hangUp.Finished cfg s0 c := by
  have hsame := hangUp_sameTraffic t
  unfold SocketServer.Finished
  rw [hsame.handed,hsame.received,hsame.written,hsame.answered]
  exact h

theorem SocketServer.OnlyLetsIn.received {t' : SocketServer} (h : t.OnlyLetsIn t')
    (hphase : t.phase ≠ .recv) (c : Nat) : receivedBy c t'.log = receivedBy c t.log := by
  obtain ⟨events,hlog,hevents⟩ := h
  have hnone (d : Nat) (bs : List Byte) : .received d bs ∉ events := by
    intro hmem
    have hmem : .received d bs ∈ events.filter TcpEvent.isIntake := List.mem_filter.mpr ⟨hmem,rfl⟩
    rcases hevents with he | ⟨e,he,hlet⟩
    · rw [he] at hmem
      cases hmem
    · rw [he] at hmem
      obtain rfl := List.mem_singleton.mp hmem
      exact hphase hlet.1
  have hempty : receivedBy c events = [] := by
    refine List.flatMap_eq_nil_iff.mpr fun e he => ?_
    cases e with
    | received d bs => exact absurd he (hnone d bs)
    | _ => rfl
  rw [hlog,receivedBy_append,hempty,List.append_nil]

end Stopping

end ModbusStack
