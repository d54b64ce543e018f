import PcpClient.EndpointContract

/-!
What connection_state_ says about the endpoint: one attempt at most is under way or
established, none where the state reads initialized or closed, and none is established
while the state reads connecting.
-/
namespace PcpEndpointCoherence
open PcpTransitions PcpConnection PcpConnectAttempts PcpEndpoint

structure Quiet (e : Endpoint) : Prop where
  owed : e.owed = []
  established : e.established = []

def startsAttempt : ConnectPc → Bool
  | .backoff | .attempt _ .start => true
  | pc => executing pc

def isDown : ConnectionState → Bool
  | .initialized | .closed => true
  | _ => false

structure Coherent (p : System) : Prop where
  single : p.2.owed.length + p.2.established.length ≤ 1
  down : isDown p.1.connectionState = true → Quiet p.2
  starting : startsAttempt p.1.pc = true → Quiet p.2
  written : executing p.1.pc = true →
    p.1.connectionState = .connecting ∨ p.1.connectionState = .closing
  connecting : p.1.connectionState = .connecting → p.2.established = []
  up : p.1.connectionState = .open → p.2.owed = []

def movesLive : Action → Bool
  | .endpointConnect true | .onOpen _ | .onFail _ | .onClose _ => true
  | _ => false

theorem coherent_create (brokerWsUris : List String) (pongTimeoutsBeforeRetry : Nat) :
    Coherent (System.create brokerWsUris pongTimeoutsBeforeRetry) where
  single := by simp [System.create]
  down _ := ⟨rfl, rfl⟩
  starting _ := ⟨rfl, rfl⟩
  written inside := by cases inside
  connecting _ := rfl
  up _ := rfl

theorem starts_of_executing {pc : ConnectPc} (inside : executing pc = true) :
    startsAttempt pc = true := by
  cases pc with
  | attempt site stage =>
    cases stage with
    | start | waiting => cases inside
    | getConnection | endpointConnect => rfl
  | _ => cases inside

theorem startsAttempt_endPass (c : Connection) : startsAttempt c.endPass.pc = false := by
  rcases endPass_pc c with pc | pc <;> simp [pc, startsAttempt, executing]

theorem starting_before {c d : Connection} {a : Action} (next : c.step a = some d)
    (starts : startsAttempt d.pc = true) :
    startsAttempt c.pc = true ∨ a = .pass ∧ isDown c.connectionState = true := by
  have moved := step_cases next
  cases a with
  | callConnect n => obtain ⟨_, rfl⟩ := moved; cases starts
  | pass =>
    obtain ⟨_, rfl⟩ := moved
    have branch := pass_branch c
    cases state : c.connectionState with
    | initialized | closed => exact .inr ⟨rfl, rfl⟩
    | connecting | closing =>
      simp only [state] at branch
      simp [branch, startsAttempt, executing] at starts
    | «open» =>
      simp only [state] at branch
      simp [branch.1, startsAttempt, executing] at starts
  | poll => obtain ⟨_, rfl⟩ := moved; simp [startsAttempt_endPass] at starts
  | retrySleep draw => obtain ⟨backoff, _⟩ := moved; simp [backoff, startsAttempt]
  | beginAttempt | getConnection reply =>
    obtain ⟨site, stage, _⟩ := moved
    simp [stage, startsAttempt, executing]
  | endpointConnect accepted =>
    obtain ⟨site, stage, _⟩ := moved
    simp [stage, startsAttempt, executing]
  | waitEnds draw =>
    obtain ⟨site, _, _, rfl⟩ := moved
    by_cases first : site = .first
    · subst first
      cases starts
    · obtain ⟨e, finished, _⟩ := waitEnds_endPass c draw first
      simp [finished, startsAttempt_endPass] at starts
  | recheck =>
    obtain ⟨_, rfl⟩ := moved
    unfold Connection.recheck at starts
    split at starts
    · cases starts
    · simp [startsAttempt_endPass] at starts
  | _ =>
    have kept := network_keeps (by exact trivial) next
    exact .inl (kept.1 ▸ starts)

theorem live_kept {e f : Endpoint} {a : Action} (next : e.step a = some f)
    (still : movesLive a = false) : f.owed = e.owed ∧ f.established = e.established := by
  have moved := endpoint_cases next
  cases a with
  | onOpen hdl | onFail hdl | onClose hdl => cases still
  | getConnection reply =>
    cases reply with
    | connection hdl => obtain ⟨_, rfl⟩ := moved; exact ⟨rfl, rfl⟩
    | errorCode | tlsInitError | otherException => obtain rfl := moved; exact ⟨rfl, rfl⟩
  | endpointConnect accepted =>
    cases accepted with
    | true => cases still
    | false => obtain rfl := moved; exact ⟨rfl, rfl⟩
  | onPong hdl | onPongTimeout hdl | onPreTCPInit hdl | onPostTCPInit hdl =>
    obtain ⟨_, rfl⟩ := moved
    exact ⟨rfl, rfl⟩
  | _ => obtain rfl := moved; exact ⟨rfl, rfl⟩

theorem coherent_same {p q : System} {a : Action} (coherent : Coherent p)
    (next : p.step a = some q) (reads : writesState a = false) (still : movesLive a = false) :
    Coherent q := by
  obtain ⟨client, endpoint⟩ := system_step_iff.mp next
  obtain ⟨owed, established⟩ := live_kept endpoint still
  have state := state_kept client reads
  have quiet : Quiet p.2 → Quiet q.2 := fun still =>
    ⟨owed.trans still.owed, established.trans still.established⟩
  refine ⟨?_, ?_, ?_, ?_, ?_, ?_⟩
  · rw [owed, established]
    exact coherent.single
  · rw [state]
    exact fun down => quiet (coherent.down down)
  · intro starts
    rcases starting_before client starts with before | ⟨_, down⟩
    · exact quiet (coherent.starting before)
    · exact quiet (coherent.down down)
  · intro inside
    rw [state]
    rcases executing_step client inside with ⟨rfl, _⟩ | ⟨hdl, site, rfl, _⟩ | ⟨_, same⟩
    · cases reads
    · obtain ⟨site, stage, _⟩ := step_cases client
      exact coherent.written (by simp [stage, executing])
    · exact coherent.written (same ▸ inside)
  · rw [state, established]
    exact coherent.connecting
  · rw [state, owed]
    exact coherent.up

theorem erase_single {hdl : Handle} {live : List Handle} (mem : hdl ∈ live)
    (single : live.length ≤ 1) : live = [hdl] := by
  match live, single with
  | [one], _ => rw [List.mem_singleton.mp mem]

/-- Where a handle is owed an event, it is the only one and connect() starts no other. -/
theorem owed_alone {p : System} (coherent : Coherent p) {hdl : Handle} (mem : hdl ∈ p.2.owed) :
    p.2.owed = [hdl] ∧ p.2.established = [] ∧ startsAttempt p.1.pc = false := by
  have single := coherent.single
  have alone := erase_single mem (by omega)
  have none : p.2.established = [] := by
    rw [alone, List.length_singleton] at single
    exact List.length_eq_zero_iff.mp (by omega)
  refine ⟨alone, none, Bool.eq_false_iff.mpr fun starts => ?_⟩
  simp [(coherent.starting starts).owed] at mem

theorem established_alone {p : System} (coherent : Coherent p) {hdl : Handle}
    (mem : hdl ∈ p.2.established) :
    p.2.established = [hdl] ∧ p.2.owed = [] ∧ startsAttempt p.1.pc = false := by
  have single := coherent.single
  have alone := erase_single mem (by omega)
  have none : p.2.owed = [] := by
    rw [alone, List.length_singleton] at single
    exact List.length_eq_zero_iff.mp (by omega)
  refine ⟨alone, none, Bool.eq_false_iff.mpr fun starts => ?_⟩
  simp [(coherent.starting starts).established] at mem

theorem coherent_down {q : System} (closed : q.1.connectionState = .closed) (quiet : Quiet q.2)
    (outside : startsAttempt q.1.pc = false) : Coherent q where
  single := by simp [quiet.owed, quiet.established]
  down _ := quiet
  starting starts := by simp [outside] at starts
  written inside := by simp [starts_of_executing inside] at outside
  connecting reads := by simp [closed] at reads
  up reads := by simp [closed] at reads

theorem coherent_step {p q : System} {a : Action} (coherent : Coherent p)
    (next : p.step a = some q) : Coherent q := by
  obtain ⟨client, endpoint⟩ := system_step_iff.mp next
  have moved := step_cases client
  have target := endpoint_cases endpoint
  cases a with
  | beginAttempt =>
    obtain ⟨site, stage, begun⟩ := moved
    have quiet : Quiet q.2 := by
      obtain ⟨owed, established⟩ := coherent.starting (by simp [stage, startsAttempt])
      exact ⟨by rw [target]; exact owed, by rw [target]; exact established⟩
    refine ⟨by simp [quiet.owed, quiet.established], fun _ => quiet, fun _ => quiet,
      fun _ => .inl (by rw [begun]; rfl), fun _ => quiet.established, fun _ => quiet.owed⟩
  | endpointConnect accepted =>
    cases accepted with
    | false => exact coherent_same coherent next rfl rfl
    | true =>
      obtain ⟨site, stage, accepts⟩ := moved
      obtain ⟨hdl, latest, owes⟩ := target
      obtain ⟨owed, established⟩ := coherent.starting (by simp [stage, startsAttempt, executing])
      have written := coherent.written (by simp [stage, executing])
      have state : q.1.connectionState = p.1.connectionState := by rw [accepts]; rfl
      refine ⟨by simp [owes, owed, established], ?_, ?_, ?_, by simp [owes, established], ?_⟩
      · rw [state]
        rcases written with state | state <;> simp [state, isDown]
      · simp [accepts, Connection.endpointConnect, startsAttempt, executing]
      · simp [accepts, Connection.endpointConnect, executing]
      · rw [state]
        rcases written with state | state <;> simp [state]
  | onOpen hdl =>
    obtain ⟨mem, opens⟩ := target
    obtain ⟨alone, none, outside⟩ := owed_alone coherent mem
    have pc : q.1.pc = p.1.pc := by rw [moved]; rfl
    have state : q.1.connectionState = .open := by rw [moved]; rfl
    refine ⟨by simp [opens, alone, none], by simp [state, isDown], by simp [pc, outside], ?_,
      by simp [state], by simp [opens, alone]⟩
    intro inside
    simp [pc ▸ starts_of_executing inside] at outside
  | onFail hdl =>
    obtain ⟨mem, fails⟩ := target
    obtain ⟨alone, none, outside⟩ := owed_alone coherent mem
    exact coherent_down (by rw [moved.2]; rfl) ⟨by simp [fails, alone], by simp [fails, none]⟩
      (by rw [moved.2]; exact outside)
  | onClose hdl =>
    obtain ⟨mem, closes⟩ := target
    obtain ⟨alone, none, outside⟩ := established_alone coherent mem
    exact coherent_down (by rw [moved.2]; rfl) ⟨by simp [closes, none], by simp [closes, alone]⟩
      (by rw [moved.2]; exact outside)
  | closeWrite caller =>
    have pc : q.1.pc = p.1.pc := by rw [moved.2]; rfl
    have state : q.1.connectionState = .closing := by rw [moved.2]; rfl
    have same : q.2 = p.2 := target
    refine ⟨by rw [same]; exact coherent.single, by simp [state, isDown],
      by rw [pc, same]; exact coherent.starting, fun _ => .inr state, by simp [state],
      by simp [state]⟩
  | _ => exact coherent_same coherent next rfl rfl

theorem established_state {p : System} (coherent : Coherent p) {hdl : Handle}
    (mem : hdl ∈ p.2.established) :
    p.1.connectionState = .open ∨ p.1.connectionState = .closing := by
  cases state : p.1.connectionState with
  | initialized | closed => simp [(coherent.down (by simp [state, isDown])).established] at mem
  | connecting => simp [coherent.connecting state] at mem
  | «open» => exact .inl rfl
  | closing => exact .inr rfl

end PcpEndpointCoherence
