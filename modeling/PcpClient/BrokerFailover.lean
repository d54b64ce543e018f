import PcpClient.ClosedState
import PcpClient.CyclicFailover

/-!
The brokers that connect() tries, in order. A run is watched through a log of its attempts,
of their outcomes and of the advances of connection_target_index_; connect() decides between
a lost connection and a failed attempt by the state it read before.
-/
namespace PcpBrokerFailover
open PcpTransitions PcpConnection PcpConnectAttempts PcpEndpoint PcpEndpointCoherence
open PcpClosedState PcpFailover

abbrev Watched := System × List Event

/-- What a step adds to the log: an attempt names the broker that getWsUri() gives it. -/
def observe (p q : System) : Action → List Event
  | .beginAttempt => [.attempt (p.1.connectionTargetIndex % p.1.brokerWsUris.length)]
  | .onOpen _ => [.opened]
  | .onFail _ => [.failed]
  | _ => if q.1.connectionTargetIndex = p.1.connectionTargetIndex then [] else [.advanced]

def Watched.step (w : Watched) (a : Action) : Option Watched :=
  (w.1.step a).map fun q => (q, w.2 ++ observe w.1 q a)

def Watched.create (brokerWsUris : List String) (pongTimeoutsBeforeRetry : Nat) : Watched :=
  (System.create brokerWsUris pongTimeoutsBeforeRetry, [])

/-- A pass that reads closed mistakes a failed attempt for a lost connection, or a lost
    connection for a failed attempt, or advances an index that cannot grow further. It takes
    the connection for lost at the first pass of a call that connect() entered in closed, since
    previousCS is closed only there: it is the state at the entry, until a pass reads connecting
    or closing, or has made an attempt on a lost connection. -/
def misdirects (p : System) : Action → Bool
  | .pass =>
    p.1.connectionState = .closed &&
      if p.1.frame.previousCS = .closed
        then !p.1.timings.isOpen && p.1.brokerWsUris.length ≠ 1
        else p.1.timings.isOpen ||
          (p.1.connectionTargetIndex + 1 = 2 ^ 64 && 2 ^ 64 % p.1.brokerWsUris.length ≠ 0)
  | _ => false

def Fits (p : System) : Phase → Prop
  | .fresh =>
    (p.1.connectionState = .initialized ∨ p.1.connectionState = .closing) ∧ Quiet p.2
  | .trying =>
    (p.1.connectionState = .connecting ∨ p.1.connectionState = .closing) ∧
      p.1.timings.isOpen = false ∧ p.2.established = []
  | .up =>
    (p.1.connectionState = .open ∨ p.1.connectionState = .closing ∨
      p.1.connectionState = .closed) ∧ p.1.timings.isOpen = true ∧ p.2.owed = []
  | .failed => p.1.connectionState = .closed ∧ p.1.timings.isOpen = false
  | .next => p.1.connectionState = .closed

def Suits (n : Nat) (phase : Phase) : ConnectPc → Prop
  | .backoff | .attempt .retry .start => phase = .next
  | .attempt .again .start => phase = .up ∨ phase = .failed ∧ n = 1
  | .attempt .first .start => phase = .fresh
  | .attempt _ .getConnection | .attempt _ .endpointConnect => phase = .trying
  | _ => phase ≠ .next

/-- The members refine a position of the failover order. -/
structure Agrees (n : Nat) (w : Watched) (s : Position) : Prop where
  logged : run (Position.step n) .start w.2 = some s
  brokers : w.1.1.brokerWsUris.length = n
  target : w.1.1.connectionTargetIndex % n = s.target
  width : w.1.1.connectionTargetIndex < 2 ^ 64
  coherent : Coherent w.1
  free : w.1.1.connectionState = .closed → w.1.1.closeCall = none
  fits : Fits w.1 s.phase
  suits : Suits n s.phase w.1.1.pc

theorem agrees_create (brokerWsUris : List String) (pongTimeoutsBeforeRetry : Nat) :
    Agrees brokerWsUris.length (Watched.create brokerWsUris pongTimeoutsBeforeRetry) .start where
  logged := rfl
  brokers := rfl
  target := Nat.zero_mod _
  width := by simp [Watched.create, System.create, Connection.create]
  coherent := coherent_create brokerWsUris pongTimeoutsBeforeRetry
  free closed := by cases closed
  fits := ⟨.inl rfl, rfl, rfl⟩
  suits := by simp [Position.start, Suits, Watched.create, System.create, Connection.create]

/-! What each step does to the members that the log is about. -/

theorem targets_kept {c d : Connection} {a : Action} (other : a ≠ .pass)
    (next : c.step a = some d) :
    d.brokerWsUris = c.brokerWsUris ∧ d.connectionTargetIndex = c.connectionTargetIndex := by
  have ended : ∀ e : Connection, e.endPass.brokerWsUris = e.brokerWsUris ∧
      e.endPass.connectionTargetIndex = e.connectionTargetIndex := fun e => by
    unfold Connection.endPass
    split <;> exact ⟨rfl, rfl⟩
  have moved := step_cases next
  cases a with
  | pass => exact absurd rfl other
  | poll => obtain ⟨_, rfl⟩ := moved; exact ended c
  | callConnect n | closeEnter caller | closeEndpoint caller ok | closeWrite caller
  | onClose hdl | onFail hdl => obtain ⟨_, rfl⟩ := moved; exact ⟨rfl, rfl⟩
  | retrySleep draw => obtain ⟨_, _, rfl⟩ := moved; exact ⟨rfl, rfl⟩
  | beginAttempt => obtain ⟨site, _, rfl⟩ := moved; exact ⟨rfl, rfl⟩
  | getConnection reply =>
    obtain ⟨site, _, rfl⟩ := moved
    cases reply <;> exact ⟨rfl, rfl⟩
  | endpointConnect accepted =>
    obtain ⟨site, _, rfl⟩ := moved
    cases accepted <;> exact ⟨rfl, rfl⟩
  | waitEnds draw =>
    obtain ⟨site, _, _, rfl⟩ := moved
    cases site with
    | first => exact ⟨rfl, rfl⟩
    | again => exact ended c
    | retry =>
      simp only [Connection.waitEnds]
      split
      · exact ended (c.doubleBackoff draw)
      · exact ended c
  | recheck =>
    obtain ⟨_, rfl⟩ := moved
    unfold Connection.recheck
    split
    · exact ⟨rfl, rfl⟩
    · exact ended c
  | _ => obtain rfl := moved; exact ⟨rfl, rfl⟩

theorem isOpen_kept {c d : Connection} {a : Action} (fresh : a ≠ .beginAttempt)
    (other : ∀ hdl, a ≠ .onOpen hdl) (next : c.step a = some d) :
    d.timings.isOpen = c.timings.isOpen := by
  have moved := stamp_cases next
  cases a with
  | beginAttempt => exact absurd rfl fresh
  | onOpen hdl => exact absurd rfl (other hdl)
  | _ =>
    have flag := congrArg PcpTimings.ConnectionTimings.isOpen moved.1
    exact flag

theorem fits_kept {p q : System} {phase : Phase} (fits : Fits p phase)
    (state : q.1.connectionState = p.1.connectionState)
    (isOpen : q.1.timings.isOpen = p.1.timings.isOpen)
    (established : q.2.established = p.2.established)
    (owed : phase = .trying ∨ q.2.owed = p.2.owed) : Fits q phase := by
  cases phase with
  | trying => simpa only [Fits, state, isOpen, established] using fits
  | fresh =>
    obtain ⟨early, quiet⟩ := fits
    have same := owed.resolve_left (by simp)
    exact ⟨state ▸ early, same.trans quiet.owed, established.trans quiet.established⟩
  | up =>
    have same := owed.resolve_left (by simp)
    simpa only [Fits, state, isOpen, same] using fits
  | failed | next => simpa only [Fits, state, isOpen] using fits

theorem suits_endPass {n : Nat} {phase : Phase} (between : phase ≠ .next) (c : Connection) :
    Suits n phase c.endPass.pc := by
  rcases endPass_pc c with pc | pc <;> rw [pc] <;> exact between

theorem suits_step {n : Nat} {phase : Phase} {c d : Connection} {a : Action}
    (suits : Suits n phase c.pc) (pass : a ≠ .pass) (fresh : a ≠ .beginAttempt)
    (next : c.step a = some d) : Suits n phase d.pc := by
  have moved := step_cases next
  cases a with
  | pass => exact absurd rfl pass
  | beginAttempt => exact absurd rfl fresh
  | callConnect m =>
    obtain ⟨idle, rfl⟩ := moved
    simpa only [idle, Suits, Connection.callConnect] using suits
  | poll =>
    obtain ⟨polling, rfl⟩ := moved
    exact suits_endPass (by simpa only [polling, Suits] using suits) c
  | retrySleep draw =>
    obtain ⟨backoff, _, rfl⟩ := moved
    simpa only [backoff, Suits] using suits
  | getConnection reply =>
    obtain ⟨site, stage, rfl⟩ := moved
    have trying : phase = .trying := by cases site <;> simpa only [stage, Suits] using suits
    cases reply with
    | connection hdl => cases site <;> exact trying
    | errorCode | tlsInitError | otherException => simp [Connection.getConnection,
        Connection.finish, Suits, trying]
  | endpointConnect accepted =>
    obtain ⟨site, stage, rfl⟩ := moved
    have trying : phase = .trying := by cases site <;> simpa only [stage, Suits] using suits
    cases accepted with
    | true => cases site <;> simp [Connection.endpointConnect, Suits, trying]
    | false => simp [Connection.endpointConnect, Connection.finish, Suits, trying]
  | waitEnds draw =>
    obtain ⟨site, waiting, _, rfl⟩ := moved
    have between : phase ≠ .next := by cases site <;> simpa only [waiting, Suits] using suits
    by_cases first : site = .first
    · subst first
      exact between
    · obtain ⟨e, finished, _⟩ := waitEnds_endPass c draw first
      rw [finished]
      exact suits_endPass between e
  | recheck =>
    obtain ⟨recheck, rfl⟩ := moved
    have between : phase ≠ .next := by simpa only [recheck, Suits] using suits
    unfold Connection.recheck
    split
    · exact between
    · exact suits_endPass between c
  | _ => rw [(network_keeps (by exact trivial) next).1]; exact suits

/-! The step lemma: the log stays a run of the failover order. -/

theorem agrees_kept {n : Nat} {w : Watched} {s : Position} {q : System} {a : Action}
    (agrees : Agrees n w s) (next : w.1.step a = some q) (reads : writesState a = false)
    (targets : q.1.brokerWsUris = w.1.1.brokerWsUris ∧
      q.1.connectionTargetIndex = w.1.1.connectionTargetIndex)
    (suits : Suits n s.phase q.1.pc) : Agrees n (q, w.2) s := by
  obtain ⟨client, endpoint⟩ := system_step_iff.mp next
  have state := state_kept client reads
  have fresh : a ≠ .beginAttempt := by rintro rfl; cases reads
  have isOpen := isOpen_kept fresh (by rintro hdl rfl; cases reads) client
  have live : q.2.established = w.1.2.established ∧
      (s.phase = .trying ∨ q.2.owed = w.1.2.owed) := by
    cases still : movesLive a with
    | false =>
      obtain ⟨owed, established⟩ := live_kept endpoint still
      exact ⟨established, .inr owed⟩
    | true =>
      cases a with
      | endpointConnect accepted =>
        cases accepted with
        | false => cases still
        | true =>
          obtain ⟨site, stage, _⟩ := step_cases client
          obtain ⟨hdl, _, owes⟩ := endpoint_cases endpoint
          have before := agrees.suits
          rw [stage] at before
          exact ⟨by rw [owes], .inl (by cases site <;> exact before)⟩
      | onOpen hdl | onFail hdl | onClose hdl => cases reads
      | _ => cases still
  exact {
    logged := agrees.logged
    brokers := targets.1 ▸ agrees.brokers
    target := targets.2 ▸ agrees.target
    width := targets.2 ▸ agrees.width
    coherent := coherent_step agrees.coherent next
    free := fun closed => by
      have before : w.1.1.connectionState = .closed := state.symm.trans closed
      exact free_kept before (agrees.free before) client
    fits := fits_kept agrees.fits state isOpen live.1 live.2
    suits := suits }

theorem observe_silent {p q : System} {a : Action} (fresh : a ≠ .beginAttempt)
    (notOpen : ∀ hdl, a ≠ .onOpen hdl) (notFail : ∀ hdl, a ≠ .onFail hdl)
    (index : q.1.connectionTargetIndex = p.1.connectionTargetIndex) : observe p q a = [] := by
  cases a with
  | beginAttempt => exact absurd rfl fresh
  | onOpen hdl => exact absurd rfl (notOpen hdl)
  | onFail hdl => exact absurd rfl (notFail hdl)
  | _ => exact if_pos index

theorem phase_of_owed {n : Nat} {w : Watched} {s : Position} (agrees : Agrees n w s) {hdl : Handle}
    (mem : hdl ∈ w.1.2.owed) : s.phase = .trying := by
  have fits := agrees.fits
  have down : isDown w.1.1.connectionState = true → False := fun down => by
    simp [(agrees.coherent.down down).owed] at mem
  cases phase : s.phase with
  | trying => rfl
  | fresh => simp only [phase, Fits] at fits; simp [fits.2.owed] at mem
  | up => simp only [phase, Fits] at fits; simp [fits.2.2] at mem
  | failed => simp only [phase, Fits] at fits; exact (down (by simp [fits.1, isDown])).elim
  | next => simp only [phase, Fits] at fits; exact (down (by simp [fits, isDown])).elim

theorem phase_of_established {n : Nat} {w : Watched} {s : Position} (agrees : Agrees n w s)
    {hdl : Handle} (mem : hdl ∈ w.1.2.established) : s.phase = .up := by
  have fits := agrees.fits
  have down : isDown w.1.1.connectionState = true → False := fun down => by
    simp [(agrees.coherent.down down).established] at mem
  cases phase : s.phase with
  | up => rfl
  | fresh => simp only [phase, Fits] at fits; simp [fits.2.established] at mem
  | trying => simp only [phase, Fits] at fits; simp [fits.2.2] at mem
  | failed => simp only [phase, Fits] at fits; exact (down (by simp [fits.1, isDown])).elim
  | next => simp only [phase, Fits] at fits; exact (down (by simp [fits, isDown])).elim

theorem phase_of_closed {n : Nat} {w : Watched} {s : Position} (agrees : Agrees n w s)
    (state : w.1.1.connectionState = .closed) (between : s.phase ≠ .next) :
    s.phase = .up ∧ w.1.1.timings.isOpen = true ∨
      s.phase = .failed ∧ w.1.1.timings.isOpen = false := by
  have fits := agrees.fits
  cases phase : s.phase <;> simp [phase, Fits, state] at fits between ⊢
  · exact fits.1
  · exact fits

theorem agrees_attempt {n : Nat} {w : Watched} {s : Position} {q : System}
    (agrees : Agrees n w s) (next : w.1.step .beginAttempt = some q) :
    Agrees n (q, w.2 ++ observe w.1 q .beginAttempt) ⟨.trying, s.target⟩ := by
  obtain ⟨client, endpoint⟩ := system_step_iff.mp next
  obtain ⟨site, stage, begun⟩ := step_cases client
  have suits := agrees.suits
  rw [stage] at suits
  have expected : s.phase ≠ .trying ∧ s.target = s.expected n := by
    cases site with
    | first => rw [Suits] at suits; simp [suits, Position.expected]
    | retry => rw [Suits] at suits; simp [suits, Position.expected]
    | again =>
      rcases suits with up | ⟨failed, single⟩
      · simp [up, Position.expected]
      · have zero : s.target = 0 := by rw [← agrees.target, single, Nat.mod_one]
        simp [failed, Position.expected, single, zero]
  have attempt : observe w.1 q .beginAttempt = [.attempt s.target] := by
    simp only [observe, agrees.brokers, agrees.target]
  have quiet := agrees.coherent.starting (by simp [stage, startsAttempt])
  have coherent := coherent_step agrees.coherent next
  obtain ⟨c, e⟩ := q
  obtain rfl : c = _ := begun
  obtain rfl : e = _ := endpoint_cases endpoint
  exact {
    logged := by
      rw [attempt]
      exact run_snoc_iff.mpr ⟨s, agrees.logged, if_pos expected⟩
    brokers := agrees.brokers
    target := agrees.target
    width := agrees.width
    coherent
    free := fun closed => by cases closed
    fits := ⟨.inl rfl, rfl, quiet.established⟩
    suits := by cases site <;> rfl }

theorem switched_index {c : Connection} (state : c.connectionState = .closed)
    (previous : c.frame.previousCS ≠ .closed) :
    c.pass.connectionTargetIndex = (c.connectionTargetIndex + 1) % 2 ^ 64 := by
  simp only [Connection.pass, state, previous, if_false]
  rfl

theorem unswitched_index {c : Connection}
    (kept : c.connectionState = .closed → c.frame.previousCS = .closed) :
    c.pass.connectionTargetIndex = c.connectionTargetIndex := by
  cases state : c.connectionState with
  | initialized | «open» =>
    simp only [Connection.pass, state]
    split <;> rfl
  | connecting | closing => simp only [Connection.pass, state]
  | closed => simp only [Connection.pass, state, kept state, if_true]

theorem agrees_switch {n : Nat} {w : Watched} {s : Position} {q : System} (agrees : Agrees n w s)
    (next : w.1.step .pass = some q) (state : w.1.1.connectionState = .closed)
    (previous : w.1.1.frame.previousCS ≠ .closed) (failed : s.phase = .failed)
    (cyclic : w.1.1.connectionTargetIndex + 1 = 2 ^ 64 → 2 ^ 64 % n = 0) :
    Agrees n (q, w.2 ++ observe w.1 q .pass) ⟨.next, s.expected n⟩ := by
  obtain ⟨_, passed⟩ := step_cases (system_step_iff.mp next).1
  have untouched := untouched_pass w.1.1
  have switched := switched_index state previous
  rw [← passed] at untouched switched
  have width := agrees.width
  have advanced : observe w.1 q .pass = [.advanced] := if_neg (by rw [switched]; omega)
  exact {
    logged := by
      rw [advanced]
      exact run_snoc_iff.mpr ⟨s, agrees.logged, if_pos failed⟩
    brokers := untouched.brokers ▸ agrees.brokers
    target := by
      simp only [switched, Position.expected, failed, if_true, ← agrees.target, Nat.mod_add_mod]
      by_cases full : w.1.1.connectionTargetIndex + 1 = 2 ^ 64
      · rw [full, cyclic full, Nat.mod_self, Nat.zero_mod]
      · rw [Nat.mod_eq_of_lt (by omega : w.1.1.connectionTargetIndex + 1 < 2 ^ 64)]
    width := by simp only [switched]; omega
    coherent := coherent_step agrees.coherent next
    free := fun _ => untouched.closeCall.trans (agrees.free state)
    fits := untouched.state.trans state
    suits := by
      rw [passed]
      simp only [Connection.pass, state, previous, if_false, Suits] }

theorem agrees_pass {n : Nat} {w : Watched} {s : Position} {q : System} (agrees : Agrees n w s)
    (directs : misdirects w.1 .pass = false) (next : w.1.step .pass = some q) :
    ∃ t, Agrees n (q, w.2 ++ observe w.1 q .pass) t := by
  obtain ⟨client, endpoint⟩ := system_step_iff.mp next
  obtain ⟨head, passed⟩ := step_cases client
  have between : s.phase ≠ .next := by simpa only [head, Suits] using agrees.suits
  have fits := agrees.fits
  have branch := pass_branch w.1.1
  have untouched := untouched_pass w.1.1
  have stays : (w.1.1.connectionState = .closed → w.1.1.frame.previousCS = .closed) →
      Suits n s.phase q.1.pc → ∃ t, Agrees n (q, w.2 ++ observe w.1 q .pass) t := by
    intro kept suits
    have index : q.1.connectionTargetIndex = w.1.1.connectionTargetIndex := by
      rw [passed, unswitched_index kept]
    refine ⟨s, ?_⟩
    rw [observe_silent (by simp) (by simp) (by simp) index, List.append_nil]
    exact agrees_kept agrees next rfl ⟨passed ▸ untouched.brokers, index⟩ suits
  cases state : w.1.1.connectionState with
  | initialized =>
    have fresh : s.phase = .fresh := by
      cases phase : s.phase <;> simp [phase, Fits, state] at fits ⊢
    simp only [state] at branch
    refine stays (by simp [state]) ?_
    rw [passed]
    rcases branch with pc | pc <;> simp [pc, Suits, fresh]
  | connecting | closing =>
    simp only [state] at branch
    exact stays (by simp [state]) (by rw [passed, branch]; exact between)
  | «open» =>
    simp only [state] at branch
    exact stays (by simp [state]) (by rw [passed, branch.1]; exact between)
  | closed =>
    have ended := phase_of_closed agrees state between
    by_cases lost : w.1.1.frame.previousCS = .closed
    · refine stays (fun _ => lost) ?_
      rw [passed]
      simp only [Connection.pass, state, lost, if_true, Suits]
      rcases ended with ⟨up, _⟩ | ⟨failed, notOpen⟩
      · exact .inl up
      · refine .inr ⟨failed, ?_⟩
        simpa [misdirects, state, lost, notOpen, agrees.brokers] using directs
    · have notOpen : w.1.1.timings.isOpen = false ∧
          (w.1.1.connectionTargetIndex + 1 = 2 ^ 64 → 2 ^ 64 % n = 0) := by
        simpa [misdirects, state, lost, agrees.brokers] using directs
      have failed : s.phase = .failed := by
        rcases ended with ⟨_, isOpen⟩ | ⟨failed, _⟩
        · simp [notOpen.1] at isOpen
        · exact failed
      exact ⟨_, agrees_switch agrees next state lost failed notOpen.2⟩

theorem agrees_outcome {n : Nat} {w : Watched} {s : Position} {q : System} {a : Action}
    {hdl : Handle} (agrees : Agrees n w s) (outcome : a = .onOpen hdl ∨ a = .onFail hdl)
    (next : w.1.step a = some q) : ∃ t, Agrees n (q, w.2 ++ observe w.1 q a) t := by
  obtain ⟨client, endpoint⟩ := system_step_iff.mp next
  have coherent := coherent_step agrees.coherent next
  have moved := step_cases client
  have target := endpoint_cases endpoint
  have mem : hdl ∈ w.1.2.owed := by rcases outcome with rfl | rfl <;> exact target.1
  have trying := phase_of_owed agrees mem
  obtain ⟨alone, none, outside⟩ := owed_alone agrees.coherent mem
  have suits : ∀ phase, phase ≠ .next → Suits n phase w.1.1.pc := fun phase between => by
    cases pc : w.1.1.pc with
    | attempt site stage =>
      cases stage with
      | waiting => cases site <;> exact between
      | start | getConnection | endpointConnect =>
        simp [pc, startsAttempt, executing] at outside
    | backoff => simp [pc, startsAttempt] at outside
    | _ => exact between
  have fits := agrees.fits
  rw [trying] at fits
  obtain ⟨c, e⟩ := q
  rcases outcome with rfl | rfl
  · obtain rfl : c = _ := moved
    obtain rfl : e = _ := target.2
    exact ⟨⟨.up, s.target⟩, {
      logged := run_snoc_iff.mpr ⟨s, agrees.logged, if_pos trying⟩
      brokers := agrees.brokers
      target := agrees.target
      width := agrees.width
      coherent
      free := fun closed => by cases closed
      fits := ⟨.inl rfl, rfl, by simp [alone]⟩
      suits := suits .up (by simp) }⟩
  · obtain rfl : c = _ := moved.2
    obtain rfl : e = _ := target.2
    exact ⟨⟨.failed, s.target⟩, {
      logged := run_snoc_iff.mpr ⟨s, agrees.logged, if_pos trying⟩
      brokers := agrees.brokers
      target := agrees.target
      width := agrees.width
      coherent
      free := fun _ => moved.1
      fits := ⟨rfl, fits.2.1⟩
      suits := suits .failed (by simp) }⟩

theorem agrees_down {n : Nat} {w : Watched} {s : Position} {q : System} {a : Action}
    (agrees : Agrees n w s)
    (down : (∃ hdl, a = .onClose hdl) ∨ ∃ caller, a = .closeWrite caller)
    (next : w.1.step a = some q) : Agrees n (q, w.2) s := by
  obtain ⟨client, endpoint⟩ := system_step_iff.mp next
  have coherent := coherent_step agrees.coherent next
  have moved := step_cases client
  have target := endpoint_cases endpoint
  have suits := agrees.suits
  have fits := agrees.fits
  obtain ⟨c, e⟩ := q
  rcases down with ⟨hdl, rfl⟩ | ⟨caller, rfl⟩
  · have up := phase_of_established agrees target.1
    obtain rfl : c = _ := moved.2
    obtain rfl : e = _ := target.2
    rw [up] at fits
    exact {
      logged := agrees.logged
      brokers := agrees.brokers
      target := agrees.target
      width := agrees.width
      coherent
      free := fun _ => moved.1
      fits := by rw [up]; exact ⟨.inr (.inr rfl), fits.2⟩
      suits }
  · obtain rfl : c = _ := moved.2
    obtain rfl : e = _ := target
    have notClosed : w.1.1.connectionState ≠ .closed := fun closed => by
      simp [agrees.free closed] at moved
    exact {
      logged := agrees.logged
      brokers := agrees.brokers
      target := agrees.target
      width := agrees.width
      coherent
      free := fun closed => by cases closed
      fits := by
        cases phase : s.phase with
        | fresh => rw [phase] at fits; exact ⟨.inr rfl, fits.2⟩
        | trying => rw [phase] at fits; exact ⟨.inr rfl, fits.2⟩
        | up => rw [phase] at fits; exact ⟨.inr (.inl rfl), fits.2⟩
        | failed => rw [phase] at fits; exact absurd fits.1 notClosed
        | next => rw [phase] at fits; exact absurd fits notClosed
      suits }

theorem agrees_step {n : Nat} {w v : Watched} {s : Position} {a : Action} (agrees : Agrees n w s)
    (directs : misdirects w.1 a = false) (next : w.step a = some v) : ∃ t, Agrees n v t := by
  obtain ⟨q, moves, rfl⟩ := Option.map_eq_some_iff.mp next
  cases a with
  | pass => exact agrees_pass agrees directs moves
  | beginAttempt => exact ⟨_, agrees_attempt agrees moves⟩
  | onOpen hdl => exact agrees_outcome agrees (.inl rfl) moves
  | onFail hdl => exact agrees_outcome agrees (.inr rfl) moves
  | onClose hdl | closeWrite caller =>
    have index := (targets_kept (by simp) (system_step_iff.mp moves).1).2
    rw [observe_silent (by simp) (by simp) (by simp) index, List.append_nil]
    exact ⟨s, agrees_down agrees (by simp) moves⟩
  | _ =>
    have client := (system_step_iff.mp moves).1
    have targets := targets_kept (by simp) client
    rw [observe_silent (by simp) (by simp) (by simp) targets.2, List.append_nil]
    exact ⟨s, agrees_kept agrees moves rfl targets
      (suits_step agrees.suits (by simp) (by simp) client)⟩

theorem agrees_run {brokerWsUris : List String} {pongTimeoutsBeforeRetry : Nat}
    {trace : List Action} {w : Watched}
    (path : run Watched.step (Watched.create brokerWsUris pongTimeoutsBeforeRetry) trace = some w)
    (guarded : Throughout Watched.step (fun w a => misdirects w.1 a = false)
      (Watched.create brokerWsUris pongTimeoutsBeforeRetry) trace) :
    ∃ s, Agrees brokerWsUris.length w s :=
  run_under (fun w a => misdirects w.1 a = false) (fun w => ∃ s, Agrees brokerWsUris.length w s)
    (fun _ _ _ ⟨_, held⟩ directs next => agrees_step held directs next)
    ⟨_, agrees_create brokerWsUris pongTimeoutsBeforeRetry⟩ guarded path

/-! What follows a pass that misdirects the next attempt. -/

theorem attempt_follows {w : Watched} {site : AttemptSite}
    (stage : w.1.1.pc = .attempt site .start) :
    ∃ v, w.step .beginAttempt = some v ∧
      v.2 = w.2 ++ [.attempt (w.1.1.connectionTargetIndex % w.1.1.brokerWsUris.length)] := by
  have next : w.1.step .beginAttempt =
      some (w.1.1.beginAttempt site, { w.1.2 with latest := none }) :=
    system_step_iff.mpr ⟨by simp [Connection.step, stage], rfl⟩
  exact ⟨_, by rw [Watched.step, next]; rfl, rfl⟩

theorem failure_missed {n : Nat} {w : Watched} {s : Position} {q : System} (several : n ≠ 1)
    (positive : 0 < n) (agrees : Agrees n w s) (failed : s.phase = .failed)
    (state : w.1.1.connectionState = .closed) (previous : w.1.1.frame.previousCS = .closed)
    (next : w.1.step .pass = some q) :
    ∃ v, run Watched.step w [.pass, .beginAttempt] = some v ∧ ¬InOrder n v.2 := by
  obtain ⟨_, passed⟩ := step_cases (system_step_iff.mp next).1
  have index : q.1.connectionTargetIndex = w.1.1.connectionTargetIndex := by
    rw [passed, unswitched_index fun _ => previous]
  have brokers : q.1.brokerWsUris.length = n := by
    rw [passed, (untouched_pass w.1.1).brokers]
    exact agrees.brokers
  have stage : q.1.pc = .attempt .again .start := by
    rw [passed]
    simp only [Connection.pass, state, previous, if_true]
  have silent := observe_silent (p := w.1) (a := .pass) (by simp) (by simp) (by simp) index
  obtain ⟨v, attempt, log⟩ := attempt_follows (w := (q, w.2)) stage
  refine ⟨v, run_cons_iff.mpr ⟨(q, w.2), ?_, run_cons_iff.mpr ⟨v, attempt, rfl⟩⟩, ?_⟩
  · simp [Watched.step, next, silent]
  · rw [log, index, brokers, agrees.target]
    have small : s.target < n := agrees.target ▸ Nat.mod_lt _ positive
    have other : s.target ≠ s.expected n := by
      simp only [Position.expected, failed, if_true]
      intro same
      have moved : s.target + 1 = n ∨ s.target + 1 < n := by omega
      rcases moved with full | less
      · rw [full, Nat.mod_self] at same
        omega
      · rw [Nat.mod_eq_of_lt less] at same
        omega
    simpa using attempt_out_of_order [] agrees.logged failed rfl other

/-- An index that goes back to zero skips brokers unless their number divides 2^64. -/
theorem wrap_shows {n : Nat} {w : Watched} {s : Position} {q : System} (agrees : Agrees n w s)
    (failed : s.phase = .failed) (state : w.1.1.connectionState = .closed)
    (previous : w.1.1.frame.previousCS ≠ .closed)
    (full : w.1.1.connectionTargetIndex + 1 = 2 ^ 64) (uneven : 2 ^ 64 % n ≠ 0)
    (next : w.1.step .pass = some q) :
    ∃ v, run Watched.step w [.pass, .retrySleep 0, .beginAttempt] = some v ∧ ¬InOrder n v.2 := by
  obtain ⟨_, passed⟩ := step_cases (system_step_iff.mp next).1
  have index := switched_index state previous
  rw [← passed] at index
  have backoff : q.1.pc = .backoff := by
    rw [passed]
    simp only [Connection.pass, state, previous, if_false]
  have advanced : observe w.1 q .pass = [.advanced] := if_neg (by rw [index]; omega)
  let slept : System := ({ q.1 with pc := .attempt .retry .start }, q.2)
  have sleeps : q.step (.retrySleep 0) = some slept :=
    system_step_iff.mpr ⟨by simp [Connection.step, backoff, IsDraw, slept], rfl⟩
  obtain ⟨v, attempt, log⟩ := attempt_follows (w := (slept, w.2 ++ [.advanced])) rfl
  refine ⟨v, run_cons_iff.mpr ⟨(q, w.2 ++ [.advanced]), ?_, run_cons_iff.mpr
    ⟨(slept, w.2 ++ [.advanced]), ?_, run_cons_iff.mpr ⟨v, attempt, rfl⟩⟩⟩, ?_⟩
  · simp [Watched.step, next, advanced]
  · simp [Watched.step, sleeps, observe, slept]
  · have zero : slept.1.connectionTargetIndex = 0 := index.trans (by rw [full, Nat.mod_self])
    rw [log, zero, Nat.zero_mod]
    refine attempt_out_of_order _ agrees.logged failed (by simp [outcomes]) ?_
    simp only [Position.expected, failed, if_true]
    rw [← agrees.target, Nat.mod_add_mod, full]
    exact uneven.symm

theorem misdirected_shows {n : Nat} {w : Watched} {s : Position} {a : Action} {q : System}
    (positive : 0 < n) (agrees : Agrees n w s) (wrong : misdirects w.1 a = true)
    (next : w.1.step a = some q) :
    ∃ more v, run Watched.step w (a :: more) = some v ∧ ¬InOrder n v.2 := by
  cases a with
  | pass =>
    have between : s.phase ≠ .next := by
      simpa only [(step_cases (system_step_iff.mp next).1).1, Suits] using agrees.suits
    obtain ⟨closed, wrong⟩ := (Bool.and_eq_true _ _).mp wrong
    have state : w.1.1.connectionState = .closed := of_decide_eq_true closed
    have ended := phase_of_closed agrees state between
    by_cases previous : w.1.1.frame.previousCS = .closed
    · simp only [previous, if_true, Bool.and_eq_true, Bool.not_eq_true', decide_eq_true_eq,
        agrees.brokers] at wrong
      rcases ended with ⟨_, isOpen⟩ | ⟨failed, _⟩
      · simp [wrong.1] at isOpen
      · exact ⟨_, failure_missed wrong.2 positive agrees failed state previous next⟩
    · rcases ended with ⟨up, _⟩ | ⟨failed, notOpen⟩
      · -- The advance itself follows an attempt that opened.
        have index := switched_index state previous
        rw [← (step_cases (system_step_iff.mp next).1).2] at index
        have width := agrees.width
        have advanced : observe w.1 q .pass = [.advanced] := if_neg (by rw [index]; omega)
        refine ⟨[], (q, w.2 ++ [.advanced]), run_cons_iff.mpr ⟨_, ?_, rfl⟩,
          advance_out_of_order agrees.logged up⟩
        simp [Watched.step, next, advanced]
      · simp only [previous, if_false, notOpen, Bool.false_or, Bool.and_eq_true,
          decide_eq_true_eq, agrees.brokers] at wrong
        exact ⟨_, wrap_shows agrees failed state previous wrong.1 wrong.2 next⟩
  | _ => cases wrong

/-- In a run without a pass that misdirects, the attempts are in the order of failover. Each
    pass that does has a continuation in which they are not. -/
theorem failover_in_order (brokerWsUris : List String) (pongTimeoutsBeforeRetry : Nat)
    (positive : 0 < brokerWsUris.length) :
    (∀ trace w,
      run Watched.step (Watched.create brokerWsUris pongTimeoutsBeforeRetry) trace = some w →
        Throughout Watched.step (fun w a => misdirects w.1 a = false)
          (Watched.create brokerWsUris pongTimeoutsBeforeRetry) trace →
            InOrder brokerWsUris.length w.2) ∧
    ∀ past w a,
      run Watched.step (Watched.create brokerWsUris pongTimeoutsBeforeRetry) past = some w →
        Throughout Watched.step (fun w a => misdirects w.1 a = false)
          (Watched.create brokerWsUris pongTimeoutsBeforeRetry) past →
            misdirects w.1 a = true → (w.1.step a).isSome → ∃ more v,
              run Watched.step (Watched.create brokerWsUris pongTimeoutsBeforeRetry)
                (past ++ a :: more) = some v ∧ ¬InOrder brokerWsUris.length v.2 := by
  constructor
  · intro trace w path guarded
    obtain ⟨s, agrees⟩ := agrees_run path guarded
    exact accepted_inOrder positive agrees.logged
  · intro past w a path guarded wrong enabled
    obtain ⟨q, next⟩ := Option.isSome_iff_exists.mp enabled
    obtain ⟨s, agrees⟩ := agrees_run path guarded
    obtain ⟨more, v, later, disorder⟩ := misdirected_shows positive agrees wrong next
    exact ⟨more, v, run_append_iff.mpr ⟨w, path, later⟩, disorder⟩

def twoBrokers : List String := ["wss://broker1:8142/pcp/", "wss://broker2:8142/pcp/"]

def failedOver : List Action :=
  [.callConnect 2, .pass, .beginAttempt, .getConnection (.connection 0), .endpointConnect true,
    .onFail 0, .waitEnds 0, .recheck, .pass, .retrySleep 0, .beginAttempt]

theorem failed_over_in_order :
    ∃ w, run Watched.step (Watched.create twoBrokers 3) failedOver = some w ∧
      w.2 = [.attempt 0, .failed, .advanced, .attempt 1] ∧ InOrder 2 w.2 :=
  ⟨_, rfl, rfl, (failover_in_order twoBrokers 3 (by decide)).1 failedOver _ rfl (by decide)⟩

/-- An established connection is closed by close(), and connect() is called before the broker
    has closed it too. -/
def closedWhileClosing : List Action :=
  [.callConnect 1, .pass, .beginAttempt, .getConnection (.connection 0), .endpointConnect true,
    .onOpen 0, .waitEnds 0, .recheck, .closeEnter .client, .closeEndpoint .client true,
    .closeWrite .client, .callConnect 0, .pass, .onClose 0, .poll, .pass]

theorem advances_without_failure :
    ∃ w, run Watched.step (Watched.create twoBrokers 3) closedWhileClosing = some w ∧
      w.2 = [.attempt 0, .opened, .advanced] ∧ ¬InOrder 2 w.2 := by
  have logged : run (Position.step 2) .start [.attempt 0, .opened] = some ⟨.up, 0⟩ := rfl
  exact ⟨_, rfl, rfl, advance_out_of_order logged rfl⟩

end PcpBrokerFailover
