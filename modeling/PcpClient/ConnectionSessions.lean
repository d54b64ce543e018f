import PcpClient.EndpointCoherence
import PcpClient.Refinement

/-!
The life of the connections of a Connection, as its handlers see it: each connect_() is
followed by one open or fail event at most, an open event by one close event, and only then
does connect() call connect_() again.
-/
namespace PcpSessions
open PcpTransitions PcpConnection PcpConnectAttempts PcpEndpoint PcpEndpointCoherence

inductive Event where
  | connect
  | opened (hdl : Handle)
  | failed (hdl : Handle)
  | closed (hdl : Handle)
  deriving DecidableEq, Repr

inductive Session where
  | idle | trying | up (hdl : Handle)
  deriving DecidableEq, Repr

def Session.step : Session → Event → Option Session
  | .idle, .connect => some .trying
  | .trying, .opened hdl => some (.up hdl)
  | .trying, .failed _ => some .idle
  | .up hdl, .closed closed => if closed = hdl then some .idle else none
  | _, _ => none

def observed : Action → List Event
  | .beginAttempt => [.connect]
  | .onOpen hdl => [.opened hdl]
  | .onFail hdl => [.failed hdl]
  | .onClose hdl => [.closed hdl]
  | _ => []

/-- connect() has decided for an attempt that it has not begun. -/
def deciding : ConnectPc → Bool
  | .backoff | .attempt _ .start => true
  | _ => false

/-- What the phase says about connection_state_, connection_handle_ and the endpoint. -/
def Agrees (p : System) : Session → Prop
  | .idle => Quiet p.2 ∧ executing p.1.pc = false ∧
      p.1.connectionState ≠ .connecting ∧ p.1.connectionState ≠ .open
  | .trying => p.2.established = [] ∧ (∀ hdl ∈ p.2.owed, p.1.connectionHandle = some hdl) ∧
      (∀ site, p.1.pc = .attempt site .endpointConnect → p.2.latest = p.1.connectionHandle) ∧
      deciding p.1.pc = false ∧
      (p.1.connectionState = .connecting ∨ p.1.connectionState = .closing)
  | .up hdl => p.2.owed = [] ∧ p.2.established = [hdl] ∧ p.1.connectionHandle = some hdl ∧
      (p.1.connectionState = .open ∨ p.1.connectionState = .closing)

structure Related (p : System) (session : Session) : Prop where
  coherent : Coherent p
  agrees : Agrees p session

theorem related_create (brokerWsUris : List String) (pongTimeoutsBeforeRetry : Nat) :
    Related (System.create brokerWsUris pongTimeoutsBeforeRetry) .idle where
  coherent := coherent_create brokerWsUris pongTimeoutsBeforeRetry
  agrees := ⟨⟨rfl, rfl⟩, rfl, by simp [System.create, Connection.create],
    by simp [System.create, Connection.create]⟩

theorem deciding_endPass (c : Connection) : deciding c.endPass.pc = false := by
  rcases endPass_pc c with pc | pc <;> simp [pc, deciding]

theorem deciding_before {c d : Connection} {a : Action} (next : c.step a = some d)
    (decides : deciding d.pc = true) :
    deciding c.pc = true ∧ a ≠ .beginAttempt ∨ a = .pass ∧ isDown c.connectionState = true := by
  have moved := step_cases next
  cases a with
  | callConnect n => obtain ⟨_, rfl⟩ := moved; cases decides
  | pass =>
    obtain ⟨_, rfl⟩ := moved
    have branch := pass_branch c
    cases state : c.connectionState with
    | initialized | closed => exact .inr ⟨rfl, rfl⟩
    | connecting | closing =>
      simp only [state] at branch
      simp [branch, deciding] at decides
    | «open» =>
      simp only [state] at branch
      simp [branch.1, deciding] at decides
  | poll => obtain ⟨_, rfl⟩ := moved; simp [deciding_endPass] at decides
  | retrySleep draw => obtain ⟨backoff, _⟩ := moved; simp [backoff, deciding]
  | beginAttempt => obtain ⟨site, _, rfl⟩ := moved; cases decides
  | getConnection reply =>
    obtain ⟨site, _, rfl⟩ := moved
    cases reply <;> cases decides
  | endpointConnect accepted =>
    obtain ⟨site, _, rfl⟩ := moved
    cases accepted <;> cases decides
  | waitEnds draw =>
    obtain ⟨site, _, _, rfl⟩ := moved
    by_cases first : site = .first
    · subst first
      cases decides
    · obtain ⟨e, finished, _⟩ := waitEnds_endPass c draw first
      simp [finished, deciding_endPass] at decides
  | recheck =>
    obtain ⟨_, rfl⟩ := moved
    unfold Connection.recheck at decides
    split at decides
    · cases decides
    · simp [deciding_endPass] at decides
  | _ => exact .inl ⟨(network_keeps (by exact trivial) next).1 ▸ decides, by simp⟩

theorem handle_kept {c d : Connection} {a : Action} (next : c.step a = some d)
    (other : ∀ hdl, a ≠ .getConnection (.connection hdl)) :
    d.connectionHandle = c.connectionHandle := by
  have ended : ∀ e : Connection, e.endPass.connectionHandle = e.connectionHandle := by
    intro e
    unfold Connection.endPass
    split <;> rfl
  have moved := step_cases next
  cases a with
  | getConnection reply =>
    obtain ⟨site, _, rfl⟩ := moved
    cases reply with
    | connection hdl => exact absurd rfl (other hdl)
    | errorCode | tlsInitError | otherException => rfl
  | endpointConnect accepted => obtain ⟨site, _, rfl⟩ := moved; cases accepted <;> rfl
  | beginAttempt => obtain ⟨site, _, rfl⟩ := moved; rfl
  | pass =>
    obtain ⟨_, rfl⟩ := moved
    unfold Connection.pass
    repeat' split
    all_goals rfl
  | poll => obtain ⟨_, rfl⟩ := moved; exact ended c
  | waitEnds draw =>
    obtain ⟨site, _, _, rfl⟩ := moved
    cases site with
    | first => rfl
    | again => exact ended c
    | retry =>
      simp only [Connection.waitEnds]
      split <;> exact ended _
  | recheck =>
    obtain ⟨_, rfl⟩ := moved
    unfold Connection.recheck
    split
    · rfl
    · exact ended c
  | retrySleep draw => obtain ⟨_, _, rfl⟩ := moved; rfl
  | onOpen hdl | onPong hdl | onPongTimeout hdl | onPreTCPInit hdl | onPostTCPInit hdl | tick =>
    obtain rfl := moved
    rfl
  | _ => obtain ⟨_, rfl⟩ := moved; rfl

section step
variable {p q : System} {session : Session} {a : Action}

theorem deciding_idle (related : Related p session) (decides : deciding p.1.pc = true) :
    session = .idle := by
  cases session with
  | idle => rfl
  | trying => exact absurd decides (by simp [related.agrees.2.2.2.1])
  | up hdl =>
    have starts : startsAttempt p.1.pc = true := by
      cases pc : p.1.pc with
      | backoff => rfl
      | attempt site stage => cases stage <;> simp_all [deciding, startsAttempt]
      | _ => simp [pc, deciding] at decides
    have quiet := (related.coherent.starting starts).established
    rw [related.agrees.2.1] at quiet
    cases quiet

theorem executing_trying (related : Related p session) (inside : executing p.1.pc = true) :
    session = .trying ∧ Quiet p.2 := by
  have quiet := related.coherent.starting (starts_of_executing inside)
  refine ⟨?_, quiet⟩
  cases session with
  | idle => simp [related.agrees.2.1] at inside
  | trying => rfl
  | up hdl =>
    have none := quiet.established
    rw [related.agrees.2.1] at none
    cases none

theorem related_same (related : Related p session) (next : p.step a = some q)
    (reads : writesState a = false) (still : movesLive a = false) : Related q session := by
  obtain ⟨client, endpoint⟩ := system_step_iff.mp next
  obtain ⟨owed, established⟩ := live_kept endpoint still
  have state := state_kept client reads
  have outside : a ≠ .beginAttempt := by rintro rfl; cases reads
  refine ⟨coherent_step related.coherent next, ?_⟩
  by_cases asks : ∃ hdl, a = .getConnection (.connection hdl)
  · -- connection_handle_ is written while nothing is owed
    obtain ⟨hdl, rfl⟩ := asks
    obtain ⟨site, stage, later⟩ := step_cases client
    obtain ⟨_, names⟩ := endpoint_cases endpoint
    obtain ⟨rfl, quiet⟩ := executing_trying related (by simp [stage, executing])
    obtain ⟨_, _, _, _, written⟩ := related.agrees
    refine ⟨established.trans quiet.established, ?_, ?_, ?_, by rwa [state]⟩
    · simp [owed, quiet.owed]
    · simp [later, names, Connection.getConnection]
    · simp [later, Connection.getConnection, deciding]
  · have handle := handle_kept client fun hdl same => asks ⟨hdl, same⟩
    have entered : executing q.1.pc = true → FromNetwork a ∧ q.1.pc = p.1.pc := by
      intro inside
      rcases executing_step client inside with ⟨begun, _⟩ | ⟨hdl, _, same, _⟩ | network
      · exact absurd begun outside
      · exact absurd ⟨hdl, same⟩ asks
      · exact network
    cases session with
    | idle =>
      obtain ⟨quiet, out, notConnecting, notOpen⟩ := related.agrees
      refine ⟨⟨owed.trans quiet.owed, established.trans quiet.established⟩, ?_, by rwa [state],
        by rwa [state]⟩
      refine Bool.eq_false_iff.mpr fun inside => ?_
      rw [(entered inside).2, out] at inside
      cases inside
    | trying =>
      obtain ⟨none, named, latest, undecided, written⟩ := related.agrees
      refine ⟨established.trans none, by rwa [owed, handle], ?_, ?_, by rwa [state]⟩
      · intro site stage
        obtain ⟨network, same⟩ := entered (by simp [stage, executing])
        rw [handle, (network_endpoint network endpoint).2.1]
        exact latest site (same ▸ stage)
      · refine Bool.eq_false_iff.mpr fun decides => ?_
        rcases deciding_before client decides with ⟨before, _⟩ | ⟨_, down⟩
        · simp [undecided] at before
        · rcases written with reads | reads <;> simp [reads, isDown] at down
    | up hdl =>
      obtain ⟨none, one, named, written⟩ := related.agrees
      exact ⟨owed.trans none, established.trans one, handle.trans named, by rwa [state]⟩

theorem related_begin (related : Related p session) (next : p.step .beginAttempt = some q) :
    session = .idle ∧ Related q .trying := by
  obtain ⟨client, endpoint⟩ := system_step_iff.mp next
  obtain ⟨site, stage, begun⟩ := step_cases client
  obtain rfl := deciding_idle related (by simp [stage, deciding])
  obtain ⟨quiet, _⟩ := related.agrees
  have same : q.2 = { p.2 with latest := none } := endpoint_cases endpoint
  refine ⟨rfl, coherent_step related.coherent next, ?_, ?_, ?_, ?_, ?_⟩
  · rw [same]
    exact quiet.established
  · simp [same, quiet.owed]
  · simp [begun, Connection.beginAttempt]
  · simp [begun, Connection.beginAttempt, deciding]
  · simp [begun, Connection.beginAttempt]

theorem related_accept (related : Related p session)
    (next : p.step (.endpointConnect true) = some q) : Related q session := by
  obtain ⟨client, endpoint⟩ := system_step_iff.mp next
  obtain ⟨site, stage, later⟩ := step_cases client
  obtain ⟨hdl, isLatest, owes⟩ := endpoint_cases endpoint
  obtain ⟨rfl, quiet⟩ := executing_trying related (by simp [stage, executing])
  obtain ⟨_, _, latest, _, written⟩ := related.agrees
  have handle : q.1.connectionHandle = p.1.connectionHandle := by rw [later]; rfl
  refine ⟨coherent_step related.coherent next, ?_, ?_, ?_, ?_, ?_⟩
  · rw [owes]
    exact quiet.established
  · simp [owes, quiet.owed, handle, ← latest site stage, isLatest]
  · simp [later, Connection.endpointConnect]
  · simp [later, Connection.endpointConnect, deciding]
  · rw [later]
    exact written

theorem owed_trying (related : Related p session) {hdl : Handle} (mem : hdl ∈ p.2.owed) :
    session = .trying ∧ p.1.connectionHandle = some hdl ∧ p.2.owed = [hdl] ∧
      p.2.established = [] := by
  obtain ⟨alone, none, _⟩ := owed_alone related.coherent mem
  cases session with
  | idle => simp [related.agrees.1.owed] at mem
  | trying => exact ⟨rfl, related.agrees.2.1 hdl mem, alone, none⟩
  | up other => simp [related.agrees.1] at mem

theorem related_open (related : Related p session) {hdl : Handle}
    (next : p.step (.onOpen hdl) = some q) : session = .trying ∧ Related q (.up hdl) := by
  obtain ⟨client, endpoint⟩ := system_step_iff.mp next
  obtain ⟨mem, opens⟩ := endpoint_cases endpoint
  have later : q.1 = p.1.onOpen := step_cases client
  obtain ⟨rfl, handle, alone, none⟩ := owed_trying related mem
  refine ⟨rfl, coherent_step related.coherent next, ?_, ?_, ?_, ?_⟩
  · simp [opens, alone]
  · simp [opens, none]
  · rw [later]
    exact handle
  · exact .inl (by rw [later]; rfl)

theorem related_ended (coherent : Coherent q) (quiet : Quiet q.2)
    (closed : q.1.connectionState = .closed) : Related q .idle where
  coherent := coherent
  agrees := by
    refine ⟨quiet, Bool.eq_false_iff.mpr fun inside => ?_, by simp [closed], by simp [closed]⟩
    rcases coherent.written inside with state | state <;> simp [state] at closed

theorem related_fail (related : Related p session) {hdl : Handle}
    (next : p.step (.onFail hdl) = some q) : session = .trying ∧ Related q .idle := by
  obtain ⟨client, endpoint⟩ := system_step_iff.mp next
  obtain ⟨mem, fails⟩ := endpoint_cases endpoint
  obtain ⟨_, later⟩ := step_cases client
  obtain ⟨rfl, _, alone, none⟩ := owed_trying related mem
  exact ⟨rfl, related_ended (coherent_step related.coherent next)
    ⟨by simp [fails, alone], by simp [fails, none]⟩ (by rw [later]; rfl)⟩

theorem related_close (related : Related p session) {hdl : Handle}
    (next : p.step (.onClose hdl) = some q) : session = .up hdl ∧ Related q .idle := by
  obtain ⟨client, endpoint⟩ := system_step_iff.mp next
  obtain ⟨mem, closes⟩ := endpoint_cases endpoint
  obtain ⟨_, later⟩ := step_cases client
  obtain ⟨alone, none, _⟩ := established_alone related.coherent mem
  refine ⟨?_, related_ended (coherent_step related.coherent next)
    ⟨by simp [closes, none], by simp [closes, alone]⟩ (by rw [later]; rfl)⟩
  cases session with
  | idle => simp [related.agrees.1.established] at mem
  | trying => simp [related.agrees.1] at mem
  | up other =>
    have one := related.agrees.2.1
    rw [alone, List.singleton_inj] at one
    rw [one]

theorem related_write (related : Related p session) {caller : Caller}
    (next : p.step (.closeWrite caller) = some q) : Related q session := by
  obtain ⟨client, endpoint⟩ := system_step_iff.mp next
  obtain ⟨_, later⟩ := step_cases client
  have same : q.2 = p.2 := endpoint_cases endpoint
  have state : q.1.connectionState = .closing := by rw [later]; rfl
  refine ⟨coherent_step related.coherent next, ?_⟩
  cases session with
  | idle =>
    obtain ⟨quiet, out, _⟩ := related.agrees
    exact ⟨by rwa [same], by rw [later]; exact out, by simp [state], by simp [state]⟩
  | trying =>
    obtain ⟨none, named, latest, undecided, _⟩ := related.agrees
    exact ⟨by rwa [same], by rw [same, later]; exact named,
      by rw [same, later]; exact latest, by rw [later]; exact undecided, .inr state⟩
  | up hdl =>
    obtain ⟨none, one, named, _⟩ := related.agrees
    exact ⟨by rwa [same], by rwa [same], by rw [later]; exact named, .inr state⟩

theorem related_step (related : Related p session) (next : p.step a = some q) :
    MatchedBy Session.step (fun e => [e]) (Related q) session (observed a) := by
  cases a with
  | beginAttempt =>
    obtain ⟨rfl, later⟩ := related_begin related next
    exact matchedBy_step (show Session.step _ Event.connect = _ from rfl) later
  | onOpen hdl =>
    obtain ⟨rfl, later⟩ := related_open related next
    exact matchedBy_step (show Session.step _ (Event.opened hdl) = _ from rfl) later
  | onFail hdl =>
    obtain ⟨rfl, later⟩ := related_fail related next
    exact matchedBy_step (show Session.step _ (Event.failed hdl) = _ from rfl) later
  | onClose hdl =>
    obtain ⟨rfl, later⟩ := related_close related next
    exact matchedBy_step (show Session.step _ (Event.closed hdl) = _ from if_pos rfl) later
  | closeWrite caller => exact matchedBy_stutter (related_write related next)
  | endpointConnect accepted =>
    cases accepted with
    | true => exact matchedBy_stutter (related_accept related next)
    | false => exact matchedBy_stutter (related_same related next rfl rfl)
  | _ => exact matchedBy_stutter (related_same related next rfl rfl)

end step

/-- In every run the calls of connect_() and the events of the handlers form sessions, one after
    the other, and connection_state_ and connection_handle_ are those of the session under way. -/
theorem events_form_sessions (brokerWsUris : List String) (pongTimeoutsBeforeRetry : Nat)
    {actions : List Action} {p : System}
    (path : run System.step (System.create brokerWsUris pongTimeoutsBeforeRetry) actions =
      some p) :
    ∃ session, run Session.step .idle (actions.flatMap observed) = some session ∧
      Agrees p session := by
  obtain ⟨events, session, matched, same, related⟩ := run_matched Related
    (fun _ _ _ _ related next => related_step related next)
    (related_create brokerWsUris pongTimeoutsBeforeRetry) path
  rw [List.flatMap_singleton'] at same
  exact ⟨session, same ▸ matched, related.agrees⟩

def refusedThenClosed : List Action :=
  [.callConnect 2, .pass, .beginAttempt, .getConnection (.connection 0), .endpointConnect true,
    .onFail 0, .waitEnds 0, .recheck, .pass, .retrySleep 0, .beginAttempt,
    .getConnection (.connection 1), .endpointConnect true, .onOpen 1, .waitEnds 0, .onClose 1]

theorem refused_then_closed_sessions :
    ∃ p, run System.step (System.create ["wss://localhost:8142/pcp/"] 3) refusedThenClosed =
        some p ∧
      ∃ session, run Session.step .idle
          [.connect, .failed 0, .connect, .opened 1, .closed 1] = some session ∧
        Agrees p session := by
  have path : run System.step (System.create ["wss://localhost:8142/pcp/"] 3)
    refusedThenClosed = some _ := rfl
  exact ⟨_, path, events_form_sessions _ _ path⟩

end PcpSessions
