import PcpClient.ConnectAttempts

/-!
The Connection together with the WebSocket endpoint it uses. An attempt that the
endpoint accepts yields one open or fail event, a refused one yields none, and an
established connection yields one close event; each attempt has a handle of its own. The
timer of a ping is cancelled by the next ping and by a pong only, so that a pong timeout
can come after the close event.
-/
namespace PcpEndpoint
open PcpTransitions PcpConnection PcpConnectAttempts

/-- The attempts of the endpoint: all handles given out, the one of the latest call of
    connect_(), those that still owe an open or fail event, those that still owe a close
    event, and those that have opened, the latest first. -/
structure Endpoint where
  created : List Handle := []
  latest : Option Handle := none
  owed : List Handle := []
  established : List Handle := []
  opened : List Handle := []
  deriving DecidableEq, Repr

def Endpoint.step (e : Endpoint) : Action → Option Endpoint
  | .beginAttempt => some { e with latest := none }
  | .getConnection (.connection hdl) =>
    if hdl ∈ e.created then none
    else some { e with created := hdl :: e.created, latest := some hdl }
  | .endpointConnect true => e.latest.map fun hdl => { e with owed := hdl :: e.owed }
  | .onOpen hdl =>
    if hdl ∈ e.owed
      then some { e with
        owed := e.owed.erase hdl, established := hdl :: e.established, opened := hdl :: e.opened }
      else none
  | .onFail hdl => if hdl ∈ e.owed then some { e with owed := e.owed.erase hdl } else none
  | .onClose hdl =>
    if hdl ∈ e.established then some { e with established := e.established.erase hdl } else none
  | .onPong hdl => if hdl ∈ e.established then some e else none
  | .onPongTimeout hdl => if hdl ∈ e.opened then some e else none
  | .onPreTCPInit hdl | .onPostTCPInit hdl => if hdl ∈ e.owed then some e else none
  | _ => some e

abbrev System := Connection × Endpoint

def System.step : System → Action → Option System := sync Connection.step Endpoint.step

def System.create (brokerWsUris : List String) (pongTimeoutsBeforeRetry : Nat) : System :=
  (Connection.create brokerWsUris pongTimeoutsBeforeRetry, {})

def executing : ConnectPc → Bool
  | .attempt _ .getConnection | .attempt _ .endpointConnect => true
  | _ => false

/-- The endpoint still owes an open or fail event for the latest connect_(). -/
def Endpoint.Pending (e : Endpoint) : Prop := ∃ hdl, e.latest = some hdl ∧ hdl ∈ e.owed

def ConnectingIsPending (p : System) : Prop :=
  executing p.1.pc = false → p.1.connectionState = .connecting → p.2.Pending

def RaisesFromConnect : Action → Prop
  | .getConnection .errorCode | .getConnection .tlsInitError => True
  | .getConnection .otherException | .endpointConnect false => True
  | _ => False

/-- connect_() exits by an exception and leaves its own write of the state behind. -/
def LeavesConnecting (p : System) (a : Action) : Prop :=
  RaisesFromConnect a ∧ p.1.connectionState = .connecting ∧ (p.step a).isSome

structure Tracked (p : System) : Prop where
  known : ∀ hdl ∈ p.2.owed, hdl ∈ p.2.created
  named : ∀ hdl, p.2.latest = some hdl → hdl ∈ p.2.created
  unnamed : ∀ site, p.1.pc = .attempt site .getConnection → p.2.latest = none
  fresh : ∀ site, p.1.pc = .attempt site .endpointConnect → ¬p.2.Pending

theorem system_step_iff {p q : System} {a : Action} :
    p.step a = some q ↔ p.1.step a = some q.1 ∧ p.2.step a = some q.2 := sync_some_iff

theorem tracked_create (brokerWsUris : List String) (pongTimeoutsBeforeRetry : Nat) :
    Tracked (System.create brokerWsUris pongTimeoutsBeforeRetry) where
  known := by simp [System.create]
  named := by simp [System.create]
  unnamed := by simp [System.create, Connection.create]
  fresh := by simp [System.create, Connection.create]

theorem endpoint_cases {e f : Endpoint} {a : Action} : e.step a = some f →
    match a with
    | .beginAttempt => f = { e with latest := none }
    | .getConnection (.connection hdl) =>
      hdl ∉ e.created ∧ f = { e with created := hdl :: e.created, latest := some hdl }
    | .endpointConnect true =>
      ∃ hdl, e.latest = some hdl ∧ f = { e with owed := hdl :: e.owed }
    | .onOpen hdl =>
      hdl ∈ e.owed ∧
        f = { e with
          owed := e.owed.erase hdl, established := hdl :: e.established, opened := hdl :: e.opened }
    | .onFail hdl => hdl ∈ e.owed ∧ f = { e with owed := e.owed.erase hdl }
    | .onClose hdl =>
      hdl ∈ e.established ∧ f = { e with established := e.established.erase hdl }
    | .onPong hdl => hdl ∈ e.established ∧ f = e
    | .onPongTimeout hdl => hdl ∈ e.opened ∧ f = e
    | .onPreTCPInit hdl | .onPostTCPInit hdl => hdl ∈ e.owed ∧ f = e
    | _ => f = e := by
  intro next
  cases a with
  | getConnection reply =>
    cases reply with
    | connection hdl =>
      obtain ⟨fresh, same⟩ := Option.ite_none_left_eq_some.mp next
      exact ⟨fresh, (Option.some.inj same).symm⟩
    | errorCode | tlsInitError | otherException => exact (Option.some.inj next).symm
  | endpointConnect accepted =>
    cases accepted with
    | true =>
      obtain ⟨hdl, latest, same⟩ := Option.map_eq_some_iff.mp next
      exact ⟨hdl, latest, same.symm⟩
    | false => exact (Option.some.inj next).symm
  | onOpen hdl | onFail hdl | onClose hdl | onPong hdl | onPongTimeout hdl
  | onPreTCPInit hdl | onPostTCPInit hdl =>
    obtain ⟨enabled, same⟩ := Option.ite_none_right_eq_some.mp next
    exact ⟨enabled, (Option.some.inj same).symm⟩
  | _ => exact (Option.some.inj next).symm

theorem network_endpoint {e f : Endpoint} {a : Action} (network : FromNetwork a)
    (next : e.step a = some f) :
    f.created = e.created ∧ f.latest = e.latest ∧ ∀ hdl ∈ f.owed, hdl ∈ e.owed := by
  have moved := endpoint_cases next
  cases a <;> simp only [FromNetwork] at network
  case onOpen | onFail =>
    obtain ⟨_, rfl⟩ := moved
    exact ⟨rfl, rfl, fun hdl mem => List.mem_of_mem_erase mem⟩
  case onClose | onPong | onPongTimeout | onPreTCPInit | onPostTCPInit =>
    obtain ⟨_, rfl⟩ := moved
    exact ⟨rfl, rfl, fun hdl mem => mem⟩
  all_goals
    obtain rfl := moved
    exact ⟨rfl, rfl, fun hdl mem => mem⟩

theorem executing_endPass (c : Connection) : executing c.endPass.pc = false := by
  rcases endPass_pc c with pc | pc <;> simp [pc, executing]

theorem executing_step {c d : Connection} {a : Action} (next : c.step a = some d)
    (inside : executing d.pc = true) :
    (a = .beginAttempt ∧ ∃ site, d.pc = .attempt site .getConnection) ∨
      (∃ hdl site, a = .getConnection (.connection hdl) ∧
        d.pc = .attempt site .endpointConnect) ∨
      FromNetwork a ∧ d.pc = c.pc := by
  have moved := step_cases next
  cases a with
  | callConnect n => obtain ⟨_, rfl⟩ := moved; cases inside
  | pass =>
    obtain ⟨_, rfl⟩ := moved
    have branch := pass_branch c
    cases state : c.connectionState with
    | initialized | closed =>
      simp only [state] at branch
      rcases branch with pc | pc <;> simp [pc, executing] at inside
    | connecting | closing =>
      simp only [state] at branch
      simp [branch, executing] at inside
    | «open» =>
      simp only [state] at branch
      simp [branch.1, executing] at inside
  | poll => obtain ⟨_, rfl⟩ := moved; simp [executing_endPass] at inside
  | retrySleep draw => obtain ⟨_, _, rfl⟩ := moved; cases inside
  | beginAttempt =>
    obtain ⟨site, _, rfl⟩ := moved
    exact .inl ⟨rfl, site, rfl⟩
  | getConnection reply =>
    obtain ⟨site, _, rfl⟩ := moved
    cases reply with
    | connection hdl => exact .inr (.inl ⟨hdl, site, rfl, rfl⟩)
    | errorCode | tlsInitError | otherException => cases inside
  | endpointConnect accepted =>
    obtain ⟨site, _, rfl⟩ := moved
    cases accepted <;> cases inside
  | waitEnds draw =>
    obtain ⟨site, _, _, rfl⟩ := moved
    by_cases first : site = .first
    · subst first
      cases inside
    · obtain ⟨e, finished, _⟩ := waitEnds_endPass c draw first
      simp [finished, executing_endPass] at inside
  | recheck =>
    obtain ⟨_, rfl⟩ := moved
    unfold Connection.recheck at inside
    split at inside
    · cases inside
    · simp [executing_endPass] at inside
  | _ => exact .inr (.inr ⟨by exact trivial, (network_keeps (by exact trivial) next).1⟩)

theorem known_step {e f : Endpoint} {a : Action}
    (known : ∀ hdl ∈ e.owed, hdl ∈ e.created) (named : ∀ hdl, e.latest = some hdl → hdl ∈ e.created)
    (next : e.step a = some f) :
    (∀ hdl ∈ f.owed, hdl ∈ f.created) ∧ ∀ hdl, f.latest = some hdl → hdl ∈ f.created := by
  have moved := endpoint_cases next
  cases a with
  | beginAttempt => obtain rfl := moved; exact ⟨known, by simp⟩
  | getConnection reply =>
    cases reply with
    | connection hdl =>
      obtain ⟨_, rfl⟩ := moved
      exact ⟨fun other mem => by simp [known other mem], by simp⟩
    | errorCode | tlsInitError | otherException => obtain rfl := moved; exact ⟨known, named⟩
  | endpointConnect accepted =>
    cases accepted with
    | true =>
      obtain ⟨hdl, latest, rfl⟩ := moved
      refine ⟨fun other mem => ?_, named⟩
      rcases List.mem_cons.mp mem with rfl | old
      · exact named other latest
      · exact known other old
    | false => obtain rfl := moved; exact ⟨known, named⟩
  | callConnect n | pass | poll | retrySleep draw | waitEnds draw | recheck =>
    obtain rfl := moved
    exact ⟨known, named⟩
  | _ =>
    obtain ⟨created, latest, owed⟩ := network_endpoint (by exact trivial) next
    rw [created, latest]
    exact ⟨fun hdl mem => known hdl (owed hdl mem), named⟩

theorem tracked_step {p q : System} {a : Action} (tracked : Tracked p)
    (next : p.step a = some q) : Tracked q := by
  obtain ⟨client, endpoint⟩ := system_step_iff.mp next
  obtain ⟨known, named⟩ := known_step tracked.known tracked.named endpoint
  refine ⟨known, named, fun site stage => ?_, fun site stage => ?_⟩
  · rcases executing_step client (by simp [stage, executing]) with
      ⟨rfl, _⟩ | ⟨hdl, other, _, later⟩ | ⟨network, same⟩
    · have begun : q.2 = { p.2 with latest := none } := endpoint_cases endpoint
      rw [begun]
    · simp [stage] at later
    · rw [(network_endpoint network endpoint).2.1]
      exact tracked.unnamed site (same ▸ stage)
  · rcases executing_step client (by simp [stage, executing]) with
      ⟨rfl, other, later⟩ | ⟨hdl, other, rfl, _⟩ | ⟨network, same⟩
    · simp [stage] at later
    · obtain ⟨fresh, owes⟩ := endpoint_cases endpoint
      rintro ⟨named, latest, owed⟩
      rw [owes] at latest owed
      obtain rfl := Option.some.inj latest
      exact fresh (tracked.known _ owed)
    · obtain ⟨_, latest, owed⟩ := network_endpoint network endpoint
      rintro ⟨hdl, isLatest, mem⟩
      exact tracked.fresh site (same ▸ stage) ⟨hdl, latest ▸ isLatest, owed hdl mem⟩

def writesState : Action → Bool
  | .beginAttempt | .closeWrite _ | .onOpen _ | .onClose _ | .onFail _ => true
  | _ => false

theorem state_endPass (c : Connection) : c.endPass.connectionState = c.connectionState :=
  (untouched_endPass c).state

theorem state_kept {c d : Connection} {a : Action} (next : c.step a = some d)
    (reads : writesState a = false) : d.connectionState = c.connectionState := by
  have moved := step_cases next
  cases a with
  | beginAttempt | closeWrite caller | onOpen hdl | onClose hdl | onFail hdl => cases reads
  | closeEnter caller | closeEndpoint caller ok => obtain ⟨_, rfl⟩ := moved; rfl
  | onPong hdl | onPongTimeout hdl | onPreTCPInit hdl | onPostTCPInit hdl | tick =>
    obtain rfl := moved
    rfl
  | _ => exact (client_untouched (by simp [FromNetwork]) (by simp) next).state

theorem connecting_before {c d : Connection} {a : Action} (next : c.step a = some d)
    (connecting : d.connectionState = .connecting) (outside : executing d.pc = false) :
    c.connectionState = .connecting ∧ writesState a = false := by
  cases writes : writesState a with
  | false => exact ⟨(state_kept next writes).symm.trans connecting, rfl⟩
  | true =>
    have moved := step_cases next
    cases a <;> simp only [writesState] at writes
    case beginAttempt => obtain ⟨site, _, rfl⟩ := moved; cases outside
    case closeWrite | onClose | onFail => obtain ⟨_, rfl⟩ := moved; cases connecting
    case onOpen => obtain rfl := moved; cases connecting
    all_goals cases writes

theorem pending_step {p q : System} {a : Action} (pending : ConnectingIsPending p)
    (leaves : ¬LeavesConnecting p a) (next : p.step a = some q) : ConnectingIsPending q := by
  intro outside connecting
  obtain ⟨client, endpoint⟩ := system_step_iff.mp next
  obtain ⟨before, reads⟩ := connecting_before client connecting outside
  have moved := step_cases client
  have target := endpoint_cases endpoint
  have raised : ¬RaisesFromConnect a := fun raises => leaves ⟨raises, before, by simp [next]⟩
  cases a with
  | beginAttempt | closeWrite caller | onOpen hdl | onClose hdl | onFail hdl => cases reads
  | getConnection reply =>
    cases reply with
    | connection hdl => obtain ⟨site, _, later⟩ := moved; simp [later, executing,
        Connection.getConnection] at outside
    | errorCode | tlsInitError | otherException => exact absurd trivial raised
  | endpointConnect accepted =>
    cases accepted with
    | true =>
      obtain ⟨hdl, latest, owes⟩ := target
      exact ⟨hdl, by rw [owes]; exact latest, by simp [owes]⟩
    | false => exact absurd trivial raised
  | callConnect n | pass | poll | retrySleep draw | recheck =>
    rw [target]
    exact pending (by simp [moved.1, executing]) before
  | waitEnds draw =>
    obtain ⟨site, waiting, _⟩ := moved
    rw [target]
    exact pending (by simp [waiting, executing]) before
  | closeEnter caller | closeEndpoint caller ok | tick =>
    rw [target]
    exact pending ((network_keeps (by exact trivial) client).1 ▸ outside) before
  | onPong hdl | onPongTimeout hdl | onPreTCPInit hdl | onPostTCPInit hdl =>
    rw [target.2]
    exact pending ((network_keeps (by exact trivial) client).1 ▸ outside) before

/-- A connect_() that raises after its own write leaves an attempt nobody will report on. -/
theorem raised_is_not_pending {p q : System} {a : Action} (tracked : Tracked p)
    (leaves : LeavesConnecting p a) (next : p.step a = some q) : ¬ConnectingIsPending q := by
  obtain ⟨client, endpoint⟩ := system_step_iff.mp next
  obtain ⟨raises, connecting, enabled⟩ := leaves
  clear enabled
  have moved := step_cases client
  have target := endpoint_cases endpoint
  intro pending
  cases a with
  | getConnection reply =>
    obtain ⟨site, stage, later⟩ := moved
    have unnamed := tracked.unnamed site stage
    cases reply with
    | connection hdl => exact raises
    | errorCode | tlsInitError | otherException =>
      have same : q.2 = p.2 := target
      obtain ⟨hdl, latest, _⟩ := pending (by rw [later]; rfl) (by rw [later]; exact connecting)
      simp [same, unnamed] at latest
  | endpointConnect accepted =>
    obtain ⟨site, stage, later⟩ := moved
    cases accepted with
    | true => exact raises
    | false =>
      have same : q.2 = p.2 := target
      have owed := pending (by rw [later]; rfl) (by rw [later]; exact connecting)
      exact tracked.fresh site stage (same ▸ owed)
  | _ => exact raises

/-- In every state of a run that reads connecting outside connect_(), the latest attempt
    is still owed an event, if and only if no connect_() of the run raised after it wrote
    the state. -/
theorem connecting_is_pending_iff (brokerWsUris : List String) (pongTimeoutsBeforeRetry : Nat)
    (trace : List Action) :
    (∀ pre post p, trace = pre ++ post →
      run System.step (System.create brokerWsUris pongTimeoutsBeforeRetry) pre = some p →
        ConnectingIsPending p) ↔
      Throughout System.step (fun p a => ¬LeavesConnecting p a)
        (System.create brokerWsUris pongTimeoutsBeforeRetry) trace := by
  constructor
  · intro always
    refine throughout_of_prefixes _ _ fun pre a post p split path leaves => ?_
    obtain ⟨q, next⟩ := Option.isSome_iff_exists.mp leaves.2.2
    have tracked : Tracked p := run_keeps Tracked (fun _ _ _ held moves => tracked_step held moves)
      (tracked_create brokerWsUris pongTimeoutsBeforeRetry) path
    exact raised_is_not_pending tracked leaves next
      (always (pre ++ [a]) post q (by simp [split]) (run_snoc_iff.mpr ⟨p, path, next⟩))
  · rintro returns pre post p rfl path
    exact run_under (fun p a => ¬LeavesConnecting p a) ConnectingIsPending
      (fun _ _ _ held leaves moves => pending_step held leaves moves)
      (by simp [ConnectingIsPending, System.create, Connection.create])
      ((throughout_append pre _).mp returns).1 path

/-- The URI of the broker cannot be parsed. -/
theorem connecting_after_get_connection_error :
    ∃ p, run System.step (System.create ["foo"] 3)
        [.callConnect 1, .pass, .beginAttempt, .getConnection .errorCode] = some p ∧
      p.1.result = some .processingError ∧ ¬ConnectingIsPending p :=
  ⟨_, rfl, rfl, fun pending => by
    obtain ⟨hdl, latest, _⟩ := pending rfl rfl
    cases latest⟩

structure Stranded (p : System) : Prop where
  connecting : p.1.connectionState = .connecting
  owed : p.2.owed = []
  established : p.2.established = []
  closeCall : p.1.closeCall = none
  waiting : p.1.pc = .idle ∨ p.1.pc = .head ∨ p.1.pc = .polling

theorem stranded_step {p q : System} {a : Action} (stranded : Stranded p)
    (noClose : ∀ caller, a ≠ .closeEnter caller) (next : p.step a = some q) :
    Stranded q ∧ a ≠ .beginAttempt := by
  obtain ⟨client, endpoint⟩ := system_step_iff.mp next
  obtain ⟨connecting, owed, established, closeCall, waiting⟩ := stranded
  have moved := step_cases client
  have target := endpoint_cases endpoint
  cases a with
  | callConnect n =>
    obtain ⟨_, later⟩ := moved
    refine ⟨⟨?_, ?_, ?_, ?_, ?_⟩, by simp⟩ <;>
      simp [later, target, Connection.callConnect, connecting, owed, established, closeCall]
  | pass =>
    obtain ⟨_, later⟩ := moved
    refine ⟨⟨?_, ?_, ?_, ?_, ?_⟩, by simp⟩ <;>
      simp [later, target, Connection.pass, connecting, owed, established, closeCall]
  | poll =>
    obtain ⟨_, later⟩ := moved
    refine ⟨⟨?_, ?_, ?_, ?_, ?_⟩, by simp⟩
    · rw [later, state_endPass, connecting]
    · rw [target, owed]
    · rw [target, established]
    · rw [later, ← closeCall]
      unfold Connection.endPass
      split <;> rfl
    · rw [later]
      rcases endPass_pc p.1 with pc | pc <;> simp [pc]
  | retrySleep draw | recheck => simp [moved.1] at waiting
  | beginAttempt | getConnection reply | endpointConnect accepted | waitEnds draw =>
    obtain ⟨site, stage, _⟩ := moved
    simp [stage] at waiting
  | closeEnter caller => exact absurd rfl (noClose caller)
  | closeEndpoint caller ok | closeWrite caller => simp [closeCall] at moved
  | onOpen hdl | onFail hdl | onPreTCPInit hdl | onPostTCPInit hdl => simp [owed] at target
  | onClose hdl | onPong hdl => simp [established] at target
  | onPongTimeout hdl | tick =>
    refine ⟨⟨?_, ?_, ?_, ?_, ?_⟩, by simp⟩ <;>
      simp [moved, target, Connection.onPongTimeout, connecting, owed, established, closeCall,
        waiting]

/-- From there, unless close() is called, every call of connect() only waits. -/
theorem stranded_never_attempts {p q : System} {trace : List Action} (stranded : Stranded p)
    (noClose : ∀ a ∈ trace, ∀ caller, a ≠ .closeEnter caller)
    (path : run System.step p trace = some q) : Stranded q ∧ attempts trace = 0 := by
  have traced := run_traced (fun q past => Stranded q ∧ attempts past = 0)
    (fun _ past a _ ⟨held, zero⟩ noClose moves => by
      obtain ⟨later, notAttempt⟩ := stranded_step held noClose moves
      exact ⟨later, by simp [attempts_snoc, zero, notAttempt]⟩)
    trace p [] q ⟨stranded, rfl⟩ (throughout_of_forall trace p noClose) path
  exact traced

end PcpEndpoint
