import PcpClient.EndpointCoherence

/-!
connection_state_ after a close or fail event: no close() call overwrites it, and only the
next connect_() changes it.
-/
namespace PcpClosedState
open PcpTransitions PcpConnection PcpConnectAttempts PcpEndpoint PcpEndpointCoherence

def EndsAttempt : Action → Prop
  | .onClose _ | .onFail _ => True
  | _ => False

/-- The state reads closed and no close() call has passed its test of it. -/
structure Down (p : System) : Prop where
  coherent : Coherent p
  closed : p.1.connectionState = .closed
  free : p.1.closeCall = none

theorem coherent_reachable {brokerWsUris : List String} {pongTimeoutsBeforeRetry : Nat}
    {trace : List Action} {p : System}
    (path : run System.step (System.create brokerWsUris pongTimeoutsBeforeRetry) trace = some p) :
    Coherent p :=
  run_keeps Coherent (fun _ _ _ held next => coherent_step held next)
    (coherent_create brokerWsUris pongTimeoutsBeforeRetry) path

/-- The handlers run under state_mutex_, so no close() call is between its test and its write. -/
theorem down_after_end {p q : System} {a : Action} (coherent : Coherent p) (ends : EndsAttempt a)
    (next : p.step a = some q) : Down q := by
  have moved := step_cases (system_step_iff.mp next).1
  refine ⟨coherent_step coherent next, ?_, ?_⟩ <;> cases a <;> simp only [EndsAttempt] at ends
  case refine_1.onClose | refine_1.onFail => rw [moved.2]; rfl
  case refine_2.onClose | refine_2.onFail => rw [moved.2]; exact moved.1

theorem down_reads {p q : System} {a : Action} (down : Down p) (other : a ≠ .beginAttempt)
    (next : p.step a = some q) : writesState a = false := by
  obtain ⟨client, endpoint⟩ := system_step_iff.mp next
  obtain ⟨owed, established⟩ := down.coherent.down (by simp [down.closed, isDown])
  have moved := step_cases client
  have target := endpoint_cases endpoint
  cases a with
  | beginAttempt => exact absurd rfl other
  | closeWrite caller => simp [down.free] at moved
  | onOpen hdl | onFail hdl => simp [owed] at target
  | onClose hdl => simp [established] at target
  | _ => rfl

theorem free_kept {c d : Connection} {a : Action} (closed : c.connectionState = .closed)
    (free : c.closeCall = none) (next : c.step a = some d) : d.closeCall = none := by
  have moved := step_cases next
  cases a with
  | closeEnter caller => obtain ⟨_, rfl⟩ := moved; simp [Connection.closeEnter, closed]
  | closeEndpoint caller ok | closeWrite caller => simp [free] at moved
  | onClose hdl | onFail hdl => obtain ⟨_, rfl⟩ := moved; exact free
  | onOpen hdl | onPong hdl | onPongTimeout hdl | onPreTCPInit hdl | onPostTCPInit hdl | tick =>
    obtain rfl := moved
    exact free
  | beginAttempt => obtain ⟨site, _, rfl⟩ := moved; exact free
  | _ => exact (client_untouched (by simp [FromNetwork]) (by simp) next).closeCall.trans free

theorem down_step {p q : System} {a : Action} (down : Down p) (other : a ≠ .beginAttempt)
    (next : p.step a = some q) : Down q where
  coherent := coherent_step down.coherent next
  closed := (state_kept (system_step_iff.mp next).1 (down_reads down other next)).trans down.closed
  free := free_kept down.closed down.free (system_step_iff.mp next).1

/-- Once the close or fail event of an attempt has written it, the state stays closed until
    the next connect_(): no close() call can write closing, and a pass of connect() sees it. -/
theorem closed_stays (brokerWsUris : List String) (pongTimeoutsBeforeRetry : Nat)
    (before after : List Action) (a : Action) (p : System) (ends : EndsAttempt a)
    (path : run System.step (System.create brokerWsUris pongTimeoutsBeforeRetry)
      (before ++ a :: after) = some p)
    (noAttempt : .beginAttempt ∉ after) :
    p.1.connectionState = .closed ∧ (∀ caller, p.step (.closeWrite caller) = none) ∧
      ∀ q, p.step .pass = some q → startsAttempt q.1.pc = true := by
  obtain ⟨m, reached, rest⟩ := run_append_iff.mp path
  obtain ⟨n, next, later⟩ := run_cons_iff.mp rest
  have down : Down p := run_among (fun b => b ≠ .beginAttempt) Down
    (fun _ _ _ held other moves => down_step held other moves)
    (down_after_end (coherent_reachable reached) ends next)
    (fun b mem => ne_of_mem_of_not_mem mem noAttempt) later
  refine ⟨down.closed, fun caller => ?_, fun q passes => ?_⟩
  · simp [System.step, sync, Connection.step, down.free]
  · obtain ⟨_, passed⟩ := step_cases (system_step_iff.mp passes).1
    have branch := pass_branch p.1
    simp only [down.closed] at branch
    rw [passed]
    rcases branch with pc | pc <;> simp [pc, startsAttempt]

theorem waiting_close_keeps_closed :
    ∃ p, run System.step (System.create ["wss://localhost:8142/pcp/"] 3)
        ([.callConnect 1, .pass, .beginAttempt, .getConnection (.connection 0),
          .endpointConnect true, .onOpen 0] ++ .onClose 0 :: [.closeEnter (.other 1)]) = some p ∧
      p.1.connectionState = .closed :=
  ⟨_, rfl, (closed_stays _ 3 [.callConnect 1, .pass, .beginAttempt, .getConnection (.connection 0),
    .endpointConnect true, .onOpen 0] [.closeEnter (.other 1)] (.onClose 0) _ trivial rfl
    (by decide)).1⟩

end PcpClosedState
