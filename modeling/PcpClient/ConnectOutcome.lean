import PcpClient.ConnectAttempts

/-!
How a whole call of connect(n) ends, compared with what its last attempt left behind:
when an open connection is reported as one, and that the assertion of the initialized
branch holds.
-/
namespace PcpConnectOutcome
open PcpTransitions PcpConnection PcpConnectAttempts

def ClosesConnection : Action → Prop
  | .onClose _ | .onFail _ | .closeWrite _ => True
  | _ => False

/-- The last connectAndWait() of the trace ended with the state open, and neither a close
    nor a fail event nor a close() followed. -/
def EndedOpen (start : Connection) (trace : List Action) : Prop :=
  ∃ pre draw post s, trace = pre ++ .waitEnds draw :: post ∧
    run Connection.step start (pre ++ [.waitEnds draw]) = some s ∧
    s.connectionState = .open ∧
    ∀ a ∈ post, ¬ClosesConnection a ∧ ∀ later, a ≠ .waitEnds later

def LastPassFromClosed (n : Int) (s : Connection) (a : Action) : Prop :=
  a = .pass ∧ s.connectionState = .closed ∧ s.frame.idx + 1 = n

instance (n : Int) (s : Connection) (a : Action) : Decidable (LastPassFromClosed n s a) :=
  inferInstanceAs (Decidable (_ ∧ _))

/-- The backoff and the attempts of the closed branch, after which the state is not read
    unless there is another pass. -/
def fromClosed : ConnectPc → Bool
  | .backoff | .attempt .again _ | .attempt .retry _ => true
  | _ => false

def PassLeft (c : Connection) : Prop := fromClosed c.pc = true → c.frame.tryAgain = true

def Unchecked (c : Connection) : Prop :=
  fromClosed c.pc = true ∧ c.frame.tryAgain = false ∨ c.pc = .idle ∧ c.result ≠ some .returned

def Observing (c : Connection) : Prop :=
  c.connectionState = .open ∧ (c.pc = .head ∨ c.pc = .recheck) ∨
  c.pc = .idle ∧ c.result = some .returned

theorem call_trace {c before after : Connection} {n : Int} {trace : List Action} {last : Action}
    (whole : CompletedCall c n trace last before after) :
    run Connection.step (c.callConnect n) (trace ++ [last]) = some after :=
  run_snoc_iff.mpr ⟨before, whole.call.body, whole.final⟩

theorem last_single {c before after : Connection} {n : Int} {trace : List Action} {last : Action}
    (whole : CompletedCall c n trace last before after) :
    ∀ a ∈ trace ++ [last], isCallConnect a = false := by
  intro a mem
  rcases List.mem_append.mp mem with inside | atEnd
  · exact whole.call.single a inside
  · obtain rfl := List.mem_singleton.mp atEnd
    cases a with
    | callConnect m => exact absurd (step_cases whole.final).1 whole.running
    | _ => rfl

theorem endPass_not_returned {c : Connection} (idle : c.endPass.pc = .idle) :
    c.endPass.result ≠ some .returned := by
  unfold Connection.endPass at idle ⊢
  split at idle
  · cases idle
  · simp [*, Connection.finish]

theorem returned_reads_open {before after : Connection} {last : Action}
    (running : before.pc ≠ .idle) (final : before.step last = some after)
    (ended : after.pc = .idle) (returned : after.result = some .returned) :
    before.connectionState = .open ∧ (last = .pass ∨ last = .recheck) := by
  have moved := step_cases final
  cases last with
  | callConnect m => exact absurd moved.1 running
  | pass =>
    obtain ⟨head, rfl⟩ := moved
    refine ⟨?_, .inl rfl⟩
    have branch := pass_branch before
    cases state : before.connectionState with
    | «open» => rfl
    | connecting | closing =>
      simp only [state] at branch
      simp [branch] at ended
    | initialized | closed =>
      simp only [state] at branch
      rcases branch with pc | pc <;> simp [pc] at ended
  | poll =>
    obtain ⟨_, rfl⟩ := moved
    exact absurd returned (endPass_not_returned ended)
  | retrySleep draw => obtain ⟨_, _, rfl⟩ := moved; cases ended
  | beginAttempt => obtain ⟨site, _, rfl⟩ := moved; cases ended
  | getConnection reply =>
    obtain ⟨site, _, rfl⟩ := moved
    cases reply with
    | connection hdl => cases ended
    | errorCode | tlsInitError | otherException => cases returned
  | endpointConnect accepted =>
    obtain ⟨site, _, rfl⟩ := moved
    cases accepted with
    | true => cases ended
    | false => cases returned
  | waitEnds draw =>
    obtain ⟨site, _, _, rfl⟩ := moved
    by_cases first : site = .first
    · subst first
      cases ended
    · obtain ⟨e, finished, _⟩ := waitEnds_endPass before draw first
      rw [finished] at ended returned
      exact absurd returned (endPass_not_returned ended)
  | recheck =>
    obtain ⟨_, rfl⟩ := moved
    refine ⟨?_, .inr rfl⟩
    by_cases isOpen : before.connectionState = .open
    · exact isOpen
    · simp only [Connection.recheck, isOpen, if_false] at ended returned
      exact absurd returned (endPass_not_returned ended)
  | _ => exact absurd ((network_keeps (by exact trivial) final).1.symm.trans ended) running

theorem fromClosed_endPass (c : Connection) : fromClosed c.endPass.pc = false := by
  rcases endPass_pc c with pc | pc <;> simp [pc, fromClosed]

theorem fromClosed_entered {c d : Connection} {a : Action} (next : c.step a = some d)
    (notPass : a ≠ .pass) (inside : fromClosed d.pc = true) :
    fromClosed c.pc = true ∧ d.frame = c.frame := by
  have moved := step_cases next
  cases a with
  | pass => exact absurd rfl notPass
  | callConnect n => obtain ⟨_, rfl⟩ := moved; cases inside
  | poll => obtain ⟨_, rfl⟩ := moved; simp [fromClosed_endPass] at inside
  | retrySleep draw =>
    obtain ⟨backoff, _, rfl⟩ := moved
    exact ⟨by simp [backoff, fromClosed], rfl⟩
  | beginAttempt =>
    obtain ⟨site, start, rfl⟩ := moved
    refine ⟨?_, rfl⟩
    cases site <;> simp_all [fromClosed, Connection.beginAttempt]
  | getConnection reply =>
    obtain ⟨site, stage, rfl⟩ := moved
    cases reply with
    | connection hdl =>
      refine ⟨?_, rfl⟩
      cases site <;> simp_all [fromClosed, Connection.getConnection]
    | errorCode | tlsInitError | otherException => cases inside
  | endpointConnect accepted =>
    obtain ⟨site, stage, rfl⟩ := moved
    cases accepted with
    | true =>
      refine ⟨?_, rfl⟩
      cases site <;> simp_all [fromClosed, Connection.endpointConnect]
    | false => cases inside
  | waitEnds draw =>
    obtain ⟨site, _, _, rfl⟩ := moved
    by_cases first : site = .first
    · subst first
      cases inside
    · obtain ⟨e, finished, _⟩ := waitEnds_endPass c draw first
      simp [finished, fromClosed_endPass] at inside
  | recheck =>
    obtain ⟨_, rfl⟩ := moved
    unfold Connection.recheck at inside
    split at inside
    · cases inside
    · simp [fromClosed_endPass] at inside
  | _ =>
    obtain ⟨pc, frame, _⟩ := network_keeps (by exact trivial) next
    exact ⟨pc ▸ inside, frame⟩

theorem unchecked_step {c d : Connection} {a : Action} (single : isCallConnect a = false)
    (unchecked : Unchecked c) (next : c.step a = some d) : Unchecked d := by
  have moved := step_cases next
  rcases unchecked with ⟨inside, finished⟩ | ⟨idle, notReturned⟩
  · have fatal : ∀ e : Connection, e.frame = c.frame → Unchecked e.endPass := by
      intro e frame
      have ended := endPass_over (c := e) (by rw [frame]; exact finished)
      exact .inr ⟨ended.1, by simp [ended.2]⟩
    cases a with
    | callConnect n => cases single
    | pass => simp [moved.1, fromClosed] at inside
    | poll => simp [moved.1, fromClosed] at inside
    | retrySleep draw => obtain ⟨_, _, rfl⟩ := moved; exact .inl ⟨rfl, finished⟩
    | beginAttempt =>
      obtain ⟨site, start, rfl⟩ := moved
      refine .inl ⟨?_, finished⟩
      cases site <;> simp_all [fromClosed, Connection.beginAttempt]
    | getConnection reply =>
      obtain ⟨site, stage, rfl⟩ := moved
      cases reply with
      | connection hdl =>
        refine .inl ⟨?_, finished⟩
        cases site <;> simp_all [fromClosed, Connection.getConnection]
      | errorCode | tlsInitError | otherException => exact .inr ⟨rfl, by simp [
          Connection.getConnection, Connection.finish]⟩
    | endpointConnect accepted =>
      obtain ⟨site, stage, rfl⟩ := moved
      cases accepted with
      | true =>
        refine .inl ⟨?_, finished⟩
        cases site <;> simp_all [fromClosed, Connection.endpointConnect]
      | false => exact .inr ⟨rfl, by simp [Connection.endpointConnect, Connection.finish]⟩
    | waitEnds draw =>
      obtain ⟨site, waiting, _, rfl⟩ := moved
      have closed : site ≠ .first := by
        rintro rfl
        simp [waiting, fromClosed] at inside
      obtain ⟨e, ended, frame, _⟩ := waitEnds_endPass c draw closed
      rw [ended]
      exact fatal e frame
    | recheck => simp [moved.1, fromClosed] at inside
    | _ =>
      obtain ⟨pc, frame, _⟩ := network_keeps (by exact trivial) next
      exact .inl ⟨by rw [pc]; exact inside, by rw [frame]; exact finished⟩
  · obtain ⟨pc, _, result⟩ := network_keeps (idle_network idle single next) next
    exact .inr ⟨pc.trans idle, by rw [result]; exact notReturned⟩

theorem passLeft_step {c d : Connection} {n : Int} {started polled : Nat} {a : Action}
    (positive : 0 < n) (account : Accounted n c started polled) (left : PassLeft c)
    (checked : ¬LastPassFromClosed n c a) (next : c.step a = some d) : PassLeft d := by
  intro inside
  by_cases isPass : a = .pass
  · subst isPass
    obtain ⟨head, rfl⟩ := step_cases next
    have limit := account.limit (by simp [head])
    have more := account.more head
    have branch := pass_branch c
    rw [(pass_frame c).2.2]
    cases state : c.connectionState with
    | closed =>
      have notLast : c.frame.idx + 1 ≠ n := fun last => checked ⟨rfl, state, last⟩
      simp only [Connection.nextFrame, limit, ne_eq, show n ≠ 0 by omega, not_false_eq_true,
        if_true, decide_eq_true_eq]
      omega
    | initialized =>
      simp only [state] at branch
      rcases branch with pc | pc <;> simp [pc, fromClosed] at inside
    | connecting | closing =>
      simp only [state] at branch
      simp [branch, fromClosed] at inside
    | «open» =>
      simp only [state] at branch
      simp [branch.1, fromClosed] at inside
  · obtain ⟨before, frame⟩ := fromClosed_entered next isPass inside
    rw [frame]
    exact left before

theorem passLeft_run {c s : Connection} {n : Int} {trace : List Action} (positive : 0 < n)
    (call : CallRun c n trace s)
    (checked : Throughout Connection.step (fun m a => ¬LastPassFromClosed n m a)
      (c.callConnect n) trace) : PassLeft s := by
  have traced := run_traced
    (fun (m : Connection) past => Accounted n m (attempts past) (polls past) ∧ PassLeft m)
    (fun m past a t ⟨account, left⟩ ⟨single, last⟩ next =>
      ⟨accounted_step positive account single next, passLeft_step positive account left last next⟩)
    trace (c.callConnect n) [] s ⟨accounted_start positive, by simp [PassLeft, fromClosed,
      Connection.callConnect]⟩
    (throughout_and trace _ (throughout_of_forall trace _ call.single) checked) call.body
  exact traced.2

theorem open_kept {c d : Connection} {a : Action} (network : FromNetwork a)
    (stays : ¬ClosesConnection a) (isOpen : c.connectionState = .open)
    (next : c.step a = some d) : d.connectionState = .open := by
  have moved := step_cases next
  cases a <;> simp only [FromNetwork] at network
  case closeEnter | closeEndpoint => obtain ⟨_, rfl⟩ := moved; exact isOpen
  case closeWrite | onClose | onFail => exact absurd trivial stays
  case onOpen => obtain rfl := moved; rfl
  all_goals
    obtain rfl := moved
    exact isOpen

theorem observing_step {c d : Connection} {a : Action} (single : isCallConnect a = false)
    (stays : ¬ClosesConnection a) (observing : Observing c) (next : c.step a = some d) :
    Observing d := by
  have moved := step_cases next
  rcases observing with ⟨isOpen, looking⟩ | ⟨idle, returned⟩
  · cases a with
    | callConnect n => cases single
    | pass =>
      obtain ⟨_, rfl⟩ := moved
      have branch := pass_branch c
      simp only [isOpen] at branch
      exact .inr branch
    | recheck =>
      obtain ⟨_, rfl⟩ := moved
      simp [Observing, Connection.recheck, isOpen, Connection.finish]
    | poll | retrySleep draw =>
      have busy := moved.1
      simp [busy] at looking
    | beginAttempt | getConnection reply | endpointConnect accepted | waitEnds draw =>
      obtain ⟨site, busy, _⟩ := moved
      simp [busy] at looking
    | _ =>
      obtain ⟨pc, _, _⟩ := network_keeps (by exact trivial) next
      exact .inl ⟨open_kept (by exact trivial) stays isOpen next, by rw [pc]; exact looking⟩
  · obtain ⟨pc, _, result⟩ := network_keeps (idle_network idle single next) next
    exact .inr ⟨pc.trans idle, result.trans returned⟩

theorem returned_checked {c before after : Connection} {n : Int} {trace : List Action}
    {last : Action} (positive : 0 < n) (whole : CompletedCall c n trace last before after)
    (returned : after.result = some .returned) :
    Throughout Connection.step (fun m a => ¬LastPassFromClosed n m a) (c.callConnect n)
      (trace ++ [last]) := by
  refine throughout_of_prefixes _ _ ?_
  rintro pre a post m split path ⟨rfl, state, lastPass⟩
  have body := call_trace whole
  have single := last_single whole
  rw [split, run_append_iff] at body
  rw [split] at single
  obtain ⟨m', path', rest⟩ := body
  obtain rfl : m = m' := Option.some.inj (path.symm.trans path')
  obtain ⟨t, next, tail⟩ := run_cons_iff.mp rest
  have call : CallRun c n pre m := ⟨whole.call.free, path, fun a mem => single a (by simp [mem])⟩
  have account := accounted_run positive call
  obtain ⟨head, rfl⟩ := step_cases next
  have limit := account.limit (by simp [head])
  have unchecked : Unchecked m.pass := by
    have branch := pass_branch m
    simp only [state] at branch
    refine .inl ⟨by rcases branch with pc | pc <;> simp [pc, fromClosed], ?_⟩
    rw [(pass_frame m).2.2]
    simp [Connection.nextFrame, limit, lastPass, show n ≠ 0 by omega]
  have final := run_among (fun a => isCallConnect a = false) Unchecked
    (fun s a t holds single next => unchecked_step single holds next) unchecked
    (fun a mem => single a (by simp [mem])) tail
  rcases final with ⟨inside, _⟩ | ⟨_, notReturned⟩
  · simp [whole.ended, fromClosed] at inside
  · exact notReturned returned

/-- Where the last attempt left the connection open, the call returns if and only if that
    attempt was not made from the closed branch in the last permitted pass; and a call
    returns only from a read of the state that found it open. -/
theorem open_attempt_returns_iff {c before after : Connection} {n : Int} {trace : List Action}
    {last : Action} (positive : 0 < n) (whole : CompletedCall c n trace last before after) :
    (EndedOpen (c.callConnect n) (trace ++ [last]) →
      (after.result = some .returned ↔
        Throughout Connection.step (fun m a => ¬LastPassFromClosed n m a) (c.callConnect n)
          (trace ++ [last]))) ∧
    (after.result = some .returned →
      before.connectionState = .open ∧ (last = .pass ∨ last = .recheck)) := by
  refine ⟨?_, returned_reads_open whole.running whole.final whole.ended⟩
  rintro ⟨pre, draw, post, s, split, path, isOpen, stays⟩
  refine ⟨returned_checked positive whole, fun checked => ?_⟩
  have body := call_trace whole
  have single := last_single whole
  rw [split] at body single checked
  obtain ⟨m, early, rest⟩ := run_append_iff.mp body
  obtain ⟨s', next, tail⟩ := run_cons_iff.mp rest
  obtain rfl : s = s' := Option.some.inj (path.symm.trans (run_snoc_iff.mpr ⟨m, early, next⟩))
  have call : CallRun c n pre m :=
    ⟨whole.call.free, early, fun a mem => single a (by simp [mem])⟩
  have left := passLeft_run positive call ((throughout_append pre _).mp checked).1
  have observing : Observing s := by
    obtain ⟨site, waiting, _, rfl⟩ := step_cases next
    refine .inl ⟨isOpen, ?_⟩
    by_cases first : site = .first
    · subst first
      exact .inr rfl
    · obtain ⟨e, finished, frame, _⟩ := waitEnds_endPass m draw first
      have again : m.frame.tryAgain = true := left (by
        cases site <;> simp_all [fromClosed])
      rw [finished, endPass_again (by rw [frame]; exact again)]
      exact .inl rfl
  have final := run_among (fun a => isCallConnect a = false ∧ ¬ClosesConnection a) Observing
    (fun s a t holds ⟨single, stays⟩ next => observing_step single stays holds next) observing
    (fun a mem => ⟨single a (by simp [mem]), (stays a mem).1⟩) tail
  rcases final with ⟨_, looking⟩ | ⟨_, returned⟩
  · simp [whole.ended] at looking
  · exact returned

theorem first_attempt_returns :
    ∃ before after, CompletedCall (Connection.create ["wss://localhost:8142/pcp/"] 3) 1
        [.pass, .beginAttempt, .getConnection (.connection 0), .endpointConnect true, .onOpen 0,
          .waitEnds 0] .recheck before after ∧
      after.result = some .returned ∧ before.connectionState = .open := by
  have whole : CompletedCall (Connection.create ["wss://localhost:8142/pcp/"] 3) 1
      [.pass, .beginAttempt, .getConnection (.connection 0), .endpointConnect true, .onOpen 0,
        .waitEnds 0] .recheck _ _ := ⟨⟨rfl, rfl, by decide⟩, by decide, rfl, rfl⟩
  have ended : EndedOpen ((Connection.create ["wss://localhost:8142/pcp/"] 3).callConnect 1)
      [.pass, .beginAttempt, .getConnection (.connection 0), .endpointConnect true, .onOpen 0,
        .waitEnds 0, .recheck] :=
    ⟨[.pass, .beginAttempt, .getConnection (.connection 0), .endpointConnect true, .onOpen 0],
      0, [.recheck], _, rfl, rfl, rfl, by simp [ClosesConnection]⟩
  obtain ⟨returns, observed⟩ := open_attempt_returns_iff (by decide) whole
  have returned := (returns ended).mpr (by decide)
  exact ⟨_, _, whole, returned, (observed returned).1⟩

def establishedThenClosed : List Action :=
  [.callConnect 1, .pass, .beginAttempt, .getConnection (.connection 0), .endpointConnect true,
    .onOpen 0, .waitEnds 0, .recheck, .onClose 0]

theorem fatal_on_open_connection :
    ∃ c before after, run Connection.step (Connection.create ["wss://localhost:8142/pcp/"] 3)
        establishedThenClosed = some c ∧
      CompletedCall c 1 [.pass, .beginAttempt, .getConnection (.connection 1),
        .endpointConnect true, .onOpen 1] (.waitEnds 0) before after ∧
      EndedOpen (c.callConnect 1) [.pass, .beginAttempt, .getConnection (.connection 1),
        .endpointConnect true, .onOpen 1, .waitEnds 0] ∧
      after.connectionState = .open ∧ after.result = some (.fatalError 1) :=
  ⟨_, _, _, rfl, ⟨⟨rfl, rfl, by decide⟩, by decide, rfl, rfl⟩,
    ⟨[.pass, .beginAttempt, .getConnection (.connection 1), .endpointConnect true, .onOpen 1],
      0, [], _, rfl, rfl, rfl, by simp⟩, rfl, rfl⟩

/-- Nothing after the constructor writes initialized, and a pass that reads it has read
    nothing else before. -/
def InitializedFirst (c : Connection) : Prop :=
  (c.connectionState = .initialized → c.frame.previousCS = .initialized) ∧ c.pc ≠ .aborted

theorem initializedFirst_endPass {c : Connection} (first : InitializedFirst c) :
    InitializedFirst c.endPass := by
  unfold Connection.endPass
  split
  · exact ⟨first.1, by simp⟩
  · exact ⟨first.1, by simp [Connection.finish]⟩

theorem initializedFirst_pass {c : Connection} (first : InitializedFirst c) :
    InitializedFirst c.pass := by
  have previous := first.1
  cases state : c.connectionState with
  | initialized =>
    have same := previous state
    simp [Connection.pass, state, same, InitializedFirst, Connection.nextFrame]
  | connecting | closing => simp [Connection.pass, state, InitializedFirst]
  | «open» | closed =>
    refine ⟨fun later => absurd ((pass_state c).symm.trans later) (by simp [state]), ?_⟩
    have branch := pass_branch c
    simp only [state] at branch
    intro aborted
    simp [aborted] at branch

theorem initializedFirst_step {c d : Connection} {a : Action} (first : InitializedFirst c)
    (single : isCallConnect a = false) (next : c.step a = some d) : InitializedFirst d := by
  have moved := step_cases next
  cases a with
  | callConnect n => cases single
  | pass => obtain ⟨_, rfl⟩ := moved; exact initializedFirst_pass first
  | poll => obtain ⟨_, rfl⟩ := moved; exact initializedFirst_endPass first
  | retrySleep draw => obtain ⟨_, _, rfl⟩ := moved; exact ⟨first.1, by simp⟩
  | beginAttempt =>
    obtain ⟨site, _, rfl⟩ := moved
    simp [InitializedFirst, Connection.beginAttempt]
  | getConnection reply =>
    obtain ⟨site, _, rfl⟩ := moved
    cases reply <;> exact ⟨first.1, by simp [Connection.getConnection, Connection.finish]⟩
  | endpointConnect accepted =>
    obtain ⟨site, _, rfl⟩ := moved
    cases accepted <;> exact ⟨first.1, by simp [Connection.endpointConnect, Connection.finish]⟩
  | waitEnds draw =>
    obtain ⟨site, _, _, rfl⟩ := moved
    by_cases isFirst : site = .first
    · subst isFirst
      exact ⟨first.1, by simp [Connection.waitEnds]⟩
    · obtain ⟨e, finished, frame, state⟩ := waitEnds_endPass c draw isFirst
      rw [finished]
      unfold Connection.endPass
      split
      · exact ⟨by simpa [state, frame] using first.1, by simp⟩
      · exact ⟨by simpa [state, frame, Connection.finish, Connection.resetBackoff] using first.1,
          by simp [Connection.finish]⟩
  | recheck =>
    obtain ⟨_, rfl⟩ := moved
    unfold Connection.recheck
    split
    · exact ⟨first.1, by simp [Connection.finish]⟩
    · exact initializedFirst_endPass first
  | closeEnter caller | closeEndpoint caller ok => obtain ⟨_, rfl⟩ := moved; exact first
  | closeWrite caller | onClose hdl | onFail hdl =>
    obtain ⟨_, rfl⟩ := moved
    exact ⟨by simp [Connection.closeWrite, Connection.onClose, Connection.onFail], first.2⟩
  | onOpen hdl =>
    obtain rfl := moved
    exact ⟨by simp [Connection.onOpen], first.2⟩
  | _ =>
    obtain rfl := moved
    exact first

theorem assertion_holds {c s : Connection} {n : Int} {trace : List Action}
    (call : CallRun c n trace s) : s.pc ≠ .aborted :=
  (run_among (fun a => isCallConnect a = false) InitializedFirst
    (fun _ _ _ first single next => initializedFirst_step first single next)
    (by simp [InitializedFirst, Connection.callConnect]) call.single call.body).2

end PcpConnectOutcome
