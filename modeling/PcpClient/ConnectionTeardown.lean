import PcpClient.BoundedSteps
import PcpClient.EndpointCoherence

/-!
The destructor of Connection: cleanUp() tries to close the connection, waits, stops the event
loop and joins its thread. No other call is running, but the event loop still is.
-/
namespace PcpTeardown
open PcpTransitions PcpConnection PcpConnectAttempts PcpEndpoint PcpEndpointCoherence

/-- The calls of tryClose(): in the state open, and in connecting before and after the wait. -/
inductive TrySite where
  | ofOpen | first | second
  deriving DecidableEq, Repr

/-- The waits: until a closing connection is closed, and until a connecting one is not. -/
inductive WaitSite where
  | ofClosing | ofConnecting
  deriving DecidableEq, Repr

inductive CleanUpPc where
  | readState
  | tryClose (site : TrySite)
  | endpointClose (site : TrySite)
  | writeState (site : TrySite)
  | recheck
  | wait (site : WaitSite) (sleptMs : Nat)
  | stopPerpetual | join | done
  deriving DecidableEq, Repr

/-- The connection and its endpoint, the thread that destroys them, and the event loop. -/
structure Teardown where
  system : System
  pc : CleanUpPc
  perpetual : Bool
  loopRunning : Bool

def Teardown.enter (p : System) : Teardown := ⟨p, .readState, true, true⟩

def fromEventLoop : Action → Bool
  | .closeEnter caller | .closeEndpoint caller _ | .closeWrite caller => caller = .eventLoop
  | .onOpen _ | .onClose _ | .onFail _ | .onPong _ | .onPongTimeout _ => true
  | .onPreTCPInit _ | .onPostTCPInit _ | .tick => true
  | _ => false

/-- loopEnds is the return of run() of the endpoint in its thread. -/
inductive Deed where
  | event (a : Action)
  | loopEnds
  | readState
  | closeEnter
  | closeEndpoint (ok : Bool)
  | closeWrite
  | recheck
  | sleep (elapsedMs : Nat)
  | leaveWait (elapsedMs : Nat)
  | stopPerpetual
  | join
  deriving DecidableEq, Repr

def WaitSite.awaited : WaitSite → ConnectionState
  | .ofClosing => .closing
  | .ofConnecting => .connecting

def WaitSite.limitMs (wsConnectionTimeoutMs : Int) : WaitSite → Nat
  | .ofClosing => 2000
  | .ofConnecting => (max 5000 wsConnectionTimeoutMs).toNat

def WaitSite.next : WaitSite → CleanUpPc
  | .ofClosing => .stopPerpetual
  | .ofConnecting => .tryClose .second

def TrySite.next : TrySite → CleanUpPc
  | .ofOpen => .wait .ofClosing 0
  | .first => .recheck
  | .second => .stopPerpetual

def branch : ConnectionState → CleanUpPc
  | .closed | .initialized => .stopPerpetual
  | .open => .tryClose .ofOpen
  | .closing => .wait .ofClosing 0
  | .connecting => .tryClose .first

def Teardown.state (t : Teardown) : ConnectionState := t.system.1.connectionState

def Teardown.waits (wsConnectionTimeoutMs : Int) (t : Teardown) (site : WaitSite)
    (elapsedMs : Nat) : Bool :=
  t.state = site.awaited ∧ elapsedMs < site.limitMs wsConnectionTimeoutMs

def Teardown.drained (t : Teardown) : Bool :=
  t.system.2.owed.isEmpty && t.system.2.established.isEmpty && t.system.1.closeCall.isNone

def Teardown.act (t : Teardown) (a : Action) (pc : CleanUpPc) : Option Teardown :=
  (t.system.step a).map fun system => { t with system, pc }

def Teardown.step (wsConnectionTimeoutMs : Int) (t : Teardown) : Deed → Option Teardown
  | .event a => if t.loopRunning && fromEventLoop a then t.act a t.pc else none
  | .loopEnds =>
    if t.loopRunning ∧ ¬t.perpetual ∧ t.drained then some { t with loopRunning := false }
    else none
  | .readState => if t.pc = .readState then some { t with pc := branch t.state } else none
  | .closeEnter =>
    match t.pc with
    | .tryClose site =>
      t.act (.closeEnter .client) (if t.state = .closed then site.next else .endpointClose site)
    | _ => none
  | .closeEndpoint ok =>
    match t.pc with
    | .endpointClose site =>
      t.act (.closeEndpoint .client ok) (if ok then .writeState site else site.next)
    | _ => none
  | .closeWrite =>
    match t.pc with
    | .writeState site => t.act (.closeWrite .client) site.next
    | _ => none
  | .recheck =>
    if t.pc = .recheck then
      some { t with pc := if t.state = .closed then .stopPerpetual else .wait .ofConnecting 0 }
    else none
  | .sleep elapsedMs =>
    match t.pc with
    | .wait site sleptMs =>
      if sleptMs ≤ elapsedMs ∧ t.waits wsConnectionTimeoutMs site elapsedMs then
        some { t with pc := .wait site (sleptMs + connectionMinIntervalMs) }
      else none
    | _ => none
  | .leaveWait elapsedMs =>
    match t.pc with
    | .wait site sleptMs =>
      if sleptMs ≤ elapsedMs ∧ ¬t.waits wsConnectionTimeoutMs site elapsedMs then
        some { t with pc := site.next }
      else none
    | _ => none
  | .stopPerpetual =>
    if t.pc = .stopPerpetual then some { t with pc := .join, perpetual := false } else none
  | .join => if t.pc = .join ∧ ¬t.loopRunning then some { t with pc := .done } else none

theorem teardown_cases {ws : Int} {t u : Teardown} {d : Deed} : t.step ws d = some u →
    match d with
    | .event a => t.loopRunning = true ∧ fromEventLoop a = true ∧
        ∃ p, t.system.step a = some p ∧ u = { t with system := p }
    | .loopEnds => t.loopRunning = true ∧ t.perpetual = false ∧ t.drained = true ∧
        u = { t with loopRunning := false }
    | .readState => t.pc = .readState ∧ u = { t with pc := branch t.state }
    | .closeEnter => ∃ site p, t.pc = .tryClose site ∧
        t.system.step (.closeEnter .client) = some p ∧
          u = { t with
            system := p, pc := if t.state = .closed then site.next else .endpointClose site }
    | .closeEndpoint ok => ∃ site p, t.pc = .endpointClose site ∧
        t.system.step (.closeEndpoint .client ok) = some p ∧
          u = { t with system := p, pc := if ok then .writeState site else site.next }
    | .closeWrite => ∃ site p, t.pc = .writeState site ∧
        t.system.step (.closeWrite .client) = some p ∧ u = { t with system := p, pc := site.next }
    | .recheck => t.pc = .recheck ∧
        u = { t with pc := if t.state = .closed then .stopPerpetual else .wait .ofConnecting 0 }
    | .sleep elapsedMs => ∃ site sleptMs, t.pc = .wait site sleptMs ∧ sleptMs ≤ elapsedMs ∧
        elapsedMs < site.limitMs ws ∧
          u = { t with pc := .wait site (sleptMs + connectionMinIntervalMs) }
    | .leaveWait _ => ∃ site sleptMs, t.pc = .wait site sleptMs ∧ u = { t with pc := site.next }
    | .stopPerpetual => t.pc = .stopPerpetual ∧ u = { t with pc := .join, perpetual := false }
    | .join => t.pc = .join ∧ t.loopRunning = false ∧ u = { t with pc := .done } := by
  intro next
  cases d <;> simp only [Teardown.step, Teardown.act] at next
  case event =>
    obtain ⟨both, moved⟩ := Option.ite_none_right_eq_some.mp next
    obtain ⟨running, kind⟩ := Bool.and_eq_true_iff.mp both
    obtain ⟨p, stepped, same⟩ := Option.map_eq_some_iff.mp moved
    exact ⟨running, kind, p, stepped, same.symm⟩
  case loopEnds =>
    obtain ⟨⟨running, stopped, drained⟩, same⟩ := Option.ite_none_right_eq_some.mp next
    exact ⟨running, by simpa using stopped, drained, (Option.some.inj same).symm⟩
  case closeEnter | closeEndpoint | closeWrite =>
    split at next
    · obtain ⟨p, stepped, same⟩ := Option.map_eq_some_iff.mp next
      exact ⟨_, p, ‹_›, stepped, same.symm⟩
    · cases next
  case sleep =>
    split at next
    · obtain ⟨⟨slept, waits⟩, same⟩ := Option.ite_none_right_eq_some.mp next
      rw [Teardown.waits, decide_eq_true_eq] at waits
      exact ⟨_, _, ‹_›, slept, waits.2, (Option.some.inj same).symm⟩
    · cases next
  case leaveWait =>
    split at next
    · obtain ⟨_, same⟩ := Option.ite_none_right_eq_some.mp next
      exact ⟨_, _, ‹_›, (Option.some.inj same).symm⟩
    · cases next
  case join =>
    obtain ⟨⟨here, ended⟩, same⟩ := Option.ite_none_right_eq_some.mp next
    exact ⟨here, by simpa using ended, (Option.some.inj same).symm⟩
  all_goals
    obtain ⟨here, same⟩ := Option.ite_none_right_eq_some.mp next
    exact ⟨here, (Option.some.inj same).symm⟩

/-! How long it takes. -/

def sleepsLeft (limitMs sleptMs : Nat) : Nat :=
  (limitMs - sleptMs + (connectionMinIntervalMs - 1)) / connectionMinIntervalMs

def TrySite.stepsAfter : TrySite → Nat
  | .ofOpen => 3
  | .first => 7
  | .second => 2

def stepsLeft : CleanUpPc → Nat
  | .readState => 11
  | .tryClose site => site.stepsAfter + 3
  | .endpointClose site => site.stepsAfter + 2
  | .writeState site => site.stepsAfter + 1
  | .recheck => 7
  | .wait .ofClosing _ => 3
  | .wait .ofConnecting _ => 6
  | .stopPerpetual => 2
  | .join => 1
  | .done => 0

def TrySite.sleepsAfter (ws : Int) : TrySite → Nat
  | .ofOpen => sleepsLeft (WaitSite.ofClosing.limitMs ws) 0
  | .first => sleepsLeft (WaitSite.ofConnecting.limitMs ws) 0
  | .second => 0

def passesLeft (ws : Int) : CleanUpPc → Nat
  | .readState | .recheck => sleepsLeft (WaitSite.ofConnecting.limitMs ws) 0
  | .tryClose site | .endpointClose site | .writeState site => site.sleepsAfter ws
  | .wait site sleptMs => sleepsLeft (site.limitMs ws) sleptMs
  | .stopPerpetual | .join | .done => 0

def ownDeed : Deed → Bool
  | .event _ | .loopEnds => false
  | _ => true

def isSleep : Deed → Bool
  | .sleep _ => true
  | _ => false

theorem sleepsLeft_sleep {limitMs sleptMs : Nat} (early : sleptMs < limitMs) :
    sleepsLeft limitMs (sleptMs + connectionMinIntervalMs) + 1 = sleepsLeft limitMs sleptMs := by
  simp only [sleepsLeft, connectionMinIntervalMs]
  omega

theorem closing_limit (ws : Int) :
    sleepsLeft (WaitSite.ofClosing.limitMs ws) 0 ≤
      sleepsLeft (WaitSite.ofConnecting.limitMs ws) 0 := by
  simp only [sleepsLeft, connectionMinIntervalMs, WaitSite.limitMs]
  omega

theorem next_of_try (ws : Int) (site : TrySite) {k : Nat} (positive : 0 < k) :
    stepsLeft site.next + 1 ≤ site.stepsAfter + k ∧
      passesLeft ws site.next ≤ site.sleepsAfter ws := by
  have same : stepsLeft site.next = site.stepsAfter := by cases site <;> rfl
  refine ⟨by omega, ?_⟩
  cases site <;> exact Nat.le_refl _

theorem next_of_wait (ws : Int) (site : WaitSite) (sleptMs : Nat) :
    stepsLeft site.next + 1 = stepsLeft (.wait site sleptMs) ∧ passesLeft ws site.next = 0 := by
  cases site <;> exact ⟨rfl, rfl⟩

theorem branch_left (ws : Int) (state : ConnectionState) : stepsLeft (branch state) + 1 ≤ 11 ∧
    passesLeft ws (branch state) ≤ sleepsLeft (WaitSite.ofConnecting.limitMs ws) 0 := by
  have short := closing_limit ws
  cases state <;>
    simp [branch, stepsLeft, passesLeft, TrySite.stepsAfter, TrySite.sleepsAfter, short]

theorem left_step {ws : Int} {t u : Teardown} {d : Deed} (next : t.step ws d = some u) :
    stepsLeft u.pc + (ownDeed d && !isSleep d).toNat ≤ stepsLeft t.pc ∧
      passesLeft ws u.pc + (isSleep d).toNat ≤ passesLeft ws t.pc := by
  have did := teardown_cases next
  cases d with
  | event a =>
    obtain ⟨_, _, p, _, rfl⟩ := did
    exact ⟨Nat.le_refl _, Nat.le_refl _⟩
  | loopEnds =>
    obtain ⟨_, _, _, rfl⟩ := did
    exact ⟨Nat.le_refl _, Nat.le_refl _⟩
  | readState =>
    obtain ⟨here, rfl⟩ := did
    rw [here]
    exact branch_left ws t.state
  | closeEnter =>
    obtain ⟨site, p, here, _, rfl⟩ := did
    rw [here]
    dsimp only
    split
    · exact next_of_try ws site (by decide)
    · exact ⟨Nat.le_refl _, Nat.le_refl _⟩
  | closeEndpoint ok =>
    obtain ⟨site, p, here, _, rfl⟩ := did
    rw [here]
    dsimp only
    split
    · exact ⟨Nat.le_refl _, Nat.le_refl _⟩
    · exact next_of_try ws site (by decide)
  | closeWrite =>
    obtain ⟨site, p, here, _, rfl⟩ := did
    rw [here]
    exact next_of_try ws site (by decide)
  | recheck =>
    obtain ⟨here, rfl⟩ := did
    rw [here]
    split <;> simp [stepsLeft, passesLeft, ownDeed, isSleep]
  | sleep elapsedMs =>
    obtain ⟨site, sleptMs, here, slept, early, rfl⟩ := did
    have less := sleepsLeft_sleep (show sleptMs < site.limitMs ws by omega)
    rw [here]
    refine ⟨?_, Nat.le_of_eq less⟩
    cases site <;> exact Nat.le_refl _
  | leaveWait elapsedMs =>
    obtain ⟨site, sleptMs, here, rfl⟩ := did
    have after := next_of_wait ws site sleptMs
    rw [here, after.2]
    exact ⟨Nat.le_of_eq after.1, Nat.zero_le _⟩
  | stopPerpetual =>
    obtain ⟨here, rfl⟩ := did
    rw [here]
    exact ⟨Nat.le_refl _, Nat.le_refl _⟩
  | join =>
    obtain ⟨here, _, rfl⟩ := did
    rw [here]
    exact ⟨Nat.le_refl _, Nat.le_refl _⟩

/-! What holds while the connection is destroyed. -/

def held : CleanUpPc → Option (Caller × CloseStage)
  | .endpointClose _ => some (.client, .endpointClose)
  | .writeState _ => some (.client, .writeState)
  | _ => none

def ofEventLoop (call : Option (Caller × CloseStage)) : Prop :=
  ∃ stage, call = some (.eventLoop, stage)

def stopped : CleanUpPc → Bool
  | .join | .done => true
  | _ => false

structure Orderly (t : Teardown) : Prop where
  coherent : Coherent t.system
  idle : t.system.1.pc = .idle
  lock : t.system.1.closeCall = held t.pc ∨ held t.pc = none ∧ ofEventLoop t.system.1.closeCall
  perpetual : t.perpetual = !stopped t.pc
  ended : t.loopRunning = false → stopped t.pc = true ∧ t.drained = true
  done : t.pc = .done → t.loopRunning = false

theorem orderly_enter {p : System} (coherent : Coherent p) (idle : p.1.pc = .idle)
    (alone : p.1.closeCall = none ∨ ofEventLoop p.1.closeCall) : Orderly (.enter p) where
  coherent := coherent
  idle := idle
  lock := alone.imp id fun inside => ⟨rfl, inside⟩
  perpetual := rfl
  ended finished := by cases finished
  done finished := by cases finished

theorem fromEventLoop_network {a : Action} (loop : fromEventLoop a = true) : FromNetwork a := by
  cases a <;> trivial

theorem lock_event {c d : Connection} {a : Action} (loop : fromEventLoop a = true)
    (next : c.step a = some d) : d.closeCall = c.closeCall ∨
      (c.closeCall = none ∨ ofEventLoop c.closeCall) ∧
        (d.closeCall = none ∨ ofEventLoop d.closeCall) := by
  have lock := closeCall_cases next
  cases a with
  | closeEnter caller =>
    obtain rfl := of_decide_eq_true loop
    exact .inr ⟨.inl lock.1, lock.2.imp_right fun inside => ⟨_, inside⟩⟩
  | closeEndpoint caller ok =>
    obtain rfl := of_decide_eq_true loop
    refine .inr ⟨.inr ⟨_, lock.1⟩, ?_⟩
    cases ok with
    | true => exact .inr ⟨_, lock.2⟩
    | false => exact .inl lock.2
  | closeWrite caller =>
    obtain rfl := of_decide_eq_true loop
    exact .inr ⟨.inr ⟨_, lock.1⟩, .inl lock.2⟩
  | _ => exact .inl lock

theorem held_ofEventLoop {pc : CleanUpPc} : ¬ofEventLoop (held pc) := by
  rintro ⟨stage, same⟩
  cases pc <;> cases same

theorem orderly_event {t : Teardown} {p : System} {a : Action} (orderly : Orderly t)
    (running : t.loopRunning = true) (loop : fromEventLoop a = true)
    (next : t.system.step a = some p) : Orderly { t with system := p } where
  coherent := coherent_step orderly.coherent next
  idle := (network_keeps (fromEventLoop_network loop) (system_step_iff.mp next).1).1.trans
    orderly.idle
  lock := by
    rcases lock_event loop (system_step_iff.mp next).1 with same | ⟨before, after⟩
    · rw [same]
      exact orderly.lock
    · have free : held t.pc = none := by
        rcases orderly.lock with mine | ⟨free, _⟩
        · rw [mine] at before
          exact before.resolve_right held_ofEventLoop
        · exact free
      rw [free]
      exact after.imp id fun inside => ⟨rfl, inside⟩
  perpetual := orderly.perpetual
  ended ended := by
    rw [running] at ended
    cases ended
  done := orderly.done

theorem orderly_move {t : Teardown} {pc : CleanUpPc} (orderly : Orderly t)
    (free : held t.pc = none) (free' : held pc = none) (before : stopped t.pc = false)
    (after : stopped pc = false) : Orderly { t with pc } where
  coherent := orderly.coherent
  idle := orderly.idle
  lock := by
    have lock := orderly.lock
    rw [free] at lock
    rw [free']
    exact lock
  perpetual := by rw [orderly.perpetual, before, after]
  ended ended := by
    rw [(orderly.ended ended).1] at before
    cases before
  done here := by
    obtain rfl : pc = .done := here
    cases after

theorem orderly_close {t : Teardown} {p : System} {a : Action} {pc : CleanUpPc}
    (orderly : Orderly t) (next : t.system.step a = some p) (network : FromNetwork a)
    (lock : p.1.closeCall = held pc) (before : stopped t.pc = false)
    (after : stopped pc = false) : Orderly { t with system := p, pc } where
  coherent := coherent_step orderly.coherent next
  idle := (network_keeps network (system_step_iff.mp next).1).1.trans orderly.idle
  lock := .inl lock
  perpetual := by rw [orderly.perpetual, before, after]
  ended ended := by
    rw [(orderly.ended ended).1] at before
    cases before
  done here := by
    obtain rfl : pc = .done := here
    cases after

theorem next_free (site : TrySite) : held site.next = none ∧ stopped site.next = false := by
  cases site <;> exact ⟨rfl, rfl⟩

theorem branch_free (state : ConnectionState) :
    held (branch state) = none ∧ stopped (branch state) = false := by
  cases state <;> exact ⟨rfl, rfl⟩

theorem orderly_step {ws : Int} {t u : Teardown} {d : Deed} (orderly : Orderly t)
    (next : t.step ws d = some u) : Orderly u := by
  have did := teardown_cases next
  cases d with
  | event a =>
    obtain ⟨running, loop, p, stepped, rfl⟩ := did
    exact orderly_event orderly running loop stepped
  | loopEnds =>
    obtain ⟨_, perpetual, drained, rfl⟩ := did
    have last : stopped t.pc = true := by simpa [orderly.perpetual] using perpetual
    exact { orderly with ended := fun _ => ⟨last, drained⟩, done := fun _ => rfl }
  | readState =>
    obtain ⟨here, rfl⟩ := did
    have free := branch_free t.state
    exact orderly_move orderly (by rw [here]; rfl) free.1 (by rw [here]; rfl) free.2
  | closeEnter =>
    obtain ⟨site, p, here, stepped, rfl⟩ := did
    obtain ⟨_, after⟩ := step_cases (system_step_iff.mp stepped).1
    refine orderly_close orderly stepped trivial ?_ (by rw [here]; rfl) ?_
    · rw [after, Connection.closeEnter]
      by_cases closed : t.state = .closed
      · have skipped : t.system.1.connectionState = .closed := closed
        simp [closed, skipped, next_free]
      · have entered : t.system.1.connectionState ≠ .closed := closed
        simp [closed, entered, held]
    · split
      · exact (next_free site).2
      · rfl
  | closeEndpoint ok =>
    obtain ⟨site, p, here, stepped, rfl⟩ := did
    obtain ⟨_, after⟩ := step_cases (system_step_iff.mp stepped).1
    refine orderly_close orderly stepped trivial ?_ (by rw [here]; rfl) ?_
    · rw [after]
      cases ok with
      | true => rfl
      | false => exact (next_free site).1.symm
    · cases ok with
      | true => rfl
      | false => exact (next_free site).2
  | closeWrite =>
    obtain ⟨site, p, here, stepped, rfl⟩ := did
    obtain ⟨_, after⟩ := step_cases (system_step_iff.mp stepped).1
    refine orderly_close orderly stepped trivial ?_ (by rw [here]; rfl) (next_free site).2
    rw [after, (next_free site).1]
    rfl
  | recheck =>
    obtain ⟨here, rfl⟩ := did
    refine orderly_move orderly (by rw [here]; rfl) ?_ (by rw [here]; rfl) ?_
    all_goals split <;> rfl
  | sleep elapsedMs =>
    obtain ⟨site, sleptMs, here, _, _, rfl⟩ := did
    exact orderly_move orderly (by rw [here]; rfl) rfl (by rw [here]; rfl) rfl
  | leaveWait elapsedMs =>
    obtain ⟨site, sleptMs, here, rfl⟩ := did
    refine orderly_move orderly (by rw [here]; rfl) ?_ (by rw [here]; rfl) ?_
    all_goals cases site <;> rfl
  | stopPerpetual =>
    obtain ⟨here, rfl⟩ := did
    have free := orderly.lock
    rw [here] at free
    refine ⟨orderly.coherent, orderly.idle, free, rfl, fun ended => ?_, fun finished => ?_⟩
    · exact ⟨rfl, (orderly.ended ended).2⟩
    · cases finished
  | join =>
    obtain ⟨here, ended, rfl⟩ := did
    have free := orderly.lock
    rw [here] at free
    refine ⟨orderly.coherent, orderly.idle, free, ?_, fun _ => ⟨rfl, (orderly.ended ended).2⟩,
      fun _ => ended⟩
    exact orderly.perpetual.trans (by rw [here]; rfl)

def leavesClose : Deed → Bool
  | .event (.closeEndpoint caller _) | .event (.closeWrite caller) => caller = .eventLoop
  | _ => false

def endsSession : Deed → Bool
  | .event (.onOpen _) | .event (.onFail _) | .event (.onClose _) => true
  | _ => false

theorem act_enabled {t : Teardown} {a : Action} {p : System} {pc : CleanUpPc}
    (stepped : t.system.step a = some p) : ∃ u, t.act a pc = some u :=
  ⟨_, by rw [Teardown.act, stepped]; rfl⟩

theorem event_enabled (ws : Int) {t : Teardown} {a : Action} {p : System}
    (running : t.loopRunning = true) (loop : fromEventLoop a = true)
    (stepped : t.system.step a = some p) : ∃ u, t.step ws (.event a) = some u := by
  simp only [Teardown.step, running, loop, Bool.and_self, if_true]
  exact act_enabled stepped

theorem close_left (ws : Int) {t : Teardown} (orderly : Orderly t)
    (inside : ofEventLoop t.system.1.closeCall) :
    ∃ d u, leavesClose d = true ∧ t.step ws d = some u := by
  obtain ⟨stage, call⟩ := inside
  have running : t.loopRunning = true := by
    by_contra ended
    have drained := (orderly.ended (by simpa using ended)).2
    simp [Teardown.drained, call] at drained
  cases stage with
  | endpointClose =>
    have stepped : t.system.step (.closeEndpoint .eventLoop false) =
        some (t.system.1.closeEndpoint .eventLoop false, t.system.2) :=
      system_step_iff.mpr ⟨if_pos call, rfl⟩
    obtain ⟨u, enabled⟩ := event_enabled ws running rfl stepped
    exact ⟨_, u, rfl, enabled⟩
  | writeState =>
    have stepped : t.system.step (.closeWrite .eventLoop) =
        some (t.system.1.closeWrite, t.system.2) := system_step_iff.mpr ⟨if_pos call, rfl⟩
    obtain ⟨u, enabled⟩ := event_enabled ws running rfl stepped
    exact ⟨_, u, rfl, enabled⟩

theorem loop_ends (ws : Int) {t : Teardown} (orderly : Orderly t) (running : t.loopRunning = true)
    (perpetual : t.perpetual = false) (free : t.system.1.closeCall = none) :
    ∃ d u, (d = .loopEnds ∨ endsSession d = true) ∧ t.step ws d = some u := by
  have coherent := orderly.coherent
  cases owed : t.system.2.owed with
  | cons hdl rest =>
    have mem : hdl ∈ t.system.2.owed := by simp [owed]
    have stepped : t.system.step (.onFail hdl) = some (t.system.1.onFail,
        { t.system.2 with owed := t.system.2.owed.erase hdl }) :=
      system_step_iff.mpr ⟨if_pos free, if_pos mem⟩
    obtain ⟨u, enabled⟩ := event_enabled ws running rfl stepped
    exact ⟨_, u, .inr rfl, enabled⟩
  | nil =>
    cases established : t.system.2.established with
    | cons hdl rest =>
      have mem : hdl ∈ t.system.2.established := by simp [established]
      have stepped : t.system.step (.onClose hdl) = some (t.system.1.onClose,
          { t.system.2 with established := t.system.2.established.erase hdl }) :=
        system_step_iff.mpr ⟨if_pos free, if_pos mem⟩
      obtain ⟨u, enabled⟩ := event_enabled ws running rfl stepped
      exact ⟨_, u, .inr rfl, enabled⟩
    | nil =>
      refine ⟨.loopEnds, _, .inl rfl, if_pos ⟨running, by simp [perpetual], ?_⟩⟩
      simp [Teardown.drained, owed, established, free]

/-- The thread can go on, unless the event loop is in close() and can leave it, or the thread
    waits at the join for the loop, which can end or still owes an event. -/
theorem progress {ws : Int} {t : Teardown} (orderly : Orderly t) (running : t.pc ≠ .done) :
    ∃ d u, t.step ws d = some u ∧ (ownDeed d = true ∨ leavesClose d = true ∨
      t.pc = .join ∧ (d = .loopEnds ∨ endsSession d = true)) := by
  have lock := orderly.lock
  cases here : t.pc with
  | done => exact absurd here running
  | readState => exact ⟨.readState, _, if_pos here, .inl rfl⟩
  | recheck => exact ⟨.recheck, _, if_pos here, .inl rfl⟩
  | stopPerpetual => exact ⟨.stopPerpetual, _, if_pos here, .inl rfl⟩
  | tryClose site =>
    rw [here] at lock
    rcases lock with free | ⟨_, inside⟩
    · have stepped : t.system.step (.closeEnter .client) =
          some (t.system.1.closeEnter .client, t.system.2) :=
        system_step_iff.mpr ⟨if_pos free, rfl⟩
      obtain ⟨u, enabled⟩ := act_enabled (t := t) stepped
      exact ⟨.closeEnter, u, by simp only [Teardown.step, here]; exact enabled, .inl rfl⟩
    · obtain ⟨d, u, leaves, enabled⟩ := close_left ws orderly inside
      exact ⟨d, u, enabled, .inr (.inl leaves)⟩
  | endpointClose site =>
    rw [here] at lock
    have call := lock.resolve_right fun other => by cases other.1
    have stepped : t.system.step (.closeEndpoint .client false) =
        some (t.system.1.closeEndpoint .client false, t.system.2) :=
      system_step_iff.mpr ⟨if_pos call, rfl⟩
    obtain ⟨u, enabled⟩ := act_enabled (t := t) stepped
    exact ⟨.closeEndpoint false, u, by simp only [Teardown.step, here]; exact enabled, .inl rfl⟩
  | writeState site =>
    rw [here] at lock
    have call := lock.resolve_right fun other => by cases other.1
    have stepped : t.system.step (.closeWrite .client) =
        some (t.system.1.closeWrite, t.system.2) := system_step_iff.mpr ⟨if_pos call, rfl⟩
    obtain ⟨u, enabled⟩ := act_enabled (t := t) stepped
    exact ⟨.closeWrite, u, by simp only [Teardown.step, here]; exact enabled, .inl rfl⟩
  | wait site sleptMs =>
    -- the timer reads more than the limit
    have past : ¬t.waits ws site (sleptMs + site.limitMs ws) = true := by
      simp [Teardown.waits]
    refine ⟨.leaveWait (sleptMs + site.limitMs ws), { t with pc := site.next }, ?_, .inl rfl⟩
    simp only [Teardown.step, here]
    exact if_pos ⟨Nat.le_add_right _ _, past⟩
  | join =>
    by_cases ended : t.loopRunning = false
    · exact ⟨.join, _, if_pos ⟨here, by simp [ended]⟩, .inl rfl⟩
    · rw [here] at lock
      rcases lock with free | ⟨_, inside⟩
      · have perpetual := orderly.perpetual
        rw [here] at perpetual
        obtain ⟨d, u, which, enabled⟩ :=
          loop_ends ws orderly (by simpa using ended) perpetual free
        exact ⟨d, u, enabled, .inr (.inr ⟨rfl, which⟩)⟩
      · obtain ⟨d, u, leaves, enabled⟩ := close_left ws orderly inside
        exact ⟨d, u, enabled, .inr (.inl leaves)⟩

def eventsLeft (t : Teardown) : Nat :=
  2 * t.system.2.owed.length + t.system.2.established.length

theorem eventsLeft_step {ws : Int} {t u : Teardown} {d : Deed} (next : t.step ws d = some u) :
    eventsLeft u + (endsSession d).toNat ≤ eventsLeft t := by
  have did := teardown_cases next
  have kept : ∀ {p : System} {a : Action}, t.system.step a = some p → movesLive a = false →
      2 * p.2.owed.length + p.2.established.length ≤ eventsLeft t := by
    intro p a stepped still
    obtain ⟨owed, established⟩ := live_kept (system_step_iff.mp stepped).2 still
    rw [owed, established]
    exact Nat.le_refl _
  cases d with
  | event a =>
    obtain ⟨_, loop, p, stepped, rfl⟩ := did
    have target := endpoint_cases (system_step_iff.mp stepped).2
    cases a with
    | onOpen hdl =>
      obtain ⟨mem, same⟩ := target
      have shorter := List.length_erase_of_mem mem
      have positive := List.length_pos_of_mem mem
      simp only [eventsLeft, same, endsSession, List.length_cons, Bool.toNat_true]
      omega
    | onFail hdl =>
      obtain ⟨mem, same⟩ := target
      have shorter := List.length_erase_of_mem mem
      have positive := List.length_pos_of_mem mem
      simp only [eventsLeft, same, endsSession, Bool.toNat_true]
      omega
    | onClose hdl =>
      obtain ⟨mem, same⟩ := target
      have shorter := List.length_erase_of_mem mem
      have positive := List.length_pos_of_mem mem
      simp only [eventsLeft, same, endsSession, Bool.toNat_true]
      omega
    | endpointConnect accepted => cases loop
    | _ => exact kept stepped rfl
  | closeEnter | closeEndpoint ok | closeWrite =>
    obtain ⟨site, p, _, stepped, rfl⟩ := did
    exact kept stepped rfl
  | loopEnds => obtain ⟨_, _, _, rfl⟩ := did; exact Nat.le_refl _
  | readState | recheck | stopPerpetual => obtain ⟨_, rfl⟩ := did; exact Nat.le_refl _
  | sleep elapsedMs => obtain ⟨_, _, _, _, _, rfl⟩ := did; exact Nat.le_refl _
  | leaveWait elapsedMs => obtain ⟨_, _, _, rfl⟩ := did; exact Nat.le_refl _
  | join => obtain ⟨_, _, rfl⟩ := did; exact Nat.le_refl _

def OpenIsUp (p : System) : Prop := p.1.connectionState = .open → p.2.established ≠ []

theorem openIsUp_step {p q : System} {a : Action} (up : OpenIsUp p) (next : p.step a = some q) :
    OpenIsUp q := by
  obtain ⟨client, endpoint⟩ := system_step_iff.mp next
  have moved := step_cases client
  have target := endpoint_cases endpoint
  have same : writesState a = false → q.2.established = p.2.established → OpenIsUp q := by
    intro reads established
    rw [OpenIsUp, state_kept client reads, established]
    exact up
  cases a with
  | beginAttempt =>
    obtain ⟨site, _, written⟩ := moved
    intro reads
    rw [written] at reads
    cases reads
  | closeWrite caller | onClose hdl | onFail hdl =>
    intro reads
    rw [moved.2] at reads
    cases reads
  | onOpen hdl =>
    intro _
    rw [target.2]
    exact List.cons_ne_nil _ _
  | endpointConnect accepted =>
    cases accepted with
    | true =>
      obtain ⟨hdl, _, taken⟩ := target
      exact same rfl (by rw [taken])
    | false => exact same rfl (by rw [target])
  | _ => exact same rfl (live_kept endpoint rfl).2

theorem system_kept {ws : Int} {t u : Teardown} {d : Deed} (invariant : System → Prop)
    (keeps : ∀ p a q, invariant p → p.step a = some q → invariant q)
    (holds : invariant t.system) (next : t.step ws d = some u) : invariant u.system := by
  have did := teardown_cases next
  cases d with
  | event a =>
    obtain ⟨_, _, p, stepped, rfl⟩ := did
    exact keeps _ _ _ holds stepped
  | closeEnter | closeEndpoint ok | closeWrite =>
    obtain ⟨site, p, _, stepped, rfl⟩ := did
    exact keeps _ _ _ holds stepped
  | loopEnds => obtain ⟨_, _, _, rfl⟩ := did; exact holds
  | readState | recheck | stopPerpetual => obtain ⟨_, rfl⟩ := did; exact holds
  | sleep elapsedMs => obtain ⟨_, _, _, _, _, rfl⟩ := did; exact holds
  | leaveWait elapsedMs => obtain ⟨_, _, _, rfl⟩ := did; exact holds
  | join => obtain ⟨_, _, rfl⟩ := did; exact holds

/-- A destruction that starts when no call of connect() and no call of close() outside of the
    event loop is running, and what has happened since. -/
structure Destroys (ws : Int) (p : System) (deeds : List Deed) (t : Teardown) : Prop where
  reached : ∃ brokerWsUris pongTimeoutsBeforeRetry earlier,
    run System.step (System.create brokerWsUris pongTimeoutsBeforeRetry) earlier = some p
  idle : p.1.pc = .idle
  alone : p.1.closeCall = none ∨ ofEventLoop p.1.closeCall
  body : run (Teardown.step ws) (.enter p) deeds = some t

theorem destroys_coherent {ws : Int} {p : System} {deeds : List Deed} {t : Teardown}
    (destroys : Destroys ws p deeds t) : Coherent p := by
  obtain ⟨brokerWsUris, pongTimeoutsBeforeRetry, earlier, path⟩ := destroys.reached
  exact run_keeps Coherent (fun _ _ _ held next => coherent_step held next)
    (coherent_create brokerWsUris pongTimeoutsBeforeRetry) path

theorem destroys_openIsUp {ws : Int} {p : System} {deeds : List Deed} {t : Teardown}
    (destroys : Destroys ws p deeds t) : OpenIsUp t.system := by
  obtain ⟨brokerWsUris, pongTimeoutsBeforeRetry, earlier, path⟩ := destroys.reached
  have start : OpenIsUp (System.create brokerWsUris pongTimeoutsBeforeRetry) := by
    simp [OpenIsUp, System.create, Connection.create]
  have before := run_keeps OpenIsUp (fun _ _ _ up next => openIsUp_step up next) start path
  exact run_keeps (fun t : Teardown => OpenIsUp t.system)
    (fun _ _ _ => system_kept OpenIsUp fun _ _ _ => openIsUp_step) before destroys.body

theorem destroys_orderly {ws : Int} {p : System} {deeds : List Deed} {t : Teardown}
    (destroys : Destroys ws p deeds t) : Orderly t :=
  run_keeps Orderly (fun _ _ _ orderly next => orderly_step orderly next)
    (orderly_enter (destroys_coherent destroys) destroys.idle destroys.alone) destroys.body

/-- The destructor takes boundedly many steps and sleeps of its own, and sees two events at most,
    whatever the event loop does. -/
theorem destructor_bounded {ws : Int} {p : System} {deeds : List Deed} {t : Teardown}
    (destroys : Destroys ws p deeds t) :
    deeds.countP (fun d => ownDeed d && !isSleep d) ≤ 11 ∧
      connectionMinIntervalMs * deeds.countP isSleep < (max 5000 ws).toNat + 200 ∧
      deeds.countP endsSession ≤ 2 := by
  have steps := run_counted (fun t => stepsLeft t.pc) (fun d => ownDeed d && !isSleep d)
    (fun _ _ _ next => (left_step next).1) destroys.body
  have sleeps := run_counted (fun t => passesLeft ws t.pc) isSleep
    (fun _ _ _ next => (left_step next).2) destroys.body
  have events := run_counted eventsLeft endsSession (fun _ _ _ next => eventsLeft_step next)
    destroys.body
  have single := (destroys_coherent destroys).single
  simp only [Teardown.enter, stepsLeft, passesLeft, eventsLeft, sleepsLeft, WaitSite.limitMs,
    connectionMinIntervalMs] at steps sleeps events ⊢
  omega

/-- The destructor never hangs but at the join, and there only for an event that the endpoint
    owes; once it is done the endpoint owes nothing and no handler can run. -/
theorem destructor_progress {ws : Int} {p : System} {deeds : List Deed} {t : Teardown}
    (destroys : Destroys ws p deeds t) :
    (t.pc ≠ .done → ∃ d u, t.step ws d = some u ∧
      (ownDeed d = true ∨ leavesClose d = true ∨
        t.pc = .join ∧ (d = .loopEnds ∨ endsSession d = true))) ∧
    (t.pc = .done → Quiet t.system.2 ∧ t.system.1.connectionState ≠ .open ∧
      ∀ a, t.step ws (.event a) = none) := by
  have orderly := destroys_orderly destroys
  refine ⟨progress orderly, fun done => ?_⟩
  have ended := orderly.done done
  have drained := (orderly.ended ended).2
  simp only [Teardown.drained, Bool.and_eq_true, List.isEmpty_iff] at drained
  refine ⟨⟨drained.1.1, drained.1.2⟩, fun reads => ?_, fun a => ?_⟩
  · exact destroys_openIsUp destroys reads drained.1.2
  · simp [Teardown.step, ended]

def openConnection : List Action :=
  [.callConnect 1, .pass, .beginAttempt, .getConnection (.connection 0), .endpointConnect true,
    .onOpen 0, .waitEnds 0, .recheck]

def answeredClose : List Deed :=
  [.readState, .closeEnter, .closeEndpoint true, .closeWrite, .sleep 0, .event (.onClose 0),
    .leaveWait 201, .stopPerpetual, .loopEnds, .join]

theorem answered_close_destroys : ∃ p t, Destroys 5000 p answeredClose t ∧ t.pc = .done := by
  have reached : ∃ uris n earlier, run System.step (System.create uris n) earlier = some _ :=
    ⟨["wss://localhost:8142/pcp/"], 3, openConnection, rfl⟩
  exact ⟨_, _, ⟨reached, rfl, .inl rfl, rfl⟩, rfl⟩

theorem answered_close_bounded : ∃ p t, Destroys 5000 p answeredClose t ∧
    200 * answeredClose.countP isSleep < 5200 := by
  obtain ⟨p, t, destroys, _⟩ := answered_close_destroys
  exact ⟨p, t, destroys, (destructor_bounded destroys).2.1⟩

theorem answered_close_quiet : ∃ p t, Destroys 5000 p answeredClose t ∧ Quiet t.system.2 := by
  obtain ⟨p, t, destroys, done⟩ := answered_close_destroys
  exact ⟨p, t, destroys, ((destructor_progress destroys).2 done).1⟩

end PcpTeardown
