import PcpClient.EndpointContract

/-!
The handlers that the event loop of the endpoint calls, each with its try blocks: what an
exception of a callback, or of the recovery from it, becomes.
-/
namespace PcpEventHandlers
open PcpTransitions PcpConnection PcpEndpoint

inductive Exception where
  | connectionProcessingError (what : String)
  | badConnection
  | std (what : String)
  | unknown
  deriving DecidableEq, Repr

inductive Ending where
  | returned
  | raised (e : Exception)
  deriving DecidableEq, Repr

abbrev Handler := Connection → Ending × Connection

/-- What the handlers call: the callbacks that are set, the endpoint, and the other threads,
    which go on while a handler waits for state_mutex_. A reply of endpoint_->close() is the
    message of the error it sets. -/
structure Surroundings where
  onOpenCallback : Option Handler := none
  onMessageCallback : Option (String → Handler) := none
  onCloseCallback : Option Handler := none
  onFailCallback : Option Handler := none
  closeReply : Connection → Option String
  hasConnection : Handle → Bool
  meanwhile : Connection → Connection := id

/-- A callback that is set runs in a try block whose handlers only log. -/
def filtered : Option Handler → Handler
  | none => fun c => (.returned, c)
  | some callback => fun c => (.returned, (callback c).2)

def Surroundings.locked (s : Surroundings) (c : Connection) : Connection :=
  { s.meanwhile c with timings := (s.meanwhile c).timings.setClosing (s.meanwhile c).clock }

def Surroundings.close (s : Surroundings) : Handler := fun c =>
  if (s.locked c).connectionState ≠ .closed then
    match s.closeReply (s.locked c) with
    | some message =>
      (.raised (.connectionProcessingError ("failed to close WebSocket connection: " ++ message)),
        s.locked c)
    | none => (.returned, { s.locked c with connectionState := .closing })
  else (.returned, s.locked c)

def Surroundings.onOpen (s : Surroundings) : Handler := fun c =>
  match s.onOpenCallback with
  | none => (.returned, c.onOpen)
  | some callback =>
    match callback c.onOpen with
    | (.returned, d) => (.returned, d)
    | (.raised _, d) => s.close d

/-- onClose() records the time of the event before it looks the connection up. -/
def Surroundings.onClose (s : Surroundings) (hdl : Handle) : Handler := fun c =>
  if s.hasConnection hdl then filtered s.onCloseCallback (s.meanwhile c).onClose
  else (.raised .badConnection, { s.meanwhile c with
    timings := (s.meanwhile c).timings.setClosed (s.meanwhile c).clock false })

def Surroundings.onFail (s : Surroundings) (hdl : Handle) : Handler := fun c =>
  if s.hasConnection hdl then filtered s.onFailCallback (s.meanwhile c).onFail
  else (.raised .badConnection, { s.meanwhile c with
    timings := (s.meanwhile c).timings.setClosed (s.meanwhile c).clock true })

def Surroundings.onMessage (s : Surroundings) (payload : String) : Handler :=
  filtered (s.onMessageCallback.map fun callback => callback payload)

def Surroundings.onPong (_ : Surroundings) : Handler := fun c => (.returned, c.onPong)

def Surroundings.onPongTimeout (s : Surroundings) : Handler := fun c =>
  if c.onPongTimeout.pongTimeoutCloses then s.close c.onPongTimeout
  else (.returned, c.onPongTimeout)

inductive Event where
  | onOpen
  | onClose (hdl : Handle)
  | onFail (hdl : Handle)
  | onMessage (payload : String)
  | onPong
  | onPongTimeout
  deriving DecidableEq, Repr

def Surroundings.handle (s : Surroundings) : Event → Handler
  | .onOpen => s.onOpen
  | .onClose hdl => s.onClose hdl
  | .onFail hdl => s.onFail hdl
  | .onMessage payload => s.onMessage payload
  | .onPong => s.onPong
  | .onPongTimeout => s.onPongTimeout

def eventLoop : List (Surroundings × Event) → Handler
  | [], c => (.returned, c)
  | (s, e) :: rest, c =>
    match s.handle e c with
    | (.returned, d) => eventLoop rest d
    | (.raised thrown, d) => (.raised thrown, d)

def handleStep (c : Connection) (a : Surroundings × Event) : Option Connection :=
  some (a.1.handle a.2 c).2

/-- close() finds the connection closed, or the endpoint accepts to close it. -/
def Surroundings.Closes (s : Surroundings) (c : Connection) : Prop :=
  (s.meanwhile c).connectionState = .closed ∨ s.closeReply (s.locked c) = none

def Surroundings.Recovers (s : Surroundings) (c : Connection) : Event → Prop
  | .onOpen => ∀ callback, s.onOpenCallback = some callback →
      (callback c.onOpen).1 ≠ .returned → s.Closes (callback c.onOpen).2
  | .onClose hdl | .onFail hdl => s.hasConnection hdl = true
  | .onMessage _ | .onPong => True
  | .onPongTimeout => c.onPongTimeout.pongTimeoutCloses = true → s.Closes c.onPongTimeout

theorem filtered_returns (callback : Option Handler) (c : Connection) :
    (filtered callback c).1 = .returned := by
  cases callback <;> rfl

theorem close_returns_iff (s : Surroundings) (c : Connection) :
    (s.close c).1 = .returned ↔ s.Closes c := by
  have locked : (s.locked c).connectionState = (s.meanwhile c).connectionState := rfl
  unfold Surroundings.close Surroundings.Closes
  rw [locked]
  by_cases closed : (s.meanwhile c).connectionState = .closed
  · simp [closed]
  · cases reply : s.closeReply (s.locked c) <;> simp [closed]

theorem onOpen_returns_iff (s : Surroundings) (c : Connection) :
    (s.onOpen c).1 = .returned ↔ s.Recovers c .onOpen := by
  unfold Surroundings.onOpen
  cases set : s.onOpenCallback with
  | none => simp [Surroundings.Recovers, set]
  | some callback =>
    cases ended : callback c.onOpen with
    | mk ending d =>
      cases ending with
      | returned => simp [Surroundings.Recovers, set, ended]
      | raised thrown => simp [Surroundings.Recovers, set, ended, close_returns_iff]

/-! close() as the steps of the Connection that it takes. -/

def closeActions (caller : Caller) (s : Surroundings) (c : Connection) : List Action :=
  if c.connectionState = .closed then [.closeEnter caller]
  else if s.closeReply (s.locked c) = none then
    [.closeEnter caller, .closeEndpoint caller true, .closeWrite caller]
  else [.closeEnter caller, .closeEndpoint caller false]

theorem close_takes_steps {s : Surroundings} {c : Connection} (caller : Caller)
    (alone : s.meanwhile = id) (free : c.closeCall = none) :
    run Connection.step c (closeActions caller s c) = some (s.close c).2 := by
  have state : (s.locked c).connectionState = c.connectionState := by
    simp [Surroundings.locked, alone]
  have locked : s.locked c = { c.closeEnter caller with closeCall := none } := by
    simp [Surroundings.locked, Connection.closeEnter, alone, free]
  by_cases closed : c.connectionState = .closed
  · have ends : (s.close c).2 = s.locked c := by simp [Surroundings.close, state, closed]
    rw [ends, locked]
    simp [closeActions, closed, run, Connection.step, free, Connection.closeEnter]
  · cases reply : s.closeReply (s.locked c) with
    | none =>
      have ends : (s.close c).2 = { s.locked c with connectionState := .closing } := by
        simp [Surroundings.close, state, closed, reply]
      have actions : closeActions caller s c =
          [.closeEnter caller, .closeEndpoint caller true, .closeWrite caller] := by
        simp [closeActions, closed, reply]
      rw [ends, locked, actions]
      simp [closed, run, Connection.step, free, Connection.closeEnter, Connection.closeEndpoint,
        Connection.closeWrite]
    | some message =>
      have ends : (s.close c).2 = s.locked c := by simp [Surroundings.close, state, closed, reply]
      have actions : closeActions caller s c =
          [.closeEnter caller, .closeEndpoint caller false] := by
        simp [closeActions, closed, reply]
      rw [ends, locked, actions]
      simp [closed, run, Connection.step, free, Connection.closeEnter, Connection.closeEndpoint]

structure Surroundings.Bare (s : Surroundings) : Prop where
  onOpen : s.onOpenCallback = none
  onMessage : s.onMessageCallback = none
  onClose : s.onCloseCallback = none
  onFail : s.onFailCallback = none
  alone : s.meanwhile = id
  known : ∀ hdl, s.hasConnection hdl = true

def Surroundings.actions (s : Surroundings) (hdl : Handle) (c : Connection) :
    Event → List Action
  | .onOpen => [.onOpen hdl]
  | .onClose hdl => [.onClose hdl]
  | .onFail hdl => [.onFail hdl]
  | .onMessage _ => []
  | .onPong => [.onPong hdl]
  | .onPongTimeout => .onPongTimeout hdl ::
      if c.onPongTimeout.pongTimeoutCloses then closeActions .eventLoop s c.onPongTimeout else []

theorem handle_takes_steps {s : Surroundings} {c : Connection} (bare : s.Bare)
    (free : c.closeCall = none) (hdl : Handle) (e : Event) :
    run Connection.step c (s.actions hdl c e) = some (s.handle e c).2 := by
  cases e with
  | onOpen =>
    simp [Surroundings.handle, Surroundings.onOpen, Surroundings.actions, bare.onOpen, run,
      Connection.step]
  | onClose closing =>
    simp [Surroundings.handle, Surroundings.onClose, Surroundings.actions, bare.onClose,
      bare.known, bare.alone, filtered, run, Connection.step, free]
  | onFail failing =>
    simp [Surroundings.handle, Surroundings.onFail, Surroundings.actions, bare.onFail,
      bare.known, bare.alone, filtered, run, Connection.step, free]
  | onMessage payload =>
    simp [Surroundings.handle, Surroundings.onMessage, Surroundings.actions, bare.onMessage,
      filtered]
  | onPong => rfl
  | onPongTimeout =>
    refine run_cons_iff.mpr ⟨c.onPongTimeout, rfl, ?_⟩
    change _ = some (s.onPongTimeout c).2
    unfold Surroundings.onPongTimeout
    split
    · exact close_takes_steps .eventLoop bare.alone free
    · rfl

theorem handle_returns_iff (s : Surroundings) (e : Event) (c : Connection) :
    (s.handle e c).1 = .returned ↔ s.Recovers c e := by
  cases e with
  | onOpen => exact onOpen_returns_iff s c
  | onClose hdl =>
    simp only [Surroundings.handle, Surroundings.onClose, Surroundings.Recovers]
    split <;> simp_all [filtered_returns]
  | onFail hdl =>
    simp only [Surroundings.handle, Surroundings.onFail, Surroundings.Recovers]
    split <;> simp_all [filtered_returns]
  | onMessage payload =>
    simp [Surroundings.handle, Surroundings.onMessage, filtered_returns, Surroundings.Recovers]
  | onPong => simp [Surroundings.handle, Surroundings.onPong, Surroundings.Recovers]
  | onPongTimeout =>
    simp only [Surroundings.handle, Surroundings.onPongTimeout, Surroundings.Recovers]
    split <;> simp_all [close_returns_iff]

theorem eventLoop_returns_iff (events : List (Surroundings × Event)) (c : Connection) :
    (eventLoop events c).1 = .returned ↔
      Throughout handleStep (fun c a => a.1.Recovers c a.2) c events := by
  induction events generalizing c with
  | nil => simp [eventLoop, Throughout]
  | cons a rest ih =>
    obtain ⟨s, e⟩ := a
    rw [throughout_cons (show handleStep c (s, e) = some (s.handle e c).2 from rfl),
      ← handle_returns_iff, ← ih, eventLoop]
    cases ended : s.handle e c with
    | mk ending d => cases ending <;> simp

/-- A handler lets no exception into the event loop if and only if each recovery in it, and
    the lookup of its connection, succeeds; so the loop never ends by one if and only if all
    its events find that so. On their own, the handlers are the steps of the Connection. -/
theorem no_exception_enters_iff (c : Connection) :
    (∀ s e, (Surroundings.handle s e c).1 = .returned ↔ s.Recovers c e) ∧
      (∀ events, (eventLoop events c).1 = .returned ↔
        Throughout handleStep (fun c a => a.1.Recovers c a.2) c events) ∧
      ∀ s : Surroundings, s.Bare → c.closeCall = none →
        ∀ hdl e, run Connection.step c (s.actions hdl c e) = some (s.handle e c).2 :=
  ⟨fun s e => handle_returns_iff s e c, fun events => eventLoop_returns_iff events c,
    fun _ bare free hdl e => handle_takes_steps bare free hdl e⟩

/-- An endpoint that closes open connections only, as for one that is already closing. -/
def plainEndpoint : Surroundings where
  closeReply c := if c.connectionState = .open then none else some "invalid state"
  hasConnection _ := true

theorem timeout_closes_open :
    ∃ c, run Connection.step { Connection.create [] 1 with connectionState := .open }
        (plainEndpoint.actions 0 { Connection.create [] 1 with connectionState := .open }
          .onPongTimeout) = some c ∧ c.connectionState = .closing :=
  ⟨_, (no_exception_enters_iff _).2.2 plainEndpoint ⟨rfl, rfl, rfl, rfl, rfl, fun _ => rfl⟩ rfl
    0 .onPongTimeout, rfl⟩

/-- The limit is one timeout, and it expires after the client called close(). -/
theorem timeout_while_closing_raises :
    ∃ p, run System.step (System.create ["wss://localhost:8142/pcp/"] 1)
        [.callConnect 1, .pass, .beginAttempt, .getConnection (.connection 0),
          .endpointConnect true, .onOpen 0, .waitEnds 0, .recheck, .closeEnter .client,
          .closeEndpoint .client true, .closeWrite .client] = some p ∧
      0 ∈ p.2.established ∧
      (plainEndpoint.handle .onPongTimeout p.1).1 = .raised (.connectionProcessingError
        "failed to close WebSocket connection: invalid state") :=
  ⟨_, rfl, by decide, rfl⟩

end PcpEventHandlers
