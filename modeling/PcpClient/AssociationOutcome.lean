import PcpClient.ConnectorInvariants
import PcpClient.ReceivedMessages

/-!
How a call of connect() ends: what the handlers have done since its reset of the session
when it reports an outcome, and what it leaves in the session.
-/
namespace PcpAssociation
open PcpTransitions PcpConnector PcpConnectorInvariants PcpEndpoint PcpEndpointCoherence
open PcpConnectAttempts PcpDispatch PcpOctets PcpReceived
open PcpConnection hiding Action

def Answered (history : List SessionEvent) (id : String) (success : Bool) : Prop :=
  Follows history (.requested id) (.responded id success)

def Cited (history : List SessionEvent) (id : String) : Prop :=
  Follows history (.requested id) (.cited id)

inductive Effect (s t : Connector) (a : Action) : Prop where
  | none (session : t.session = s.session) (handled : t.handled = s.handled)
  | requested (id : String) (place : s.loop = .associating) (nonempty : id ≠ "")
      (session : t.session =
        { s.session with gotMessagingFailure := false, error := "", requestId := id })
      (handled : t.handled = s.handled ++ [.requested id])
  | corrupted (error : String)
      (session : t.session = { s.session with gotMessagingFailure := true, error })
      (handled : t.handled = s.handled ++ [.corrupted])
  | discarded (id : String) (success : Bool)
      (unexpected : s.session.inProgress = false ∨ id ≠ s.session.requestId)
      (session : t.session = s.session) (handled : t.handled = s.handled ++ [.responded id success])
  | settled (chunks : PcpParsedChunks.ParsedChunks) (success : Bool) (error : String)
      (handler : a = .respond) (place : s.loop = .response chunks)
      (read : readAssociateResponse chunks = .ok ⟨s.session.requestId, success⟩)
      (expected : s.session.inProgress = true)
      (session : t.session = { s.session with success, inProgress := false, error })
      (handled : t.handled = s.handled ++ [.responded s.session.requestId success])
  | unrelated (id : String) (session : t.session = s.session)
      (handled : t.handled = s.handled ++ [.cited id])
  | failed (error : String) (nonempty : s.session.requestId ≠ "")
      (session : t.session = { s.session with gotMessagingFailure := true, error })
      (handled : t.handled = s.handled ++ [.cited s.session.requestId])

theorem respond_effect {s : Connector} {cfg : Setup} {chunks : PcpParsedChunks.ParsedChunks}
    (place : s.loop = .response chunks) : Effect s (s.respond cfg chunks) .respond := by
  unfold Connector.respond
  split
  · exact .none rfl rfl
  · rename_i r read
    obtain ⟨id, success⟩ := r
    dsimp only
    split
    · rename_i unexpected
      refine .discarded id success ?_ rfl rfl
      simpa using unexpected
    · rename_i expected
      simp only [Bool.or_eq_true, Bool.not_eq_true', bne_iff_ne, ne_eq, not_or, Bool.not_eq_false,
        not_not] at expected
      obtain ⟨progress, rfl⟩ := expected
      have settles : ∀ error, Effect s
          ((s.record (.responded s.session.requestId success)).settle cfg success error)
          .respond := by
        intro error
        unfold Connector.settle
        split <;> exact .settled chunks success error rfl place read progress rfl rfl
      cases success with
      | true => exact settles s.session.error
      | false =>
        simp only [Bool.false_eq_true, if_false]
        split
        · exact settles _
        · exact .none rfl rfl

theorem eventLoop_effect {cfg : Setup} {s t : Connector} {a : Action} (own : FromEventLoop a)
    (next : s.step cfg a = some t) : Effect s t a := by
  have moved := connector_cases next
  cases a <;> simp only [FromEventLoop] at own
  case associateSession id sent =>
    obtain ⟨place, _, nonempty, _, rfl⟩ := moved
    exact .requested id place nonempty rfl rfl
  case closeTimings => obtain ⟨_, rfl⟩ := moved; exact .none rfl rfl
  case message => obtain ⟨_, _, rfl⟩ := moved; exact .none rfl rfl
  case testInProgress => obtain ⟨_, _, rfl⟩ | ⟨_, _, rfl⟩ := moved <;> exact .none rfl rfl
  case report => obtain ⟨error, _, _, rfl⟩ := moved; exact .corrupted error rfl rfl
  case respond => obtain ⟨chunks, place, _, rfl⟩ := moved; exact respond_effect place
  case responseCallbackEnds throws =>
    obtain ⟨_, rfl⟩ := moved
    cases throws <;> exact .none rfl rfl
  case userCallbackEnds throws =>
    obtain ⟨callbackNext, _, rfl⟩ := moved
    cases callbackNext <;> cases throws <;> exact .none rfl rfl
  case cite =>
    obtain ⟨c, _, _, rfl⟩ := moved
    unfold Connector.cite
    split
    · rename_i about
      simp only [Bool.and_eq_true, Bool.not_eq_true', beq_iff_eq] at about
      obtain ⟨nonempty, same⟩ := about
      refine .failed c.error ?_ rfl (by rw [same]; rfl)
      intro empty
      simp [same, empty] at nonempty
    · exact .unrelated c.causeId rfl rfl

/-- A response without an id is taken for the answer to a request that was not made. -/
structure AnswersNoRequest (s : Connector) (a : Action) : Prop where
  handler : a = .respond
  expected : s.session.inProgress = true
  noRequest : s.session.requestId = ""
  noId : ∃ chunks success, s.loop = .response chunks ∧
    readAssociateResponse chunks = .ok ⟨"", success⟩

/-- What the session holds follows from what the handlers have done since its reset, and
    a connect() that waits has made one request at most. -/
structure Recorded (s : Connector) : Prop where
  failure : s.session.gotMessagingFailure = true →
    .corrupted ∈ s.handled ∨ ∃ id, Cited s.handled id
  request : s.session.requestId ≠ "" → .requested s.session.requestId ∈ s.handled
  success : s.session.success = true → ∃ id, Answered s.handled id true
  started : s.client = .marking ∨ calling s.client = true → s.handled = []
  settled : s.client = .blocked → s.session.inProgress = false →
    ∃ id, Answered s.handled id s.session.success
  waiting : s.client = .blocked → s.session.inProgress = true →
    ∀ id success, ¬Answered s.handled id success
  latest : s.client = .blocked → ∀ id, .requested id ∈ s.handled → s.session.requestId = id
  once : s.client = .blocked → ∀ id, .requested id ∈ s.handled →
    s.network.2.owed = [] ∧ s.loop ≠ .associating

theorem answered_snoc {history : List SessionEvent} {id : String} {success : Bool}
    (e : SessionEvent) (before : Answered history id success) :
    Answered (history ++ [e]) id success :=
  follows_snoc_iff.mpr (.inl before)

theorem cited_snoc {history : List SessionEvent} (e : SessionEvent)
    (before : .corrupted ∈ history ∨ ∃ id, Cited history id) :
    .corrupted ∈ history ++ [e] ∨ ∃ id, Cited (history ++ [e]) id := by
  rcases before with before | ⟨id, before⟩
  · exact .inl (List.mem_append_left _ before)
  · exact .inr ⟨id, follows_snoc_iff.mpr (.inl before)⟩

theorem eventLoop_place {cfg : Setup} {s t : Connector} {a : Action} (own : FromEventLoop a)
    (next : s.step cfg a = some t) :
    t.loop = .idle ∨ t.loop = .closing ∨ t.loop = .aborted ∨ handlesMessage t.loop = true := by
  have moved := connector_cases next
  cases a <;> simp only [FromEventLoop] at own
  case associateSession id sent =>
    obtain ⟨_, _, _, _, rfl⟩ := moved
    cases sent
    · exact .inr (.inl rfl)
    · exact .inl rfl
  case closeTimings => obtain ⟨_, rfl⟩ := moved; exact .inl rfl
  case message hdl msgTxt =>
    obtain ⟨_, _, rfl⟩ := moved
    exact (onMessage_place cfg msgTxt).imp_right .inr
  case testInProgress =>
    obtain ⟨_, _, rfl⟩ | ⟨_, _, rfl⟩ := moved <;> unfold Connector.testInProgress <;>
      cases s.session.inProgress <;> simp [handlesMessage]
  case report => obtain ⟨_, _, _, rfl⟩ := moved; exact .inl rfl
  case respond =>
    obtain ⟨chunks, _, _, rfl⟩ := moved
    refine (respond_place s cfg chunks).imp_right fun place => .inr (.inr ?_)
    rw [place]
    rfl
  case responseCallbackEnds throws =>
    obtain ⟨_, rfl⟩ := moved
    cases throws <;> exact .inl rfl
  case userCallbackEnds throws =>
    obtain ⟨callbackNext, _, rfl⟩ := moved
    cases callbackNext <;> cases throws <;> simp [Connector.userCallbackEnds, handlesMessage]
  case cite =>
    obtain ⟨c, _, _, rfl⟩ := moved
    unfold Connector.cite
    split <;> exact .inl rfl

theorem not_associating {cfg : Setup} {s t : Connector} {a : Action} (own : FromEventLoop a)
    (next : s.step cfg a = some t) : t.loop ≠ .associating := by
  intro later
  rcases eventLoop_place own next with place | place | place | place <;>
    simp [later, handlesMessage] at place

theorem recorded_same {s t : Connector} (recorded : Recorded s) (session : t.session = s.session)
    (handled : t.handled = s.handled)
    (started : t.client = .marking ∨ calling t.client = true → s.handled = [])
    (blocked : t.client = .blocked → s.client = .blocked)
    (once : t.client = .blocked → ∀ id, .requested id ∈ s.handled →
      t.network.2.owed = [] ∧ t.loop ≠ .associating) : Recorded t := by
  refine ⟨?_, ?_, ?_, ?_, ?_, ?_, ?_, ?_⟩
  · rw [session, handled]; exact recorded.failure
  · rw [session, handled]; exact recorded.request
  · rw [session, handled]; exact recorded.success
  · rw [handled]; exact started
  · rw [session, handled]; exact fun place => recorded.settled (blocked place)
  · rw [session, handled]; exact fun place => recorded.waiting (blocked place)
  · rw [session, handled]; exact fun place => recorded.latest (blocked place)
  · rw [handled]; exact once

theorem recorded_append {s t : Connector} {e : SessionEvent} (recorded : Recorded s)
    (handled : t.handled = s.handled ++ [e]) (other : ∀ id, e ≠ .requested id)
    (request : t.session.requestId = s.session.requestId)
    (progress : t.session.inProgress = s.session.inProgress)
    (success : t.session.success = s.session.success) (client : t.client = s.client)
    (failure : t.session.gotMessagingFailure = true →
      .corrupted ∈ t.handled ∨ ∃ id, Cited t.handled id)
    (started : t.client = .marking ∨ calling t.client = true → t.handled = [])
    (once : ∀ id, .requested id ∈ s.handled → t.client = .blocked →
      t.network.2.owed = [] ∧ t.loop ≠ .associating)
    (unanswered : s.client = .blocked → s.session.inProgress = true →
      ∀ id success, e = .responded id success → .requested id ∉ s.handled) : Recorded t := by
  have made : ∀ id, .requested id ∈ t.handled ↔ .requested id ∈ s.handled := by
    intro id
    have notLast : SessionEvent.requested id ≠ e := fun same => other id same.symm
    rw [handled, List.mem_append, List.mem_singleton, or_iff_left notLast]
  refine ⟨failure, ?_, ?_, started, ?_, ?_, ?_, ?_⟩
  · rw [request, made]
    exact recorded.request
  · rw [success, handled]
    intro succeeded
    obtain ⟨id, answered⟩ := recorded.success succeeded
    exact ⟨id, answered_snoc e answered⟩
  · rw [client, progress, success, handled]
    intro blocked finished
    obtain ⟨id, answered⟩ := recorded.settled blocked finished
    exact ⟨id, answered_snoc e answered⟩
  · rw [client, progress, handled]
    intro blocked waits id success answered
    rcases follows_snoc_iff.mp answered with before | ⟨now, request⟩
    · exact recorded.waiting blocked waits id success before
    · exact unanswered blocked waits id success now.symm request
  · rw [client, request]
    exact fun blocked id request => recorded.latest blocked id ((made id).mp request)
  · exact fun blocked id request => once id ((made id).mp request) blocked

theorem recorded_request {s t : Connector} {id : String} (recorded : Recorded s)
    (session : t.session =
      { s.session with gotMessagingFailure := false, error := "", requestId := id })
    (handled : t.handled = s.handled ++ [.requested id]) (client : t.client = s.client)
    (first : s.client = .blocked → ∀ other, .requested other ∉ s.handled)
    (started : t.client = .marking ∨ calling t.client = true → t.handled = [])
    (last : t.network.2.owed = [] ∧ t.loop ≠ .associating) : Recorded t := by
  refine ⟨by simp [session], fun _ => by simp [session, handled], ?_, started, ?_, ?_, ?_,
    fun _ _ _ => last⟩
  · rw [session, handled]
    intro success
    obtain ⟨other, answered⟩ := recorded.success success
    exact ⟨other, answered_snoc _ answered⟩
  · rw [client, session, handled]
    intro blocked finished
    obtain ⟨other, answered⟩ := recorded.settled blocked finished
    exact ⟨other, answered_snoc _ answered⟩
  · rw [client, session, handled]
    intro blocked progress other success answered
    rcases follows_snoc_iff.mp answered with before | ⟨same, _⟩
    · exact recorded.waiting blocked progress other success before
    · cases same
  · rw [client, session, handled]
    intro blocked other made
    rcases List.mem_append.mp made with before | now
    · exact absurd before (first blocked other)
    · simpa using (List.mem_singleton.mp now).symm

theorem recorded_answer {s t : Connector} {success : Bool} {error : String}
    (recorded : Recorded s) (nonempty : s.session.requestId ≠ "")
    (session : t.session = { s.session with success, inProgress := false, error })
    (handled : t.handled = s.handled ++ [.responded s.session.requestId success])
    (client : t.client = s.client)
    (started : t.client = .marking ∨ calling t.client = true → t.handled = [])
    (once : ∀ id, .requested id ∈ s.handled → t.client = .blocked →
      t.network.2.owed = [] ∧ t.loop ≠ .associating) : Recorded t := by
  have answered : Answered t.handled s.session.requestId success := by
    rw [handled]
    exact follows_snoc_iff.mpr (.inr ⟨rfl, recorded.request nonempty⟩)
  have made : ∀ id, .requested id ∈ t.handled → .requested id ∈ s.handled := by
    intro id mem
    simpa [handled] using mem
  refine ⟨?_, ?_, ?_, started, ?_, ?_, ?_, ?_⟩
  · rw [session, handled]
    exact fun failed => cited_snoc _ (recorded.failure failed)
  · rw [session, handled]
    exact fun request => List.mem_append_left _ (recorded.request request)
  · intro succeeded
    rw [session] at succeeded
    obtain rfl : success = true := succeeded
    exact ⟨_, answered⟩
  · intro _ _
    rw [session]
    exact ⟨_, answered⟩
  · rw [session]
    intro _ progress
    cases progress
  · rw [client, session]
    exact fun blocked id mem => recorded.latest blocked id (made id mem)
  · exact fun blocked id mem => once id (made id mem) blocked

theorem recorded_eventLoop {cfg : Setup} {s t : Connector} {a : Action} (placed : Placed s)
    (recorded : Recorded s) (guarded : ¬AnswersNoRequest s a) (own : FromEventLoop a)
    (next : s.step cfg a = some t) : Recorded t := by
  obtain ⟨client, network, _, _⟩ := eventLoop_keeps own next
  have outside := not_associating own next
  have started : t.client = .marking ∨ calling t.client = true → t.handled = [] := by
    intro place
    have held : s.client.holdsSession = true := by
      rw [client] at place
      cases here : s.client <;> simp [here, calling] at place <;> rfl
    rw [(eventLoop_session own held next).2]
    exact recorded.started (client ▸ place)
  have once : ∀ id, .requested id ∈ s.handled → t.client = .blocked →
      t.network.2.owed = [] ∧ t.loop ≠ .associating := fun id made place =>
    ⟨network ▸ (recorded.once (client ▸ place) id made).1, outside⟩
  cases eventLoop_effect own next with
  | none session handled =>
    refine recorded_same recorded session handled ?_ (fun place => client ▸ place)
      fun place id made => once id made place
    rw [← handled]
    exact started
  | requested id place _ session handled =>
    have owed : s.network.2.owed = [] := by
      obtain ⟨hdl, mem⟩ := List.exists_mem_of_ne_nil _ (placed.handler (by rw [place]; rfl))
      exact (established_alone placed.coherent mem).2.1
    have first : s.client = .blocked → ∀ other, .requested other ∉ s.handled :=
      fun blocked other made => (recorded.once blocked other made).2 place
    exact recorded_request recorded session handled client first started
      ⟨network ▸ owed, outside⟩
  | corrupted error session handled =>
    refine recorded_append recorded handled (by simp) (by rw [session]) (by rw [session])
      (by rw [session]) client ?_ started once (by simp)
    exact fun _ => .inl (by simp [handled])
  | discarded id success unexpected session handled =>
    refine recorded_append recorded handled (by simp) (by rw [session]) (by rw [session])
      (by rw [session]) client ?_ started once ?_
    · rw [session, handled]
      exact fun failed => cited_snoc _ (recorded.failure failed)
    · intro blocked waits other b same made
      obtain ⟨rfl, rfl⟩ := SessionEvent.responded.inj same
      rcases unexpected with finished | unknown
      · simp [finished] at waits
      · exact unknown (recorded.latest blocked id made).symm
  | settled chunks success error handler place read expected session handled =>
    have nonempty : s.session.requestId ≠ "" := fun empty =>
      guarded ⟨handler, expected, empty, chunks, success, place, empty ▸ read⟩
    exact recorded_answer recorded nonempty session handled client started once
  | unrelated id session handled =>
    refine recorded_append recorded handled (by simp) (by rw [session]) (by rw [session])
      (by rw [session]) client ?_ started once (by simp)
    rw [session, handled]
    exact fun failed => cited_snoc _ (recorded.failure failed)
  | failed error nonempty session handled =>
    refine recorded_append recorded handled (by simp) (by rw [session]) (by rw [session])
      (by rw [session]) client ?_ started once (by simp)
    rw [handled]
    exact fun _ => .inr ⟨_, follows_snoc_iff.mpr (.inr ⟨rfl, recorded.request nonempty⟩)⟩

theorem recorded_network {s : Connector} {n : System} {a : PcpConnection.Action}
    (recorded : Recorded s) (permitted : s.permits a = true) (next : s.network.step a = some n) :
    Recorded (s.afterNetwork n a) := by
  refine recorded_same recorded rfl rfl ?_ (fun place => clientAfter_same permitted place (by simp))
    ?_
  · intro place
    rcases clientAfter_cases n permitted with same | ⟨_, moved⟩
    · exact recorded.started (same ▸ place)
    · change clientAfter s.client n a = .marking ∨
        calling (clientAfter s.client n a) = true at place
      rcases moved with moved | moved | moved <;> rw [moved] at place <;> simp [calling] at place
  · intro place id made
    have blocked : s.client = .blocked := clientAfter_same permitted place (by simp)
    obtain ⟨owed, handled⟩ := recorded.once blocked id made
    have endpoint := (system_step_iff.mp next).2
    rcases network_or_client permitted with network | connecting
    · have none : n.2.owed = [] := by
        refine List.eq_nil_iff_forall_not_mem.mpr fun hdl mem => ?_
        have before := (network_endpoint network endpoint).2.2 hdl mem
        simp [owed] at before
      refine ⟨none, fun associating => ?_⟩
      rcases loopAfter_cases n permitted with same | ⟨_, moved⟩ | ⟨_, moved⟩
      · exact handled (same.symm.trans associating)
      · rcases moved with moved | ⟨_, hdl, rfl⟩ | ⟨moved, _⟩ | ⟨moved, _⟩
        · simp [show loopAfter s.loop n a = _ from associating] at moved
        · have target := endpoint_cases endpoint
          simp [owed] at target
        · simp [show loopAfter s.loop n a = _ from associating] at moved
        · simp [show loopAfter s.loop n a = _ from associating] at moved
      · simp [show loopAfter s.loop n a = _ from associating] at moved
    · simp [blocked] at connecting

theorem conclude_session (s : Connector) :
    (s.conclude.session = s.session ∨ s.conclude.session = {}) ∧
      s.conclude.handled = s.handled := by
  unfold Connector.conclude
  split
  · exact ⟨.inr rfl, rfl⟩
  · split
    · exact ⟨.inr rfl, rfl⟩
    · split
      · exact ⟨.inr rfl, rfl⟩
      · exact ⟨.inl rfl, rfl⟩

theorem recorded_over {s t : Connector} (recorded : Recorded s)
    (session : t.session = s.session ∨ t.session = {}) (handled : t.handled = s.handled)
    (idle : t.client = .idle) : Recorded t := by
  refine ⟨?_, ?_, ?_, by simp [idle, calling], by simp [idle], by simp [idle], by simp [idle],
    by simp [idle]⟩
  · rw [handled]
    rcases session with session | session <;> rw [session]
    · exact recorded.failure
    · simp
  · rw [handled]
    rcases session with session | session <;> rw [session]
    · exact recorded.request
    · simp
  · rw [handled]
    rcases session with session | session <;> rw [session]
    · exact recorded.success
    · simp

/-- connect() keeps the mutex from its reset to the wait, so no failure and no end of the
    association is seen before the wait. -/
theorem connectEnds_cases {s : Connector} (placed : Placed s) (here : s.client = .connecting)
    (r : ConnectResult) :
    r = .returned ∧ s.connectEnds r = { s with client := .blocked, wakePending := false } ∨
      r ≠ .returned ∧ (s.connectEnds r).client = .idle ∧ (s.connectEnds r).session = s.session ∧
        (s.connectEnds r).handled = s.handled := by
  have session := placed.calling (by rw [here]; rfl)
  cases r with
  | returned =>
    refine .inl ⟨rfl, ?_⟩
    simp [Connector.connectEnds, SessionAssociation.settled, session]
  | _ => exact .inr ⟨by simp, rfl, rfl, rfl⟩

theorem recorded_step {cfg : Setup} {s t : Connector} {a : Action} (placed : Placed s)
    (recorded : Recorded s) (guarded : ¬AnswersNoRequest s a) (next : s.step cfg a = some t) :
    Recorded t := by
  have moved := connector_cases next
  cases a with
  | network a =>
    obtain ⟨permitted, n, inner, rfl⟩ := moved
    exact recorded_network recorded permitted inner
  | callConnect n =>
    obtain ⟨_, rfl⟩ := moved
    refine recorded_same recorded rfl rfl ?_ ?_ ?_ <;>
      (unfold Connector.callConnect; split <;> simp [calling])
  | construct ok =>
    obtain ⟨_, rfl⟩ := moved
    cases ok <;> refine recorded_same recorded rfl rfl ?_ ?_ ?_ <;>
      simp [Connector.construct, Connector.finish, calling]
  | readState =>
    obtain ⟨_, rfl⟩ := moved
    unfold Connector.readState
    split <;> refine recorded_same recorded rfl rfl ?_ ?_ ?_ <;> simp [calling]
  | awaitEnds =>
    obtain ⟨_, rfl⟩ := moved
    refine recorded_same recorded rfl rfl ?_ ?_ ?_ <;> simp [calling]
  | lockSession =>
    obtain ⟨_, _, rfl⟩ := moved
    refine recorded_same recorded rfl rfl ?_ ?_ ?_ <;> simp [calling]
  | resetSession =>
    obtain ⟨_, rfl⟩ := moved
    refine ⟨?_, ?_, ?_, fun _ => rfl, ?_, ?_, ?_, ?_⟩ <;>
      simp [Connector.resetSession, SessionAssociation.reset]
  | setInProgress =>
    obtain ⟨here, rfl⟩ := moved
    have session := placed.marking here
    have handled := recorded.started (.inl here)
    refine ⟨?_, ?_, ?_, fun _ => handled, ?_, ?_, ?_, ?_⟩ <;>
      simp [Connector.setInProgress, session]
  | enterConnect =>
    obtain ⟨here, n, _, rfl⟩ := moved
    have handled := recorded.started (.inr (by rw [here]; rfl))
    exact recorded_same recorded rfl rfl (fun _ => handled) (by simp) (by simp)
  | connectEnds =>
    obtain ⟨here, _, r, _, rfl⟩ := moved
    rcases connectEnds_cases placed here r with ⟨_, waits⟩ | ⟨_, idle, session, handled⟩
    · have session := placed.calling (by rw [here]; rfl)
      have handled := recorded.started (.inr (by rw [here]; rfl))
      rw [waits]
      refine ⟨?_, ?_, ?_, ?_, ?_, ?_, ?_, ?_⟩ <;> simp [session, handled, calling]
      exact fun id => ⟨follows_nil, follows_nil⟩
    · exact recorded_over recorded (.inl session) handled idle
  | wake timedOut =>
    obtain ⟨here, _, rfl⟩ := moved
    unfold Connector.wake
    split
    · obtain ⟨session, handled⟩ := conclude_session { s with wakePending := false }
      exact recorded_over recorded session handled (conclude_keeps _).1
    · exact recorded_same recorded rfl rfl (by simp [here, calling]) id recorded.once
  | _ => exact recorded_eventLoop placed recorded guarded (by exact trivial) next

theorem ending_cases {cfg : Setup} {s t : Connector} {a : Action} (next : s.step cfg a = some t)
    (running : s.client ≠ .idle) (ended : t.client = .idle) :
    (a = .construct false ∧ s.client = .construct ∧ t = s.finish .configError) ∨
      (a = .connectEnds ∧ s.client = .connecting ∧
        ∃ r, s.network.1.result = some r ∧ t = s.connectEnds r) ∨
      ∃ timedOut, a = .wake timedOut ∧ s.client = .blocked ∧ t = s.wake timedOut := by
  have moved := connector_cases next
  cases a with
  | callConnect n => exact absurd moved.1 running
  | construct ok =>
    obtain ⟨here, rfl⟩ := moved
    cases ok with
    | true => cases ended
    | false => exact .inl ⟨rfl, here, rfl⟩
  | readState =>
    obtain ⟨_, rfl⟩ := moved
    unfold Connector.readState at ended
    split at ended <;> cases ended
  | network a =>
    obtain ⟨permitted, n, _, rfl⟩ := moved
    exact absurd (clientAfter_same permitted ended (by simp)) running
  | awaitEnds | resetSession | setInProgress => obtain ⟨_, rfl⟩ := moved; cases ended
  | lockSession => obtain ⟨_, _, rfl⟩ := moved; cases ended
  | enterConnect => obtain ⟨_, n, _, rfl⟩ := moved; cases ended
  | connectEnds =>
    obtain ⟨here, _, r, result, rfl⟩ := moved
    exact .inr (.inl ⟨rfl, here, r, result, rfl⟩)
  | wake timedOut =>
    obtain ⟨here, _, rfl⟩ := moved
    exact .inr (.inr ⟨timedOut, rfl, here, rfl⟩)
  | _ =>
    have kept := eventLoop_keeps (by exact trivial) next
    exact absurd (kept.1 ▸ ended) running

/-- What each outcome of connect() says about the handlers' work since its reset. -/
def Justified (s : Connector) (a : Action) : Outcome → Prop
  | .returned => s.session.gotMessagingFailure = false ∧ ∃ id, Answered s.handled id true
  | .associationResponseFailure _ => ∃ id, Answered s.handled id false
  | .associationError _ =>
    .corrupted ∈ s.handled ∨ (∃ id, Cited s.handled id) ∨
      a = .wake true ∧ ∀ id success, ¬Answered s.handled id success
  | _ => True

theorem wake_justified {s : Connector} {timedOut : Bool} {o : Outcome} (recorded : Recorded s)
    (blocked : s.client = .blocked) (ended : (s.wake timedOut).client = .idle)
    (outcome : (s.wake timedOut).outcome = some o) : Justified s (.wake timedOut) o := by
  unfold Connector.wake at ended outcome
  split at ended
  · rename_i finished
    rw [if_pos finished] at outcome
    unfold Connector.conclude at outcome
    split at outcome
    · rename_i failed
      obtain rfl := Option.some.inj outcome
      rcases recorded.failure failed with corrupted | cited
      · exact .inl corrupted
      · exact .inr (.inl cited)
    · rename_i intact
      split at outcome
      · rename_i progress
        obtain rfl := Option.some.inj outcome
        have expired : timedOut = true := by
          simpa [SessionAssociation.settled, show s.session.inProgress = true from progress,
            show ¬s.session.gotMessagingFailure = true from intact] using finished
        exact .inr (.inr ⟨by rw [expired], recorded.waiting blocked progress⟩)
      · rename_i finished
        have settled := recorded.settled blocked (by simpa using finished)
        split at outcome
        · rename_i refused
          obtain rfl := Option.some.inj outcome
          obtain ⟨id, answered⟩ := settled
          have refused : s.session.success = false := by simpa using refused
          exact ⟨id, refused ▸ answered⟩
        · rename_i accepted
          obtain rfl := Option.some.inj outcome
          exact ⟨by simpa using intact, recorded.success (by simpa using accepted)⟩
  · simp [blocked] at ended

def AboutAnother (s : Connector) (a : Action) : Prop :=
  (a = .respond ∧ ∃ chunks r, s.loop = .response chunks ∧
      readAssociateResponse chunks = .ok r ∧ r.requestId ≠ s.session.requestId) ∨
    a = .cite ∧ ∃ c, s.loop = .citingLock c ∧ c.causeId ≠ s.session.requestId

theorem about_another_ignored {cfg : Setup} {s t : Connector} {a : Action}
    (another : AboutAnother s a) (next : s.step cfg a = some t) :
    t.session = s.session ∧ t.notifications = s.notifications ∧ t.wakePending = s.wakePending := by
  have moved := connector_cases next
  rcases another with ⟨rfl, chunks, r, place, read, unknown⟩ | ⟨rfl, c, place, unknown⟩
  · obtain ⟨other, here, _, rfl⟩ := moved
    obtain rfl := LoopPc.response.inj (here.symm.trans place)
    simp [Connector.respond, read, unknown, Connector.record]
  · obtain ⟨other, here, _, rfl⟩ := moved
    obtain rfl := LoopPc.citingLock.inj (here.symm.trans place)
    simp [Connector.cite, unknown, Connector.record]

/-- In a run in which no response without an id is taken for the answer to a request that
    was not made, every outcome of connect() is justified by what the handlers have done
    since its reset; messages about other ids change nothing it reads. -/
theorem outcome_justified (cfg : Setup) (brokerWsUris : List String)
    (pongTimeoutsBeforeRetry : Nat) (trace : List Action) (s : Connector)
    (path : run (Connector.step cfg) (.create brokerWsUris pongTimeoutsBeforeRetry) trace = some s)
    (guarded : Throughout (Connector.step cfg) (fun s a => ¬AnswersNoRequest s a)
      (.create brokerWsUris pongTimeoutsBeforeRetry) trace) :
    (∀ a t o, s.step cfg a = some t → s.client ≠ .idle → t.client = .idle → t.outcome = some o →
      Justified s a o) ∧
    ∀ a t, s.step cfg a = some t → AboutAnother s a →
      t.session = s.session ∧ t.notifications = s.notifications ∧
        t.wakePending = s.wakePending := by
  obtain ⟨placed, recorded⟩ := run_under (fun s a => ¬AnswersNoRequest s a)
    (fun s => Placed s ∧ Recorded s)
    (fun _ _ _ held guard moves =>
      ⟨placed_step held.1 moves, recorded_step held.1 held.2 guard moves⟩)
    ⟨placed_create brokerWsUris pongTimeoutsBeforeRetry,
      by constructor <;> simp [Connector.create, calling]⟩ guarded path
  refine ⟨fun a t o next running ended outcome => ?_,
    fun a t next another => about_another_ignored another next⟩
  rcases ending_cases next running ended with
    ⟨_, _, rfl⟩ | ⟨_, here, r, _, rfl⟩ | ⟨timedOut, rfl, blocked, rfl⟩
  · obtain rfl := Option.some.inj outcome
    trivial
  · rcases connectEnds_cases placed here r with ⟨_, waits⟩ | ⟨thrown, _⟩
    · simp [waits] at ended
    · cases r with
      | returned => exact absurd rfl thrown
      | fatalError attempts | processingError | configError | otherException =>
        obtain rfl := Option.some.inj outcome
        trivial
  · exact wake_justified recorded blocked ended outcome

theorem response_steps {cfg : Setup} {s : Connector} {hdl : Handle} {msgTxt : Bytes}
    {chunks : PcpParsedChunks.ParsedChunks} (noAssertions : cfg.assertions = false)
    (idle : s.loop = .idle) (up : hdl ∈ s.network.2.established) (blocked : s.client = .blocked)
    (received : cfg.processMessage msgTxt = .callback .associateResponse chunks) :
    s.step cfg (.message hdl msgTxt) = some { s with loop := .response chunks } ∧
      { s with loop := .response chunks }.step cfg .respond =
        some ({ s with loop := .response chunks }.respond cfg chunks) := by
  constructor <;>
    simp [Connector.step, Connector.act, idle, up, blocked, ClientPc.holdsSession, LoopPc.isDead,
      LoopPc.isIdle, onMessage, received, Setup.assertsHold, noAssertions]

theorem response_accepted {cfg : Setup} {s : Connector} {hdl : Handle} {msgTxt : Bytes}
    {chunks : PcpParsedChunks.ParsedChunks} (noAssertions : cfg.assertions = false)
    (noCallback : cfg.associateResponseCallback = false) (idle : s.loop = .idle)
    (up : hdl ∈ s.network.2.established) (blocked : s.client = .blocked)
    (progress : s.session.inProgress = true)
    (received : cfg.processMessage msgTxt = .callback .associateResponse chunks)
    (read : readAssociateResponse chunks = .ok ⟨s.session.requestId, true⟩) :
    ∃ t, run (Connector.step cfg) s [.message hdl msgTxt, .respond] = some t ∧
      t.loop = .idle ∧ t.client = .blocked ∧
      t.session = { s.session with success := true, inProgress := false } ∧
      t.handled = s.handled ++ [.responded s.session.requestId true] := by
  obtain ⟨receives, responds⟩ := response_steps noAssertions idle up blocked received
  refine ⟨{ s with loop := .response chunks }.respond cfg chunks, ?_, ?_⟩
  · simp only [run_cons_iff, run_nil]
    exact ⟨_, receives, _, responds, rfl⟩
  · simp [Connector.respond, read, progress, Connector.settle, noCallback, Connector.record,
      Connector.notifyOne, blocked]

theorem wake_returns {cfg : Setup} {s : Connector} (idle : s.loop = .idle)
    (blocked : s.client = .blocked) (success : s.session.success = true)
    (finished : s.session.inProgress = false) (intact : s.session.gotMessagingFailure = false) :
    ∃ t, s.step cfg (.wake false) = some t ∧ t.client = .idle ∧ t.outcome = some .returned := by
  refine ⟨s.wake false, ?_, ?_⟩
  · simp [Connector.step, Connector.act, idle, blocked, LoopPc.isDead, LoopPc.holdsSession]
  · simp [Connector.wake, SessionAssociation.settled, finished, Connector.conclude, intact, success,
      Connector.setCompleted, Connector.finish]

def acceptedText : Bytes := asciiBytes "\x7b\"id\":\"1\",\"success\":true\x7d"

def acceptedSetup : Setup :=
  plainSetup (responseParser acceptedText (some (responseData "1" true)))

theorem accepted_read : ∃ chunks, acceptedSetup.processMessage
    (dataMessage responseEnvelopeText acceptedText) = .callback .associateResponse chunks ∧
      readAssociateResponse chunks = .ok ⟨"1", true⟩ :=
  response_read (by simp [acceptedText, asciiBytes]) (by simp [acceptedText, asciiBytes]) "1" true

def acceptedTrace : List Action :=
  sessionRequested ++ [.message 0 (dataMessage responseEnvelopeText acceptedText), .respond]

theorem accepted_response_returns :
    ∃ s t, run (Connector.step acceptedSetup) (.create ["wss://localhost:8142/pcp/"] 3)
        acceptedTrace = some s ∧
      s.step acceptedSetup (.wake false) = some t ∧ t.outcome = some .returned ∧
      Justified s (.wake false) .returned := by
  obtain ⟨chunks, received, read⟩ := accepted_read
  obtain ⟨s, reached, idle, up, blocked, session⟩ := sessionRequested_waits acceptedSetup
  obtain ⟨answered, handled, idle', blocked', session', _⟩ :=
    response_accepted rfl rfl idle up blocked (by rw [session]) received (by rw [read, session])
  rw [session] at session'
  have path := run_append_iff.mpr ⟨s, reached, handled⟩
  obtain ⟨t, wakes, ended, returned⟩ : ∃ t,
      answered.step acceptedSetup (.wake false) = some t ∧ _ :=
    wake_returns idle' blocked' (by rw [session']) (by rw [session']) (by rw [session'])
  have guarded : Throughout (Connector.step acceptedSetup) (fun s a => ¬AnswersNoRequest s a)
      (.create ["wss://localhost:8142/pcp/"] 3) acceptedTrace := by
    refine (throughout_append _ _).mpr ⟨?_, fun m other => ?_⟩
    · have quiet : ∀ a ∈ sessionRequested, a ≠ .respond := by decide
      exact throughout_mono (fun _ _ differs wrong => differs wrong.handler) _ _
        (throughout_of_forall _ _ quiet)
    · obtain rfl := Option.some.inj (reached.symm.trans other)
      refine ⟨fun wrong => ?_, fun m next => ⟨fun wrong => ?_, fun _ _ => trivial⟩⟩
      · cases wrong.handler
      · obtain ⟨_, _, rfl⟩ := connector_cases next
        exact absurd wrong.noRequest (by simp [session])
  exact ⟨answered, t, path, wakes, returned,
    (outcome_justified acceptedSetup ["wss://localhost:8142/pcp/"] 3 acceptedTrace answered path
      guarded).1 (.wake false) t .returned wakes (by simp [blocked']) ended returned⟩

def anonymousText : Bytes := asciiBytes "\x7b\"id\":\"\",\"success\":true\x7d"

def anonymousSetup : Setup :=
  plainSetup (responseParser anonymousText (some (responseData "" true)))

theorem anonymous_read : ∃ chunks, anonymousSetup.processMessage
    (dataMessage responseEnvelopeText anonymousText) = .callback .associateResponse chunks ∧
      readAssociateResponse chunks = .ok ⟨"", true⟩ :=
  response_read (by simp [anonymousText, asciiBytes]) (by simp [anonymousText, asciiBytes]) "" true

/-- connect(1) gives up while the connection is still being established, so that the close()
    of the next connect(1) is refused. The connection then opens, and its request is sent
    before the session is reset. -/
def unrequestedTrace : List Action :=
  [.callConnect 1, .construct true, .readState, .lockSession, .resetSession, .setInProgress,
    .enterConnect, .network .pass, .network .beginAttempt,
    .network (.getConnection (.connection 0)), .network (.endpointConnect true),
    .network (.waitEnds 0), .network .recheck, .connectEnds,
    .callConnect 1, .readState, .network (.closeEnter .client),
    .network (.closeEndpoint .client false), .network (.onOpen 0), .associateSession "1" true,
    .lockSession, .resetSession, .setInProgress, .enterConnect, .network .pass, .connectEnds]

theorem returns_without_request :
    ∃ s t, run (Connector.step anonymousSetup) (.create ["wss://localhost:8142/pcp/"] 3)
        (unrequestedTrace ++
          [.message 0 (dataMessage responseEnvelopeText anonymousText), .respond]) = some s ∧
      s.step anonymousSetup (.wake false) = some t ∧ t.outcome = some .returned ∧
      ∀ id, SessionEvent.requested id ∉ s.handled := by
  obtain ⟨chunks, received, read⟩ := anonymous_read
  obtain ⟨s, reached, idle, up, blocked, session, none⟩ : ∃ s,
      run (Connector.step anonymousSetup) (.create ["wss://localhost:8142/pcp/"] 3)
        unrequestedTrace = some s ∧ s.loop = .idle ∧ 0 ∈ s.network.2.established ∧
        s.client = .blocked ∧ s.session = { inProgress := true } ∧ s.handled = [] :=
    ⟨_, rfl, rfl, List.mem_singleton.mpr rfl, rfl, rfl, rfl⟩
  obtain ⟨answered, handled, idle', blocked', session', history⟩ :=
    response_accepted rfl rfl idle up blocked (by rw [session]) received (by rw [read, session])
  rw [session] at session'
  obtain ⟨t, wakes, _, returned⟩ : ∃ t, answered.step anonymousSetup (.wake false) = some t ∧ _ :=
    wake_returns idle' blocked' (by rw [session']) (by rw [session']) (by rw [session'])
  exact ⟨answered, t, run_append_iff.mpr ⟨s, reached, handled⟩, wakes, returned,
    by simp [history, none]⟩

end PcpAssociation
