import PcpClient.AssociationOutcome

/-!
What a call of connect() leaves in the session: no association in progress, and success
only where it returned.
-/
namespace PcpRelease
open PcpTransitions PcpConnector PcpConnectorInvariants PcpAssociation PcpDispatch
open PcpConnection hiding Action

/-- Between the calls of connect() no association is in progress, and none is recorded as
    successful unless the last call returned. -/
def Released (s : Connector) : Prop :=
  s.client = .idle →
    s.session.inProgress = false ∧ (s.session.success = true → s.outcome = some .returned)

/-- An exception of Connection::connect() ends the call. -/
def EscapesConnect (cfg : Setup) (s : Connector) (a : Action) : Prop :=
  a = .connectEnds ∧ s.network.1.result ≠ some .returned ∧ (s.step cfg a).isSome

def associates : ClientPc → Bool
  | .entering | .connecting | .blocked => true
  | _ => false

structure Releasing (s : Connector) : Prop where
  outside : associates s.client = false → s.session.inProgress = false
  ended : s.client = .idle → s.session.success = true → s.outcome = some .returned

theorem effect_flags {s t : Connector} {a : Action} (effect : Effect s t a) :
    (s.session.inProgress = false → t.session.inProgress = false) ∧
      (s.session.inProgress = false → t.session.success = s.session.success) := by
  cases effect with
  | none session _ | requested id _ _ session _ | corrupted error session _
  | discarded id success _ session _ | unrelated id session _ | failed error _ session _ =>
    rw [session]
    exact ⟨fun finished => finished, fun _ => rfl⟩
  | settled chunks success error _ _ _ expected session _ =>
    rw [session, expected]
    exact ⟨fun _ => rfl, fun finished => by cases finished⟩

theorem conclude_releases (s : Connector) :
    s.conclude.session.inProgress = false ∧
      (s.conclude.session.success = true → s.conclude.outcome = some .returned) := by
  unfold Connector.conclude
  split
  · exact ⟨rfl, fun success => by cases success⟩
  · split
    · exact ⟨rfl, fun success => by cases success⟩
    · rename_i finished
      split
      · exact ⟨rfl, fun success => by cases success⟩
      · exact ⟨show s.session.inProgress = false by simpa using finished, fun _ => rfl⟩

theorem releasing_step {cfg : Setup} {s t : Connector} {a : Action} (placed : Placed s)
    (releasing : Releasing s) (guarded : ¬EscapesConnect cfg s a) (next : s.step cfg a = some t) :
    Releasing t := by
  have moved := connector_cases next
  cases a with
  | network a =>
    obtain ⟨permitted, n, _, rfl⟩ := moved
    refine ⟨fun outside => releasing.outside ?_, fun idle => releasing.ended ?_⟩
    · rcases clientAfter_cases n permitted with same | ⟨closes, _⟩
      · exact same ▸ outside
      · rcases closes with closes | closes <;> rw [closes] <;> rfl
    · exact clientAfter_same permitted idle (by simp)
  | callConnect n =>
    obtain ⟨idle, rfl⟩ := moved
    refine ⟨fun _ => releasing.outside (by rw [idle]; rfl), ?_⟩
    simp only [Connector.callConnect]
    split <;> simp
  | construct ok =>
    obtain ⟨here, rfl⟩ := moved
    have session := (placed.untouched (placed.constructing here)).session
    cases ok <;> refine ⟨fun _ => releasing.outside (by rw [here]; rfl), ?_⟩ <;>
      simp [Connector.construct, Connector.finish, session]
  | readState =>
    obtain ⟨here, rfl⟩ := moved
    unfold Connector.readState
    split <;> exact ⟨fun _ => releasing.outside (by rw [here]; rfl), by simp⟩
  | awaitEnds =>
    obtain ⟨here, rfl⟩ := moved
    exact ⟨fun _ => releasing.outside (by rw [here]; rfl), by simp⟩
  | lockSession =>
    obtain ⟨here, _, rfl⟩ := moved
    exact ⟨fun _ => releasing.outside (by rw [here]; rfl), by simp⟩
  | resetSession =>
    obtain ⟨_, rfl⟩ := moved
    exact ⟨fun _ => rfl, fun _ success => by cases success⟩
  | setInProgress =>
    obtain ⟨_, rfl⟩ := moved
    exact ⟨by simp [Connector.setInProgress, associates], by simp [Connector.setInProgress]⟩
  | enterConnect =>
    obtain ⟨_, n, _, rfl⟩ := moved
    exact ⟨by simp [associates], by simp⟩
  | connectEnds =>
    obtain ⟨here, _, r, result, rfl⟩ := moved
    have returned : r = .returned := by
      by_contra thrown
      exact guarded ⟨rfl, by simpa [result] using thrown, by rw [next]; rfl⟩
    rcases connectEnds_cases placed here r with ⟨_, waits⟩ | ⟨thrown, _⟩
    · rw [waits]
      exact ⟨by simp [associates], by simp⟩
    · exact absurd returned thrown
  | wake timedOut =>
    obtain ⟨here, _, rfl⟩ := moved
    unfold Connector.wake
    split
    · obtain ⟨finished, success⟩ := conclude_releases { s with wakePending := false }
      exact ⟨fun _ => finished, fun _ => success⟩
    · exact ⟨by simp [here, associates], by simp [here]⟩
  | _ =>
    obtain ⟨client, _, _, outcome⟩ := eventLoop_keeps (by exact trivial) next
    obtain ⟨finished, success⟩ := effect_flags (eventLoop_effect (by exact trivial) next)
    refine ⟨fun outside => finished (releasing.outside (client ▸ outside)),
      fun idle succeeded => ?_⟩
    rw [client] at idle
    rw [success (releasing.outside (by rw [idle]; rfl))] at succeeded
    rw [outcome]
    exact releasing.ended idle succeeded

theorem escape_not_released {cfg : Setup} {s t : Connector} {a : Action} (placed : Placed s)
    (escapes : EscapesConnect cfg s a) (next : s.step cfg a = some t) : ¬Released t := by
  obtain ⟨rfl, thrown, _⟩ := escapes
  obtain ⟨here, _, r, result, rfl⟩ := connector_cases next
  rcases connectEnds_cases placed here r with ⟨rfl, _⟩ | ⟨_, idle, session, _⟩
  · exact absurd result thrown
  · intro released
    have finished := (released idle).1
    rw [session, placed.calling (by rw [here]; rfl)] at finished
    cases finished

/-- Whenever no call of connect() runs, its session is released, if and only if no call of
    the run was ended by an exception of Connection::connect(). -/
theorem released_iff (cfg : Setup) (brokerWsUris : List String) (pongTimeoutsBeforeRetry : Nat)
    (trace : List Action) :
    (∀ pre post s, trace = pre ++ post →
      run (Connector.step cfg) (.create brokerWsUris pongTimeoutsBeforeRetry) pre = some s →
        Released s) ↔
      Throughout (Connector.step cfg) (fun s a => ¬EscapesConnect cfg s a)
        (.create brokerWsUris pongTimeoutsBeforeRetry) trace := by
  constructor
  · intro always
    refine throughout_of_prefixes _ _ fun pre a post s split path escapes => ?_
    obtain ⟨t, next⟩ := Option.isSome_iff_exists.mp escapes.2.2
    exact escape_not_released (placed_reachable path) escapes next
      (always (pre ++ [a]) post t (by simp [split]) (run_snoc_iff.mpr ⟨s, path, next⟩))
  · rintro returns pre post s rfl path
    obtain ⟨_, releasing⟩ := run_under (fun s a => ¬EscapesConnect cfg s a)
      (fun s => Placed s ∧ Releasing s)
      (fun _ _ _ held guard moves =>
        ⟨placed_step held.1 moves, releasing_step held.1 held.2 guard moves⟩)
      ⟨placed_create brokerWsUris pongTimeoutsBeforeRetry,
        ⟨fun _ => rfl, fun _ success => by cases success⟩⟩
      ((throughout_append pre _).mp returns).1 path
    exact fun idle => ⟨releasing.outside (by rw [idle]; rfl), releasing.ended idle⟩

/-- The URI of the broker cannot be parsed: get_connection() sets an error code during the
    first call of connect(1). -/
theorem error_leaves_association :
    ∃ s, run (Connector.step (plainSetup fun _ => none)) (.create ["foo"] 3)
        [.callConnect 1, .construct true, .readState, .lockSession, .resetSession, .setInProgress,
          .enterConnect, .network .pass, .network .beginAttempt,
          .network (.getConnection .errorCode), .connectEnds] = some s ∧
      s.client = .idle ∧ s.outcome = some .configError ∧ s.session.inProgress = true :=
  ⟨_, rfl, rfl, rfl, rfl⟩

end PcpRelease
