import PcpClient.EndpointCoherence

/-!
consecutive_pong_timeouts_ against the ping outcomes of the current connection. The counter
is a member that no new connection resets, and a timeout of an earlier one counts too.
-/
namespace PcpPongTimeouts
open PcpTransitions PcpConnection PcpConnectAttempts PcpEndpoint PcpEndpointCoherence

/-- The outcomes of the pings on the connection of the latest open event, the latest first:
    true is a timeout. -/
structure Pings where
  current : Option Handle := none
  outcomes : List Bool := []
  deriving DecidableEq, Repr

def Pings.outcome (pings : Pings) (hdl : Handle) (timedOut : Bool) : Pings :=
  if pings.current = some hdl then { pings with outcomes := timedOut :: pings.outcomes }
  else pings

def Pings.note (pings : Pings) : Action → Pings
  | .onOpen hdl => { current := some hdl }
  | .onPong hdl => pings.outcome hdl false
  | .onPongTimeout hdl => pings.outcome hdl true
  | _ => pings

def pingsAfter (past : List Action) : Pings := past.foldl Pings.note {}

/-- The latest ping is one of the current connection, and its latest pings, as many as the
    limit says, all timed out. -/
def Unresponsive (limit : Nat) (hdl : Handle) (past : List Action) : Prop :=
  (pingsAfter past).current = some hdl ∧ limit ≤ (pingsAfter past).outcomes.length ∧
    ∀ timedOut ∈ (pingsAfter past).outcomes.take limit, timedOut = true

instance (limit : Nat) (hdl : Handle) (past : List Action) :
    Decidable (Unresponsive limit hdl past) :=
  inferInstanceAs (Decidable (_ ∧ _))

def timeoutsInARow (past : List Action) : Nat := ((pingsAfter past).outcomes.takeWhile id).length

/-- A connection opens while timeouts of an earlier one are still counted, and one timeout
    is not enough to close it; a timeout of an earlier connection is counted; or the counter
    goes back to zero. -/
def miscounts (p : System) : Action → Bool
  | .onOpen _ => decide (1 < p.1.pongTimeoutsBeforeRetry ∧ p.1.consecutivePongTimeouts ≠ 0)
  | .onPongTimeout hdl =>
    if p.2.opened.head? = some hdl then decide (p.1.consecutivePongTimeouts = 2 ^ 32 - 1)
    else decide (1 < p.1.pongTimeoutsBeforeRetry ∨ p.1.consecutivePongTimeouts ≠ 2 ^ 32 - 1)
  | _ => false

/-- After the timeout that ends the history, the handler calls close() as the outcomes say. -/
def Detects (limit : Nat) (hdl : Handle) (past : List Action) (p : System) : Prop :=
  p.1.pongTimeoutCloses = true ↔ Unresponsive limit hdl past

instance (limit : Nat) (hdl : Handle) (past : List Action) (p : System) :
    Decidable (Detects limit hdl past p) :=
  inferInstanceAs (Decidable (_ ↔ _))

theorem take_all_iff (limit : Nat) (outcomes : List Bool) :
    (limit ≤ outcomes.length ∧ ∀ timedOut ∈ outcomes.take limit, timedOut = true) ↔
      limit ≤ (outcomes.takeWhile id).length := by
  induction outcomes generalizing limit with
  | nil => simp
  | cons latest rest ih =>
    cases limit with
    | zero => simp
    | succ limit =>
      cases latest with
      | false => simp
      | true => simpa using ih limit

theorem unresponsive_iff (limit : Nat) (hdl : Handle) (past : List Action) :
    Unresponsive limit hdl past ↔
      (pingsAfter past).current = some hdl ∧ limit ≤ timeoutsInARow past :=
  and_congr_right fun _ => take_all_iff limit (pingsAfter past).outcomes

theorem pingsAfter_snoc (past : List Action) (a : Action) :
    pingsAfter (past ++ [a]) = (pingsAfter past).note a := by
  simp [pingsAfter]

theorem current_snoc (past : List Action) (a : Action) :
    (pingsAfter (past ++ [a])).current =
      match a with
      | .onOpen hdl => some hdl
      | _ => (pingsAfter past).current := by
  have kept : ∀ hdl timedOut,
      ((pingsAfter past).outcome hdl timedOut).current = (pingsAfter past).current := by
    intro hdl timedOut
    unfold Pings.outcome
    split <;> rfl
  rw [pingsAfter_snoc]
  cases a with
  | onPong hdl | onPongTimeout hdl => exact kept hdl _
  | _ => rfl

theorem inARow_snoc (past : List Action) (a : Action) :
    timeoutsInARow (past ++ [a]) =
      match a with
      | .onOpen _ => 0
      | .onPong hdl => if (pingsAfter past).current = some hdl then 0 else timeoutsInARow past
      | .onPongTimeout hdl =>
        if (pingsAfter past).current = some hdl then timeoutsInARow past + 1
        else timeoutsInARow past
      | _ => timeoutsInARow past := by
  rw [timeoutsInARow, pingsAfter_snoc]
  cases a with
  | onPong hdl | onPongTimeout hdl =>
    simp only [Pings.note, Pings.outcome]
    split <;> simp [timeoutsInARow]
  | _ => rfl

theorem inARow_timeout (past : List Action) (hdl : Handle) :
    timeoutsInARow (past ++ [.onPongTimeout hdl]) =
      if (pingsAfter past).current = some hdl then timeoutsInARow past + 1
      else timeoutsInARow past := inARow_snoc past _

def counterAfter (counter : Nat) : Action → Nat
  | .onPong _ => 0
  | .onPongTimeout _ => uint32 (counter + 1)
  | _ => counter

theorem counter_step {c d : Connection} {a : Action} (next : c.step a = some d) :
    d.pongTimeoutsBeforeRetry = c.pongTimeoutsBeforeRetry ∧
      d.consecutivePongTimeouts = counterAfter c.consecutivePongTimeouts a := by
  have moved := step_cases next
  cases a with
  | beginAttempt => obtain ⟨site, _, rfl⟩ := moved; exact ⟨rfl, rfl⟩
  | closeEnter caller | closeEndpoint caller ok | closeWrite caller | onClose hdl | onFail hdl =>
    obtain ⟨_, rfl⟩ := moved
    exact ⟨rfl, rfl⟩
  | onOpen hdl | onPong hdl | onPongTimeout hdl | onPreTCPInit hdl | onPostTCPInit hdl | tick =>
    obtain rfl := moved
    exact ⟨rfl, rfl⟩
  | _ =>
    have kept := client_untouched (by simp [FromNetwork]) (by simp) next
    exact ⟨kept.limit, kept.timeouts⟩

structure Current (p : System) (past : List Action) : Prop where
  coherent : Coherent p
  current : (pingsAfter past).current = p.2.opened.head?
  established : ∀ hdl ∈ p.2.established, p.2.opened.head? = some hdl

theorem opened_kept {e f : Endpoint} {a : Action} (next : e.step a = some f)
    (opens : ∀ hdl, a ≠ .onOpen hdl) :
    f.opened = e.opened ∧ ∀ hdl ∈ f.established, hdl ∈ e.established := by
  have target := endpoint_cases next
  cases a with
  | onOpen hdl => exact absurd rfl (opens hdl)
  | onClose hdl =>
    obtain ⟨_, rfl⟩ := target
    exact ⟨rfl, fun other mem => List.mem_of_mem_erase mem⟩
  | onFail hdl | onPong hdl | onPongTimeout hdl | onPreTCPInit hdl | onPostTCPInit hdl =>
    obtain ⟨_, rfl⟩ := target
    exact ⟨rfl, fun other mem => mem⟩
  | getConnection reply =>
    cases reply with
    | connection hdl => obtain ⟨_, rfl⟩ := target; exact ⟨rfl, fun other mem => mem⟩
    | errorCode | tlsInitError | otherException =>
      obtain rfl := target
      exact ⟨rfl, fun other mem => mem⟩
  | endpointConnect accepted =>
    cases accepted with
    | true => obtain ⟨_, _, rfl⟩ := target; exact ⟨rfl, fun other mem => mem⟩
    | false => obtain rfl := target; exact ⟨rfl, fun other mem => mem⟩
  | _ => obtain rfl := target; exact ⟨rfl, fun other mem => mem⟩

theorem current_step {p q : System} {past : List Action} {a : Action} (held : Current p past)
    (next : p.step a = some q) : Current q (past ++ [a]) := by
  obtain ⟨coherent, current, established⟩ := held
  have endpoint := (system_step_iff.mp next).2
  by_cases opens : ∃ hdl, a = .onOpen hdl
  · obtain ⟨hdl, rfl⟩ := opens
    obtain ⟨owed, later⟩ := endpoint_cases endpoint
    refine ⟨coherent_step coherent next, ?_, ?_⟩ <;>
      simp [current_snoc, later, (owed_alone coherent owed).2.1]
  · obtain ⟨opened, fewer⟩ := opened_kept endpoint fun hdl same => opens ⟨hdl, same⟩
    have still : (pingsAfter (past ++ [a])).current = (pingsAfter past).current := by
      rw [current_snoc]
      cases a with
      | onOpen hdl => exact absurd ⟨hdl, rfl⟩ opens
      | _ => rfl
    refine ⟨coherent_step coherent next, ?_, ?_⟩
    · rw [still, current, opened]
    · rw [opened]
      exact fun hdl mem => established hdl (fewer hdl mem)

/-- The counter is the number of timeouts in a row on the current connection, where that
    number makes a difference. -/
structure Counted (limit : Nat) (p : System) (past : List Action) : Prop where
  current : Current p past
  threshold : p.1.pongTimeoutsBeforeRetry = limit
  width : p.1.consecutivePongTimeouts < 2 ^ 32
  counted : 1 < limit → p.1.consecutivePongTimeouts = timeoutsInARow past

theorem counted_create (brokerWsUris : List String) (limit : Nat) :
    Counted limit (System.create brokerWsUris limit) [] where
  current := ⟨coherent_create brokerWsUris limit, rfl, by simp [System.create]⟩
  threshold := rfl
  width := by simp [System.create, Connection.create]
  counted _ := rfl

theorem counted_step {limit : Nat} {p q : System} {past : List Action} {a : Action}
    (counted : Counted limit p past) (counts : miscounts p a = false) (next : p.step a = some q) :
    Counted limit q (past ++ [a]) := by
  obtain ⟨client, endpoint⟩ := system_step_iff.mp next
  obtain ⟨sameLimit, counter⟩ := counter_step client
  have width := counted.width
  refine ⟨current_step counted.current next, sameLimit.trans counted.threshold, ?_,
    fun several => ?_⟩
  · rw [counter]
    cases a <;> simp only [counterAfter, uint32] <;> omega
  · have before := counted.counted several
    rw [counter, inARow_snoc]
    cases a with
    | onOpen hdl =>
      have zero : p.1.consecutivePongTimeouts = 0 := by
        simpa [miscounts, counted.threshold, several] using counts
      exact zero
    | onPongTimeout hdl =>
      simp only [counted.current.current]
      by_cases own : p.2.opened.head? = some hdl
      · simp only [miscounts, own, if_true, decide_eq_false_iff_not] at counts ⊢
        simp only [counterAfter, uint32]
        omega
      · simp [miscounts, own, counted.threshold, several] at counts
    | onPong hdl =>
      have up : hdl ∈ p.2.established := (endpoint_cases endpoint).1
      simp [counted.current.current, counted.current.established hdl up, counterAfter]
    | _ => exact before

theorem counted_run {brokerWsUris : List String} {limit : Nat} {trace : List Action} {p : System}
    (path : run System.step (System.create brokerWsUris limit) trace = some p)
    (guarded : Throughout System.step (fun p a => miscounts p a = false)
      (System.create brokerWsUris limit) trace) : Counted limit p trace := by
  have counted := run_traced (Counted limit)
    (fun _ _ _ _ held counts next => counted_step held counts next) trace _ [] p
    (counted_create brokerWsUris limit) guarded path
  simpa using counted

theorem closes_iff {limit : Nat} {p q : System} {hdl : Handle}
    (same : p.1.pongTimeoutsBeforeRetry = limit) (next : p.step (.onPongTimeout hdl) = some q) :
    q.1.pongTimeoutCloses = true ↔ limit ≤ uint32 (p.1.consecutivePongTimeouts + 1) := by
  obtain ⟨sameLimit, counter⟩ := counter_step (system_step_iff.mp next).1
  simp [Connection.pongTimeoutCloses, sameLimit, same, counter, counterAfter]

theorem detects_step {limit : Nat} {p q : System} {past : List Action} {hdl : Handle}
    (positive : 1 ≤ limit) (counted : Counted limit p past)
    (counts : miscounts p (.onPongTimeout hdl) = false)
    (next : p.step (.onPongTimeout hdl) = some q) :
    Detects limit hdl (past ++ [.onPongTimeout hdl]) q := by
  have width := counted.width
  rw [Detects, closes_iff counted.threshold next, unresponsive_iff, current_snoc, inARow_snoc,
    counted.current.current]
  by_cases own : p.2.opened.head? = some hdl
  · simp only [miscounts, own, if_true, decide_eq_false_iff_not, true_and] at counts ⊢
    by_cases several : 1 < limit
    · rw [counted.counted several] at width counts ⊢
      simp only [uint32]
      omega
    · simp only [uint32]
      omega
  · simp only [miscounts, own, if_false, decide_eq_false_iff_not, counted.threshold] at counts
    simp only [own, false_and, iff_false, uint32]
    omega

/-! What follows a step that miscounts. -/

theorem timeouts_run (m : Nat) (p : System) {hdl : Handle} (up : hdl ∈ p.2.opened)
    (width : p.1.consecutivePongTimeouts < 2 ^ 32) :
    ∃ q, run System.step p (List.replicate m (.onPongTimeout hdl)) = some q ∧
      q.1.pongTimeoutsBeforeRetry = p.1.pongTimeoutsBeforeRetry ∧
      q.1.consecutivePongTimeouts = (p.1.consecutivePongTimeouts + m) % 2 ^ 32 := by
  induction m generalizing p with
  | zero => exact ⟨p, rfl, rfl, by omega⟩
  | succ m ih =>
    have next : p.step (.onPongTimeout hdl) = some (p.1.onPongTimeout, p.2) :=
      system_step_iff.mpr ⟨rfl, by simp [Endpoint.step, up]⟩
    have counter : p.1.onPongTimeout.consecutivePongTimeouts =
        (p.1.consecutivePongTimeouts + 1) % 2 ^ 32 := by
      simp only [Connection.onPongTimeout, uint32]
      omega
    obtain ⟨q, path, limit, total⟩ := ih (p.1.onPongTimeout, p.2) up (by simp only [counter]; omega)
    refine ⟨q, run_cons_iff.mpr ⟨_, next, path⟩, limit, ?_⟩
    simp only [total, counter]
    omega

theorem timeouts_noted (m : Nat) {past : List Action} {hdl : Handle}
    (current : (pingsAfter past).current = some hdl) :
    (pingsAfter (past ++ List.replicate m (.onPongTimeout hdl))).current = some hdl ∧
      timeoutsInARow (past ++ List.replicate m (.onPongTimeout hdl)) = timeoutsInARow past + m := by
  induction m with
  | zero => simpa using current
  | succ m ih =>
    rw [List.replicate_succ', ← List.append_assoc, current_snoc, inARow_snoc]
    exact ⟨ih.1, by simp only [ih, if_true]; omega⟩

theorem timeouts_detected {limit : Nat} {p : System} {past : List Action} {hdl : Handle} (m : Nat)
    (threshold : p.1.pongTimeoutsBeforeRetry = limit)
    (width : p.1.consecutivePongTimeouts < 2 ^ 32) (up : hdl ∈ p.2.opened)
    (current : (pingsAfter past).current = some hdl) :
    ∃ q, run System.step p (List.replicate (m + 1) (.onPongTimeout hdl)) = some q ∧
      (List.replicate (m + 1) (Action.onPongTimeout hdl)).getLast? = some (.onPongTimeout hdl) ∧
      (Detects limit hdl (past ++ List.replicate (m + 1) (.onPongTimeout hdl)) q ↔
        (limit ≤ (p.1.consecutivePongTimeouts + (m + 1)) % 2 ^ 32 ↔
          limit ≤ timeoutsInARow past + (m + 1))) := by
  obtain ⟨q, path, limit', total⟩ := timeouts_run (m + 1) p up width
  obtain ⟨still, row⟩ := timeouts_noted (m + 1) current
  refine ⟨q, path, by simp [List.getLast?_replicate], ?_⟩
  rw [Detects, unresponsive_iff, still, row]
  simp [Connection.pongTimeoutCloses, limit', threshold, total]

/-- A connection that opens with timeouts left over can be closed too early, or too late where
    the counter is about to go back to zero. -/
theorem opened_miscounts {limit counter : Nat} (several : 1 < limit) (small : limit < 2 ^ 32)
    (width : counter < 2 ^ 32) (leftover : counter ≠ 0) :
    ∃ m, ¬(limit ≤ (counter + (m + 1)) % 2 ^ 32 ↔ limit ≤ 0 + (m + 1)) := by
  by_cases full : counter = 2 ^ 32 - 1
  · exact ⟨limit - 1, by omega⟩
  · by_cases reached : limit ≤ counter
    · exact ⟨0, by omega⟩
    · exact ⟨limit - counter - 1, by omega⟩

theorem foreign_miscounts {limit counter : Nat} (several : 1 < limit) (small : limit < 2 ^ 32)
    (width : counter < 2 ^ 32) (early : ¬limit ≤ uint32 (counter + 1)) :
    ∃ m, ¬(limit ≤ (uint32 (counter + 1) + (m + 1)) % 2 ^ 32 ↔ limit ≤ counter + (m + 1)) := by
  simp only [uint32] at early ⊢
  by_cases full : counter = 2 ^ 32 - 1
  · exact ⟨0, by omega⟩
  · exact ⟨limit - counter - 2, by omega⟩

def Undetected (limit : Nat) (p : System) (past : List Action) (a : Action) : Prop :=
  ∃ more hdl r, run System.step p (a :: more) = some r ∧
    (a :: more).getLast? = some (.onPongTimeout hdl) ∧ ¬Detects limit hdl (past ++ a :: more) r

theorem undetected_after {limit m : Nat} {p q : System} {past : List Action} {a : Action}
    {hdl : Handle} (next : p.step a = some q) (threshold : q.1.pongTimeoutsBeforeRetry = limit)
    (width : q.1.consecutivePongTimeouts < 2 ^ 32) (up : hdl ∈ q.2.opened)
    (current : (pingsAfter (past ++ [a])).current = some hdl)
    (differs : ¬(limit ≤ (q.1.consecutivePongTimeouts + (m + 1)) % 2 ^ 32 ↔
      limit ≤ timeoutsInARow (past ++ [a]) + (m + 1))) : Undetected limit p past a := by
  obtain ⟨r, path, last, iff⟩ := timeouts_detected m threshold width up current
  refine ⟨List.replicate (m + 1) (.onPongTimeout hdl), hdl, r,
    run_cons_iff.mpr ⟨q, next, path⟩, ?_, fun detects => differs (iff.mp ?_)⟩
  · rw [List.getLast?_cons, last]
    rfl
  · rwa [List.append_assoc]

theorem leftover_shows {limit : Nat} {p q : System} {past : List Action} {hdl : Handle}
    (small : limit < 2 ^ 32) (counted : Counted limit p past)
    (wrong : miscounts p (.onOpen hdl) = true) (next : p.step (.onOpen hdl) = some q) :
    Undetected limit p past (.onOpen hdl) := by
  obtain ⟨client, endpoint⟩ := system_step_iff.mp next
  obtain ⟨sameLimit, counter⟩ := counter_step client
  have width := counted.width
  obtain ⟨several, leftover⟩ := of_decide_eq_true wrong
  rw [counted.threshold] at several
  obtain ⟨m, differs⟩ := opened_miscounts several small width leftover
  obtain ⟨_, opens⟩ := endpoint_cases endpoint
  refine undetected_after (m := m) next (sameLimit.trans counted.threshold) (counter ▸ width)
    (by simp [opens]) (current_snoc past _) ?_
  rw [counter, inARow_snoc]
  exact differs

/-- The counter goes back to zero with this timeout. -/
theorem wrapped_shows {limit : Nat} {p q : System} {past : List Action} {hdl : Handle}
    (positive : 1 ≤ limit) (small : limit < 2 ^ 32) (counted : Counted limit p past)
    (own : p.2.opened.head? = some hdl) (full : p.1.consecutivePongTimeouts = 2 ^ 32 - 1)
    (next : p.step (.onPongTimeout hdl) = some q) : Undetected limit p past (.onPongTimeout hdl) := by
  have current : (pingsAfter past).current = some hdl := counted.current.current.trans own
  have still : (pingsAfter (past ++ [.onPongTimeout hdl])).current = some hdl :=
    (current_snoc past _).trans current
  have wraps : uint32 ((2 ^ 32 - 1 : Nat) + 1) = 0 := by decide
  refine ⟨[], hdl, q, run_cons_iff.mpr ⟨q, next, rfl⟩, rfl, fun detects => ?_⟩
  rw [Detects, closes_iff counted.threshold next, unresponsive_iff, still, inARow_timeout,
    if_pos current, full, wraps] at detects
  have early : ¬limit ≤ timeoutsInARow past + 1 := fun reached => by
    have closes := detects.mpr ⟨rfl, reached⟩
    omega
  have counts := counted.counted (by omega)
  omega

theorem foreign_shows {limit : Nat} {p q : System} {past : List Action} {hdl : Handle}
    (small : limit < 2 ^ 32) (counted : Counted limit p past)
    (foreign : p.2.opened.head? ≠ some hdl)
    (wrong : 1 < limit ∨ p.1.consecutivePongTimeouts ≠ 2 ^ 32 - 1)
    (next : p.step (.onPongTimeout hdl) = some q) : Undetected limit p past (.onPongTimeout hdl) := by
  obtain ⟨client, endpoint⟩ := system_step_iff.mp next
  obtain ⟨sameLimit, counter⟩ := counter_step client
  obtain ⟨mem, same⟩ := endpoint_cases endpoint
  have width := counted.width
  have closes := closes_iff counted.threshold next
  have later := (current_step counted.current next).current
  by_cases atOnce : limit ≤ uint32 (p.1.consecutivePongTimeouts + 1)
  · refine ⟨[], hdl, q, run_cons_iff.mpr ⟨q, next, rfl⟩, rfl, fun detects => ?_⟩
    have mine := (detects.mp (closes.mpr atOnce)).1
    rw [later, same] at mine
    exact foreign mine
  · have several : 1 < limit := by
      simp only [uint32] at atOnce
      omega
    obtain ⟨m, differs⟩ := foreign_miscounts several small width atOnce
    obtain ⟨current, head⟩ := Option.ne_none_iff_exists'.mp
      (mt List.head?_eq_none_iff.mp (List.ne_nil_of_mem mem))
    have opened : current ∈ q.2.opened := same ▸ List.mem_of_mem_head? head
    refine undetected_after (m := m) next (sameLimit.trans counted.threshold) ?_ opened
      (by rw [later, same, head]) ?_
    · rw [counter]
      simp only [counterAfter, uint32]
      omega
    · rw [counter, inARow_timeout, counted.current.current, if_neg foreign,
        ← counted.counted several]
      exact differs

theorem miscount_shows {limit : Nat} {p q : System} {past : List Action} {a : Action}
    (positive : 1 ≤ limit) (small : limit < 2 ^ 32) (counted : Counted limit p past)
    (wrong : miscounts p a = true) (next : p.step a = some q) : Undetected limit p past a := by
  cases a with
  | onOpen hdl => exact leftover_shows small counted wrong next
  | onPongTimeout hdl =>
    by_cases own : p.2.opened.head? = some hdl
    · simp only [miscounts, own, if_true, decide_eq_true_eq] at wrong
      exact wrapped_shows positive small counted own wrong next
    · simp only [miscounts, own, if_false, decide_eq_true_eq, counted.threshold] at wrong
      exact foreign_shows small counted own wrong next
  | _ => cases wrong

/-- In a run in which no connection opens with timeouts left over and none is counted for an
    earlier connection, a pong timeout closes the connection if and only if the latest pings on
    it, as many as the limit, all timed out. Each step that breaks the condition has a
    continuation in which the timeouts are miscounted. -/
theorem unresponsive_detected (brokerWsUris : List String) (limit : Nat) (positive : 1 ≤ limit)
    (small : limit < 2 ^ 32) :
    (∀ past hdl p,
      run System.step (System.create brokerWsUris limit) (past ++ [.onPongTimeout hdl]) = some p →
        Throughout System.step (fun p a => miscounts p a = false) (System.create brokerWsUris limit)
          (past ++ [.onPongTimeout hdl]) →
            Detects limit hdl (past ++ [.onPongTimeout hdl]) p) ∧
    ∀ past p a, run System.step (System.create brokerWsUris limit) past = some p →
      Throughout System.step (fun p a => miscounts p a = false) (System.create brokerWsUris limit)
          past →
        miscounts p a = true → (p.step a).isSome → ∃ more hdl q,
          run System.step (System.create brokerWsUris limit) (past ++ a :: more) = some q ∧
            (a :: more).getLast? = some (.onPongTimeout hdl) ∧
              ¬Detects limit hdl (past ++ a :: more) q := by
  constructor
  · intro past hdl p path guarded
    obtain ⟨m, reached, next⟩ := run_snoc_iff.mp path
    obtain ⟨early, counts⟩ := (throughout_snoc _ reached).mp guarded
    exact detects_step positive (counted_run reached early) counts next
  · intro past p a reached guarded wrong enabled
    obtain ⟨q, next⟩ := Option.isSome_iff_exists.mp enabled
    obtain ⟨more, hdl, r, path, ends, undetected⟩ :=
      miscount_shows positive small (counted_run reached guarded) wrong next
    exact ⟨more, hdl, r, run_append_iff.mpr ⟨p, reached, path⟩, ends, undetected⟩

def firstOpened : List Action :=
  [.callConnect 1, .pass, .beginAttempt, .getConnection (.connection 0), .endpointConnect true,
    .onOpen 0, .waitEnds 0, .recheck]

theorem second_timeout_detected :
    ∃ p, run System.step (System.create ["wss://localhost:8142/pcp/"] 2)
        ((firstOpened ++ [.onPongTimeout 0]) ++ [.onPongTimeout 0]) = some p ∧
      Detects 2 0 ((firstOpened ++ [.onPongTimeout 0]) ++ [.onPongTimeout 0]) p :=
  ⟨_, rfl, (unresponsive_detected ["wss://localhost:8142/pcp/"] 2 (by decide) (by decide)).1
    (firstOpened ++ [.onPongTimeout 0]) 0 _ rfl (by decide)⟩

/-- One timeout on each of two connections closes the second one. -/
theorem earlier_timeout_counts :
    ∃ p, run System.step (System.create ["wss://localhost:8142/pcp/"] 2)
        (firstOpened ++ [.onPongTimeout 0, .onClose 0, .callConnect 1, .pass, .beginAttempt,
          .getConnection (.connection 1), .endpointConnect true, .onOpen 1, .onPongTimeout 1]) =
          some p ∧
      ¬Detects 2 1 (firstOpened ++ [.onPongTimeout 0, .onClose 0, .callConnect 1, .pass,
        .beginAttempt, .getConnection (.connection 1), .endpointConnect true, .onOpen 1,
        .onPongTimeout 1]) p :=
  ⟨_, rfl, by decide⟩

end PcpPongTimeouts
