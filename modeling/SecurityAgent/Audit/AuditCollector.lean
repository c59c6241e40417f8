import SecurityAgent.Audit.AuditSearch
import SecurityAgent.Collectors.EventAggregator

/-!
# Collecting from the audit log

`ProcessCreationCollector_GetEvents` and `ConnectionCreateEventCollector_GetEvents`
are one loop: open the search, make an event of every record it hands out, give
the aggregator its turn, and store the checkpoint whatever happened. They differ in what they ask for,
in how they read a record, and in which results of a record end the loop; a
collector is what they differ in.

An event that is made is pushed into the queue or counted by the
aggregator, as the collector was told at the beginning of the run.
-/

namespace SecurityAgent

/-- What the two collectors differ in. `σ` is what a collector keeps between records besides the
queue, `ω` what the environment answers while one record is handled. -/
structure AuditCollector (σ ω : Type) where
  searchCriteria : AuditSearchCriteria
  messageTypes : List String
  /-- The results of a record that end the loop. -/
  endsLoop : EventCollectorResult → Bool
  /-- What is done with one record, aggregated or as an event of its own: the result, and what has
  been pushed or counted when it returns. -/
  createEvent : Bool → ω → AuditEvent → σ → EventCollectorResult × Option Json × σ
  /-- `EventAggregator_GetAggregatedEvents`. -/
  getAggregatedEvents : EmissionOutcome → σ → EventAggregatorResult × List Json × σ

/-- What the environment answers during one run of a collector. -/
structure CollectionOutcome (ω : Type) where
  search : SearchOutcome
  next : Nat → NextOutcome
  /-- `EventAggregator_IsAggregationEnabled`, `none` when it fails. -/
  isAggregationEnabled : Option Bool
  record : Nat → ω
  emission : EmissionOutcome
  write : FileWrite

/-- A run at this time in which nothing fails; there is no aggregator. -/
def CollectionOutcome.ok {ω : Type} (currentTime : Int) (record : ω) : CollectionOutcome ω where
  search := .ok currentTime
  next _ := ⟨true, true⟩
  isAggregationEnabled := some false
  record _ := record
  emission := ⟨currentTime, some false, some 0, fun _ =>
    ⟨true, ⟨currentTime, some "", true⟩, true, true, true, true, true, true, .queue .ok⟩⟩
  write := .written

/-- What the loop of a run has done. -/
structure Collection (σ : Type) where
  result : EventCollectorResult
  /-- The last answer of `AuditSearch_GetNext`. -/
  hasNextResult : AuditSearchResult
  /-- The records `createEvent` has been called for. -/
  handled : List AuditEvent
  /-- What these calls have pushed or counted. -/
  made : List Json
  state : σ

/-- A finished run, the file with its checkpoint, and what the aggregator has pushed. -/
structure CollectorRunResult (σ : Type) where
  result : EventCollectorResult
  handled : List AuditEvent
  made : List Json
  aggregated : List Json
  checkpoint : Option Int
  state : σ

namespace AuditCollector

variable {σ ω : Type} (c : AuditCollector σ ω)

/-- The loop ends before it begins. -/
def Collection.stopped (result : EventCollectorResult) (hasNextResult : AuditSearchResult) (s : σ) :
    Collection σ :=
  ⟨result, hasNextResult, [], [], s⟩

/-- One record, then the others. -/
def Collection.after (e : AuditEvent) (event : Option Json) (rest : Collection σ) : Collection σ :=
  { rest with handled := e :: rest.handled, made := event.toList ++ rest.made }

/-- The loop of the two functions. A search hands out finitely many events, so there is a number of
rounds that is enough. -/
def collect (o : CollectionOutcome ω) (aggregation : Bool) :
    Nat → Nat → AuditSearchResult → AuditSearch → σ → Collection σ
  | 0, _, hasNextResult, _, s => Collection.stopped .exception hasNextResult s
  | rounds + 1, i, hasNextResult, search, s =>
      if hasNextResult = .hasMoreData then
        let (result, event, s') := c.createEvent aggregation (o.record i) search.event s
        if c.endsLoop result then
          Collection.after search.event event (Collection.stopped result hasNextResult s')
        else
          let (hasNextResult', search') := search.getNext (o.next (i + 1))
          Collection.after search.event event
            (collect o aggregation rounds (i + 1) hasNextResult' search' s')
      else Collection.stopped .ok hasNextResult s

variable (judge : AuditSearch.Judge)

/-- The two functions. `aggregatorInitialized` is the static of that name, and `log` what the log
holds when the search gets to its end. -/
def getEvents (o : CollectionOutcome ω) (aggregatorInitialized : Bool) (log : List AuditEvent)
    (checkpoint : Option Int) (s : σ) : CollectorRunResult σ :=
  match AuditSearch.initMultipleSearchCriteria judge o.search c.searchCriteria c.messageTypes
      checkpoint log with
  | none => ⟨.exception, [], [], [], checkpoint, s⟩
  | some search =>
      let (hasNextResult, search) := search.getNext (o.next 0)
      let aggregation := aggregatorInitialized && o.isAggregationEnabled.getD false
      let loop := c.collect o aggregation (log.length + 1) 0 hasNextResult search s
      let (aggregatorResult, aggregated, s') :=
        if aggregatorInitialized && loop.result = .ok && loop.hasNextResult = .noMoreData then
          c.getAggregatedEvents o.emission loop.state
        else (.ok, [], loop.state)
      let result :=
        if loop.result ≠ .ok then loop.result
        else if loop.hasNextResult ≠ .noMoreData then .exception
        else if aggregatorResult ≠ .ok then .exception else .ok
      let (stored, checkpoint') := search.setCheckpoint o.write checkpoint
      ⟨if stored then result else .exception, loop.handled, loop.made, aggregated, checkpoint', s'⟩

variable {c} {judge} {o : CollectionOutcome ω} {aggregation : Bool}

/-! ## The loop over a list of records -/

variable (c o aggregation) in
/-- What the loop does with records that are handed out without fail, `i` being the index of the
first. -/
def handleAll : Nat → List AuditEvent → σ → Collection σ
  | _, [], s => Collection.stopped .ok .noMoreData s
  | i, e :: es, s =>
      let (result, event, s') := c.createEvent aggregation (o.record i) e s
      if c.endsLoop result then
        Collection.after e event (Collection.stopped result .hasMoreData s')
      else Collection.after e event (handleAll (i + 1) es s')

/-- The record at hand and the ones still to come. -/
def upcoming (hasNextResult : AuditSearchResult) (search : AuditSearch) : List AuditEvent :=
  if hasNextResult = .hasMoreData then search.event :: search.pending else []

theorem upcoming_getNext {n : NextOutcome} {search search' : AuditSearch} {r : AuditSearchResult}
    (h : search.getNext n = (r, search')) (hr : r ≠ .exception) :
    (r = .hasMoreData ∨ r = .noMoreData) ∧ upcoming r search' = search.pending := by
  rcases (AuditSearch.getNext_cases h).2 with ⟨hex, _⟩ | ⟨rfl, hnone⟩ | ⟨rfl, hsome⟩
  · exact absurd hex hr
  · exact ⟨Or.inr rfl, by rw [hnone]; rfl⟩
  · exact ⟨Or.inl rfl, hsome.symm⟩

/-- Where libaudit does not fail, the loop is the loop over the list of records. -/
theorem collect_eq_handleAll
    (hnext : ∀ i, (o.next i).nextEvent = true ∧ (o.next i).searchNext = true) :
    ∀ {rounds i : Nat} {r : AuditSearchResult} {search : AuditSearch} {s : σ},
      r = .hasMoreData ∨ r = .noMoreData → (upcoming r search).length < rounds →
      c.collect o aggregation rounds i r search s
        = handleAll c o aggregation i (upcoming r search) s := by
  intro rounds
  induction rounds with
  | zero => intro i r search s _ h; exact absurd h (Nat.not_lt_zero _)
  | succ rounds ih =>
      intro i r search s hr h
      rcases hr with rfl | rfl
      · simp only [collect, upcoming, if_true, handleAll]
        split
        · rfl
        · have hworks : (search.getNext (o.next (i + 1))).1 ≠ .exception := by
            intro hex
            rcases (AuditSearch.getNext_cases
                (Prod.eta (search.getNext (o.next (i + 1)))).symm).2 with
              ⟨_, hfails⟩ | ⟨hno, _⟩ | ⟨hmore, _⟩
            · obtain ⟨h₁, h₂⟩ := hnext (i + 1)
              rw [h₁, h₂] at hfails
              simp at hfails
            · rw [hex] at hno
              exact absurd hno (by decide)
            · rw [hex] at hmore
              exact absurd hmore (by decide)
          obtain ⟨hcase, hup⟩ := upcoming_getNext (Prod.eta _).symm hworks
          rw [ih hcase (by
            rw [hup]
            simpa [upcoming] using h), hup]
      · simp [collect, upcoming, handleAll]

/-- A loop that comes to the end of the log has handled every record, whatever libaudit did. -/
theorem collect_handled :
    ∀ {rounds i : Nat} {r : AuditSearchResult} {search : AuditSearch} {s : σ},
      (c.collect o aggregation rounds i r search s).result = .ok →
      (c.collect o aggregation rounds i r search s).hasNextResult = .noMoreData →
      (c.collect o aggregation rounds i r search s).handled = upcoming r search := by
  intro rounds
  induction rounds with
  | zero =>
      intro i r search s hok _
      exact absurd hok (by simp [collect, Collection.stopped])
  | succ rounds ih =>
      intro i r search s hok hend
      by_cases hr : r = .hasMoreData
      · subst hr
        simp only [collect, if_true] at hok hend ⊢
        split at hok
        · rename_i hends
          simp only [hends, if_true, Collection.after, Collection.stopped] at hend
          exact absurd hend (by decide)
        · rename_i hends
          simp only [if_neg hends] at hend ⊢
          have hrest := ih hok hend
          have hworks : (search.getNext (o.next (i + 1))).1 ≠ .exception := by
            intro hex
            simp only [Collection.after, hex] at hend
            cases rounds with
            | zero => simp [collect, Collection.stopped] at hend
            | succ n => simp [collect, Collection.stopped] at hend
          simp only [Collection.after, hrest, upcoming, if_true]
          exact congrArg _ (upcoming_getNext (Prod.eta _).symm hworks).2
      · simp only [collect, if_neg hr, Collection.stopped, upcoming]

/-! ## A run -/

/-- The records a run is handed out. -/
def found (c : AuditCollector σ ω) (judge : AuditSearch.Judge) (checkpoint : Option Int)
    (log : List AuditEvent) : List AuditEvent :=
  log.filter fun e =>
    AuditSearch.Wanted judge c.searchCriteria c.messageTypes e && AuditSearch.Unseen checkpoint e

variable {aggregatorInitialized : Bool} {log : List AuditEvent} {checkpoint : Option Int} {s : σ}

/-- **A run that succeeds has been through the log**: it has handled all it was handed out, and
stored the time at which it opened its search. -/
theorem getEvents_success (hne : c.messageTypes ≠ [])
    (h : (c.getEvents judge o aggregatorInitialized log checkpoint s).result = .ok) :
    (c.getEvents judge o aggregatorInitialized log checkpoint s).handled
        = c.found judge checkpoint log
      ∧ (c.getEvents judge o aggregatorInitialized log checkpoint s).checkpoint
        = some o.search.currentTime := by
  unfold getEvents at h ⊢
  cases hinit : AuditSearch.initMultipleSearchCriteria judge o.search c.searchCriteria
      c.messageTypes checkpoint log with
  | none =>
      rw [hinit] at h
      exact absurd h (by simp)
  | some search =>
      rw [hinit] at h
      dsimp only at h ⊢
      obtain ⟨htime, hpending⟩ := AuditSearch.init_pending hne hinit
      have hcases := AuditSearch.getNext_cases (Prod.eta (search.getNext (o.next 0))).symm
      -- the result is only OK where the checkpoint was written ...
      have hwritten : o.write = .written := by
        cases hw : o.write with
        | written => rfl
        | notOpened => simp [AuditSearch.setCheckpoint, hw] at h
        | notWritten => simp [AuditSearch.setCheckpoint, hw] at h
      simp only [hwritten, AuditSearch.setCheckpoint, if_true] at h ⊢
      -- ... and the loop came to the end of the log
      split at h
      · rename_i hloop
        exact absurd h hloop
      · rename_i hloop
        split at h
        · exact absurd h (by decide)
        · rename_i hend
          have hhandled := collect_handled (Classical.not_not.mp hloop) (Classical.not_not.mp hend)
          rw [hhandled, hcases.1, htime]
          refine ⟨?_, rfl⟩
          have hfirst : (search.getNext (o.next 0)).1 ≠ .exception := by
            intro hex
            rw [hex] at hend
            exact hend (by simp [collect, Collection.stopped])
          rw [(upcoming_getNext (Prod.eta _).symm hfirst).2, hpending]
          rfl

/-- A run whose search opens and goes through the log, whatever becomes of the records. -/
theorem getEvents_loop (hne : c.messageTypes ≠ [])
    (hopens : (AuditSearch.initMultipleSearchCriteria judge o.search c.searchCriteria
      c.messageTypes checkpoint log).isSome = true)
    (hnext : ∀ i, (o.next i).nextEvent = true ∧ (o.next i).searchNext = true) :
    ∃ loop, loop = handleAll c o (aggregatorInitialized && o.isAggregationEnabled.getD false) 0
        (c.found judge checkpoint log) s
      ∧ (c.getEvents judge o aggregatorInitialized log checkpoint s).handled = loop.handled
      ∧ (c.getEvents judge o aggregatorInitialized log checkpoint s).made = loop.made
      ∧ (o.write = .written →
        (c.getEvents judge o aggregatorInitialized log checkpoint s).checkpoint
          = some o.search.currentTime) := by
  obtain ⟨search, hinit⟩ := Option.isSome_iff_exists.mp hopens
  obtain ⟨htime, hpending⟩ := AuditSearch.init_pending hne hinit
  have hcases := AuditSearch.getNext_cases (Prod.eta (search.getNext (o.next 0))).symm
  obtain ⟨hcase, hup⟩ :=
    upcoming_getNext (Prod.eta _).symm (AuditSearch.getNext_works (hnext 0) search)
  have hlength : (upcoming (search.getNext (o.next 0)).1 (search.getNext (o.next 0)).2).length
      < log.length + 1 := by
    rw [hup, hpending]
    exact Nat.lt_succ_of_le (List.length_filter_le _ _)
  have hloop := @collect_eq_handleAll σ ω c o
    (aggregatorInitialized && o.isAggregationEnabled.getD false) hnext _ 0 _ _ s hcase hlength
  refine ⟨_, rfl, ?_⟩
  unfold getEvents
  rw [hinit]
  dsimp only
  rw [hloop, hup, hpending]
  refine ⟨rfl, rfl, fun hwrite => ?_⟩
  simp only [hwrite, AuditSearch.setCheckpoint, hcases.1, htime]

end AuditCollector

end SecurityAgent
