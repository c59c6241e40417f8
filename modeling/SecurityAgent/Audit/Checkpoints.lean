import SecurityAgent.Audit.ConnectionCreateCollector
import SecurityAgent.Audit.ProcessCreationCollector

/-!
# Which events the runs of a collector handle

Between two runs the only thing that is kept of a search is a second: the one in
which it was opened. The next search asks for what is after the *start* of that
second. An event of the same second, some milliseconds later, was in the log when
the first search got to its end, and is found again; an event stamped at the
start of the second that gets into the log later is found by neither.

So a collector handles every event exactly once if and only if no event is on the wrong side of a
checkpoint: after it although a run has seen it, or not after it although none has.
-/

namespace SecurityAgent

/-- The log, the checkpoint and what the runs have handled, by serial number. -/
structure AuditHistory (σ : Type) where
  log : List AuditEvent
  checkpoint : Option Int
  handled : List Nat
  state : σ

/-- What happens to a log. -/
inductive HistoryStep (ω : Type) where
  /-- An event gets into the log. -/
  | arrive (e : AuditEvent)
  /-- A run, with the events that get into the log before its search is at the end. -/
  | collect (o : CollectionOutcome ω) (during : List AuditEvent)

namespace AuditCollector

variable {σ ω : Type}

/-- Events get the next serial numbers. -/
def numberFrom : Nat → List AuditEvent → List AuditEvent
  | _, [] => []
  | n, e :: es => { e with serial := n } :: numberFrom (n + 1) es

/-- The log after some events have got into it. -/
def extend (log es : List AuditEvent) : List AuditEvent := log ++ numberFrom log.length es

variable (c : AuditCollector σ ω) (judge : AuditSearch.Judge) (aggregatorInitialized : Bool)

/-- The event is one the collector asks for. -/
def Wants (e : AuditEvent) : Prop :=
  AuditSearch.Wanted judge c.searchCriteria c.messageTypes e = true

/-- One step of the history of a log. A run that fails is no step of it. -/
def historyStep (h : AuditHistory σ) : HistoryStep ω → Option (Unit × AuditHistory σ)
  | .arrive e => some ((), { h with log := extend h.log [e] })
  | .collect o during =>
      let run := c.getEvents judge o aggregatorInitialized (extend h.log during) h.checkpoint h.state
      if run.result = .ok then
        some ((), {
          log := extend h.log during
          checkpoint := run.checkpoint
          handled := h.handled ++ run.handled.map AuditEvent.serial
          state := run.state })
      else none

/-- Nothing has been in the log yet. -/
def AuditHistory.start (s : σ) : AuditHistory σ := ⟨[], none, [], s⟩

/-! ## What is asked of a history -/

/-- What one step leaves is as it should be: nothing has been handled twice, and a run that begins
in some second leaves nothing of the seconds before unhandled. -/
def HandledOnce (h : AuditHistory σ) (i : HistoryStep ω) : Prop :=
  ∀ u h', c.historyStep judge aggregatorInitialized h i = some (u, h') →
    h'.handled.Nodup
      ∧ ∀ o during, i = .collect o during → ∀ e ∈ h'.log, c.Wants judge e →
        e.time.sec < o.search.currentTime → e.serial ∈ h'.handled

/-- The next search hands out what no run has handled, and that only. -/
def Separates (h : AuditHistory σ) : Prop :=
  ∀ e ∈ h.log, c.Wants judge e →
    (e.serial ∈ h.handled ↔ AuditSearch.Unseen h.checkpoint e = false)

/-- No event is on the wrong side of a checkpoint. What arrives between runs is after the last one;
a run leaves a checkpoint that nothing in the log is after, and what arrives during it is
after the old checkpoint, unless it is after the new one. -/
def OnTime (h : AuditHistory σ) : HistoryStep ω → Prop
  | .arrive e =>
      ∀ e' ∈ numberFrom h.log.length [e], c.Wants judge e' →
        AuditSearch.Unseen h.checkpoint e' = true
  | .collect o during =>
      (∀ e ∈ h.log, c.Wants judge e → e.time.after o.search.currentTime = false)
        ∧ ∀ e ∈ numberFrom h.log.length during, c.Wants judge e →
          (AuditSearch.Unseen h.checkpoint e = true ↔ e.time.after o.search.currentTime = false)

/-- A step that happens is on time. -/
def StepOnTime (h : AuditHistory σ) (i : HistoryStep ω) : Prop :=
  (c.historyStep judge aggregatorInitialized h i).isSome = true → c.OnTime judge h i

/-! ## Serial numbers -/

theorem numberFrom_serials (n : Nat) (es : List AuditEvent) :
    (numberFrom n es).map AuditEvent.serial = List.range' n es.length := by
  induction es generalizing n with
  | nil => rfl
  | cons e es ih => simp only [numberFrom, List.map_cons, ih, List.length_cons, List.range'_succ]

/-- The serial number of an event is its position, and only events of the log have been handled. -/
structure Numbered (h : AuditHistory σ) : Prop where
  serials : h.log.map AuditEvent.serial = List.range h.log.length
  handled : ∀ n ∈ h.handled, n < h.log.length

theorem extend_serials {log : List AuditEvent} (es : List AuditEvent)
    (h : log.map AuditEvent.serial = List.range log.length) :
    (extend log es).map AuditEvent.serial = List.range (extend log es).length := by
  have hlength : (numberFrom log.length es).length = es.length := by
    have hlen := congrArg List.length (numberFrom_serials log.length es)
    simpa using hlen
  rw [extend, List.map_append, h, numberFrom_serials, List.length_append, hlength,
    List.range_eq_range', List.range_eq_range']
  have happend := @List.range'_append_1 0 log.length es.length
  rwa [Nat.zero_add] at happend

variable {c judge aggregatorInitialized}

/-- Events that arrive have numbers no run has handled. -/
theorem Numbered.fresh {h : AuditHistory σ} (hn : Numbered h) {es : List AuditEvent}
    {e : AuditEvent} (he : e ∈ numberFrom h.log.length es) : e.serial ∉ h.handled := by
  intro hmem
  have hlt := hn.handled _ hmem
  have hserial := List.mem_map_of_mem (f := AuditEvent.serial) he
  rw [numberFrom_serials, List.mem_range'_1] at hserial
  omega

/-- An event is told from all others by its serial number. -/
theorem serial_mem_filter {log : List AuditEvent}
    (h : log.map AuditEvent.serial = List.range log.length) {p : AuditEvent → Bool}
    {e : AuditEvent} (he : e ∈ log) :
    e.serial ∈ (log.filter p).map AuditEvent.serial ↔ p e = true := by
  have hnodup : (log.map AuditEvent.serial).Nodup := by
    rw [h]
    exact List.nodup_range
  constructor
  · intro hmem
    obtain ⟨e', he', hserial⟩ := List.mem_map.mp hmem
    obtain ⟨hlog, hp⟩ := List.mem_filter.mp he'
    rwa [← List.inj_on_of_nodup_map hnodup hlog he hserial]
  · intro hp
    exact List.mem_map_of_mem (List.mem_filter.mpr ⟨he, hp⟩)

/-! ## One step -/

/-- What a run does to the history. -/
theorem historyStep_collect {h h' : AuditHistory σ} {o : CollectionOutcome ω}
    {during : List AuditEvent} {u : Unit} (hne : c.messageTypes ≠ [])
    (hs : c.historyStep judge aggregatorInitialized h (.collect o during) = some (u, h')) :
    h'.log = extend h.log during ∧ h'.checkpoint = some o.search.currentTime
      ∧ h'.handled = h.handled
        ++ (c.found judge h.checkpoint (extend h.log during)).map AuditEvent.serial := by
  unfold historyStep at hs
  dsimp only at hs
  split at hs
  · rename_i hok
    obtain ⟨hhandled, hcheckpoint⟩ := getEvents_success hne hok
    obtain ⟨_, rfl⟩ := Prod.mk.inj (Option.some.inj hs)
    exact ⟨rfl, hcheckpoint, by rw [hhandled]⟩
  · exact absurd hs (by simp)

/-- Serial numbers stay what they are. -/
theorem Numbered.step {h h' : AuditHistory σ} {i : HistoryStep ω} {u : Unit}
    (hne : c.messageTypes ≠ []) (hn : Numbered h)
    (hs : c.historyStep judge aggregatorInitialized h i = some (u, h')) : Numbered h' := by
  have hgrows : ∀ {es : List AuditEvent}, h.log.length ≤ (extend h.log es).length := by
    intro es
    rw [extend, List.length_append]
    exact Nat.le_add_right _ _
  cases i with
  | arrive e =>
      obtain ⟨_, rfl⟩ := Prod.mk.inj (Option.some.inj hs)
      exact ⟨extend_serials [e] hn.serials, fun n hmem => Nat.lt_of_lt_of_le (hn.handled n hmem) hgrows⟩
  | collect o during =>
      obtain ⟨hlog, _, hhandled⟩ := historyStep_collect hne hs
      have hserials := extend_serials during hn.serials
      refine ⟨by rw [hlog]; exact hserials, fun n hmem => ?_⟩
      rw [hhandled] at hmem
      rw [hlog]
      rcases List.mem_append.mp hmem with hold | hnew
      · exact Nat.lt_of_lt_of_le (hn.handled n hold) hgrows
      · obtain ⟨e, he, rfl⟩ := List.mem_map.mp hnew
        have hmem := List.mem_map_of_mem (f := AuditEvent.serial) (List.mem_of_mem_filter he)
        rw [hserials] at hmem
        exact List.mem_range.mp hmem

/-- What a run hands out is not what runs before it have handled, if the checkpoint separates. -/
theorem found_fresh {h : AuditHistory σ} {during : List AuditEvent} (hn : Numbered h)
    (hsep : c.Separates judge h) {e : AuditEvent}
    (he : e ∈ c.found judge h.checkpoint (extend h.log during)) : e.serial ∉ h.handled := by
  obtain ⟨hlog, hfound⟩ := List.mem_filter.mp he
  rw [Bool.and_eq_true] at hfound
  rcases List.mem_append.mp hlog with hold | hnew
  · intro hmem
    have hunseen := (hsep e hold hfound.1).mp hmem
    rw [hfound.2] at hunseen
    exact absurd hunseen (by decide)
  · exact hn.fresh hnew

/-- After a run, a wanted event that was in the log before it has been handled. -/
theorem handled_of_separates {h h' : AuditHistory σ} {o : CollectionOutcome ω}
    {during : List AuditEvent} {u : Unit} (hne : c.messageTypes ≠ []) (hn : Numbered h)
    (hsep : c.Separates judge h)
    (hs : c.historyStep judge aggregatorInitialized h (.collect o during) = some (u, h'))
    {e : AuditEvent} (he : e ∈ h.log) (hw : c.Wants judge e) : e.serial ∈ h'.handled := by
  obtain ⟨_, _, hhandled⟩ := historyStep_collect hne hs
  rw [hhandled, List.mem_append]
  cases hunseen : AuditSearch.Unseen h.checkpoint e with
  | false => exact Or.inl ((hsep e he hw).mpr hunseen)
  | true =>
      refine Or.inr ((serial_mem_filter (extend_serials during hn.serials)
        (List.mem_append_left _ he)).mpr ?_)
      rw [Bool.and_eq_true]
      exact ⟨hw, hunseen⟩

/-- And one that arrived during the run has been handled if it is after the old checkpoint. -/
theorem handled_arrival_iff {h h' : AuditHistory σ} {o : CollectionOutcome ω}
    {during : List AuditEvent} {u : Unit} (hne : c.messageTypes ≠ []) (hn : Numbered h)
    (hs : c.historyStep judge aggregatorInitialized h (.collect o during) = some (u, h'))
    {e : AuditEvent} (he : e ∈ numberFrom h.log.length during) (hw : c.Wants judge e) :
    e.serial ∈ h'.handled ↔ AuditSearch.Unseen h.checkpoint e = true := by
  obtain ⟨_, _, hhandled⟩ := historyStep_collect hne hs
  rw [hhandled, List.mem_append, found, serial_mem_filter (extend_serials during hn.serials)
    (List.mem_append_right _ he), Bool.and_eq_true]
  constructor
  · rintro (hold | ⟨_, hunseen⟩)
    · exact absurd hold (hn.fresh he)
    · exact hunseen
  · intro hunseen
    exact Or.inr ⟨hw, hunseen⟩

/-- Nothing is handled twice by a run that the checkpoint separates from the ones before. -/
theorem nodup_step {h h' : AuditHistory σ} {i : HistoryStep ω} {u : Unit}
    (hne : c.messageTypes ≠ []) (hn : Numbered h) (hsep : c.Separates judge h)
    (hnodup : h.handled.Nodup)
    (hs : c.historyStep judge aggregatorInitialized h i = some (u, h')) : h'.handled.Nodup := by
  cases i with
  | arrive e =>
      obtain ⟨_, rfl⟩ := Prod.mk.inj (Option.some.inj hs)
      exact hnodup
  | collect o during =>
      obtain ⟨_, _, hhandled⟩ := historyStep_collect hne hs
      rw [hhandled, List.nodup_append]
      refine ⟨hnodup, ?_, ?_⟩
      · have hserials : ((extend h.log during).map AuditEvent.serial).Nodup := by
          rw [extend_serials during hn.serials]
          exact List.nodup_range
        exact hserials.sublist (List.Sublist.map _ List.filter_sublist)
      · intro n hn₁ m hm heq
        obtain ⟨e, he, rfl⟩ := List.mem_map.mp hm
        exact found_fresh hn hsep he (heq ▸ hn₁)

/-- What is kept along a history that is on time. -/
structure Sound (c : AuditCollector σ ω) (judge : AuditSearch.Judge) (h : AuditHistory σ) : Prop where
  numbered : Numbered h
  nodup : h.handled.Nodup
  separates : c.Separates judge h

theorem Sound.start (s : σ) : Sound c judge (AuditHistory.start s) :=
  ⟨⟨rfl, fun _ hn => absurd hn List.not_mem_nil⟩, List.nodup_nil,
    fun _ he => absurd he List.not_mem_nil⟩

/-- A checkpoint goes on separating through a step that is on time. -/
theorem Sound.step {h h' : AuditHistory σ} {i : HistoryStep ω} {u : Unit}
    (hne : c.messageTypes ≠ []) (hsound : Sound c judge h) (htime : c.OnTime judge h i)
    (hs : c.historyStep judge aggregatorInitialized h i = some (u, h')) : Sound c judge h' := by
  refine ⟨hsound.numbered.step hne hs, nodup_step hne hsound.numbered hsound.separates
    hsound.nodup hs, ?_⟩
  cases i with
  | arrive e =>
      obtain ⟨_, rfl⟩ := Prod.mk.inj (Option.some.inj hs)
      intro e' he' hw
      rcases List.mem_append.mp he' with hold | hnew
      · exact hsound.separates e' hold hw
      · refine ⟨fun hmem => absurd hmem (hsound.numbered.fresh hnew), fun hunseen => ?_⟩
        exact absurd (hunseen.symm.trans (htime e' hnew hw)) (by decide)
  | collect o during =>
      obtain ⟨hlog, hcheckpoint, _⟩ := historyStep_collect hne hs
      intro e he hw
      rw [hcheckpoint]
      rw [hlog] at he
      rcases List.mem_append.mp he with hold | hnew
      · exact ⟨fun _ => htime.1 e hold hw,
          fun _ => handled_of_separates hne hsound.numbered hsound.separates hs hold hw⟩
      · exact (handled_arrival_iff hne hsound.numbered hs hnew hw).trans (htime.2 e hnew hw)

/-- After a step that is not on time the checkpoint does not separate. -/
theorem Sound.late {h : AuditHistory σ} {i : HistoryStep ω} (hne : c.messageTypes ≠ [])
    (hsound : Sound c judge h) (hlate : ¬ c.StepOnTime judge aggregatorInitialized h i) :
    ∃ u h', c.historyStep judge aggregatorInitialized h i = some (u, h')
      ∧ ¬ c.Separates judge h' := by
  obtain ⟨hhappens, hlate⟩ := Classical.not_imp.mp hlate
  obtain ⟨⟨u, h'⟩, hs⟩ := Option.isSome_iff_exists.mp hhappens
  refine ⟨u, h', hs, fun hsep => hlate ?_⟩
  cases i with
  | arrive e =>
      obtain ⟨_, rfl⟩ := Prod.mk.inj (Option.some.inj hs)
      intro e' he' hw
      -- nobody has handled it, so the checkpoint has to be before it
      exact Bool.of_not_eq_false fun hunseen =>
        hsound.numbered.fresh he' ((hsep e' (List.mem_append_right _ he') hw).mpr hunseen)
  | collect o during =>
      obtain ⟨hlog, hcheckpoint, _⟩ := historyStep_collect hne hs
      have hsep' : ∀ e ∈ extend h.log during, c.Wants judge e →
          (e.serial ∈ h'.handled ↔ e.time.after o.search.currentTime = false) := by
        intro e he hw
        have hiff := hsep e (hlog ▸ he) hw
        rwa [hcheckpoint] at hiff
      refine ⟨fun e he hw => ?_, fun e he hw => ?_⟩
      · exact (hsep' e (List.mem_append_left _ he) hw).mp
          (handled_of_separates hne hsound.numbered hsound.separates hs he hw)
      · exact (handled_arrival_iff hne hsound.numbered hs he hw).symm.trans
          (hsep' e (List.mem_append_right _ he) hw)

/-- From a checkpoint that separates, a step that is on time leaves what it should. -/
theorem Sound.handledOnce {h : AuditHistory σ} {i : HistoryStep ω} (hne : c.messageTypes ≠ [])
    (hsound : Sound c judge h) (htime : c.StepOnTime judge aggregatorInitialized h i) :
    c.HandledOnce judge aggregatorInitialized h i := by
  intro u h' hs
  refine ⟨nodup_step hne hsound.numbered hsound.separates hsound.nodup hs, ?_⟩
  intro o during hi e he hw hsec
  subst hi
  obtain ⟨hlog, _, _⟩ := historyStep_collect hne hs
  rw [hlog] at he
  rcases List.mem_append.mp he with hold | hnew
  · exact handled_of_separates hne hsound.numbered hsound.separates hs hold hw
  · -- an arrival of an earlier second is not after the new checkpoint, so it is after the old one
    refine (handled_arrival_iff hne hsound.numbered hs hnew hw).mpr ?_
    refine ((htime (by rw [hs]; rfl)).2 e hnew hw).mpr ?_
    simp only [AuditTime.after, Bool.or_eq_false_iff, Bool.and_eq_false_imp, decide_eq_false_iff_not,
      decide_eq_true_eq]
    omega

/-! ## Whole histories -/

/--
**The checkpoint separates if and only if events are on time.** Along every history that is on
time, no event is handled by two runs and no run leaves anything of the seconds before it unhandled;
and being on time is the exact condition for every search to hand out what has not been
handled, and nothing else.
-/
theorem separates_iff_onTime (hne : c.messageTypes ≠ []) (s : σ) (steps : List (HistoryStep ω)) :
    (Machine.Along (c.historyStep judge aggregatorInitialized)
        (c.StepOnTime judge aggregatorInitialized) (AuditHistory.start s) steps →
      Machine.Along (c.historyStep judge aggregatorInitialized)
        (c.HandledOnce judge aggregatorInitialized) (AuditHistory.start s) steps)
      ∧ (Machine.Throughout (c.historyStep judge aggregatorInitialized) (c.Separates judge)
          (AuditHistory.start s) steps
        ↔ Machine.Along (c.historyStep judge aggregatorInitialized)
          (c.StepOnTime judge aggregatorInitialized) (AuditHistory.start s) steps) := by
  have hkeep : ∀ h i u h', Sound c judge h → c.StepOnTime judge aggregatorInitialized h i →
      c.historyStep judge aggregatorInitialized h i = some (u, h') → Sound c judge h' := by
    intro h i u h' hsound htime hs
    exact hsound.step hne (htime (by rw [hs]; rfl)) hs
  constructor
  · exact Machine.along_of_invariant (fun h i hsound htime =>
      ⟨hsound.handledOnce hne htime, fun u h' hs => hkeep h i u h' hsound htime hs⟩) (Sound.start s)
  · exact Machine.throughout_iff_along_of_invariant (fun h hsound => hsound.separates) hkeep
      (fun h i hsound hlate => hsound.late hne hlate) (Sound.start s)

end AuditCollector

/-! ## The two collectors -/

/-- What `separates_iff_onTime` says of a collector, in every history from this state on. -/
def AuditCollector.HandlesOnceIffOnTime {σ ω : Type} (c : AuditCollector σ ω)
    (judge : AuditSearch.Judge) (aggregatorInitialized : Bool) (s : σ) : Prop :=
  ∀ steps : List (HistoryStep ω),
    (Machine.Along (c.historyStep judge aggregatorInitialized)
        (c.StepOnTime judge aggregatorInitialized) (AuditCollector.AuditHistory.start s) steps →
      Machine.Along (c.historyStep judge aggregatorInitialized)
        (c.HandledOnce judge aggregatorInitialized) (AuditCollector.AuditHistory.start s) steps)
      ∧ (Machine.Throughout (c.historyStep judge aggregatorInitialized) (c.Separates judge)
          (AuditCollector.AuditHistory.start s) steps
        ↔ Machine.Along (c.historyStep judge aggregatorInitialized)
          (c.StepOnTime judge aggregatorInitialized) (AuditCollector.AuditHistory.start s) steps)

/--
**Exactly once, where events are on time.** Both collectors, whatever the log, the times of the runs
and what the records hold: where no event is on the wrong side of a checkpoint, no event is handled
by two runs and no run leaves one of the seconds before it unhandled; and only there
does every search hand out exactly what has not been handled.
-/
theorem events_handled_once_iff (equals : Json → Json → Bool) (serialize : Json → String)
    (parse : String → Option Json) (clock : Clock) (judge : AuditSearch.Judge)
    (aggregatorInitialized : Bool) (aggregator : EventAggregator)
    (executableHashMap : ProcessCreationCollector.ExecutableHashMap) :
    (ProcessCreationCollector.collector equals serialize parse clock).HandlesOnceIffOnTime judge
        aggregatorInitialized (aggregator, executableHashMap)
      ∧ (ConnectionCreateEventCollector.collector equals serialize parse clock).HandlesOnceIffOnTime
        judge aggregatorInitialized (aggregator, ()) :=
  ⟨fun steps => AuditCollector.separates_iff_onTime (List.cons_ne_nil _ _) _ steps,
    fun steps => AuditCollector.separates_iff_onTime (List.cons_ne_nil _ _) _ steps⟩

/-- The runs of a process creation collector with no aggregator, on an empty map, for which
everything in the log is an `EXECVE`: what they have handled in the end. -/
def handledBy (steps : List (HistoryStep ProcessOutcome)) : Option (List Nat) :=
  (Machine.run ((ProcessCreationCollector.collector (fun _ _ => false) (fun _ => "")
      (fun _ => none) ⟨fun _ => some "", fun _ => some ""⟩).historyStep (fun _ _ => true) false)
    (AuditCollector.AuditHistory.start (⟨"", "", "", [], 0⟩, [])) steps).map fun r => r.2.handled

/-- An event half a second into the second in which a run opens its search is handled by this run and
the next; one at the start of that second that gets into the log after the run is handled by
none. -/
theorem same_second_handled_twice :
    handledBy [.arrive (shRun ⟨10, 500⟩), .collect (.ok 10 .ok) [], .collect (.ok 11 .ok) []]
        = some [0, 0]
      ∧ handledBy [.collect (.ok 10 .ok) [], .arrive (shRun ⟨10, 0⟩), .collect (.ok 11 .ok) []]
        = some [] := by
  decide +kernel

end SecurityAgent
