import SecurityAgent.Tasks.ItemOwnership
import SecurityAgent.Twin.Commit

/-!
# Updates take effect in the order they are delivered

At any time the configuration, with the queued updates applied to it in order, is
the first configuration with all delivered updates applied. So once the queue is
drained every update has taken effect, and the last one is in force. All this as
long as the queue takes what is delivered: an update it refuses, which it does
when events have used up the cache they share, is dropped.

Updates are abstract to begin with: a state with a view that an update changes
in a way that depends on nothing but the view. The twin module is such a state,
with its settings as the view.
-/

namespace SecurityAgent

open Machine

namespace UpdateTwinTask

section Order

variable {ρ τ υ μ ε : Type}
  (update : υ → Option ρ → Bool → τ → TwinConfigurationResult × τ)

/-- A document with its kind: the whole twin, or a part. -/
abbrev Delivery (ρ : Type) := ρ × Bool

/-- What a call delivers. -/
def TwinTraffic.delivery : TwinTraffic ρ υ μ → Option (Delivery ρ)
  | .callback complete payload size _ => if size = 0 then none else some (payload, complete)
  | .execute _ _ => none

/-- What a run delivers, in order. -/
def delivered (traffic : List (TwinTraffic ρ υ μ)) : List (Delivery ρ) :=
  traffic.filterMap TwinTraffic.delivery

/-- What is queued, in order. -/
def pending (cells : List (Cell ρ)) : List (Delivery ρ) :=
  cells.map fun c => (c.document, c.complete)

/-- An update, on states that are `ok` and with documents that are `valid`, changes `view` as
`apply` says. -/
structure Viewed (ok : τ → Prop) (valid : Delivery ρ → Prop) (view : τ → ε)
    (apply : ε → Delivery ρ → ε) : Prop where
  view_update : ∀ environment document complete twin, ok twin → valid (document, complete) →
    view (update environment (some document) complete twin).2
      = apply (view twin) (document, complete)
  ok_update : ∀ environment document complete twin, ok twin → valid (document, complete) →
    ok (update environment (some document) complete twin).2

/-- A valid document is delivered, there is memory for it, and the queue takes it. -/
def Accepted (valid : Delivery ρ → Prop) (s : TwinUpdates ρ τ μ) : TwinCall ρ υ μ → Prop
  | .traffic (.callback complete payload size o) =>
      size ≠ 0 ∧ valid (payload, complete) ∧ o.mallocItem = true ∧ o.mallocPayload = true
        ∧ Inserted s o ∧ o.lock.unlock = true
  | .traffic (.execute _ _) => True
  | .deinit _ => False

variable {update} {ok : τ → Prop} {valid : Delivery ρ → Prop} {view : τ → ε}
  {apply : ε → Delivery ρ → ε}

/-- The queue holds valid updates, and what they come to is `goal`. -/
structure OnTheWay (ok : τ → Prop) (valid : Delivery ρ → Prop) (view : τ → ε)
    (apply : ε → Delivery ρ → ε) (goal : ε) (s : TwinUpdates ρ τ μ) (cells : List (Cell ρ)) :
    Prop where
  owned : Owned s cells
  ok : ok s.twin
  valid : ∀ d ∈ pending cells, valid d
  goal : (pending cells).foldl apply (view s.twin) = goal

/-- A round takes the oldest update off the queue and keeps what they all come to. -/
theorem OnTheWay.execute (hv : Viewed update ok valid view apply) {goal : ε}
    {s : TwinUpdates ρ τ μ} {cells : List (Cell ρ)}
    (h : OnTheWay ok valid view apply goal s cells) (mon : MonitorCalls μ) (environment : υ) :
    ∃ reports s', UpdateTwinTask.execute update mon environment s = some (reports, s')
      ∧ OnTheWay ok valid view apply goal s' cells.tail := by
  cases cells with
  | nil => exact ⟨false, s, execute_nil h.owned update mon environment, h⟩
  | cons c cells =>
      obtain ⟨reports, s', hs, ho, htwin⟩ := execute_cons h.owned update mon environment
      have hc := h.valid (c.document, c.complete) List.mem_cons_self
      refine ⟨reports, s', hs, ho, ?_, fun d hd => h.valid d (List.mem_cons_of_mem _ hd), ?_⟩
      · rw [htwin]
        exact hv.ok_update _ _ _ _ h.ok hc
      · rw [htwin, hv.view_update _ _ _ _ h.ok hc]
        exact h.goal

/-- A delivery is applied after all those before it. -/
theorem OnTheWay.callback {goal : ε} {s : TwinUpdates ρ τ μ} {cells : List (Cell ρ)}
    (h : OnTheWay ok valid view apply goal s cells) {complete : Bool} {payload : ρ} {size : Nat}
    {o : CallbackOutcome μ}
    (hacc : Accepted (υ := υ) valid s (.traffic (.callback complete payload size o))) :
    ∃ s' cells', deviceTwinCallback s complete payload size o = some s'
      ∧ OnTheWay ok valid view apply (apply goal (payload, complete)) s' cells' := by
  obtain ⟨hsize, hvalid, hitem, hpayload, hin, hunlock⟩ := hacc
  obtain ⟨s', hs, htwin, ⟨-, ho⟩ | ⟨hnot, -⟩⟩ :=
    callback_owned h.owned complete payload hsize hitem hpayload fun _ => hunlock
  · refine ⟨s', _, hs, ho, htwin ▸ h.ok, ?_, ?_⟩
    · intro d hd
      rw [pending, List.map_append, List.mem_append] at hd
      rcases hd with hd | hd
      · exact h.valid d hd
      · rw [List.map_singleton, List.mem_singleton] at hd
        exact hd ▸ hvalid
    · rw [pending, List.map_append, List.foldl_append, htwin]
      show apply ((pending cells).foldl apply (view s.twin)) (payload, complete) = _
      rw [h.goal]
  · exact absurd hin hnot

/-- Along a run of accepted calls, what is applied and what is queued come to what is delivered. -/
theorem run_onTheWay (hv : Viewed update ok valid view apply)
    {traffic : List (TwinTraffic ρ υ μ)} :
    ∀ {s : TwinUpdates ρ τ μ} {cells : List (Cell ρ)} {goal : ε},
      OnTheWay ok valid view apply goal s cells →
      Along (step update) (Accepted valid) s (traffic.map .traffic) →
      ∃ outs s' cells', run (step update) s (traffic.map .traffic) = some (outs, s')
        ∧ OnTheWay ok valid view apply ((delivered traffic).foldl apply goal) s' cells'
        ∧ ∀ d ∈ delivered traffic, valid d := by
  induction traffic with
  | nil =>
      intro s cells goal h _
      exact ⟨[], s, cells, rfl, h, fun _ hd => absurd hd List.not_mem_nil⟩
  | cons t traffic ih =>
      intro s cells goal h hacc
      -- one call, and what it adds to the deliveries
      have hcall : ∃ out s' cells', step update s (.traffic t) = some (out, s')
          ∧ OnTheWay ok valid view apply
            ((TwinTraffic.delivery t).toList.foldl apply goal) s' cells'
          ∧ ∀ d ∈ (TwinTraffic.delivery t).toList, valid d := by
        cases t with
        | callback complete payload size o =>
            obtain ⟨s', cells', hs, h'⟩ := h.callback hacc.1
            refine ⟨false, s', cells', by simp only [step, hs, Option.map_some], ?_⟩
            rw [TwinTraffic.delivery, if_neg hacc.1.1]
            exact ⟨h', fun d hd => List.mem_singleton.mp hd ▸ hacc.1.2.1⟩
        | execute mon environment =>
            obtain ⟨reports, s', hs, h'⟩ := h.execute hv mon environment
            exact ⟨reports, s', _, hs, h', fun _ hd => absurd hd List.not_mem_nil⟩
      obtain ⟨out, s', cells', hs, h', hvalid⟩ := hcall
      obtain ⟨outs, s'', cells'', hr, h'', hvalid'⟩ := ih h' (hacc.2 out s' hs)
      refine ⟨out :: outs, s'', cells'', by simp only [List.map_cons, run, hs, hr], ?_⟩
      have hsplit : delivered (t :: traffic)
          = (TwinTraffic.delivery t).toList ++ delivered traffic := by
        unfold delivered
        rw [List.filterMap_cons]
        cases TwinTraffic.delivery t <;> rfl
      rw [hsplit, List.foldl_append]
      refine ⟨h'', fun d hd => ?_⟩
      rcases List.mem_append.mp hd with hd | hd
      · exact hvalid d hd
      · exact hvalid' d hd

/-- As many rounds as there are updates drain the queue. -/
theorem drain (hv : Viewed update ok valid view apply) (mon : MonitorCalls μ) (environment : υ) :
    ∀ {cells : List (Cell ρ)} {s : TwinUpdates ρ τ μ} {goal : ε},
      OnTheWay ok valid view apply goal s cells →
      ∃ outs s', run (step update) s
          (List.replicate cells.length (.traffic (.execute mon environment))) = some (outs, s')
        ∧ OnTheWay ok valid view apply goal s' [] := by
  intro cells
  induction cells with
  | nil => intro s goal h; exact ⟨[], s, rfl, h⟩
  | cons c cells ih =>
      intro s goal h
      obtain ⟨reports, s', hs, h'⟩ := h.execute hv mon environment
      obtain ⟨outs, s'', hr, h''⟩ := ih h'
      refine ⟨reports :: outs, s'', ?_, h''⟩
      simp only [List.length_cons, List.replicate_succ, run, step, hs]
      rw [hr]

end Order

/-! ## The twin module -/

section Twin

variable {μ : Type} (objectName : String)

/-- `TwinConfiguration_Update` when its locks and its memory are there; the clock is all that it
depends on then. -/
def updateNow (currentTime : Int) (payload : Option Json) (complete : Bool) (s : TwinModule) :
    TwinConfigurationResult × TwinModule :=
  (TwinModule.update objectName (.ok currentTime) payload complete s).getD (.lockException, s)

/-- The settings in force. -/
def effective (s : TwinModule) : TwinConfiguration × EventPriorities :=
  (s.configuration, s.collectors.eventPriorities)

/-- The object of settings in a document, where all of it can be decoded. -/
def settingsObject (d : Delivery Json) : Option Json.Members :=
  TwinModule.objectRead objectName (.ok 0) (some d.1) d.2

/-- A valid document: it has an object of settings, and all of them decode. -/
def ValidDocument (d : Delivery Json) : Prop :=
  ∃ object, settingsObject objectName d = some object
    ∧ Reference.ConfigurationDecodes object ∧ Reference.PrioritiesDecode object
    ∧ Reference.AggregationDecodes object

/-- The settings a document puts in force, whatever was before. -/
def documentSettings (d : Delivery Json) : TwinConfiguration × EventPriorities :=
  let object := (settingsObject objectName d).getD []
  (Reference.configuration object, Reference.priorities object)

theorem updateNow_valid {s : TwinModule} (hs : s.Usable) {d : Delivery Json}
    (hd : ValidDocument objectName d) (currentTime : Int) :
    (updateNow objectName currentTime (some d.1) d.2 s).2.Usable
      ∧ effective (updateNow objectName currentTime (some d.1) d.2 s).2
        = documentSettings objectName d := by
  obtain ⟨object, hread, hconf, hprio, hagg⟩ := hd
  have hcommits : TwinModule.Commits objectName s ⟨.ok currentTime, some d.1, d.2⟩ object :=
    ⟨hread, hconf, hs.lock, rfl, hs.collectors, rfl, hprio, hagg⟩
  have hu := TwinModule.update_succeeds hcommits ⟨rfl, ⟨fun _ => rfl, fun _ => rfl⟩, rfl⟩
  unfold TwinModule.step at hu
  unfold updateNow documentSettings
  rw [hu, hread]
  exact ⟨⟨rfl, rfl, rfl⟩, rfl⟩

theorem updateNow_viewed :
    Viewed (updateNow objectName) TwinModule.Usable (ValidDocument objectName) effective
      (fun _ d => documentSettings objectName d) where
  view_update := fun t document complete _ hs hd =>
    (updateNow_valid objectName (d := (document, complete)) hs hd t).2
  ok_update := fun t document complete _ hs hd =>
    (updateNow_valid objectName (d := (document, complete)) hs hd t).1

/-- All deliveries applied to a twin module one after the other, at any times. -/
def applyAll (currentTime : Int) (deliveries : List (Delivery Json)) (s : TwinModule) :
    TwinModule :=
  deliveries.foldl (fun s d => (updateNow objectName currentTime (some d.1) d.2 s).2) s

/-- The settings after valid deliveries are those of the last. -/
theorem effective_applyAll (currentTime : Int) :
    ∀ {deliveries : List (Delivery Json)} {s : TwinModule}, s.Usable →
      (∀ d ∈ deliveries, ValidDocument objectName d) →
      effective (applyAll objectName currentTime deliveries s)
        = deliveries.foldl (fun _ d => documentSettings objectName d) (effective s) := by
  intro deliveries
  induction deliveries with
  | nil => intro s _ _; rfl
  | cons d deliveries ih =>
      intro s hs hvalid
      obtain ⟨hs', he⟩ := updateNow_valid objectName hs (hvalid d List.mem_cons_self) currentTime
      rw [List.foldl_cons, ← he]
      exact ih hs' fun d hd => hvalid d (List.mem_cons_of_mem _ hd)

variable (μ) in
/--
**Every delivered update takes effect in order**, as long as the queue takes them.

Whatever rounds of the task come between the deliveries: when as many rounds as there are
updates left have drained the queue, the settings are those of a twin module that all updates have
been applied to in the order they were delivered, and those of the last document.
-/
theorem updates_in_order (m : μ) (traffic : List (TwinTraffic Json Int μ))
    (hacc : Along (step (updateNow objectName)) (Accepted (ValidDocument objectName))
      (init m TwinModule.init) (traffic.map .traffic))
    (mon : MonitorCalls μ) (now currentTime : Int) :
    ∃ outs s outs' s', run (step (updateNow objectName)) (init m TwinModule.init)
        (traffic.map .traffic) = some (outs, s)
      ∧ run (step (updateNow objectName)) s
        (List.replicate s.queue.items.length (.traffic (.execute mon now))) = some (outs', s')
      ∧ s'.queue.items = []
      ∧ effective s'.twin
        = effective (applyAll objectName currentTime (delivered traffic) TwinModule.init)
      ∧ ∀ ds d, delivered traffic = ds ++ [d] → effective s'.twin = documentSettings objectName d := by
  have husable : TwinModule.init.Usable := ⟨rfl, rfl, rfl⟩
  have hv := updateNow_viewed objectName
  have hstart : OnTheWay TwinModule.Usable (ValidDocument objectName) effective
      (fun _ d => documentSettings objectName d) (effective TwinModule.init) (init m TwinModule.init)
      [] := ⟨init_owned m TwinModule.init, husable, fun _ hd => absurd hd List.not_mem_nil, rfl⟩
  obtain ⟨outs, s, cells, hs, h, hvalid⟩ := run_onTheWay hv hstart hacc
  obtain ⟨outs', s', hs', h'⟩ := drain hv mon now h
  have hlen : s.queue.items.length = cells.length := by
    rw [h.owned.queue, List.length_map]
  refine ⟨outs, s, outs', s', hs, by rw [hlen]; exact hs', h'.owned.queue, ?_, ?_⟩
  · rw [effective_applyAll objectName currentTime husable hvalid]
    exact h'.goal
  · intro ds d hd
    have hgoal : effective s'.twin = _ := h'.goal
    rw [hgoal, hd, List.foldl_append]
    rfl

/-- A partial update that sets one thing. -/
def smallMessages : Json :=
  .object [("agent", .object [("maxMessageSizeInBytes", .object [("value", .number 8192)])])]

theorem smallMessages_valid : ValidDocument "agent" (smallMessages, false) :=
  ⟨_, rfl, by decide +kernel, by decide +kernel, by decide +kernel⟩

/-- Its delivery, with a monitor's answer. -/
def deliverSmallMessages (mon : MonitorCalls Unit) : TwinTraffic Json Int Unit :=
  .callback false smallMessages 2 ⟨true, true, .ok, mon, ⟨true, true, true⟩⟩

theorem updates_in_order_one :
    ∃ outs s outs' s', run (step (updateNow "agent")) (init () TwinModule.init)
        [.traffic (deliverSmallMessages .granting)] = some (outs, s)
      ∧ run (step (updateNow "agent")) s
        (List.replicate s.queue.items.length (.traffic (.execute .granting 1))) = some (outs', s')
      ∧ s'.queue.items = []
      ∧ effective s'.twin
        = effective (applyAll "agent" 0 [(smallMessages, false)] TwinModule.init)
      ∧ ∀ ds d, [(smallMessages, false)] = ds ++ [d] →
        effective s'.twin = documentSettings "agent" d :=
  updates_in_order Unit "agent" () [deliverSmallMessages .granting]
    ⟨⟨by decide, smallMessages_valid, rfl, rfl, ⟨rfl, rfl, rfl⟩, rfl⟩, fun _ _ _ => trivial⟩
    .granting 1 0

/-- **An update the queue refuses is lost**: the settings stay as they were. -/
theorem refused_update_lost :
    ValidDocument "agent" (smallMessages, false)
      ∧ ∃ outs s, run (step (updateNow "agent")) (init () TwinModule.init)
          [.traffic (deliverSmallMessages ⟨fun _ _ => (.memoryExceeded, ()), fun _ _ => (.ok, ())⟩)]
          = some (outs, s)
        ∧ s.queue.items = []
        ∧ effective s.twin
          ≠ effective (applyAll "agent" 0 [(smallMessages, false)] TwinModule.init) := by
  refine ⟨smallMessages_valid, _, _, rfl, by decide +kernel, fun h => ?_⟩
  have hsize := congrArg (fun e => e.1.maxMessageSize) h
  exact absurd hsize (by decide +kernel)

end Twin

end UpdateTwinTask

end SecurityAgent
