import Mathlib.Data.List.TakeWhile
import SecurityAgent.Agent.SecurityAgent

/-!
# What the agent uses from its start to its end

Whichever step of the start fails, and however the threads interleave, no thread uses a
component before it is initialised or after it is deinitialised. What the main thread asks for is
checked on its list of actions, for the 25 places where the start may fail and the two
ways to go on; that the threads of the tasks keep to it is an invariant.
-/

namespace SecurityAgent

/-! ## What the main thread asks for -/

/-- What is initialised and which tasks may have a thread, before an action. -/
structure AgentPlan where
  up : List AgentComponent
  threads : List TaskName
  deriving DecidableEq

namespace AgentPlan

/-- The action may be taken, these being the next. -/
def Permits (p : AgentPlan) (rest : List AgentAction) : AgentAction → Prop
  | .initialise c =>
      c ∉ p.up ∧ (c = .iothubAdapter → ∀ d ∈ callbacksUse, d ∈ p.up)
  | .deinitialise c =>
      (c = .agentTelemetryProvider ∨ c ∈ p.up) ∧ (∀ d ∈ c.deinitUses, d ∈ p.up)
        ∧ (∀ t ∈ p.threads, c ∉ t.uses)
        ∧ (AgentComponent.iothubAdapter ∈ p.up → c = .iothubAdapter ∨ c ∉ callbacksUse)
  | .execute t => (∀ c ∈ t.uses, c ∈ p.up) ∧ t ∉ p.threads
  | .schedulerInit t => t ∉ p.threads
  | .threadCreate t => (∀ c ∈ t.uses, c ∈ p.up) ∧ rest.head? = some (.setStarted t)
  | .schedulerDeinit t => t ∉ p.threads
  | _ => True

instance (p : AgentPlan) (rest : List AgentAction) : DecidablePred (p.Permits rest)
  | .initialise _ => inferInstanceAs (Decidable (_ ∧ _))
  | .deinitialise _ => inferInstanceAs (Decidable (_ ∧ _))
  | .execute _ => inferInstanceAs (Decidable (_ ∧ _))
  | .schedulerInit _ => inferInstanceAs (Decidable (_ ∉ _))
  | .threadCreate _ => inferInstanceAs (Decidable (_ ∧ _))
  | .schedulerDeinit _ => inferInstanceAs (Decidable (_ ∉ _))
  | .setStarted _ => inferInstanceAs (Decidable True)
  | .stopIfStarted _ => inferInstanceAs (Decidable True)
  | .schedulerStop _ => inferInstanceAs (Decidable True)
  | .join _ => inferInstanceAs (Decidable True)

def after (p : AgentPlan) : AgentAction → AgentPlan
  | .initialise c => { p with up := c :: p.up }
  | .deinitialise c => { p with up := p.up.filter (· ≠ c) }
  | .threadCreate t => { p with threads := t :: p.threads }
  | .stopIfStarted t => { p with threads := p.threads.filter (· ≠ t) }
  | .join t => { p with threads := p.threads.filter (· ≠ t) }
  | _ => p

def afterAll (p : AgentPlan) : List AgentAction → AgentPlan
  | [] => p
  | a :: rest => (p.after a).afterAll rest

/-- Each action is permitted where it is taken. -/
def Follows (p : AgentPlan) : List AgentAction → Prop
  | [] => True
  | a :: rest => p.Permits rest a ∧ (p.after a).Follows rest

instance decidableFollows (p : AgentPlan) : DecidablePred p.Follows
  | [] => inferInstanceAs (Decidable True)
  | a :: rest =>
      have := decidableFollows (p.after a) rest
      inferInstanceAs (Decidable (_ ∧ _))

end AgentPlan

/-! ## The list of the main thread -/

theorem AgentStep.upToFailure_eq_take (o : AgentOutcome) (steps : List AgentStep) :
    ∃ n, n ≤ steps.length ∧ upToFailure o steps = steps.take n :=
  ⟨(upToFailure o steps).length, (List.takeWhile_sublist _).length_le,
    List.prefix_iff_eq_take.mp (List.takeWhile_prefix _)⟩

namespace Agent

/-- All steps. -/
def steps : List AgentStep := initSteps ++ startSteps

theorem run_eq (ending : List AgentAction) (o : AgentOutcome) :
    run ending o = if AgentStep.upToFailure o steps = steps then runsAndTakesDown ending
      else takesDown (AgentStep.upToFailure o steps) := by
  unfold run
  dsimp only
  by_cases hinit : AgentStep.upToFailure o initSteps = initSteps
  · have happend : AgentStep.upToFailure o steps
        = initSteps ++ AgentStep.upToFailure o startSteps :=
      List.takeWhile_append_of_pos (List.takeWhile_eq_self_iff.mp hinit)
    rw [if_neg (not_not.mpr hinit), happend, steps]
    by_cases hstart : AgentStep.upToFailure o startSteps = startSteps
    · rw [if_neg (not_not.mpr hstart), if_pos (by rw [hstart])]
    · rw [if_pos hstart, if_neg (fun h => hstart (List.append_cancel_left h))]
  · have hshort : AgentStep.upToFailure o steps = AgentStep.upToFailure o initSteps := by
      unfold AgentStep.upToFailure steps at *
      rw [List.takeWhile_append, if_neg]
      intro hlen
      exact hinit ((List.takeWhile_prefix _).eq_of_length hlen)
    have hne : AgentStep.upToFailure o steps ≠ steps := by
      rw [hshort]
      intro h
      have hlength := congrArg List.length h
      have hle : (AgentStep.upToFailure o initSteps).length ≤ initSteps.length :=
        (List.takeWhile_prefix _).length_le
      have hpos : 0 < startSteps.length := by decide
      rw [steps, List.length_append] at hlength
      omega
    rw [if_pos hinit, if_neg hne, hshort]

/-- Each list is one of finitely many. -/
theorem run_cases (ending : List AgentAction) (o : AgentOutcome) :
    ((∀ s ∈ steps, s.succeeds o) ∧ run ending o = runsAndTakesDown ending) ∨
    ((∃ s ∈ steps, ¬ s.succeeds o) ∧ ∃ n < 25, AgentStep.upToFailure o steps = steps.take n
      ∧ run ending o = takesDown (steps.take n)) := by
  by_cases h : AgentStep.upToFailure o steps = steps
  · refine Or.inl ⟨List.takeWhile_eq_self_iff.mp h, ?_⟩
    rw [run_eq, if_pos h]
  · right
    obtain ⟨n, hn, htake⟩ := AgentStep.upToFailure_eq_take o steps
    have hfails : ∃ s ∈ steps, ¬ s.succeeds o := by
      by_contra hall
      push Not at hall
      exact h (List.takeWhile_eq_self_iff.mpr hall)
    have hlength : steps.length = 25 := by decide
    have hlt : n < 25 := by
      rcases Nat.lt_or_ge n 25 with hlt | hge
      · exact hlt
      · rw [List.take_of_length_le (by omega)] at htake
        exact absurd htake h
    refine ⟨hfails, n, hlt, htake, ?_⟩
    rw [run_eq, if_neg h, htake]

end Agent

namespace AgentPlan

/-- Before the first action. -/
def nothing : AgentPlan := ⟨[], []⟩

theorem follows_takesDown :
    ∀ n < 25, nothing.Follows (Agent.takesDown (Agent.steps.take n)) := by
  decide +kernel

theorem follows_runsAndTakesDown :
    nothing.Follows (Agent.runsAndTakesDown Agent.wait)
      ∧ nothing.Follows (Agent.runsAndTakesDown Agent.stop) := by
  decide +kernel

/-- **The main thread asks for nothing that is not permitted.** -/
theorem follows_run {ending : List AgentAction} (hending : ending = Agent.wait ∨ ending = Agent.stop)
    (o : AgentOutcome) : nothing.Follows (Agent.run ending o) := by
  rcases Agent.run_cases ending o with ⟨_, hrun⟩ | ⟨_, n, hn, _, hrun⟩
  · rw [hrun]
    rcases hending with rfl | rfl
    · exact follows_runsAndTakesDown.1
    · exact follows_runsAndTakesDown.2
  · rw [hrun]
    exact follows_takesDown n hn

end AgentPlan

/-! ## What the threads keep to -/

namespace AgentWorld

/-- The plan `p` says what is initialised and has every thread; `q` is what it comes to. -/
structure Matches (q p : AgentPlan) (w : AgentWorld) : Prop where
  follows : p.Follows w.main
  comes_to : p.afterAll w.main = q
  up : ∀ c, w.up c = true ↔ c ∈ p.up
  threads : ∀ t, w.Runs t → t ∈ p.threads
  /-- The state lags behind the creation of the thread, by one action. -/
  started : ∀ t, w.Runs t →
    (w.scheduler t).state = .started ∨ w.main.head? = some (.setStarted t)
  uses : ∀ t ∈ p.threads, ∀ c ∈ t.uses, c ∈ p.up
  callbacks : .iothubAdapter ∈ p.up → ∀ c ∈ callbacksUse, c ∈ p.up

theorem matches_start {main : List AgentAction} (h : AgentPlan.nothing.Follows main) :
    Matches (AgentPlan.nothing.afterAll main) .nothing (start main) where
  follows := h
  comes_to := rfl
  up c := by simp [start, AgentPlan.nothing]
  threads t hruns := by
    obtain ⟨_, hp, _⟩ := hruns
    cases hp
  started t hruns := by
    obtain ⟨_, hp, _⟩ := hruns
    cases hp
  uses t ht := absurd ht List.not_mem_nil
  callbacks h := absurd h List.not_mem_nil

variable {q p : AgentPlan} {w w' : AgentWorld}

/-- A thread that has left the loop was the last to set its state. -/
theorem matches_worker (h : Matches q p w) {t : TaskName} {ph : WorkerPhase}
    (hph : w.worker t = some ph) (hne : ph ≠ .ended) :
    Matches q p { w with
      worker := Function.update w.worker t (some (workerNext (w.scheduler t) ph))
      scheduler := Function.update w.scheduler t (leave (w.scheduler t) ph) } := by
  have hruns : w.Runs t := ⟨ph, hph, hne⟩
  refine ⟨h.follows, h.comes_to, h.up, ?_, ?_, h.uses, h.callbacks⟩
  · rintro u ⟨ph', hq, hq'⟩
    by_cases hu : u = t
    · exact hu ▸ h.threads t hruns
    · simp only [Function.update_of_ne hu] at hq
      exact h.threads u ⟨ph', hq, hq'⟩
  · rintro u ⟨ph', hq, hq'⟩
    by_cases hu : u = t
    · subst hu
      have hstate : (leave (w.scheduler u) ph).state = (w.scheduler u).state := by
        cases ph with
        | leaving =>
            simp only [Function.update_self, workerNext, Option.some.injEq] at hq
            exact absurd hq.symm hq'
        | _ => rfl
      simp only [Function.update_self, hstate]
      exact h.started u hruns
    · simp only [Function.update_of_ne hu] at hq ⊢
      exact h.started u ⟨ph', hq, hq'⟩

theorem Matches.rest (h : Matches q p w) {a : AgentAction} {rest : List AgentAction}
    (hmain : w.main = a :: rest) :
    (p.Permits rest a ∧ (p.after a).Follows rest) ∧ (p.after a).afterAll rest = q := by
  have hfollows := h.follows
  have hlast := h.comes_to
  rw [hmain] at hfollows hlast
  exact ⟨hfollows, hlast⟩

/-- Unless the thread's state is being set, it has been. -/
theorem Matches.is_started (h : Matches q p w) {a : AgentAction} {rest : List AgentAction}
    (hmain : w.main = a :: rest) {t : TaskName} (ha : a ≠ .setStarted t) (ht : w.Runs t) :
    (w.scheduler t).state = .started := by
  rcases h.started t ht with hs | hs
  · exact hs
  · rw [hmain] at hs
    exact absurd (Option.some.inj hs) ha

/-- An action that lets the threads be. -/
theorem Matches.goes_on (h : Matches q p w) {a : AgentAction} {rest : List AgentAction}
    (hmain : w.main = a :: rest) (ha : ∀ t, a ≠ .setStarted t)
    (hthreads : (p.after a).threads = p.threads) {up : AgentComponent → Bool}
    (hup : ∀ c, up c = true ↔ c ∈ (p.after a).up)
    (huses : ∀ t ∈ p.threads, ∀ c ∈ t.uses, c ∈ (p.after a).up)
    (hcallbacks : .iothubAdapter ∈ (p.after a).up → ∀ c ∈ callbacksUse, c ∈ (p.after a).up)
    {scheduler : TaskName → SchedulerThread}
    (hstate : ∀ t ∈ p.threads, (scheduler t).state = (w.scheduler t).state) :
    Matches q (p.after a) { w with up := up, scheduler := scheduler, main := rest } := by
  obtain ⟨⟨_, hnext⟩, hlast⟩ := h.rest hmain
  refine ⟨hnext, hlast, hup, ?_, ?_, ?_, hcallbacks⟩
  · intro t ht
    rw [hthreads]
    exact h.threads t ht
  · intro t ht
    left
    exact (hstate t (h.threads t ht)).trans (h.is_started hmain (ha t) ht)
  · intro t ht
    rw [hthreads] at ht
    exact huses t ht

theorem update_eq_true_iff {up : AgentComponent → Bool} {l : List AgentComponent}
    (h : ∀ c, up c = true ↔ c ∈ l) (c : AgentComponent) :
    (∀ d, Function.update up c true d = true ↔ d ∈ c :: l)
      ∧ ∀ d, Function.update up c false d = true ↔ d ∈ l.filter (· ≠ c) := by
  constructor
  · intro d
    by_cases hd : d = c
    · simp [hd]
    · simp [hd, h d]
  · intro d
    by_cases hd : d = c
    · simp [hd]
    · simp [hd, h d]

/-- A thread that does not run is let go of. -/
theorem Matches.lets_go (h : Matches q p w) {a : AgentAction} {rest : List AgentAction}
    (hmain : w.main = a :: rest) {t : TaskName} (ha : ∀ u, a ≠ .setStarted u)
    (hafter : p.after a = { p with threads := p.threads.filter (· ≠ t) })
    (hnot : ¬ w.Runs t) {worker : TaskName → Option WorkerPhase}
    (hworker : ∀ u ≠ t, worker u = w.worker u) (hended : ∀ ph, worker t = some ph → ph = .ended) :
    Matches q (p.after a) { w with worker := worker, main := rest } := by
  obtain ⟨⟨_, hnext⟩, hlast⟩ := h.rest hmain
  have hruns : ∀ u, ({ w with worker := worker, main := rest } : AgentWorld).Runs u →
      u ≠ t ∧ w.Runs u := by
    rintro u ⟨ph', hq, hq'⟩
    have hu : u ≠ t := by
      rintro rfl
      exact hq' (hended _ hq)
    exact ⟨hu, ph', hworker u hu ▸ hq, hq'⟩
  refine ⟨hnext, hlast, ?_, ?_, ?_, ?_, ?_⟩
  · rw [hafter]
    exact h.up
  · intro u hu
    rw [hafter]
    exact List.mem_filter.mpr ⟨h.threads u (hruns u hu).2, decide_eq_true (hruns u hu).1⟩
  · intro u hu
    exact Or.inl (h.is_started hmain (ha u) (hruns u hu).2)
  · intro u hu
    rw [hafter] at hu ⊢
    exact h.uses u (List.mem_of_mem_filter hu)
  · rw [hafter]
    exact h.callbacks

/-- **An action of the main thread, one case for each.** -/
theorem matches_act (h : Matches q p w) {a : AgentAction} {rest : List AgentAction}
    (hmain : w.main = a :: rest) (hjoin : ∀ t, a = .join t → ¬ w.Runs t) :
    ∃ p', Matches q p' (w.act rest a) := by
  obtain ⟨⟨hpermits, hnext⟩, hlast⟩ := h.rest hmain
  cases a with
  | initialise c =>
      refine ⟨_, h.goes_on hmain (fun _ => nofun) rfl (update_eq_true_iff h.up c).1 ?_ ?_
        (fun _ _ => rfl)⟩
      · intro t ht d hd
        exact List.mem_cons_of_mem c (h.uses t ht d hd)
      · intro hadapter d hd
        refine List.mem_cons_of_mem c ?_
        rcases List.mem_cons.mp hadapter with hc | hin
        · exact hpermits.2 hc.symm d hd
        · exact h.callbacks hin d hd
  | deinitialise c =>
      obtain ⟨_, _, hunused, hcallbacks⟩ := hpermits
      refine ⟨_, h.goes_on hmain (fun _ => nofun) rfl (update_eq_true_iff h.up c).2 ?_ ?_
        (fun _ _ => rfl)⟩
      · intro t ht d hd
        have hdc : d ≠ c := by
          rintro rfl
          exact hunused t ht hd
        exact List.mem_filter.mpr ⟨h.uses t ht d hd, decide_eq_true hdc⟩
      · intro hadapter d hd
        obtain ⟨hin, hne⟩ := List.mem_filter.mp hadapter
        have hdc : d ≠ c := by
          rintro rfl
          rcases hcallbacks hin with hc | hc
          · exact of_decide_eq_true hne hc.symm
          · exact hc hd
        exact List.mem_filter.mpr ⟨h.callbacks hin d hd, decide_eq_true hdc⟩
  | execute t =>
      exact ⟨_, h.goes_on hmain (fun _ => nofun) rfl h.up h.uses h.callbacks (fun _ _ => rfl)⟩
  | schedulerInit t =>
      refine ⟨_, h.goes_on hmain (fun _ => nofun) rfl h.up h.uses h.callbacks ?_⟩
      intro u hu
      have hut : u ≠ t := by
        rintro rfl
        exact hpermits hu
      rw [Function.update_of_ne hut]
  | threadCreate t =>
      refine ⟨p.after (.threadCreate t), hnext, hlast, h.up, ?_, ?_, ?_, h.callbacks⟩
      · rintro u ⟨ph', hq, hq'⟩
        by_cases hu : u = t
        · exact hu ▸ List.mem_cons_self
        · simp only [act, Function.update_of_ne hu] at hq
          exact List.mem_cons_of_mem t (h.threads u ⟨ph', hq, hq'⟩)
      · rintro u ⟨ph', hq, hq'⟩
        by_cases hu : u = t
        · exact Or.inr (hu ▸ hpermits.2)
        · simp only [act, Function.update_of_ne hu] at hq
          exact Or.inl (h.is_started hmain nofun ⟨ph', hq, hq'⟩)
      · intro u hu
        rcases List.mem_cons.mp hu with rfl | hu
        · exact hpermits.1
        · exact h.uses u hu
  | setStarted t =>
      refine ⟨p, hnext, hlast, h.up, h.threads, ?_, h.uses, h.callbacks⟩
      intro u hu
      left
      by_cases hut : u = t
      · simp [act, hut]
      · simp only [act, Function.update_of_ne hut]
        exact h.is_started hmain (fun heq => hut (AgentAction.setStarted.inj heq).symm) hu
  | stopIfStarted t =>
      by_cases hstate : (w.scheduler t).state = .started
      · refine ⟨p, ?_⟩
        simp only [act, if_pos hstate]
        exact ⟨⟨trivial, trivial, hnext⟩, hlast, h.up, h.threads,
          fun u hu => Or.inl (h.is_started hmain nofun hu), h.uses, h.callbacks⟩
      · have hnot : ¬ w.Runs t := fun ht => hstate (h.is_started hmain nofun ht)
        simp only [act, if_neg hstate]
        refine ⟨_, h.lets_go hmain (fun _ => nofun) rfl hnot (fun _ _ => rfl) ?_⟩
        intro ph hph
        by_contra hne
        exact hnot ⟨ph, hph, hne⟩
  | schedulerStop t =>
      refine ⟨_, h.goes_on hmain (fun _ => nofun) rfl h.up h.uses h.callbacks ?_⟩
      intro u _
      by_cases hut : u = t
      · simp [hut]
      · rw [Function.update_of_ne hut]
  | join t =>
      refine ⟨_, h.lets_go hmain (fun _ => nofun) rfl (hjoin t rfl)
        (fun u hu => Function.update_of_ne hu _ _) ?_⟩
      intro ph hph
      rw [Function.update_self] at hph
      cases hph
  | schedulerDeinit t =>
      refine ⟨_, h.goes_on hmain (fun _ => nofun) rfl h.up h.uses h.callbacks ?_⟩
      intro u hu
      have hut : u ≠ t := by
        rintro rfl
        exact hpermits hu
      rw [Function.update_of_ne hut]

theorem matches_reachable {main : List AgentAction} (hfollows : AgentPlan.nothing.Follows main)
    (h : Reachable (start main) w) : ∃ p, Matches (AgentPlan.nothing.afterAll main) p w := by
  induction h with
  | refl => exact ⟨_, matches_start hfollows⟩
  | tail _ hstep ih =>
      obtain ⟨p, hp⟩ := ih
      cases hstep with
      | main hmain hjoin => exact matches_act hp hmain hjoin
      | worker hph hne => exact ⟨p, matches_worker hp hph hne⟩

/-- What any thread does in this state, it may do. -/
structure Sound (w : AgentWorld) : Prop where
  working : ∀ t, w.worker t = some .working → ∀ c ∈ t.uses, w.up c = true
  callbacks : w.up .iothubAdapter = true → ∀ c ∈ callbacksUse, w.up c = true
  initialise : ∀ c rest, w.main = .initialise c :: rest → w.up c = false
  deinitialise : ∀ c rest, w.main = .deinitialise c :: rest →
    (c = .agentTelemetryProvider ∨ w.up c = true) ∧ ∀ d ∈ c.deinitUses, w.up d = true
  execute : ∀ t rest, w.main = .execute t :: rest →
    (∀ c ∈ t.uses, w.up c = true) ∧ ¬ w.Runs t
  schedulerDeinit : ∀ t rest, w.main = .schedulerDeinit t :: rest → ¬ w.Runs t

theorem Matches.sound (h : Matches q p w) : w.Sound where
  working t hw c hc := (h.up c).mpr (h.uses t (h.threads t ⟨_, hw, nofun⟩) c hc)
  callbacks hadapter c hc := (h.up c).mpr (h.callbacks ((h.up _).mp hadapter) c hc)
  initialise c rest hmain := by
    have hc := (h.rest hmain).1.1.1
    exact Bool.eq_false_iff.mpr (fun hup => hc ((h.up c).mp hup))
  deinitialise c rest hmain := by
    obtain ⟨hc, huses, _⟩ := (h.rest hmain).1.1
    exact ⟨hc.imp_right (h.up c).mpr, fun d hd => (h.up d).mpr (huses d hd)⟩
  execute t rest hmain := by
    obtain ⟨huses, hnot⟩ := (h.rest hmain).1.1
    exact ⟨fun c hc => (h.up c).mpr (huses c hc), fun ht => hnot (h.threads t ht)⟩
  schedulerDeinit t rest hmain ht := (h.rest hmain).1.1 (h.threads t ht)

/-- **From the start of the agent to its end no thread uses what is not initialised**, whatever
fails and whichever way the threads interleave. -/
theorem sound_of_reachable {ending : List AgentAction}
    (hending : ending = Agent.wait ∨ ending = Agent.stop) (o : AgentOutcome)
    (h : Reachable (start (Agent.run ending o)) w) : w.Sound := by
  obtain ⟨p, hp⟩ := matches_reachable (AgentPlan.follows_run hending o) h
  exact hp.sound

theorem sound_at_start :
    (start (Agent.main ⟨fun _ => true, true, true, some 1, fun _ => true⟩)).Sound :=
  sound_of_reachable (Or.inl rfl) _ .refl

end AgentWorld

/-! ## What is left -/

namespace AgentPlan

/-- What these steps initialise and nothing deinitialises. -/
def leftBy (done : List AgentStep) : AgentPlan where
  up := [.connectionCreateEventCollector, .processCreationCollector].filter
    fun c => done.contains (.initialise c)
  threads := []

theorem afterAll_takesDown :
    ∀ n < 25, nothing.afterAll (Agent.takesDown (Agent.steps.take n))
      = leftBy (Agent.steps.take n) := by
  decide +kernel

theorem afterAll_runsAndTakesDown :
    nothing.afterAll (Agent.runsAndTakesDown Agent.wait) = leftBy Agent.steps
      ∧ nothing.afterAll (Agent.runsAndTakesDown Agent.stop) = leftBy Agent.steps := by
  decide +kernel

theorem afterAll_run {ending : List AgentAction}
    (hending : ending = Agent.wait ∨ ending = Agent.stop) (o : AgentOutcome) :
    nothing.afterAll (Agent.run ending o) = leftBy (AgentStep.upToFailure o Agent.steps) := by
  rcases Agent.run_cases ending o with ⟨hall, hrun⟩ | ⟨_, n, hn, htake, hrun⟩
  · have hsteps : AgentStep.upToFailure o Agent.steps = Agent.steps :=
      List.takeWhile_eq_self_iff.mpr hall
    rw [hrun, hsteps]
    rcases hending with rfl | rfl
    · exact afterAll_runsAndTakesDown.1
    · exact afterAll_runsAndTakesDown.2
  · rw [hrun, htake]
    exact afterAll_takesDown n hn

end AgentPlan

/-- **When the agent has come to its end no thread runs, and nothing is left initialised but the
two event collectors**, which are if they have ever been. -/
theorem AgentWorld.left_at_end {ending : List AgentAction}
    (hending : ending = Agent.wait ∨ ending = Agent.stop) (o : AgentOutcome) {w : AgentWorld}
    (h : Reachable (start (Agent.run ending o)) w) (hend : w.main = []) :
    (∀ t, ¬ w.Runs t) ∧ ∀ c, w.up c = true ↔
      (c = .processCreationCollector ∨ c = .connectionCreateEventCollector)
        ∧ .initialise c ∈ AgentStep.upToFailure o Agent.steps := by
  obtain ⟨p, hp⟩ := matches_reachable (AgentPlan.follows_run hending o) h
  have hplan := hp.comes_to
  rw [hend, AgentPlan.afterAll_run hending o] at hplan
  have hp' : p = AgentPlan.leftBy (AgentStep.upToFailure o Agent.steps) := hplan
  subst hp'
  refine ⟨fun t ht => absurd (hp.threads t ht) List.not_mem_nil, fun c => ?_⟩
  rw [hp.up c, AgentPlan.leftBy, List.mem_filter, List.contains_iff_mem]
  simp only [List.mem_cons, List.not_mem_nil, or_false]
  exact and_congr_left fun _ => or_comm

theorem AgentWorld.nothing_left_without_logger :
    let w := (start [.deinitialise .agentTelemetryProvider]).act []
      (.deinitialise .agentTelemetryProvider)
    (∀ t, ¬ w.Runs t) ∧ ∀ c, w.up c = true ↔
      (c = .processCreationCollector ∨ c = .connectionCreateEventCollector)
        ∧ .initialise c ∈ AgentStep.upToFailure
            ⟨fun _ => false, true, true, none, fun _ => true⟩ Agent.steps :=
  AgentWorld.left_at_end (Or.inl rfl) ⟨fun _ => false, true, true, none, fun _ => true⟩
    (.tail .refl (.main rfl nofun)) rfl

/-! ## Coming to an end -/

/-- The threads that have been told to stop, after an action. -/
def AgentAction.stopped (stopped : List TaskName) : AgentAction → List TaskName
  | .schedulerInit t => stopped.filter (· ≠ t)
  | .schedulerStop t => t :: stopped
  | _ => stopped

/-- The action waits for no thread but these. -/
def AgentAction.waitsOnlyFor (stopped : List TaskName) : AgentAction → Bool
  | .join t => stopped.contains t
  | _ => true

/-- Every thread has been told to stop before it is joined. -/
def AgentAction.endsFrom (stopped : List TaskName) : List AgentAction → Bool
  | [] => true
  | a :: rest => a.waitsOnlyFor stopped && endsFrom (a.stopped stopped) rest

/-- How many steps a thread takes at most that has been told to stop. -/
def WorkerPhase.left : WorkerPhase → Nat
  | .working => 4
  | .sleeping => 3
  | .testing => 2
  | .leaving => 1
  | .ended => 0

namespace AgentAction

theorem endsFrom_mono {l : List AgentAction} {s s' : List TaskName} (hsub : s ⊆ s')
    (h : endsFrom s l = true) : endsFrom s' l = true := by
  induction l generalizing s s' with
  | nil => rfl
  | cons a rest ih =>
      obtain ⟨hwaits, hrest⟩ := Bool.and_eq_true_iff.mp h
      refine Bool.and_eq_true_iff.mpr ⟨?_, ih ?_ hrest⟩
      · cases a with
        | join t => exact List.contains_iff_mem.mpr (hsub (List.contains_iff_mem.mp hwaits))
        | _ => rfl
      · cases a with
        | schedulerInit t => exact List.filter_subset _ hsub
        | schedulerStop t => exact List.cons_subset_cons t hsub
        | _ => exact hsub

theorem endsFrom_takesDown :
    ∀ n < 25, endsFrom [] (Agent.takesDown (Agent.steps.take n)) = true := by
  decide +kernel

theorem endsFrom_runsAndTakesDown : endsFrom [] (Agent.runsAndTakesDown Agent.stop) = true := by
  decide +kernel

/-- How many steps an action takes at most. -/
def cost : AgentAction → Nat
  | stopIfStarted _ => 3
  | _ => 1

end AgentAction

namespace AgentWorld

variable {w w' : AgentWorld}

theorem Reachable.trans {w'' : AgentWorld} (h : Reachable w w') (h' : Reachable w' w'') :
    Reachable w w'' := by
  induction h' with
  | refl => exact h
  | tail _ hstep ih => exact .tail ih hstep

/-- Those threads have been told to stop, and the main thread waits for no others. -/
structure Stopping (stopped : List TaskName) (w : AgentWorld) : Prop where
  ends : AgentAction.endsFrom stopped w.main = true
  told : ∀ t ∈ stopped, (w.scheduler t).continueRunning = false

variable {stopped : List TaskName}

theorem leave_continueRunning (s : SchedulerThread) (ph : WorkerPhase) :
    (leave s ph).continueRunning = s.continueRunning := by
  cases ph <;> rfl

theorem continueRunning_worker {t : TaskName} {ph : WorkerPhase} (u : TaskName) :
    (Function.update w.scheduler t (leave (w.scheduler t) ph) u).continueRunning
      = (w.scheduler u).continueRunning := by
  by_cases hu : u = t
  · rw [hu, Function.update_self, leave_continueRunning]
  · rw [Function.update_of_ne hu]

theorem Stopping.act (h : Stopping stopped w) {a : AgentAction} {rest : List AgentAction}
    (hmain : w.main = a :: rest) : ∃ stopped', Stopping stopped' (w.act rest a) := by
  have hends := h.ends
  rw [hmain] at hends
  have hrest := (Bool.and_eq_true_iff.mp hends).2
  cases a with
  | schedulerInit t =>
      refine ⟨_, hrest, fun u hu => ?_⟩
      obtain ⟨hin, hne⟩ := List.mem_filter.mp hu
      simp only [AgentWorld.act, Function.update_of_ne (of_decide_eq_true hne)]
      exact h.told u hin
  | setStarted t =>
      refine ⟨_, hrest, fun u hu => ?_⟩
      by_cases hut : u = t
      · subst hut
        simp only [AgentWorld.act, Function.update_self]
        exact h.told u hu
      · simp only [AgentWorld.act, Function.update_of_ne hut]
        exact h.told u hu
  | stopIfStarted t =>
      by_cases hstate : (w.scheduler t).state = .started
      · refine ⟨stopped, ?_, ?_⟩
        · simp only [AgentWorld.act, if_pos hstate]
          refine Bool.and_eq_true_iff.mpr ⟨rfl, Bool.and_eq_true_iff.mpr ⟨?_, ?_⟩⟩
          · exact List.contains_iff_mem.mpr List.mem_cons_self
          · exact AgentAction.endsFrom_mono (List.subset_cons_self t stopped) hrest
        · simp only [AgentWorld.act, if_pos hstate]
          exact h.told
      · simp only [AgentWorld.act, if_neg hstate]
        exact ⟨_, hrest, h.told⟩
  | schedulerStop t =>
      refine ⟨_, hrest, fun u hu => ?_⟩
      by_cases hut : u = t
      · simp only [AgentWorld.act, hut, Function.update_self]
      · simp only [AgentWorld.act, Function.update_of_ne hut]
        exact h.told u ((List.mem_cons.mp hu).resolve_left hut)
  | schedulerDeinit t =>
      refine ⟨_, hrest, fun u hu => ?_⟩
      by_cases hut : u = t
      · simp only [AgentWorld.act, hut, Function.update_self]
      · simp only [AgentWorld.act, Function.update_of_ne hut]
        exact h.told u hu
  | _ => exact ⟨_, hrest, h.told⟩

theorem Stopping.step (h : Stopping stopped w) (hstep : Step w w') :
    ∃ stopped', Stopping stopped' w' := by
  cases hstep with
  | main hmain _ => exact h.act hmain
  | worker _ _ =>
      exact ⟨stopped, h.ends, fun t ht => (continueRunning_worker t).trans (h.told t ht)⟩

theorem left_workerNext {s : SchedulerThread} (htold : s.continueRunning = false)
    {ph : WorkerPhase} (hne : ph ≠ .ended) : (workerNext s ph).left + 1 = ph.left := by
  cases ph with
  | testing => simp [workerNext, htold, WorkerPhase.left]
  | working => rfl
  | sleeping => rfl
  | leaving => rfl
  | ended => exact absurd rfl hne

/-- **A thread that has been told to stop can come to its end by itself.** -/
theorem worker_ends {t : TaskName} {ph : WorkerPhase} (hph : w.worker t = some ph)
    (htold : (w.scheduler t).continueRunning = false) :
    ∃ w', Reachable w w' ∧ ¬ w'.Runs t ∧ w'.main = w.main
      ∧ ∀ u, (w'.scheduler u).continueRunning = (w.scheduler u).continueRunning := by
  induction hn : ph.left generalizing w ph with
  | zero =>
      have hended : ph = .ended := by
        cases ph with
        | ended => rfl
        | _ => cases hn
      refine ⟨w, .refl, ?_, rfl, fun _ => rfl⟩
      rintro ⟨ph', hph', hne⟩
      rw [hph, hended] at hph'
      exact hne (Option.some.inj hph').symm
  | succ n ih =>
      have hne : ph ≠ .ended := by
        rintro rfl
        cases hn
      have hleft := left_workerNext htold hne
      obtain ⟨v, hstep, hv, hmain, hsame⟩ : ∃ v, Step w v
          ∧ v.worker t = some (workerNext (w.scheduler t) ph) ∧ v.main = w.main
          ∧ ∀ u, (v.scheduler u).continueRunning = (w.scheduler u).continueRunning :=
        ⟨_, .worker hph hne, by simp, rfl, continueRunning_worker⟩
      obtain ⟨w', hreach, hnot, hmain', hsame'⟩ := ih hv ((hsame t).trans htold) (by omega)
      exact ⟨w', (Reachable.refl.tail hstep).trans hreach, hnot, hmain'.trans hmain,
        fun u => (hsame' u).trans (hsame u)⟩

theorem can_be_joined {t : TaskName} (htold : (w.scheduler t).continueRunning = false) :
    ∃ w', Reachable w w' ∧ ¬ w'.Runs t ∧ w'.main = w.main
      ∧ ∀ u, (w'.scheduler u).continueRunning = (w.scheduler u).continueRunning := by
  cases hw : w.worker t with
  | some ph => exact worker_ends hw htold
  | none =>
      refine ⟨w, .refl, ?_, rfl, fun _ => rfl⟩
      rintro ⟨ph, hph, _⟩
      rw [hw] at hph
      cases hph

/-- The main thread can always take its next step, after the thread it waits for has ended. -/
theorem Stopping.next (h : Stopping stopped w) {a : AgentAction} {rest : List AgentAction}
    (hmain : w.main = a :: rest) :
    ∃ w' s', Reachable w w' ∧ Stopping s' w' ∧ ∃ v : AgentWorld, w' = v.act rest a := by
  have hready : ∃ v, Reachable w v ∧ Stopping stopped v ∧ v.main = a :: rest
      ∧ ∀ t, a = .join t → ¬ v.Runs t := by
    by_cases hjoin : ∃ t, a = .join t
    · obtain ⟨t, rfl⟩ := hjoin
      have hends := h.ends
      rw [hmain] at hends
      have hin : t ∈ stopped := List.contains_iff_mem.mp (Bool.and_eq_true_iff.mp hends).1
      obtain ⟨v, hreach, hnot, hsame, hcontinue⟩ := can_be_joined (h.told t hin)
      refine ⟨v, hreach, ⟨hsame ▸ h.ends, fun u hu => (hcontinue u).trans (h.told u hu)⟩,
        hsame.trans hmain, ?_⟩
      intro u hu
      exact AgentAction.join.inj hu ▸ hnot
    · exact ⟨w, .refl, h, hmain, fun t ht => absurd ⟨t, ht⟩ hjoin⟩
  obtain ⟨v, hreach, hstopping, hv, hjoin⟩ := hready
  obtain ⟨s', hs'⟩ := hstopping.act hv
  exact ⟨_, s', hreach.tail (.main hv hjoin), hs', v, rfl⟩

/-- How many steps the main thread has left at most. -/
def left (w : AgentWorld) : Nat := (w.main.map AgentAction.cost).sum

theorem left_act {a : AgentAction} {rest : List AgentAction} (v : AgentWorld) :
    (v.act rest a).left < ((a :: rest).map AgentAction.cost).sum := by
  cases a with
  | stopIfStarted t =>
      simp only [act]
      split
      · simp only [left, List.map_cons, List.sum_cons, AgentAction.cost]
        omega
      · simp [left, AgentAction.cost]
  | _ => simp [left, act, AgentAction.cost]

theorem Stopping.can_end (h : Stopping stopped w) : ∃ w', Reachable w w' ∧ w'.main = [] := by
  induction hn : w.left using Nat.strongRecOn generalizing w stopped with
  | ind n ih =>
      cases hmain : w.main with
      | nil => exact ⟨w, .refl, hmain⟩
      | cons a rest =>
          obtain ⟨w', s', hreach, hs', v, rfl⟩ := h.next hmain
          have hlt : (v.act rest a).left < n := by
            have hleft : w.left = ((a :: rest).map AgentAction.cost).sum := by rw [left, hmain]
            rw [← hn, hleft]
            exact left_act v
          obtain ⟨w'', hreach', hend⟩ := ih _ hlt hs' rfl
          exact ⟨w'', hreach.trans hreach', hend⟩

end AgentWorld

/-! ## Waiting -/

/-- The main thread joins the publisher, which is told to run (`told`) and has been created
(`created`), before it tells it to stop. -/
def AgentAction.waitsForPublisher (told created : Bool) : List AgentAction → Bool
  | [] => false
  | a :: rest => match a with
    | .schedulerInit .publisher => !created && waitsForPublisher true created rest
    | .threadCreate .publisher => told && waitsForPublisher told true rest
    | .join .publisher => created
    | .schedulerStop _ => false
    | .stopIfStarted _ => false
    | .schedulerDeinit _ => false
    | _ => waitsForPublisher told created rest

theorem AgentAction.waitsForPublisher_run :
    waitsForPublisher false false (Agent.runsAndTakesDown Agent.wait) = true := by
  decide +kernel

namespace AgentWorld

variable {w w' : AgentWorld}

/-- The publisher goes round its loop. -/
structure Publishing (told created : Bool) (w : AgentWorld) : Prop where
  waits : AgentAction.waitsForPublisher told created w.main = true
  runs : told = true → (w.scheduler .publisher).continueRunning = true
  works : created = true → told = true ∧
    ∃ ph, w.worker .publisher = some ph ∧ ph ≠ .leaving ∧ ph ≠ .ended

variable {told created : Bool}

theorem workerNext_of_continueRunning {s : SchedulerThread} (h : s.continueRunning = true)
    {ph : WorkerPhase} (hleaving : ph ≠ .leaving) (hended : ph ≠ .ended) :
    workerNext s ph ≠ .leaving ∧ workerNext s ph ≠ .ended := by
  cases ph with
  | testing => simp [workerNext, h]
  | working => exact ⟨nofun, nofun⟩
  | sleeping => exact ⟨nofun, nofun⟩
  | leaving => exact absurd rfl hleaving
  | ended => exact absurd rfl hended

theorem Publishing.worker (h : Publishing told created w) {t : TaskName} {ph : WorkerPhase}
    (hph : w.worker t = some ph) :
    Publishing told created { w with
      worker := Function.update w.worker t (some (workerNext (w.scheduler t) ph))
      scheduler := Function.update w.scheduler t (leave (w.scheduler t) ph) } := by
  refine ⟨h.waits, fun ht => (continueRunning_worker _).trans (h.runs ht), fun hc => ?_⟩
  obtain ⟨htold, ph', hph', hleaving, hended⟩ := h.works hc
  refine ⟨htold, ?_⟩
  by_cases ht : t = .publisher
  · subst ht
    obtain rfl : ph = ph' := Option.some.inj (hph.symm.trans hph')
    have hnext := workerNext_of_continueRunning (h.runs htold) hleaving hended
    exact ⟨_, by simp, hnext⟩
  · exact ⟨ph', (Function.update_of_ne (Ne.symm ht) _ _).trans hph', hleaving, hended⟩

theorem Publishing.act (h : Publishing told created w) {a : AgentAction}
    {rest : List AgentAction} (hmain : w.main = a :: rest)
    (hjoin : ∀ t, a = .join t → ¬ w.Runs t) :
    ∃ told' created', Publishing told' created' (w.act rest a) := by
  have hwaits := h.waits
  rw [hmain] at hwaits
  cases a with
  | schedulerInit t =>
      cases t with
      | publisher =>
          obtain ⟨hc, hrest⟩ := Bool.and_eq_true_iff.mp hwaits
          refine ⟨true, created, hrest, fun _ => ?_, fun hc' => ?_⟩
          · simp [AgentWorld.act]
          · rw [hc'] at hc
            cases hc
      | monitor => exact ⟨told, created, hwaits, h.runs, h.works⟩
      | updateTwin => exact ⟨told, created, hwaits, h.runs, h.works⟩
  | threadCreate t =>
      cases t with
      | publisher =>
          obtain ⟨ht, hrest⟩ := Bool.and_eq_true_iff.mp hwaits
          exact ⟨told, true, hrest, h.runs, fun _ =>
            ⟨ht, .testing, by simp [AgentWorld.act], nofun, nofun⟩⟩
      | monitor => exact ⟨told, created, hwaits, h.runs, h.works⟩
      | updateTwin => exact ⟨told, created, hwaits, h.runs, h.works⟩
  | join t =>
      cases t with
      | publisher =>
          -- it runs, so that the main thread does not get beyond this action
          obtain ⟨_, ph, hph, _, hended⟩ := h.works hwaits
          exact absurd ⟨ph, hph, hended⟩ (hjoin .publisher rfl)
      | monitor => exact ⟨told, created, hwaits, h.runs, h.works⟩
      | updateTwin => exact ⟨told, created, hwaits, h.runs, h.works⟩
  | setStarted t =>
      refine ⟨told, created, hwaits, fun ht => ?_, h.works⟩
      cases t with
      | publisher => simpa [AgentWorld.act] using h.runs ht
      | monitor => exact h.runs ht
      | updateTwin => exact h.runs ht
  | schedulerStop t => cases hwaits
  | stopIfStarted t => cases hwaits
  | schedulerDeinit t => cases hwaits
  | initialise c => exact ⟨told, created, hwaits, h.runs, h.works⟩
  | deinitialise c => exact ⟨told, created, hwaits, h.runs, h.works⟩
  | execute t => exact ⟨told, created, hwaits, h.runs, h.works⟩

theorem publishing_reachable {main : List AgentAction}
    (hwaits : AgentAction.waitsForPublisher false false main = true)
    (h : Reachable (start main) w) : ∃ told created, Publishing told created w := by
  induction h with
  | refl => exact ⟨false, false, hwaits, nofun, nofun⟩
  | tail _ hstep ih =>
      obtain ⟨_, _, hp⟩ := ih
      cases hstep with
      | main hmain hjoin => exact hp.act hmain hjoin
      | worker hph _ => exact ⟨_, _, hp.worker hph⟩

theorem stopping_reachable {main : List AgentAction}
    (hends : AgentAction.endsFrom [] main = true) (h : Reachable (start main) w) :
    ∃ stopped, Stopping stopped w := by
  induction h with
  | refl => exact ⟨[], hends, fun t ht => absurd ht List.not_mem_nil⟩
  | tail _ hstep ih =>
      obtain ⟨_, hs⟩ := ih
      exact hs.step hstep

end AgentWorld

/-- **Where a step of the start fails, or the agent is told to stop, it can come to its end from
whatever state it is in; else it never does**: the publisher goes round its loop for ever. -/
theorem AgentWorld.can_end_or_never {ending : List AgentAction}
    (hending : ending = Agent.wait ∨ ending = Agent.stop) (o : AgentOutcome) :
    (ending = Agent.stop ∨ (∃ s ∈ Agent.steps, ¬ s.succeeds o) →
      ∀ w, Reachable (start (Agent.run ending o)) w → ∃ w', Reachable w w' ∧ w'.main = [])
    ∧ (ending = Agent.wait → (∀ s ∈ Agent.steps, s.succeeds o) →
      ∀ w, Reachable (start (Agent.run ending o)) w → w.main ≠ []) := by
  constructor
  · intro hstops w h
    have hends : AgentAction.endsFrom [] (Agent.run ending o) = true := by
      rcases Agent.run_cases ending o with ⟨hall, hrun⟩ | ⟨_, n, hn, _, hrun⟩
      · rcases hstops with rfl | ⟨s, hs, hfails⟩
        · rw [hrun]
          exact AgentAction.endsFrom_runsAndTakesDown
        · exact absurd (hall s hs) hfails
      · rw [hrun]
        exact AgentAction.endsFrom_takesDown n hn
    obtain ⟨_, hs⟩ := stopping_reachable hends h
    exact hs.can_end
  · rintro rfl hall w h hend
    have hrun : Agent.run Agent.wait o = Agent.runsAndTakesDown Agent.wait := by
      rcases Agent.run_cases Agent.wait o with ⟨_, hrun⟩ | ⟨⟨s, hs, hfails⟩, _⟩
      · exact hrun
      · exact absurd (hall s hs) hfails
    rw [hrun] at h
    obtain ⟨_, _, hp⟩ := publishing_reachable AgentAction.waitsForPublisher_run h
    have hwaits := hp.waits
    rw [hend] at hwaits
    cases hwaits

theorem AgentWorld.can_end_or_never_unconnected :
    let o : AgentOutcome := ⟨fun _ => true, true, false, none, fun _ => true⟩
    (Agent.wait = Agent.stop ∨ (∃ s ∈ Agent.steps, ¬ s.succeeds o) →
      ∀ w, Reachable (start (Agent.run Agent.wait o)) w → ∃ w', Reachable w w' ∧ w'.main = [])
    ∧ (Agent.wait = Agent.wait → (∀ s ∈ Agent.steps, s.succeeds o) →
      ∀ w, Reachable (start (Agent.run Agent.wait o)) w → w.main ≠ []) :=
  AgentWorld.can_end_or_never (Or.inl rfl) _

end SecurityAgent
