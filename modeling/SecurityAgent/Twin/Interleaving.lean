import Mathlib.Logic.Function.Basic
import SecurityAgent.Lib.Run
import SecurityAgent.Twin.Update

/-!
# Several threads at the collectors' lock

The locking protocol in its atomic steps, any number of threads taking them in
any order: test the flag, acquire, set the flag, the body, test the flag again,
release, clear the flag. The flag is not protected by the lock it stands for, and
a thread that was refused because of it goes through the second half all the same:
it then releases a lock another thread has.

One thread alone does what the sequential `locked` does (`alone_eq_locked`).
-/

namespace SecurityAgent

namespace EventCollectors

/-- Where a thread is. A thread that was refused remembers it. -/
inductive Phase where
  /-- In no operation; its next step is the test of the flag that begins one. -/
  | outside
  /-- The flag was clear. -/
  | acquiring
  /-- The lock is taken. -/
  | setting
  | inBody
  /-- Behind `cleanup:`. -/
  | testing (refused : Bool)
  | releasing (refused : Bool)
  | clearing (refused : Bool)
  deriving DecidableEq, Repr

/-- A thread that should have the lock. -/
def Phase.Holds : Phase → Prop
  | .setting | .inBody | .testing false | .releasing false => True
  | _ => False

/-- A thread that was refused. -/
def Phase.Refused : Phase → Prop
  | .testing true | .releasing true | .clearing true => True
  | _ => False

/-- The module and its threads. -/
structure Threads where
  collectors : EventCollectors
  phase : Nat → Phase
  /-- Who took the lock last, as long as nobody has released it. -/
  holder : Option Nat

/-- The next step of a thread. What the body does matters when it is the body's turn. -/
structure Move where
  thread : Nat
  body : EventPriorities → EventPriorities
  /-- The body leaves by the `return` in the switch of an aggregation getter. -/
  returnsEarly : Bool

namespace Threads

/-- All threads are outside, and the module is as `Init` leaves it. -/
def init : Threads := ⟨EventCollectors.init, fun _ => .outside, none⟩

/-- Thread `t` goes on. -/
def goto (s : Threads) (t : Nat) (p : Phase) : Threads :=
  { s with phase := Function.update s.phase t p }

/-- One atomic step. It gives whether an operation that returned was refused; it does not happen
when the thread waits for the lock. -/
def step (s : Threads) (move : Move) : Option (Option Bool × Threads) :=
  match s.phase move.thread with
  | .outside =>
      if s.collectors.isLocked then some (none, s.goto move.thread (.testing true))
      else some (none, s.goto move.thread .acquiring)
  | .acquiring =>
      match s.collectors.lock.lock true with
      | none => none
      | some (false, _) => some (none, s.goto move.thread (.testing true))
      | some (true, handle) =>
          some (none, { s.goto move.thread .setting with
            collectors := { s.collectors with lock := handle }, holder := some move.thread })
  | .setting =>
      some (none, { s.goto move.thread .inBody with
        collectors := { s.collectors with isLocked := true } })
  | .inBody =>
      if move.returnsEarly then some (some false, s.goto move.thread .outside)
      else some (none, { s.goto move.thread (.testing false) with
        collectors := { s.collectors with
          eventPriorities := move.body s.collectors.eventPriorities } })
  | .testing refused =>
      if s.collectors.isLocked then some (none, s.goto move.thread (.releasing refused))
      else some (none, s.goto move.thread (.clearing refused))
  | .releasing refused =>
      some (none, { s.goto move.thread (.clearing refused) with
        collectors := { s.collectors with lock := (s.collectors.lock.unlock true).2 }
        holder := none })
  | .clearing refused =>
      some (some refused, { s.goto move.thread .outside with
        collectors := { s.collectors with isLocked := false } })

/-- Nobody disturbs anybody. -/
structure Exclusive (s : Threads) : Prop where
  /-- At most one thread is in a body. -/
  alone : ∀ t t', s.phase t = .inBody → s.phase t' = .inBody → t = t'
  /-- Who is about to release the lock has it. -/
  own : ∀ t refused, s.phase t = .releasing refused → s.holder = some t
  /-- Nobody has been refused. -/
  accepted : ∀ t, s.phase t ≠ .testing true ∧ s.phase t ≠ .releasing true
    ∧ s.phase t ≠ .clearing true

/-- A thread does not begin an operation while the flag is set. -/
def FlagClear (s : Threads) (move : Move) : Prop :=
  s.phase move.thread = .outside → s.collectors.isLocked = false

/-- As long as nobody is refused, who should have the lock has it. -/
structure Inv (s : Threads) : Prop where
  holds : ∀ t, (s.phase t).Holds → s.holder = some t
  accepted : ∀ t, ¬ (s.phase t).Refused
  lock : s.collectors.lock = if s.holder = none then .free else .held

theorem inv_init : Inv init := ⟨fun _ h => h.elim, fun _ h => h, rfl⟩

theorem Inv.exclusive {s : Threads} (h : Inv s) : Exclusive s where
  alone := fun t t' ht ht' => by
    have hholds := h.holds t (by rw [ht]; trivial)
    rw [h.holds t' (by rw [ht']; trivial)] at hholds
    exact (Option.some.inj hholds).symm
  own := fun t refused ht => by
    cases refused with
    | false => exact h.holds t (by rw [ht]; trivial)
    | true => exact absurd (by rw [ht]; trivial) (h.accepted t)
  accepted := fun t => by
    have ha := h.accepted t
    refine ⟨fun he => ?_, fun he => ?_, fun he => ?_⟩ <;> rw [he] at ha <;> exact ha trivial

/-- One thread moves to a phase it may be in; what the others have is not touched. -/
theorem Inv.move {s : Threads} (h : Inv s) {t : Nat} {p : Phase} {c : EventCollectors}
    {holder : Option Nat} (hp : p.Holds → holder = some t) (hr : ¬ p.Refused)
    (hothers : ∀ u, u ≠ t → (s.phase u).Holds → holder = some u)
    (hlock : c.lock = if holder = none then .free else .held) :
    Inv ⟨c, Function.update s.phase t p, holder⟩ := by
  constructor
  · intro u hu
    by_cases hut : u = t
    · subst hut
      dsimp only at hu
      rw [Function.update_self] at hu
      exact hp hu
    · dsimp only at hu
      rw [Function.update_of_ne hut] at hu
      exact hothers u hut hu
  · intro u
    dsimp only
    by_cases hut : u = t
    · subst hut
      rw [Function.update_self]
      exact hr
    · rw [Function.update_of_ne hut]
      exact h.accepted u
  · exact hlock

/-- A step that begins no operation under a set flag keeps the invariant. -/
theorem inv_step {s s' : Threads} {move : Move} {o : Option Bool} (h : Inv s)
    (hclear : FlagClear s move) (hs : step s move = some (o, s')) : Inv s' := by
  have hholder : ∀ u, u ≠ move.thread → (s.phase u).Holds → s.holder = some u :=
    fun u _ hu => h.holds u hu
  unfold step at hs
  cases hp : s.phase move.thread with
  | outside =>
      rw [hp] at hs
      dsimp only at hs
      rw [hclear hp, if_neg (by decide), Option.some.injEq, Prod.mk.injEq] at hs
      rw [← hs.2]
      exact h.move (fun hf => hf.elim) (fun hf => hf) hholder h.lock
  | acquiring =>
      rw [hp] at hs
      dsimp only at hs
      cases hh : s.holder with
      | some u =>
          -- the thread waits
          have hheld := h.lock
          rw [hh, if_neg (by simp)] at hheld
          rw [hheld] at hs
          exact absurd hs (by simp [LockHandle.lock])
      | none =>
          have hfree := h.lock
          rw [hh, if_pos rfl] at hfree
          rw [hfree] at hs
          obtain ⟨-, rfl⟩ := Prod.mk.inj (Option.some.inj hs)
          refine h.move (fun _ => rfl) (fun hf => hf) (fun u _ hu => ?_) rfl
          rw [h.holds u hu] at hh
          exact absurd hh (by simp)
  | setting =>
      rw [hp] at hs
      obtain ⟨-, rfl⟩ := Prod.mk.inj (Option.some.inj hs)
      exact h.move (fun _ => h.holds _ (by rw [hp]; trivial)) (fun hf => hf) hholder h.lock
  | inBody =>
      rw [hp] at hs
      dsimp only at hs
      cases hearly : move.returnsEarly with
      | true =>
          rw [hearly, if_pos rfl] at hs
          obtain ⟨-, rfl⟩ := Prod.mk.inj (Option.some.inj hs)
          exact h.move (fun hf => hf.elim) (fun hf => hf) hholder h.lock
      | false =>
          rw [hearly, if_neg (by decide)] at hs
          obtain ⟨-, rfl⟩ := Prod.mk.inj (Option.some.inj hs)
          exact h.move (fun _ => h.holds _ (by rw [hp]; trivial)) (fun hf => hf) hholder h.lock
  | testing refused =>
      have ha := h.accepted move.thread
      rw [hp] at hs ha
      cases refused with
      | true => exact absurd trivial ha
      | false =>
          dsimp only at hs
          cases hflag : s.collectors.isLocked with
          | true =>
              rw [hflag, if_pos rfl] at hs
              obtain ⟨-, rfl⟩ := Prod.mk.inj (Option.some.inj hs)
              exact h.move (fun _ => h.holds _ (by rw [hp]; trivial)) (fun hf => hf) hholder h.lock
          | false =>
              -- somebody cleared the flag in between: the lock is never released
              rw [hflag, if_neg (by decide)] at hs
              obtain ⟨-, rfl⟩ := Prod.mk.inj (Option.some.inj hs)
              exact h.move (fun hf => hf.elim) (fun hf => hf) hholder h.lock
  | releasing refused =>
      have ha := h.accepted move.thread
      rw [hp] at hs ha
      cases refused with
      | true => exact absurd trivial ha
      | false =>
          obtain ⟨-, rfl⟩ := Prod.mk.inj (Option.some.inj hs)
          have hmine := h.holds move.thread (by rw [hp]; trivial)
          have hheld := h.lock
          rw [hmine, if_neg (by simp)] at hheld
          refine h.move (fun hf => hf.elim) (fun hf => hf) (fun u hu hholds => ?_) ?_
          · rw [h.holds u hholds] at hmine
            exact absurd (Option.some.inj hmine) hu
          · rw [hheld]; rfl
  | clearing refused =>
      rw [hp] at hs
      obtain ⟨-, rfl⟩ := Prod.mk.inj (Option.some.inj hs)
      exact h.move (fun hf => hf.elim) (fun hf => hf) hholder h.lock

/-- **Mutual exclusion** lasts through a run exactly as long as no thread begins an operation
while the flag is set. -/
theorem exclusive_iff (moves : List Move) :
    Machine.Throughout step Exclusive init moves ↔ Machine.Along step FlagClear init moves := by
  refine Machine.throughout_iff_along_of_invariant (I := Inv) (fun s h => h.exclusive)
    (fun s move o s' h hc hs => inv_step h hc hs) (fun s move _ hc => ?_) inv_init
  -- the thread is refused
  unfold FlagClear at hc
  obtain ⟨hp, hflag⟩ := Classical.not_imp.mp hc
  rw [Bool.not_eq_false] at hflag
  refine ⟨none, s.goto move.thread (.testing true), ?_, fun h => ?_⟩
  · unfold step
    rw [hp, hflag]
    rfl
  · refine (h.accepted move.thread).1 ?_
    show Function.update s.phase move.thread _ move.thread = _
    rw [Function.update_self]

/-- The first thread is in its body; the second is refused, and releases the lock on its way out;
the third enters. -/
theorem two_threads_in_body :
    ¬ ∀ moves : List Move, Machine.Throughout step Exclusive init moves := by
  intro h
  let move (t : Nat) : Move := ⟨t, id, false⟩
  have hrun := (((((((((((h [move 0, move 0, move 0, move 1, move 1, move 1, move 1, move 2,
    move 2, move 2]).2 _ _ rfl).2 _ _ rfl).2 _ _ rfl).2 _ _ rfl).2 _ _ rfl).2 _ _ rfl).2 _ _
    rfl).2 _ _ rfl).2 _ _ rfl).2 _ _ rfl)
  exact absurd (hrun.alone 0 2 rfl rfl) (by decide)

/-! ## One thread alone -/

/-- A thread alone goes through its seven steps, and comes out where `locked` does. -/
theorem alone_eq_locked {s : Threads} (hm : s.collectors.Free) {t : Nat}
    (ht : s.phase t = .outside) (f : EventPriorities → EventPriorities) :
    ∃ os s', Machine.run step s (List.replicate 7 ⟨t, f, false⟩) = some (os, s')
      ∧ os.getLast? = some (some false)
      ∧ locked ⟨true, true⟩ () (fun m => (.ok, (), { m with
          eventPriorities := f m.eventPriorities })) s.collectors
        = some (.ok, (), s'.collectors) := by
  obtain ⟨⟨p, handle, flag⟩, phase, holder⟩ := s
  obtain ⟨rfl, rfl⟩ : handle = .free ∧ flag = false := ⟨hm.lock, hm.flag⟩
  replace ht : phase t = .outside := ht
  simp only [List.replicate, Machine.run, step, ht, goto, Function.update_self, LockHandle.lock,
    LockHandle.unlock, Bool.false_eq_true, if_false, if_true]
  exact ⟨_, _, rfl, rfl, rfl⟩

end Threads

end EventCollectors

end SecurityAgent
