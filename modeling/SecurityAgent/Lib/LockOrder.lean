import Mathlib.Logic.Function.Basic
import Mathlib.Logic.Relation

/-!
# Locks taken in an order

Threads that take locks, each around a piece of code, and give them back at its end. Only what
the code does with its locks is kept: a script says in which order they are taken
and leaves open which branch is taken and how often a loop goes round.

A lock may be taken while others are held only if its rank is above theirs. Scripts are
checked one procedure at a time (`Script.Ordered`), with a rank for each procedure below
which its callers must stay; what is checked then holds of every thread at any time, and
waiting leads upwards in rank, so it comes to an end (`leads_on`).

Not everything a thread waits for is such a lock. A script may enter a part of the
system that has rules of its own, and it stays there for as long as these rules keep it.
-/

namespace Locking

variable {L F κ ι σ : Type}

/-- What a piece of code does with its locks. -/
inductive Script (L F κ : Type) where
  | nothing
  | andThen (first second : Script L F κ)
  | either (one other : Script L F κ)
  /-- Any number of times. -/
  | repeated (body : Script L F κ)
  | holding (l : L) (body : Script L F κ)
  | call (f : F)
  /-- An operation of the part that has its own rules. -/
  | enter (c : κ)

/-- What a thread has still to do, the next first. -/
inductive Instruction (L F κ : Type) where
  | todo (s : Script L F κ)
  | unlock (l : L)

abbrev Stack (L F κ : Type) := List (Instruction L F κ)

/-- The stack of a thread that has these procedures to run. -/
def calls (fs : List F) : Stack L F κ := fs.map fun f => .todo (.call f)

/-- The rules of the part that scripts enter. -/
structure Component (ι κ σ : Type) where
  /-- A thread goes on inside. -/
  within : σ → ι → κ → σ → Prop
  /-- A thread goes on and is outside again. -/
  leaves : σ → ι → κ → σ → Prop

/-- The threads and the part with its own rules. -/
structure System (L F κ ι σ : Type) where
  threads : ι → Stack L F κ
  component : σ

/-- A thread holds the locks it has still to give back; the others are free. -/
def System.Free (s : System L F κ ι σ) (l : L) : Prop :=
  ∀ t, Instruction.unlock l ∉ s.threads t

section Steps

variable (body : F → Script L F κ)

/-- One step of a thread on its own, while these locks are free. -/
inductive Goes (free : L → Prop) : Stack L F κ → Stack L F κ → Prop where
  | nothing {k} : Goes free (.todo .nothing :: k) k
  | andThen {a b k} : Goes free (.todo (.andThen a b) :: k) (.todo a :: .todo b :: k)
  | one {a b k} : Goes free (.todo (.either a b) :: k) (.todo a :: k)
  | other {a b k} : Goes free (.todo (.either a b) :: k) (.todo b :: k)
  | enough {a k} : Goes free (.todo (.repeated a) :: k) k
  | again {a k} : Goes free (.todo (.repeated a) :: k) (.todo a :: .todo (.repeated a) :: k)
  | lock {l a k} : free l → Goes free (.todo (.holding l a) :: k) (.todo a :: .unlock l :: k)
  | unlock {l k} : Goes free (.unlock l :: k) k
  | call {f k} : Goes free (.todo (.call f) :: k) (.todo (body f) :: k)

variable [DecidableEq ι] (comp : Component ι κ σ)

/-- One step of thread `t`. -/
inductive Step : System L F κ ι σ → ι → System L F κ ι σ → Prop where
  | goes {s t k} : Goes body s.Free (s.threads t) k →
      Step s t { s with threads := Function.update s.threads t k }
  | within {s t c k σ'} : s.threads t = .todo (.enter c) :: k → comp.within s.component t c σ' →
      Step s t { s with component := σ' }
  | leaves {s t c k σ'} : s.threads t = .todo (.enter c) :: k → comp.leaves s.component t c σ' →
      Step s t ⟨Function.update s.threads t k, σ'⟩

/-- What any interleaving leads to. -/
inductive Reachable (start : System L F κ ι σ) : System L F κ ι σ → Prop where
  | refl : Reachable start start
  | tail {s s' t} : Reachable start s → Step body comp s t s' → Reachable start s'

end Steps

/-- `t` wants a lock that `u` has. -/
def System.WaitsFor (s : System L F κ ι σ) (t u : ι) : Prop :=
  ∃ l a k, s.threads t = .todo (.holding l a) :: k ∧ Instruction.unlock l ∈ s.threads u

/-- `t` is at an operation of the part with its own rules. -/
def System.Enters (s : System L F κ ι σ) (t : ι) : Prop :=
  ∃ c k, s.threads t = .todo (.enter c) :: k

/-! ## The order -/

section Order

variable (rank : L → Nat) (most : F → Nat)

/-- May be run while locks up to this rank are held. `most f` is the highest rank that the
procedure `f` may find held. -/
def Script.Ordered : Nat → Script L F κ → Prop
  | _, .nothing => True
  | b, .andThen first second => first.Ordered b ∧ second.Ordered b
  | b, .either one other => one.Ordered b ∧ other.Ordered b
  | b, .repeated a => a.Ordered b
  | b, .holding l a => b < rank l ∧ a.Ordered (rank l)
  | b, .call f => b ≤ most f
  | _, .enter _ => True

/-- A script that is ordered can be decided to be. -/
instance Script.decidableOrdered : ∀ (b : Nat) (a : Script L F κ),
    Decidable (a.Ordered rank most b)
  | _, .nothing => .isTrue trivial
  | b, .andThen first second =>
      @instDecidableAnd _ _ (decidableOrdered b first) (decidableOrdered b second)
  | b, .either one other =>
      @instDecidableAnd _ _ (decidableOrdered b one) (decidableOrdered b other)
  | b, .repeated a => decidableOrdered b a
  | b, .holding l a => @instDecidableAnd _ _ (Nat.decLt b (rank l)) (decidableOrdered (rank l) a)
  | b, .call f => Nat.decLe b (most f)
  | _, .enter _ => .isTrue trivial

/-- The rank of the lock taken last. -/
def bound : Stack L F κ → Nat
  | [] => 0
  | .todo _ :: k => bound k
  | .unlock l :: _ => rank l

/-- The locks a thread holds go up in rank, and so do those it has still to take. -/
def Ordered : Stack L F κ → Prop
  | [] => True
  | .todo a :: k => a.Ordered rank most (bound rank k) ∧ Ordered k
  | .unlock l :: k => bound rank k < rank l ∧ Ordered k

variable {rank most}

/-- What is fine under locks is fine under fewer. -/
theorem Script.Ordered.mono {b b' : Nat} (hb : b' ≤ b) {a : Script L F κ}
    (h : a.Ordered rank most b) : a.Ordered rank most b' := by
  induction a with
  | nothing => exact trivial
  | andThen first second ihFirst ihSecond => exact ⟨ihFirst h.1, ihSecond h.2⟩
  | either one other ihOne ihOther => exact ⟨ihOne h.1, ihOther h.2⟩
  | repeated a ih => exact ih h
  | holding l a => exact ⟨Nat.lt_of_le_of_lt hb h.1, h.2⟩
  | call f => exact Nat.le_trans hb h
  | enter c => exact trivial

/-- No lock a thread holds is above the one it took last. -/
theorem rank_le_bound {l : L} {k : Stack L F κ} (h : Ordered rank most k)
    (hl : Instruction.unlock l ∈ k) : rank l ≤ bound rank k := by
  induction k with
  | nil => exact absurd hl List.not_mem_nil
  | cons i k ih =>
      rcases List.mem_cons.mp hl with rfl | hmem
      · exact Nat.le_refl _
      · cases i with
        | todo a => exact ih h.2 hmem
        | unlock l' =>
            have hle := ih h.2 hmem
            have hlt : bound rank k < rank l' := h.1
            show rank l ≤ rank l'
            omega

theorem bound_calls (fs : List F) : bound rank (calls fs : Stack L F κ) = 0 := by
  induction fs with
  | nil => rfl
  | cons f fs ih => exact ih

/-- A thread that holds no lock may run any procedures. -/
theorem ordered_calls (fs : List F) : Ordered rank most (calls fs : Stack L F κ) := by
  induction fs with
  | nil => exact trivial
  | cons f fs ih =>
      refine ⟨?_, ih⟩
      show bound rank (calls fs) ≤ most f
      rw [bound_calls]
      exact Nat.zero_le _

/-- The rank of the lock a thread is about to take. -/
def wanted (rank : L → Nat) : Stack L F κ → Nat
  | .todo (.holding l _) :: _ => rank l
  | _ => 0

/-- **Waiting leads upwards**: what is waited for is held by a thread that itself can only wait
for something of a higher rank. -/
theorem wanted_lt {s : System L F κ ι σ} (hs : ∀ t, Ordered rank most (s.threads t)) {t u v : ι}
    (h : s.WaitsFor t u) (h' : s.WaitsFor u v) :
    wanted rank (s.threads t) < wanted rank (s.threads u) := by
  obtain ⟨l, a, k, ht, hl⟩ := h
  obtain ⟨l', a', k', hu, -⟩ := h'
  have hordered := hs u
  rw [ht, hu]
  rw [hu] at hordered hl
  have hmem : Instruction.unlock l ∈ k' := by
    rcases List.mem_cons.mp hl with heq | hmem
    · exact absurd heq (by simp)
    · exact hmem
  have hle := rank_le_bound hordered.2 hmem
  have hlt : bound rank k' < rank l' := hordered.1.1
  show rank l < rank l'
  omega

variable {body : F → Script L F κ}

/-- **A step keeps the order**, if every procedure is ordered under what it may find held. -/
theorem Goes.ordered (hbody : ∀ f, (body f).Ordered rank most (most f)) {free : L → Prop}
    {k k' : Stack L F κ} (h : Goes body free k k') (hk : Ordered rank most k) :
    Ordered rank most k' := by
  cases h with
  | nothing => exact hk.2
  | andThen => exact ⟨hk.1.1, hk.1.2, hk.2⟩
  | one => exact ⟨hk.1.1, hk.2⟩
  | other => exact ⟨hk.1.2, hk.2⟩
  | enough => exact hk.2
  | again => exact ⟨hk.1, hk.1, hk.2⟩
  | lock _ => exact ⟨hk.1.2, hk.1.1, hk.2⟩
  | unlock => exact hk.2
  | call => exact ⟨(hbody _).mono hk.1, hk.2⟩

variable [DecidableEq ι] {comp : Component ι κ σ}

/-- Every thread of a reachable system is ordered. -/
theorem Reachable.ordered (hbody : ∀ f, (body f).Ordered rank most (most f))
    {start s : System L F κ ι σ} (hstart : ∀ t, Ordered rank most (start.threads t))
    (h : Reachable body comp start s) : ∀ t, Ordered rank most (s.threads t) := by
  induction h with
  | refl => exact hstart
  | @tail s s' u _ hstep ih =>
      -- what one thread is left with, the others as they were
      have hupdate : ∀ k, Ordered rank most k → ∀ t,
          Ordered rank most (Function.update s.threads u k t) := by
        intro k hk t
        by_cases ht : t = u
        · subst ht
          rwa [Function.update_self]
        · rw [Function.update_of_ne ht]
          exact ih t
      cases hstep with
      | goes hgoes => exact hupdate _ (hgoes.ordered hbody (ih u))
      | within _ _ => exact ih
      | leaves hu _ =>
          refine hupdate _ ?_
          have hordered := ih u
          rw [hu] at hordered
          exact hordered.2

/-! ## Waiting -/

variable (body comp) in
/-- A thread with something left to do goes on, waits for another or is inside the component. -/
theorem goes_or_waits {s : System L F κ ι σ} {t : ι} (ht : s.threads t ≠ []) :
    (∃ s', Step body comp s t s') ∨ (∃ u, s.WaitsFor t u) ∨ s.Enters t := by
  have hgo : ∀ {k}, Goes body s.Free (s.threads t) k → ∃ s', Step body comp s t s' :=
    fun hgoes => ⟨_, .goes hgoes⟩
  cases hk : s.threads t with
  | nil => exact absurd hk ht
  | cons i k =>
      rw [hk] at hgo
      cases i with
      | unlock l => exact Or.inl (hgo .unlock)
      | todo a =>
          cases a with
          | nothing => exact Or.inl (hgo .nothing)
          | andThen first second => exact Or.inl (hgo .andThen)
          | either one other => exact Or.inl (hgo .one)
          | repeated a => exact Or.inl (hgo .enough)
          | call f => exact Or.inl (hgo .call)
          | enter c => exact Or.inr (Or.inr ⟨c, k, hk⟩)
          | holding l a =>
              by_cases hfree : s.Free l
              · exact Or.inl (hgo (.lock hfree))
              · obtain ⟨u, hu⟩ := not_forall.mp hfree
                exact Or.inr (Or.inl ⟨u, l, a, k, hk, not_not.mp hu⟩)

/-- **Whoever waits is led on** to a thread that can go on, or that is inside the component: there
is no way round in a circle. -/
theorem leads_on {top : Nat} (htop : ∀ l, rank l ≤ top) {s : System L F κ ι σ}
    (hs : ∀ t, Ordered rank most (s.threads t)) :
    ∀ t, s.threads t ≠ [] → ∃ u, Relation.ReflTransGen s.WaitsFor t u
      ∧ ((∃ s', Step body comp s u s') ∨ s.Enters u) := by
  have hwanted : ∀ t, wanted rank (s.threads t) ≤ top := by
    intro t
    unfold wanted
    split
    · exact htop _
    · exact Nat.zero_le _
  -- by induction on how far the rank can still go up
  intro t
  induction hn : top - wanted rank (s.threads t) using Nat.strongRecOn generalizing t with
  | _ n ih =>
      intro ht
      rcases goes_or_waits body comp ht with hgo | ⟨u, hu⟩ | henter
      · exact ⟨t, .refl, Or.inl hgo⟩
      · have hleft : s.threads u ≠ [] := by
          obtain ⟨l, -, -, -, hl⟩ := hu
          exact List.ne_nil_of_mem hl
        rcases goes_or_waits body comp hleft with hgo | ⟨v, hv⟩ | henter
        · exact ⟨u, .single hu, Or.inl hgo⟩
        · have hlt := wanted_lt hs hu hv
          have hle := hwanted u
          obtain ⟨w, hw, hend⟩ :=
            ih (top - wanted rank (s.threads u)) (by omega) u rfl hleft
          exact ⟨w, .head hu hw, hend⟩
        · exact ⟨u, .single hu, Or.inr henter⟩
      · exact ⟨t, .refl, Or.inr henter⟩

end Order

end Locking
