import Mathlib.Data.List.Count

/-!
# Handles: acquired, used, released

A client acquires handles from a library, hands them back in its calls and releases
them. What it has done is a trace of events, and the trace is lawful when no call is
given a handle that an earlier call has released.

A client that holds one handle at a time is a `Session`: it is enough to follow its
events with the handle that is live.
-/

namespace Lifetime

variable {φ : Type}

/-- What a client does. Handles are numbered as they are given out. -/
inductive Event (φ : Type) where
  | acquire (handle : Nat)
  | use (function : φ) (handle : Nat)
  | release (handle : Nat)
  deriving DecidableEq, Repr

/-- The handle a call is given. The one that is acquired is what the call returns. -/
def Event.argument : Event φ → Option Nat
  | .acquire _ => none
  | .use _ handle | .release handle => some handle

/-- The handle a call releases. -/
def Event.released : Event φ → Option Nat
  | .acquire _ | .use _ _ => none
  | .release handle => some handle

/-- No call is given a handle that has been released. -/
def NoUseAfterRelease (trace : List (Event φ)) : Prop :=
  trace.Pairwise fun e e' => e.released ≠ none → e'.argument ≠ e.released

instance (trace : List (Event φ)) : Decidable (NoUseAfterRelease trace) :=
  inferInstanceAs (Decidable (List.Pairwise _ _))

theorem released_eq_some {e : Event φ} {handle : Nat} :
    e.released = some handle ↔ e = .release handle := by
  cases e <;> simp [Event.released]

theorem noUseAfterRelease_append {past trace : List (Event φ)} :
    NoUseAfterRelease (past ++ trace) ↔ NoUseAfterRelease past ∧ NoUseAfterRelease trace
      ∧ ∀ handle, .release handle ∈ past → ∀ e ∈ trace, e.argument ≠ some handle := by
  unfold NoUseAfterRelease
  rw [List.pairwise_append]
  refine and_congr_right fun _ => and_congr_right fun _ => ⟨?_, ?_⟩
  · intro h handle hm e he
    exact h _ hm e he (by simp [Event.released])
  · intro h e he e' he' hr
    obtain ⟨handle, hh⟩ := Option.ne_none_iff_exists'.mp hr
    rw [hh]
    exact h handle (released_eq_some.mp hh ▸ he) e' he'

/-- A handle is released at most once then. -/
theorem NoUseAfterRelease.release_once [DecidableEq φ] {trace : List (Event φ)}
    (h : NoUseAfterRelease trace) (handle : Nat) : trace.count (.release handle) ≤ 1 := by
  induction trace with
  | nil => exact Nat.zero_le 1
  | cons e trace ih =>
      obtain ⟨hhead, htail⟩ := List.pairwise_cons.mp h
      by_cases he : e = .release handle
      · have hnot : .release handle ∉ trace := fun hm => hhead _ hm (by simp [he, Event.released])
          (by simp [he, Event.released, Event.argument])
        have hnone := List.count_eq_zero_of_not_mem hnot
        rw [he, List.count_cons_self]
        omega
      · rw [List.count_cons_of_ne he]
        exact ih htail

/-! ## Sessions -/

/-- Where a client with one handle at a time stands. -/
structure Session where
  /-- The handle it may use. -/
  live : Option Nat
  /-- The next handle it is given. -/
  next : Nat

/-- What it may do next. It may acquire a handle while it has another, which is a leak. -/
def Session.follow (s : Session) : Event φ → Option Session
  | .acquire handle => if handle = s.next then some ⟨some handle, handle + 1⟩ else none
  | .use _ handle => if s.live = some handle then some s else none
  | .release handle => if s.live = some handle then some ⟨none, s.next⟩ else none

/-- The trace that has led to a session is lawful, and its live handle is none that was released. -/
structure Session.After (s : Session) (past : List (Event φ)) : Prop where
  lawful : NoUseAfterRelease past
  released : ∀ handle, .release handle ∈ past → handle < s.next ∧ s.live ≠ some handle
  live : ∀ handle, s.live = some handle → handle < s.next

theorem Session.after_nil (next : Nat) : (Session.mk none next).After ([] : List (Event φ)) :=
  ⟨List.Pairwise.nil, fun _ h => absurd h List.not_mem_nil, fun _ h => absurd h (by simp)⟩

theorem Session.After.follow {s s' : Session} {past : List (Event φ)} (h : s.After past)
    {e : Event φ} (hs : s.follow e = some s') : s'.After (past ++ [e]) := by
  have hlawful : (∀ handle, .release handle ∈ past → e.argument ≠ some handle) →
      NoUseAfterRelease (past ++ [e]) := by
    intro harg
    refine noUseAfterRelease_append.mpr ⟨h.lawful, List.pairwise_singleton _ _, ?_⟩
    intro handle hm e' he'
    exact List.mem_singleton.mp he' ▸ harg handle hm
  cases e with
  | acquire handle =>
      simp only [Session.follow, Option.ite_none_right_eq_some, Option.some.injEq] at hs
      obtain ⟨rfl, rfl⟩ := hs
      refine ⟨hlawful fun _ _ => by simp [Event.argument], ?_, ?_⟩
      · intro handle hm
        have hm : .release handle ∈ past := by simpa using hm
        have hlt := (h.released handle hm).1
        exact ⟨Nat.lt_succ_of_lt hlt, fun he => absurd (Option.some.inj he) (by omega)⟩
      · intro handle he
        exact Option.some.inj he ▸ Nat.lt_succ_self _
  | use function handle =>
      simp only [Session.follow, Option.ite_none_right_eq_some, Option.some.injEq] at hs
      obtain ⟨hlive, rfl⟩ := hs
      refine ⟨hlawful fun handle' hm he => ?_, ?_, h.live⟩
      · exact (h.released handle' hm).2 (hlive.trans he)
      · intro handle' hm
        exact h.released handle' (by simpa using hm)
  | release handle =>
      simp only [Session.follow, Option.ite_none_right_eq_some, Option.some.injEq] at hs
      obtain ⟨hlive, rfl⟩ := hs
      refine ⟨hlawful fun handle' hm he => ?_, ?_, fun _ he => absurd he (by simp)⟩
      · exact (h.released handle' hm).2 (hlive.trans he)
      · intro handle' hm
        refine ⟨?_, by simp⟩
        rcases List.mem_append.mp hm with hm | hm
        · exact (h.released handle' hm).1
        · rw [List.mem_singleton, Event.release.injEq] at hm
          exact hm ▸ h.live handle hlive

/-- A client may forget its handle. -/
theorem Session.After.forget {s : Session} {past : List (Event φ)} (h : s.After past) :
    (Session.mk none s.next).After past :=
  ⟨h.lawful, fun handle hm => ⟨(h.released handle hm).1, by simp⟩, fun _ he => absurd he (by simp)⟩

/-- Uses of the live handle leave a session as it is. -/
theorem foldlM_uses {handle next : Nat} {trace : List (Event φ)}
    (h : ∀ e ∈ trace, ∃ function, e = .use function handle) :
    trace.foldlM Session.follow ⟨some handle, next⟩ = some ⟨some handle, next⟩ := by
  induction trace with
  | nil => rfl
  | cons e trace ih =>
      obtain ⟨function, rfl⟩ := h e List.mem_cons_self
      rw [List.foldlM_cons, Session.follow, if_pos rfl]
      exact ih fun e he => h e (List.mem_cons_of_mem _ he)

/-- **A client that follows a session keeps its trace lawful.** -/
theorem Session.After.foldlM {trace : List (Event φ)} :
    ∀ {s s' : Session} {past : List (Event φ)}, s.After past →
      trace.foldlM Session.follow s = some s' → s'.After (past ++ trace) := by
  induction trace with
  | nil =>
      intro s s' past h hs
      rw [List.foldlM_nil] at hs
      exact (Option.some.inj hs) ▸ (List.append_nil past).symm ▸ h
  | cons e trace ih =>
      intro s s' past h hs
      rw [List.foldlM_cons] at hs
      obtain ⟨s₁, hs₁, hs⟩ := Option.bind_eq_some_iff.mp hs
      rw [List.append_cons]
      exact ih (h.follow hs₁) hs

end Lifetime
