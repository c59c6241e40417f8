import SecurityAgent.Lib.Keeps

/-!
# The effective user: `process_info_handler.c`

What needs root asks for it with `ChangeToRoot` and gives it back with `Reset`. The
handler remembers who the process was, and whether it has changed that: a process
that is root already has nothing to give back.
-/

namespace SecurityAgent

open Keeping

/-- The process, as far as the kernel keeps it for `seteuid`. -/
structure Privileges where
  /-- `geteuid()`. -/
  euid : UInt32
  /-- How often `seteuid` has been called. -/
  calls : Nat
  deriving DecidableEq

/-- Whether `seteuid` succeeds, by how often it has been called before and by its argument. -/
abbrev SetEuid := Nat → UInt32 → Bool

/-- `seteuid`. -/
def seteuid (answer : SetEuid) (euid : UInt32) : StateM Privileges Bool := fun p =>
  if answer p.calls euid then (true, ⟨euid, p.calls + 1⟩) else (false, ⟨p.euid, p.calls + 1⟩)

/-- `ProcessInfo`. -/
structure ProcessInfo where
  effectiveUid : UInt32
  wasSet : Bool
  deriving DecidableEq

namespace ProcessInfoHandler

/-- `ProcessInfoHandler_ChangeToRoot`. -/
def changeToRoot (answer : SetEuid) : StateM Privileges (Bool × ProcessInfo) := do
  let effectiveUid := (← get).euid
  if effectiveUid = 0 then pure (true, ⟨effectiveUid, false⟩)
  else do
    let changed ← seteuid answer 0
    pure (changed, ⟨effectiveUid, changed⟩)

/-- `ProcessInfoHandler_Reset`. -/
def reset (answer : SetEuid) (processInfo : ProcessInfo) : StateM Privileges Bool :=
  if processInfo.wasSet = false then pure true else seteuid answer processInfo.effectiveUid

/-! ## What is held -/

/-- The user the process is, and the user it was when the handler was filled. -/
def Held (processInfo : ProcessInfo) (before now : UInt32) : Prop :=
  (processInfo.wasSet = false ∧ now = before)
    ∨ (processInfo.wasSet = true ∧ processInfo.effectiveUid = before ∧ now = 0)

/-- Switching back to this user succeeds; root is never switched back to. -/
def SwitchesBack (answer : SetEuid) (euid : UInt32) : Prop :=
  euid ≠ 0 → ∀ calls, answer calls euid = true

variable {answer : SetEuid}

theorem switchesBack_zero : SwitchesBack answer 0 := fun h => absurd rfl h

theorem SwitchesBack.of_held {processInfo : ProcessInfo} {before now : UInt32}
    (h : SwitchesBack answer before) (hheld : Held processInfo before now) :
    SwitchesBack answer now := by
  rcases hheld with ⟨-, rfl⟩ | ⟨-, -, rfl⟩
  · exact h
  · exact switchesBack_zero

theorem changeToRoot_eq (p : Privileges) : changeToRoot answer p
    = if p.euid = 0 then ((true, ⟨p.euid, false⟩), p)
      else (((seteuid answer 0 p).1, ⟨p.euid, (seteuid answer 0 p).1⟩), (seteuid answer 0 p).2) := by
  show (if p.euid = 0 then (pure (true, ⟨p.euid, false⟩) : StateM Privileges (Bool × ProcessInfo))
    else _) p = _
  by_cases hroot : p.euid = 0
  · rw [if_pos hroot, if_pos hroot]
    rfl
  · rw [if_neg hroot, if_neg hroot]
    rfl

/-- The two outcomes of `ChangeToRoot`: the process is root, or it is who it was. -/
theorem changeToRoot_held (answer : SetEuid) (p : Privileges) :
    Held (changeToRoot answer p).1.2 p.euid (changeToRoot answer p).2.euid
      ∧ ((changeToRoot answer p).1.1 = true → (changeToRoot answer p).2.euid = 0)
      ∧ ((changeToRoot answer p).1.1 = false → (changeToRoot answer p).2.euid = p.euid) := by
  by_cases hroot : p.euid = 0
  · have hchange : changeToRoot answer p = ((true, ⟨p.euid, false⟩), p) := by
      rw [changeToRoot_eq, if_pos hroot]
    rw [hchange]
    exact ⟨Or.inl ⟨rfl, rfl⟩, fun _ => hroot, fun h => Bool.noConfusion h⟩
  · have hchange : changeToRoot answer p
        = (((seteuid answer 0 p).1, ⟨p.euid, (seteuid answer 0 p).1⟩), (seteuid answer 0 p).2) := by
      rw [changeToRoot_eq, if_neg hroot]
    rw [hchange]
    unfold seteuid
    cases answer p.calls 0 with
    | true => exact ⟨Or.inr ⟨rfl, rfl, rfl⟩, fun _ => rfl, fun h => Bool.noConfusion h⟩
    | false => exact ⟨Or.inl ⟨rfl, rfl⟩, fun h => Bool.noConfusion h, fun _ => rfl⟩

/-- **`Reset` gives back what is held**, if the switch back succeeds. -/
theorem reset_held {processInfo : ProcessInfo} {before : UInt32} {p : Privileges}
    (hback : SwitchesBack answer before) (h : Held processInfo before p.euid) :
    (reset answer processInfo p).2.euid = before := by
  rcases h with ⟨hset, hsame⟩ | ⟨hset, huid, hzero⟩
  · have hreset : reset answer processInfo p = (true, p) := by
      unfold reset
      rw [if_pos hset]
      rfl
    rw [hreset]
    exact hsame
  · have hreset : reset answer processInfo p = seteuid answer before p := by
      unfold reset
      rw [if_neg (by rw [hset]; exact Bool.true_eq_false.mp), huid]
    rw [hreset]
    unfold seteuid
    by_cases hanswer : answer p.calls before = true
    · rw [if_pos hanswer]
    · -- only root is not switched back to
      have hbefore : before = 0 := Classical.byContradiction fun hne => hanswer (hback hne p.calls)
      rw [if_neg hanswer]
      exact hzero.trans hbefore.symm

/-! ## Between the two -/

/-- A program after which the process is who it was, if switching back succeeds. -/
abbrev Restores (answer : SetEuid) {α : Type} (m : StateM Privileges α) : Prop :=
  Keeps Privileges.euid (SwitchesBack answer) m

/-- What `ChangeToRoot` has given, whether it is root or not. -/
def HeldIfRoot (r : Bool × ProcessInfo) (before now : UInt32) : Prop :=
  Held r.2 before now ∧ (r.1 = false → now = before)

theorem changeToRoot_acquires :
    Acquires Privileges.euid (SwitchesBack answer) HeldIfRoot (changeToRoot answer) := by
  intro p _
  obtain ⟨hheld, -, hsame⟩ := changeToRoot_held answer p
  exact ⟨hheld, hsame⟩

/-- What the callers do that note whether the switch to root has succeeded. -/
def resetIfRoot (answer : SetEuid) (r : Bool × ProcessInfo) : StateM Privileges Bool :=
  if r.1 then reset answer r.2 else pure true

theorem resetIfRoot_releases :
    Releases Privileges.euid (SwitchesBack answer) HeldIfRoot (resetIfRoot answer) := by
  intro r before p hback h
  unfold resetIfRoot
  cases hroot : r.1 with
  | true => exact reset_held hback h.1
  | false => exact h.2 hroot

/-- **A program that asks for root and resets it restores the user**, whatever it does as root. -/
theorem restores_asRoot {α : Type} {body : Bool × ProcessInfo → StateM Privileges α}
    (hbody : ∀ r, Restores answer (body r)) :
    Restores answer (changeToRoot answer >>= fun r => body r >>= fun a =>
      resetIfRoot answer r >>= fun _ => pure a) :=
  Keeps.bracket (fun _ _ _ hback h => hback.of_held h.1) changeToRoot_acquires hbody
    resetIfRoot_releases

end ProcessInfoHandler

end SecurityAgent
