import SecurityAgent.Auth.EarlierLives
import SecurityAgent.Hub.IoTHubAdapter
import SecurityAgent.Lib.Loop
import SecurityAgent.Util.Duration

/-!
# The wait for a connection: the loop of `IoTHubAdapter_Connect`

The loop counts the time by itself, 100 at a time in 32 bits, and goes on while the count is less
than the timeout. A timeout that is no multiple of 100 and close to 2³² would never be reached:
the count would jump over it. But the local configuration can hold none, for the reader of
durations gives whole seconds.

What a round sees of the adapter is whatever the callbacks have left there by then.
-/

namespace SecurityAgent

open TimeUtils Loop

namespace IoTHubAdapter

/-- The variables of the loop. -/
structure ConnectWait where
  elapsedTime : UInt32
  stop : Bool
  deriving DecidableEq, Repr

namespace ConnectWait

/-- Before the first round. -/
def start : ConnectWait := ⟨0, false⟩

/-- The condition of the loop. -/
def goesOn (timeout : UInt32) (w : ConnectWait) : Bool := !w.stop && w.elapsedTime < timeout

/-- One round, by what it sees of the adapter. -/
def round (a : IoTHubAdapter) (w : ConnectWait) : ConnectWait :=
  let (isConnected, isPermanent) := a.validateAdapterConnectionStatus
  ⟨w.elapsedTime + 100, (isConnected && a.hasTwinConfiguration) || isPermanent⟩

theorem goesOn_iff {timeout : UInt32} {w : ConnectWait} :
    goesOn timeout w = true ↔ w.stop = false ∧ w.elapsedTime.toNat < timeout.toNat := by
  simp [goesOn, UInt32.lt_iff_toNat_lt]

/-- A round before the timeout, if both are multiples of 100, comes to the timeout at most. -/
theorem round_elapsedTime {timeout : UInt32} (htimeout : timeout.toNat % 100 = 0)
    {w : ConnectWait} (hw : w.elapsedTime.toNat % 100 = 0)
    (hlt : w.elapsedTime.toNat < timeout.toNat) (a : IoTHubAdapter) :
    (round a w).elapsedTime.toNat = w.elapsedTime.toNat + 100
      ∧ w.elapsedTime.toNat + 100 ≤ timeout.toNat := by
  have hbound := timeout.toNat_lt
  have h100 : (100 : UInt32).toNat = 100 := rfl
  refine ⟨?_, by omega⟩
  show (w.elapsedTime + 100).toNat = _
  rw [UInt32.toNat_add, h100]
  omega

end ConnectWait

open ConnectWait

/-! ## The wait ends -/

section Wait

variable {timeout : UInt32} (htimeout : timeout.toNat % 100 = 0) (seen : Nat → IoTHubAdapter)

include htimeout in
/-- **The wait ends**, after a hundredth of the timeout at most. -/
theorem wait_leaves : ∃ n, Leaves (goesOn timeout) round seen start n := by
  obtain ⟨n, -, hleaves⟩ := @exists_leaves _ _ (goesOn timeout) round seen start
    (fun w => w.elapsedTime.toNat % 100 = 0) (fun w => timeout.toNat - w.elapsedTime.toNat) rfl (by
      intro a w hw hgoes
      have hlt := (goesOn_iff.mp hgoes).2
      obtain ⟨hround, hle⟩ := round_elapsedTime htimeout hw hlt a
      omega)
  exact ⟨n, hleaves⟩

variable {seen} {n : Nat} (h : Leaves (goesOn timeout) round seen start n)

include htimeout h in
/-- **The count never wraps** up to then, and is never past the timeout. -/
theorem wait_elapsedTime : ∀ m ≤ n, (after round seen start m).elapsedTime.toNat = 100 * m
    ∧ 100 * m ≤ timeout.toNat := by
  have hbelow := h.invariant (I := fun w => w.elapsedTime.toNat % 100 = 0
    ∧ w.elapsedTime.toNat ≤ timeout.toNat) ⟨rfl, Nat.zero_le _⟩ (by
      intro a w hw hgoes
      obtain ⟨hround, hle⟩ := round_elapsedTime htimeout hw.1 (goesOn_iff.mp hgoes).2 a
      omega)
  intro m
  induction m with
  | zero => intro _; exact ⟨rfl, Nat.zero_le _⟩
  | succ m ih =>
      intro hm
      obtain ⟨hcount, -⟩ := ih (by omega)
      have hlt := (goesOn_iff.mp (h.stays m (by omega))).2
      obtain ⟨hround, hle⟩ := round_elapsedTime htimeout (hbelow m (by omega)).1 hlt (seen m)
      have hnext : (after round seen start (m + 1)).elapsedTime.toNat
          = (after round seen start m).elapsedTime.toNat + 100 := hround
      omega

include h in
/-- **It is not left too early**: a wait in which no round has seen the twin on a connection, or a
permanent error, has come to its timeout. -/
theorem wait_timeout (hwait : ∀ m < n, ((seen m).connected = false
      ∨ (seen m).hasTwinConfiguration = false)
    ∧ (seen m).validateAdapterConnectionStatus.2 = false) :
    timeout.toNat ≤ (after round seen start n).elapsedTime.toNat := by
  have hstop : (after round seen start n).stop = false := by
    cases n with
    | zero => rfl
    | succ m =>
        obtain ⟨hnot, hpermanent⟩ := hwait m (by omega)
        have hconnected : (seen m).validateAdapterConnectionStatus.1 = (seen m).connected := by
          unfold validateAdapterConnectionStatus
          split
          · next hc => exact hc.symm
          · next hc => exact (Bool.not_eq_true _ ▸ hc).symm
        show (((seen m).validateAdapterConnectionStatus.1 && (seen m).hasTwinConfiguration)
          || (seen m).validateAdapterConnectionStatus.2) = false
        rw [hpermanent, hconnected, Bool.or_false, Bool.and_eq_false_iff]
        exact hnot
  by_contra hlt
  have hgoes := goesOn_iff.mpr ⟨hstop, Nat.lt_of_not_le hlt⟩
  exact absurd (hgoes.symm.trans h.leaves) Bool.true_eq_false.mp

end Wait

/--
**The wait for a connection ends.** For every timeout that a duration can be read as, and whatever
the rounds see of the adapter, the loop is left after finitely many rounds; its count is a hundred
for each of them, does not wrap and is never past the timeout; and where no round has seen the twin
on a connection, or a permanent error, the loop is left when the count has reached the timeout.
-/
theorem connect_wait_ends {duration : List Char} {timeout : UInt32}
    (hread : iso8601DurationStringToMilliseconds duration = some timeout)
    (seen : Nat → IoTHubAdapter) :
    ∃ n, Leaves (goesOn timeout) round seen start n
      ∧ (∀ m ≤ n, (after round seen start m).elapsedTime.toNat = 100 * m ∧ 100 * m ≤ timeout.toNat)
      ∧ ((∀ m < n, ((seen m).connected = false ∨ (seen m).hasTwinConfiguration = false)
          ∧ (seen m).validateAdapterConnectionStatus.2 = false) →
        (after round seen start n).elapsedTime = timeout) := by
  have hseconds := (iso8601DurationString_wholeSeconds hread).1
  have htimeout : timeout.toNat % 100 = 0 := by omega
  obtain ⟨n, hleaves⟩ := wait_leaves htimeout seen
  have hcount := wait_elapsedTime htimeout hleaves
  refine ⟨n, hleaves, hcount, fun hwait => UInt32.toNat_inj.mp ?_⟩
  have hreached := wait_timeout hleaves hwait
  have hlast := hcount n (Nat.le_refl _)
  omega

/-- The longest wait there is. -/
theorem connect_wait_ends_longest :
    ∃ n, Leaves (goesOn 4294967000) round (fun _ => .zero) start n
      ∧ (∀ m ≤ n, (after round (fun _ => .zero) start m).elapsedTime.toNat = 100 * m
        ∧ 100 * m ≤ (4294967000 : UInt32).toNat)
      ∧ ((∀ m < n, (IoTHubAdapter.zero.connected = false
          ∨ IoTHubAdapter.zero.hasTwinConfiguration = false)
          ∧ IoTHubAdapter.zero.validateAdapterConnectionStatus.2 = false) →
        (after round (fun _ => .zero) start n).elapsedTime = 4294967000) :=
  @connect_wait_ends "PT4294967S".toList 4294967000 (by decide) fun _ => .zero

/-! ## The wait in `IoTHubAdapter_Connect` -/

/-- The adapter after so many sleeps, by what is called back in them. -/
def seenAfter (sleeps : Nat → List HubCallback) (a : IoTHubAdapter) : Nat → IoTHubAdapter
  | 0 => a
  | n + 1 => (callbacks (sleeps n) (seenAfter sleeps a n)).2

theorem callbacks_append (cs cs' : List HubCallback) (a : IoTHubAdapter) :
    (callbacks (cs ++ cs') a).2 = (callbacks cs' (callbacks cs a).2).2 := by
  induction cs generalizing a with
  | nil => rfl
  | cons c cs ih => exact ih (a.callback c).2

theorem seenAfter_eq (sleeps : Nat → List HubCallback) (a : IoTHubAdapter) (n : Nat) :
    seenAfter sleeps a n = (callbacks ((List.range n).flatMap sleeps) a).2 := by
  induction n with
  | zero => rfl
  | succ n ih =>
      rw [List.range_succ, List.flatMap_append, callbacks_append, ← ih, List.flatMap_singleton]
      rfl

section Sleeps

variable {timeout : UInt32} {sleeps : Nat → List HubCallback} {a : IoTHubAdapter} {n : Nat}
  (h : Leaves (goesOn timeout) round (seenAfter sleeps a) start n)

include h in
/-- What comes in from the `m`-th sleep on is what comes in up to the end of the wait. -/
theorem arrivals_from (count : Nat) : ∀ m ≤ n, n ≤ m + count →
    (after round (seenAfter sleeps a) start m).stop = false →
    arrivals timeout (after round (seenAfter sleeps a) start m).elapsedTime
        ((List.range' m count).map sleeps) (seenAfter sleeps a m)
      = (List.range' m (n - m)).flatMap sleeps := by
  induction count with
  | zero =>
      intro m hm hle _
      obtain rfl : m = n := by omega
      rw [Nat.sub_self]
      rfl
  | succ count ih =>
      intro m hm hle hstop
      rw [List.range'_succ, List.map_cons]
      unfold arrivals
      rcases Nat.lt_or_ge m n with hlt | hge
      · have hgoes := (goesOn_iff.mp (h.stays m hlt)).2
        have hleft : n - m = (n - (m + 1)) + 1 := by omega
        rw [if_pos (UInt32.lt_iff_toNat_lt.mpr hgoes), hleft, List.range'_succ, List.flatMap_cons]
        have hround : (after round (seenAfter sleeps a) start (m + 1)).stop
            = (((seenAfter sleeps a m).validateAdapterConnectionStatus.1
                && (seenAfter sleeps a m).hasTwinConfiguration)
              || (seenAfter sleeps a m).validateAdapterConnectionStatus.2) := rfl
        dsimp only
        rw [← hround]
        cases hnext : (after round (seenAfter sleeps a) start (m + 1)).stop with
        | true =>
            -- the sleep after `stop` has been set is the last one
            have hlast : ¬ m + 1 < n := fun hlater => by
              have hgoes := (goesOn_iff.mp (h.stays (m + 1) hlater)).1
              exact Bool.true_eq_false.mp (hnext.symm.trans hgoes)
            have hnone : n - (m + 1) = 0 := by omega
            rw [if_pos rfl, hnone, List.range'_zero, List.flatMap_nil, List.append_nil]
        | false =>
            rw [if_neg Bool.false_ne_true]
            exact congrArg _ (ih (m + 1) hlt (by omega) hnext)
      · obtain rfl : m = n := by omega
        have hend : ¬ (after round (seenAfter sleeps a) start m).elapsedTime < timeout := fun hlt =>
          Bool.false_ne_true (h.leaves.symm.trans
            (goesOn_iff.mpr ⟨hstop, UInt32.lt_iff_toNat_lt.mp hlt⟩))
        rw [if_neg hend, Nat.sub_self]
        rfl

include h in
/-- **`IoTHubAdapter_Connect` sleeps as often as the loop has rounds**, and its result is that of the
adapter as it is then. -/
theorem connect_eq {count : Nat} (hcount : n ≤ count) :
    (connect timeout ((List.range count).map sleeps) a).1
        = ((seenAfter sleeps a n).connected && (seenAfter sleeps a n).hasTwinConfiguration)
      ∧ (connect timeout ((List.range count).map sleeps) a).2.2 = seenAfter sleeps a n := by
  have harrivals := arrivals_from h count 0 (Nat.zero_le n) (by omega) rfl
  have hall : arrivals timeout 0 ((List.range count).map sleeps) a
      = (List.range n).flatMap sleeps := by
    rw [List.range_eq_range', List.range_eq_range']
    exact harrivals
  rw [seenAfter_eq]
  unfold connect
  rw [hall]
  exact ⟨rfl, rfl⟩

end Sleeps

/-- **The wait for the configured timeout ends**, whatever is called back in its sleeps. -/
theorem configured_wait_leaves {o : InitializationAnswer} {timeout : UInt32}
    (h : LocalConfiguration.connectionTimeoutOf o = some timeout)
    (sleeps : Nat → List HubCallback) (a : IoTHubAdapter) :
    ∃ n, Leaves (goesOn timeout) round (seenAfter sleeps a) start n := by
  obtain ⟨_, -, h⟩ := Option.bind_eq_some_iff.mp h
  obtain ⟨jsonReader, -, h⟩ := Option.bind_eq_some_iff.mp h
  obtain ⟨duration, hread⟩ : ∃ duration,
      iso8601DurationStringToMilliseconds duration = some timeout := by
    unfold JsonObjectReader.readTimeInMilliseconds at h
    split at h
    · cases h
    · split at h
      · cases h
      · next hread => exact ⟨_, hread.trans h⟩
  have hseconds := (iso8601DurationString_wholeSeconds hread).1
  exact wait_leaves (by omega) (seenAfter sleeps a)

/-- **A timeout that no duration gives might not be reached**: the count, which is a multiple of
four, would jump over `UINT32_MAX` again and again. -/
theorem wait_max_not_leaves (n : Nat) :
    ¬ Leaves (goesOn UINT32_MAX) round (fun _ => .zero) start n := by
  refine not_leaves (I := fun w => w.stop = false ∧ w.elapsedTime.toNat % 4 = 0) ⟨rfl, rfl⟩ ?_ ?_
  · rintro w ⟨hstop, hcount⟩
    have hbound := w.elapsedTime.toNat_lt
    have hmax : UINT32_MAX.toNat = 4294967295 := rfl
    exact goesOn_iff.mpr ⟨hstop, by omega⟩
  · rintro _ w ⟨-, hcount⟩
    have h100 : (100 : UInt32).toNat = 100 := rfl
    refine ⟨rfl, ?_⟩
    show (w.elapsedTime + 100).toNat % 4 = 0
    rw [UInt32.toNat_add, h100]
    omega

end IoTHubAdapter

end SecurityAgent
