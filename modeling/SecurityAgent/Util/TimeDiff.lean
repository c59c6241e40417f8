import Mathlib.Data.Rat.Lemmas
import SecurityAgent.Json.JsonObjectReader

/-!
# Elapsed time: `TimeUtils_GetTimeDiff`

The difference of two times in seconds, as a `double`, times 1000, as an `int32_t`. The
callers compare it as a `uint32_t`. A `double` is exact as long as the product fits an
`int32_t` and too large as long as it does not, so that the exact product decides.
-/

namespace SecurityAgent

namespace TimeUtils

/-- `TimeUtils_GetTimeDiff`. -/
def getTimeDiff (later beginning : Int) : Int32 :=
  int32OfDouble (((later - beginning : Int) : Rat) * 1000)

/-- Elapsed seconds in milliseconds, as the callers see them: never more than `2 ^ 31`. -/
theorem toNat_getTimeDiff (beginning : Int) (elapsed : Nat) :
    (getTimeDiff (beginning + elapsed) beginning).toUInt32.toNat
      = min (1000 * elapsed) 2147483648 := by
  have hcast : (((beginning + elapsed - beginning : Int) : Rat) * 1000)
      = ((1000 * elapsed : Nat) : Rat) := by
    rw [show beginning + (elapsed : Int) - beginning = elapsed by omega]
    push_cast
    exact Rat.mul_comm _ _
  unfold getTimeDiff
  rw [hcast]
  rcases Nat.le_total (1000 * elapsed) 2147483648 with h | h
  · rw [int32OfDouble_natCast h, Nat.min_eq_left h]
  · rw [int32OfDouble_large h, Nat.min_eq_right h]

end TimeUtils

end SecurityAgent
