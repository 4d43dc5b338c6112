import Mathlib.Data.Rat.Defs
import RevenueRescue.Foundation.Text
import RevenueRescue.Pipeline.Splits

namespace RevenueRescue.Pipeline

/-- The cast of both engines to a 16-bit integer, which wraps. -/
def int16 (x : Int) : Int := x.bmod 65536

/-- The history columns of an event. A missing value is `none`, and the two
quotients are exact. -/
@[ext] structure HistoryFeatures where
  custPriorEvents : Int
  hoursSincePrevEvent : Option ℚ
  custPriorAmountMean : Option ℚ
  custPriorRetryTotal : Int
  custPriorCheckoutAbandoned : Int
  custPriorFailedPayment : Int
  custPriorFailedSubscription : Int
  custPriorSameFailureReason : Int
  deriving DecidableEq

def checkoutAbandoned : Text := "CHECKOUT_ABANDONED".toList

def failedPayment : Text := "FAILED_PAYMENT".toList

def failedSubscription : Text := "FAILED_SUBSCRIPTION".toList

/-- What a transformed table says of an event. -/
@[ext] structure EventFeatures where
  eventId : Text
  eventHourUtc : Int
  eventDayofweekUtc : Int
  history : HistoryFeatures
  chronoSplit : Split
  deriving DecidableEq

theorem int16_of_small {x : Int} (h0 : 0 ≤ x) (h : x < 32768) : int16 x = x := by
  unfold int16
  rw [Int.bmod_eq_of_le] <;> omega

theorem int16_eq_zero {n : Nat} (h : n < 65536) : int16 n = 0 ↔ n = 0 := by
  unfold int16
  rw [Int.bmod_def]
  split_ifs <;> omega

end RevenueRescue.Pipeline
