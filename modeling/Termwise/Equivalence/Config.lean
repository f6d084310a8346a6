import Termwise.Double.Basic

/-
  This file defines the settings of an equivalence check.

  Key definitions include:
    * `ConfigFault`
    * `Config`
    * `Config.make`
    * `Config.standard`
    * `ToleranceFault`
    * `Double.asTolerance`
-/

namespace Termwise

------------------------------------------------------------
-- Settings
------------------------------------------------------------

/- What can be wrong with the settings of a check. -/
inductive ConfigFault where
| noTrials
| emptyRange
deriving DecidableEq, Repr

/- The wording of a fault. -/
def ConfigFault.message : ConfigFault → String
| noTrials => "trials must be >= 1"
| emptyRange => "sample_low must be < sample_high"

/-
  The settings of a check: the number of trials, the range
  that values are drawn from, of which the upper end is left
  out, and the difference up to which values count as equal.
-/
structure Config where
  trials : Nat
  low : Int
  high : Int
  tolerance : Double
  trials_pos : 0 < trials
  low_lt_high : low < high

namespace Config

/- The settings with given values, if they make sense. -/
def make
    (trials low high : Int)
    (tolerance : Double) : Except ConfigFault Config :=
  if hTrials : 0 < trials then
    if hRange : low < high then
      .ok
        { trials := trials.toNat
          low := low
          high := high
          tolerance := tolerance
          trials_pos := by omega
          low_lt_high := hRange }
    else .error .emptyRange
  else .error .noTrials

/- One in ten thousand, the tolerance unless one is given. -/
def standardTolerance : Double :=
  Double.ofQuotient false 1 10000

/- The settings unless others are given. -/
def standard : Config where
  trials := 10
  low := -50
  high := 50
  tolerance := standardTolerance
  trials_pos := by decide
  low_lt_high := by decide

end Config

------------------------------------------------------------
-- Tolerances
------------------------------------------------------------

/- A tolerance is no number that differences compare with. -/
inductive ToleranceFault where
| infinite
| notANumber
deriving DecidableEq, Repr

/- The wording of a fault. -/
def ToleranceFault.message : ToleranceFault → String
| infinite => "cannot convert Infinity to integer ratio"
| notANumber => "cannot convert NaN to integer ratio"

/- The exact value of a tolerance. -/
def Double.asTolerance : Double → Except ToleranceFault Rat
| .nan => .error .notANumber
| .infinite _ => .error .infinite
| .finite negative m e =>
    .ok (if negative then -magnitude m e else magnitude m e)

end Termwise
