import CloudAudit.Assessment.Basic
import CloudAudit.Number.Binary64

/-!
# Totals and rates

Counters of the four statuses, and the share of passed controls as a percentage with one decimal.
The share goes through floating point: the quotient, its thousandfold, and the tenth of the whole
number next to that, a half going up.
-/

namespace CloudAudit

open Number

/-- The whole number next to the thousandfold of a floating point quotient. -/
def permille (part whole : Nat) : Option Nat := do
  let p ← Binary64.ofRatio? false part 1
  let w ← Binary64.ofRatio? false whole 1
  let quotient ← Binary64.ofRatio? false p.magnitude w.magnitude
  let thousandfold ← Binary64.ofRatio? false (quotient.magnitude * 1000) unitsPerOne
  return (2 * thousandfold.magnitude + unitsPerOne) / (2 * unitsPerOne)

/-- The percentage of a part with one decimal; nothing of nothing is zero. -/
def percentage (part whole : Nat) : Binary64 :=
  if whole = 0 then Binary64.zero
  else ((permille part whole).bind fun n => Binary64.ofRatio? false n 10).getD Binary64.zero

structure Totals where
  passed : Nat := 0
  failed : Nat := 0
  manual : Nat := 0
  error : Nat := 0
  deriving DecidableEq, Repr, Inhabited

namespace Totals

def record (totals : Totals) : Status → Totals
  | .passed => { totals with passed := totals.passed + 1 }
  | .failed => { totals with failed := totals.failed + 1 }
  | .manual => { totals with manual := totals.manual + 1 }
  | .error => { totals with error := totals.error + 1 }

def count (totals : Totals) : Status → Nat
  | .passed => totals.passed
  | .failed => totals.failed
  | .manual => totals.manual
  | .error => totals.error

theorem count_record (totals : Totals) (s t : Status) :
    (totals.record s).count t = totals.count t + if s = t then 1 else 0 := by
  cases s <;> cases t <;> simp [record, count]

def total (totals : Totals) : Nat :=
  totals.passed + totals.failed + totals.manual + totals.error

/-- The share of passed controls among all. -/
def rate (totals : Totals) : Binary64 := percentage totals.passed totals.total

/-- The share of passed controls among those that were assessed. -/
def assessedRate (totals : Totals) : Binary64 :=
  percentage totals.passed (totals.passed + totals.failed)

/-- The counts of the statuses in a list. -/
def ofStatuses (statuses : List Status) : Totals :=
  statuses.foldl record {}

end Totals

structure RegulationSummary where
  regulation : String
  totals : Totals
  total : Nat
  rate : Binary64
  assessedRate : Binary64
  deriving DecidableEq

def RegulationSummary.ofTotals (regulation : String) (totals : Totals) : RegulationSummary :=
  { regulation, totals, total := totals.total, rate := totals.rate
    assessedRate := totals.assessedRate }

end CloudAudit
