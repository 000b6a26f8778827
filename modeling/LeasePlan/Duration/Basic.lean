namespace LeasePlan

namespace Duration

def microsPerSecond : Int := 1000000

def microsPerDay : Int := 86400 * microsPerSecond

def minMicros : Int := -(999999999 * microsPerDay)

def maxMicros : Int := 1000000000 * microsPerDay - 1

end Duration

/-- A span of time in whole microseconds. -/
structure Duration where
  micros : Int
  min_le : Duration.minMicros ≤ micros
  le_max : micros ≤ Duration.maxMicros
deriving DecidableEq

namespace Duration

@[ext] theorem ext {a b : Duration} (h : a.micros = b.micros) : a = b := by
  cases a
  cases b
  cases h
  rfl

def ofMicros? (n : Int) : Option Duration :=
  if h : minMicros ≤ n ∧ n ≤ maxMicros then some ⟨n, h.1, h.2⟩ else none

def hour : Duration := ⟨3600 * microsPerSecond, by decide, by decide⟩

def second : Duration := ⟨microsPerSecond, by decide, by decide⟩

def isNegative (d : Duration) : Bool := d.micros < 0

end Duration

end LeasePlan
