import LeasePlan.Duration.Units

namespace LeasePlan.Duration

/-- The time of day may be needed to correct a count of days that is too low. -/
def clockChars (micros : Int) : List Char :=
  let days := micros.fdiv microsPerDay
  let rest := (micros.fmod microsPerDay).toNat
  let seconds := rest / 1000000
  let fraction := rest % 1000000
  let time := Numeral.decimal (seconds / 3600) ++ ':' :: (Numeral.padded 2 (seconds / 60 % 60) ++
    ':' :: (Numeral.padded 2 (seconds % 60) ++
      (if fraction = 0 then [] else '.' :: Numeral.padded 6 fraction)))
  if days = 0 then time
  else
    let word := if days.natAbs = 1 then [' ', 'd', 'a', 'y'] else [' ', 'd', 'a', 'y', 's']
    Numeral.signed days ++ word ++ ',' :: ' ' :: time

def clockText (d : Duration) : String := String.ofList (clockChars d.micros)

end LeasePlan.Duration
