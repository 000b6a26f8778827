import LeasePlan.Duration.Units

namespace LeasePlan.Duration

/-- A part with its letter, if it is not zero. -/
def part (n : Nat) (letter : Char) : List Char :=
  if n = 0 then [] else Numeral.decimal n ++ [letter]

def isoChars (micros : Nat) : List Char :=
  let rest := micros % 86400000000
  let days := micros / 86400000000
  let date := part (days / 365) 'Y' ++ part (days % 365) 'D'
  let seconds := rest % 60000000
  let time := part (rest / 3600000000) 'H' ++ part (rest % 3600000000 / 60000000) 'M' ++
    (if seconds = 0 then [] else Numeral.fraction 6 seconds ++ ['S'])
  if micros = 0 then ['P', 'T', '0', 'S']
  else 'P' :: (date ++ (if rest = 0 then [] else 'T' :: time))

def isoText (d : Duration) : String :=
  String.ofList (minusIf d.isNegative (isoChars d.micros.natAbs))

end LeasePlan.Duration
