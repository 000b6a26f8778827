import LeasePlan.Duration.Basic
import LeasePlan.Text.Numeral

namespace LeasePlan.Duration

def minusIf (negative : Bool) (cs : List Char) : List Char := if negative then '-' :: cs else cs

/-- A magnitude in the largest of the units µs, ms and s, the last with minutes and hours before it
where there are any. -/
def unitChars (micros : Nat) : List Char :=
  if micros = 0 then ['0', 's']
  else if micros < 1000 then Numeral.decimal micros ++ ['µ', 's']
  else if micros < 1000000 then Numeral.fraction 3 micros ++ ['m', 's']
  else
    let hours := micros / 3600000000
    let minutes := micros % 3600000000 / 60000000
    let seconds := Numeral.fraction 6 (micros % 60000000) ++ ['s']
    if hours ≠ 0 then
      Numeral.decimal hours ++ 'h' :: (Numeral.decimal minutes ++ 'm' :: seconds)
    else if minutes ≠ 0 then Numeral.decimal minutes ++ 'm' :: seconds
    else seconds

def unitText (micros : Int) : String :=
  String.ofList (minusIf (micros < 0) (unitChars micros.natAbs))

end LeasePlan.Duration
