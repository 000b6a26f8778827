import LeasePlan.Document.Literal
import LeasePlan.Text.Utf8

namespace LeasePlan

/-- What is wrong with the keys under which a document gives the ends of a range. -/
inductive EndsFlaw
  | reserved (key : RawText)
  | unexpected (key : RawText)
  | noEnd
  | noStart
  | neither
deriving DecidableEq

def EndsFlaw.message : EndsFlaw → RawText
  | reserved k => "got multiple values for argument '" ++ k ++ "'"
  | unexpected k => "got an unexpected keyword argument '" ++ k ++ "'"
  | noEnd => "missing 1 required positional argument: 'end'"
  | noStart => "missing 1 required positional argument: 'start'"
  | neither => "missing 2 required positional arguments: 'start' and 'end'"

/-- Why a document cannot be read at all, for reasons that no issue of a single value is. -/
inductive Crash
  /-- A duration of more days than there can be. -/
  | days (days : Int)
  | notUtf8 (flaw : Utf8.Flaw)
  /-- A text that is marked as a whole number in a base and is none. -/
  | notInt (base : Nat) (text : Data)
  /-- A text that is marked as a number and is none. -/
  | notFloat (text : Data)
  /-- A text that is marked as a truth value and is none. -/
  | notBool (text : Data)
  /-- Nothing where a number is marked. -/
  | emptyNumber
  /-- A date or a time of day that does not exist. -/
  | noSuchTime (reason : String)
  /-- A text that is marked as a moment and is none. -/
  | notInstant
  /-- An escape for a code point that does not exist. -/
  | noSuchCodePoint
  /-- Too many digits for a whole number. -/
  | tooManyDigits (digits : Nat)
  /-- A path with a character that no path can have. -/
  | nullInPath
  | rangeEnds (flaw : EndsFlaw)
  /-- A surrogate where bytes are written. Only the reason is told, not which one and where. -/
  | unwritable

namespace Crash

def message : Crash → RawText
  | days d =>
    if -2147483648 ≤ d && d < 2147483648 then
      "days=" ++ toString d ++ "; must have magnitude <= 999999999"
    else "Python int too large to convert to C int"
  | notUtf8 f => f.message
  | notInt b t => "invalid literal for int() with base " ++ toString b ++ ": " ++ t.literal
  | notFloat t => "could not convert string to float: " ++ t.literal
  | notBool t => t.literal
  | emptyNumber => "string index out of range"
  | noSuchTime r => r
  | notInstant => "'NoneType' object has no attribute 'groupdict'"
  | noSuchCodePoint => "chr() arg not in range(0x110000)"
  | tooManyDigits n =>
    "Exceeds the limit (4300 digits) for integer string conversion: value has " ++ toString n ++
      " digits; use sys.set_int_max_str_digits() to increase the limit"
  | nullInPath => "embedded null byte"
  | rangeEnds f => "AddressRange.__init__() " ++ f.message
  | unwritable => "surrogates not allowed"

end Crash

end LeasePlan
