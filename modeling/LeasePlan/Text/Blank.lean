namespace LeasePlan.Text

def isBlank (c : Char) : Bool :=
  let n := c.toNat
  (9 ≤ n && n ≤ 13) || n = 0x20 || n = 0x85 || n = 0xA0 || n = 0x1680 ||
    (0x2000 ≤ n && n ≤ 0x200A) || n = 0x2028 || n = 0x2029 || n = 0x202F || n = 0x205F ||
    n = 0x3000

/-- A blank, or one of the four characters that separate pieces of information. -/
def isSpace (c : Char) : Bool := isBlank c || (28 ≤ c.toNat && c.toNat ≤ 31)

def trim (isBlank : Char → Bool) (cs : List Char) : List Char :=
  ((cs.dropWhile isBlank).reverse.dropWhile isBlank).reverse

end LeasePlan.Text
