namespace LeasePlan.Text

/-- Lower case for the letters of ASCII and Latin-1, and for the two signs that are such letters
under other code points. -/
def lower (c : Char) : Char :=
  let n := c.toNat
  if (0x41 ≤ n && n ≤ 0x5A) || (0xC0 ≤ n && n ≤ 0xDE && n ≠ 0xD7) then Char.ofNat (n + 32)
  else if n = 0x212A then 'k'
  else if n = 0x212B then 'å'
  else c

end LeasePlan.Text
