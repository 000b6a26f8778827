import LeasePlan.Console.EmojiNames
import LeasePlan.Text.Blank
import LeasePlan.Text.LowerCase
import LeasePlan.Text.Numeral
import LeasePlan.Text.Parts

namespace LeasePlan.Emoji

/-- The characters of hexadecimal code points between hyphens. -/
def charsOf (code : List Char) : List Char :=
  (Text.parts '-' code).map fun p => Char.ofNat ((Numeral.hexadecimal? p).getD 0)

/-- The emoji of a name in a list in which each name stands before its code points. -/
def findIn (name : List Char) : List (List Char) → Option (List Char)
  | n :: code :: r => if n = name then some (charsOf code) else findIn name r
  | _ => none

def find? : List Char → Option (List Char)
  | [] => none
  | c :: r => (namesOf c).findSome? fun line => findIn (c :: r) (Text.parts ' ' line.toList)

/-- A name without a wish for colour or for text behind it, and the selector for that wish. -/
def splitWish (body : List Char) : List Char × List Char :=
  if "-emoji".toList.isSuffixOf body then (body.take (body.length - 6), ['\ufe0f'])
  else if "-text".toList.isSuffixOf body then (body.take (body.length - 5), ['\ufe0e'])
  else (body, [])

/-- What is shown for a text between colons. -/
def shown (body : List Char) : List Char :=
  let (name, selector) := splitWish body
  match find? (name.map Text.lower) with
  | some e => e ++ selector
  | none => ':' :: (body ++ [':'])

/-- Goes on after an open colon, if there is one, with the text since then, its last character
first. -/
def replaceFrom : Option (List Char) → List Char → List Char
  | none, [] => []
  | some body, [] => ':' :: body.reverse
  | none, c :: r => if c = ':' then replaceFrom (some []) r else c :: replaceFrom none r
  | some body, c :: r =>
    if c = ':' then shown body.reverse ++ replaceFrom none r
    else if Text.isSpace c then ':' :: (body.reverse ++ c :: replaceFrom none r)
    else replaceFrom (some (c :: body)) r

def replace (cs : List Char) : List Char := replaceFrom none cs

theorem replace_of_not_mem {cs : List Char} (h : ':' ∉ cs) : replace cs = cs := by
  unfold replace
  induction cs with
  | nil => rfl
  | cons c r ih =>
    rw [List.mem_cons, not_or] at h
    rw [replaceFrom, if_neg fun hc => h.1 hc.symm, ih h.2]

end LeasePlan.Emoji
