set_option autoImplicit false

namespace DomQuery.Text

-- The property `White_Space`; the zero-width space and the byte order mark do not have it.
def isBlank (c : Char) : Bool :=
  let n := c.toNat
  (0x9 ≤ n && n ≤ 0xD) || (0x2000 ≤ n && n ≤ 0x200A) ||
    [0x20, 0x85, 0xA0, 0x1680, 0x2028, 0x2029, 0x202F, 0x205F, 0x3000].contains n

def trimStart (cs : List Char) : List Char := cs.dropWhile isBlank

def trimEnd (cs : List Char) : List Char := (cs.reverse.dropWhile isBlank).reverse

def trim (cs : List Char) : List Char := trimEnd (trimStart cs)

def words (cs : List Char) : List (List Char) := (cs.splitOnP isBlank).filter (!·.isEmpty)

def occursIn (part : List Char) : List Char → Bool
  | [] => part.isEmpty
  | c :: cs => part.isPrefixOf (c :: cs) || occursIn part cs

theorem occurs_in_iff (part whole : List Char) : occursIn part whole ↔ part <:+: whole := by
  induction whole with
  | nil => simp [occursIn]
  | cons c cs ih => simp [occursIn, ih, List.infix_cons_iff]

def hexDigit? (c : Char) : Option Nat :=
  if c.isDigit then some (c.toNat - '0'.toNat)
  else if 'a' ≤ c && c ≤ 'f' then some (c.toNat - 'a'.toNat + 10)
  else if 'A' ≤ c && c ≤ 'F' then some (c.toNat - 'A'.toNat + 10)
  else none

abbrev CodePointSet := List Nat

-- Membership starts outside and changes at each bound that the point has reached.
def CodePointSet.holds : CodePointSet → Nat → Bool
  | [], _ => false
  | bound :: bounds, n => decide (bound ≤ n) && !holds bounds n

def CodePointSet.has (set : CodePointSet) (c : Char) : Bool := set.holds c.toNat

end DomQuery.Text

namespace String

def isAllBlank (s : String) : Bool := s.toList.all DomQuery.Text.isBlank

def blankWords (s : String) : List String := (DomQuery.Text.words s.toList).map ofList

end String
