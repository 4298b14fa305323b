import DomQuery.Text.Basic

set_option autoImplicit false

namespace DomQuery.Selector

structure Nth where
  a : Int32
  b : Int32
deriving DecidableEq

namespace Nth

def digitsValue? (cs : List Char) : Option Nat :=
  if cs ≠ [] && cs.all Char.isDigit then
    some (cs.foldl (fun n c => 10 * n + (c.toNat - '0'.toNat)) 0)
  else none

def toInt32? (n : Int) : Option Int32 :=
  if Int32.minValue.toInt ≤ n ∧ n ≤ Int32.maxValue.toInt then some (Int32.ofInt n) else none

def readInt? : List Char → Option Int32
  | '+' :: cs => (digitsValue? cs).bind fun n => toInt32? n
  | '-' :: cs => (digitsValue? cs).bind fun n => toInt32? (-n)
  | cs => (digitsValue? cs).bind fun n => toInt32? n

def readFactor? : List Char → Option Int32
  | [] | ['+'] => some 1
  | ['-'] => some (-1)
  | cs => readInt? cs

-- The term behind `n`. It opens with a sign, and plus signs in front of the number that is read
-- count for nothing, so that another sign may follow them.
def readTerm? : List Char → Option Int32
  | [] => some 0
  | '-' :: cs => readInt? ('-' :: cs)
  | '+' :: cs => readInt? (cs.dropWhile (· = '+'))
  | _ => none

-- Blanks and case do not count, and blanks may stand anywhere.
def strip (cs : List Char) : List Char := (cs.filter (!Text.isBlank ·)).map Char.toLower

def readStripped? (cs : List Char) : Option Nth :=
  if cs = ['o', 'd', 'd'] then some ⟨2, 1⟩
  else if cs = ['e', 'v', 'e', 'n'] then some ⟨2, 0⟩
  else
    match readInt? cs, cs.dropWhile (· ≠ 'n') with
    | some b, _ => some ⟨0, b⟩
    | none, _ :: term =>
        (readFactor? (cs.takeWhile (· ≠ 'n'))).bind fun a =>
          (readTerm? term).map fun b => ⟨a, b⟩
    | none, [] => none

def parse? (text : String) : Option Nth := readStripped? (strip text.toList)

def holds (e : Nth) (n : Int32) : Bool :=
  if e.a = 0 then n = e.b
  else
    let gap := n.toInt - e.b.toInt
    gap.tmod e.a.toInt == 0 && 0 ≤ gap.tdiv e.a.toInt

end Nth

end DomQuery.Selector
