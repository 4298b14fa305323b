import DomQuery.Markup.ReferenceTable
import DomQuery.Text.Basic

set_option autoImplicit false

namespace DomQuery.Markup

def digitsValue (base : Nat) (cs : List Char) : Nat :=
  cs.foldl (fun n c => base * n + (Text.hexDigit? c).getD 0) 0

def readEntry (entry : List Char) : List Char × List Char :=
  (entry.takeWhile (· ≠ '='),
    (((entry.dropWhile (· ≠ '=')).drop 1).splitOn '+').map fun code =>
      Char.ofNat (digitsValue 16 code))

def namedReferences : List (List Char × List Char) :=
  referenceLines.flatMap fun line => (line.toList.splitOn ' ').map readEntry

def replacement : Char := '\uFFFD'

-- What the numbers from `0x80` to `0x9F` stand for. They are read as an older code page; zero
-- marks the places that it leaves empty.
def upperControls : List Nat :=
  [0x20AC, 0, 0x201A, 0x0192, 0x201E, 0x2026, 0x2020, 0x2021, 0x02C6, 0x2030, 0x0160, 0x2039,
    0x0152, 0, 0x017D, 0, 0, 0x2018, 0x2019, 0x201C, 0x201D, 0x2022, 0x2013, 0x2014, 0x02DC,
    0x2122, 0x0161, 0x203A, 0x0153, 0, 0x017E, 0x0178]

def numbered (n : Nat) : Char :=
  if n = 0 || n > 0x10FFFF || (0xD800 ≤ n && n ≤ 0xDFFF) then replacement
  else if 0x80 ≤ n && n ≤ 0x9F then
    match upperControls[n - 0x80]? with
    | some 0 | none => Char.ofNat n
    | some code => Char.ofNat code
  else Char.ofNat n

def dropSemicolon : List Char → List Char
  | ';' :: cs => cs
  | cs => cs

def number? (base : Nat) (isDigit : Char → Bool) (cs : List Char) : Option (Nat × List Char) :=
  match cs.takeWhile isDigit with
  | [] => none
  | digits => some (digitsValue base digits, cs.dropWhile isDigit)

def referenceNumber? (cs : List Char) : Option (Nat × List Char) :=
  match cs with
  | 'x' :: cs | 'X' :: cs => number? 16 (Text.hexDigit? · |>.isSome) cs
  | cs => number? 10 Char.isDigit cs

def numericReference? (cs : List Char) : Option (List Char × List Char) :=
  (referenceNumber? cs).map fun (n, rest) => ([numbered n], dropSemicolon rest)

def lacksSemicolon : List Char → Bool
  | '#' :: cs => (referenceNumber? cs).any fun (_, rest) => rest.head? != some ';'
  | _ => false

-- The longest name that the text begins with. Inside an attribute a name without its semicolon is
-- left alone if the text goes on like the name of a parameter.
def namedReference? (inAttribute : Bool) (cs : List Char) : Option (List Char × List Char) :=
  let longest := namedReferences.foldl (fun best entry =>
    if entry.1.isPrefixOf cs && best.1.length < entry.1.length then entry else best) ([], [])
  let rest := cs.drop longest.1.length
  if longest.1 = [] then none
  else if inAttribute && longest.1.getLast? ≠ some ';' &&
      rest.head?.any (fun c => c = '=' || c.isAlphanum) then none
  else some (longest.2, rest)

def reference (inAttribute : Bool) (cs : List Char) : List Char × List Char :=
  let found? := match cs with
    | '#' :: cs => numericReference? cs
    | cs => namedReference? inAttribute cs
  found?.getD (['&'], cs)

def resolveReferences (inAttribute : Bool) : Nat → List Char → List Char
  | 0, cs => cs
  | _ + 1, [] => []
  | steps + 1, '&' :: cs =>
      let (chars, rest) := reference inAttribute cs
      chars ++ resolveReferences inAttribute steps rest
  | steps + 1, c :: cs => c :: resolveReferences inAttribute steps cs

def resolveAll (inAttribute : Bool) (cs : List Char) : List Char :=
  resolveReferences inAttribute cs.length cs

end DomQuery.Markup
