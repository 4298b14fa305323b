import DomQuery.Style.Declarations
import DomQuery.Text.Basic

set_option autoImplicit false

namespace DomQuery.Style.Json

def openBrace : Char := '\x7b'

def closeBrace : Char := '\x7d'

def shortEscape? (c : Char) : Option Char :=
  if c = '"' || c = '\\' then some c
  else if c = '\x08' then some 'b'
  else if c = '\x0c' then some 'f'
  else if c = '\n' then some 'n'
  else if c = '\r' then some 'r'
  else if c = '\t' then some 't'
  else none

def writeChar (c : Char) : List Char :=
  match shortEscape? c with
  | some letter => ['\\', letter]
  | none =>
      if c.toNat < 0x20 then
        ['\\', 'u', '0', '0', Nat.digitChar (c.toNat / 16), Nat.digitChar (c.toNat % 16)]
      else [c]

def writeString (s : String) : List Char := '"' :: (s.toList.flatMap writeChar ++ ['"'])

def writeMember (e : Field) : List Char := writeString e.1 ++ ':' :: writeString e.2

def write (d : Declarations) : List Char :=
  openBrace :: ([','].intercalate (d.entries.map writeMember) ++ [closeBrace])

def isSpace (c : Char) : Bool := c = ' ' || c = '\t' || c = '\n' || c = '\r'

def skipSpace (cs : List Char) : List Char := cs.dropWhile isSpace

def hexValue? (cs : List Char) : Option Nat :=
  cs.foldlM (fun n c => (Text.hexDigit? c).map (16 * n + ·)) 0

def readEscape? (c : Char) : Option Char :=
  match c with
  | '"' | '\\' | '/' => some c
  | 'b' => some '\x08'
  | 'f' => some '\x0c'
  | 'n' => some '\n'
  | 'r' => some '\r'
  | 't' => some '\t'
  | _ => none

-- A string is written in characters and in code units, two of which may make one character.
inductive Piece where
  | char (c : Char)
  | unit (n : Nat)

def pieces? : List Char → Option (List Piece × List Char)
  | [] => none
  | '"' :: cs => some ([], cs)
  | '\\' :: 'u' :: a :: b :: c :: d :: cs =>
      (hexValue? [a, b, c, d]).bind fun n => (pieces? cs).map fun r => (.unit n :: r.1, r.2)
  | '\\' :: c :: cs =>
      (readEscape? c).bind fun e => (pieces? cs).map fun r => (.char e :: r.1, r.2)
  | c :: cs => if c.toNat < 0x20 then none else (pieces? cs).map fun r => (.char c :: r.1, r.2)

def isHigh (n : Nat) : Bool := 0xD800 ≤ n && n ≤ 0xDBFF

def isLow (n : Nat) : Bool := 0xDC00 ≤ n && n ≤ 0xDFFF

def pairValue (high low : Nat) : Nat := 0x10000 + (high - 0xD800) * 0x400 + (low - 0xDC00)

def join? : List Piece → Option (List Char)
  | [] => some []
  | .char c :: ps => (join? ps).map (c :: ·)
  | .unit high :: .unit low :: ps =>
      if isHigh high then
        if isLow low then (join? ps).map (Char.ofNat (pairValue high low) :: ·) else none
      else if isLow high then none
      else (join? (.unit low :: ps)).map (Char.ofNat high :: ·)
  | .unit n :: ps => if isHigh n || isLow n then none else (join? ps).map (Char.ofNat n :: ·)

def mark? (mark : Char) (cs : List Char) : Option (List Char) :=
  match skipSpace cs with
  | c :: cs => if c = mark then some cs else none
  | [] => none

def string? (cs : List Char) : Option (String × List Char) := do
  let (ps, rest) ← pieces? (← mark? '"' cs)
  return (.ofList (← join? ps), rest)

def member? (cs : List Char) : Option (Field × List Char) := do
  let (name, rest) ← string? cs
  let (value, rest) ← string? (← mark? ':' rest)
  return ((name, value), rest)

-- The members behind the first, up to the closing brace; each takes at least one character.
def members? : Nat → List Char → Option (List Field × List Char)
  | 0, _ => none
  | steps + 1, cs =>
      match mark? closeBrace cs with
      | some rest => some ([], rest)
      | none => do
          let (e, rest) ← member? (← mark? ',' cs)
          let (es, rest) ← members? steps rest
          return (e :: es, rest)

def object? (cs : List Char) : Option (List Field × List Char) := do
  let rest ← mark? openBrace cs
  match mark? closeBrace rest with
  | some rest => return ([], rest)
  | none => do
      let (e, rest) ← member? rest
      let (es, rest) ← members? rest.length rest
      return (e :: es, rest)

def read? (cs : List Char) : Option Declarations := do
  let (es, rest) ← object? cs
  if skipSpace rest = [] then some (.ofList es) else none

end DomQuery.Style.Json

namespace DomQuery.Style.Declarations

def toJson (d : Declarations) : String := .ofList (Json.write d)

def ofJson? (text : String) : Option Declarations := Json.read? text.toList

end DomQuery.Style.Declarations
