set_option autoImplicit false

namespace DomQuery.Markup

def blockSize : Nat := 4096

def overlapSize : Nat := 4

-- The pieces of a text when the present piece takes `left` more bytes, and `block` more bytes have
-- arrived. A piece takes what has arrived. If not even one character has arrived as a whole, it takes
-- this character and those behind it that the space set aside has room for.
def pieces (left block : Nat) : List Char → List (List Char)
  | [] => []
  | c :: cs =>
      let size := c.utf8Size
      let block := if block = 0 then blockSize else block
      let room := if size ≤ left then left else if size ≤ block then block else overlapSize
      let arrived := if size ≤ block then block else block + blockSize
      let rest := pieces (room - size) (arrived - size) cs
      let piece := c :: rest.headD []
      if size ≤ left then piece :: rest.tail else [] :: piece :: rest.tail

def dropMark : List Char → List Char
  | '\uFEFF' :: cs => cs
  | cs => cs

def normalizeNewlines : List Char → List Char
  | '\r' :: '\n' :: cs => '\n' :: normalizeNewlines cs
  | '\r' :: cs => '\n' :: normalizeNewlines cs
  | c :: cs => c :: normalizeNewlines cs
  | [] => []

-- The characters to read, and how many of them are left where pieces begin.
structure Arrival where
  chars : List Char
  starts : List Nat

def Arrival.ofPieces : List (List Char) → Arrival
  | [] => ⟨[], []⟩
  | piece :: rest =>
      let chars := normalizeNewlines (piece :: rest).flatten
      ⟨chars, chars.length :: (ofPieces rest).starts⟩

def Arrival.ofText (text : String) : Arrival := ofPieces ((pieces 0 0 text.toList).map dropMark)

def Arrival.resume (a : Arrival) (rest : List Char) : List Char :=
  if a.starts.contains rest.length then rest else dropMark rest

end DomQuery.Markup
