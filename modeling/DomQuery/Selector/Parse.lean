import DomQuery.Selector.Basic

set_option autoImplicit false

namespace DomQuery.Selector

abbrev Reading := Except Reject

def skipBlank (cs : List Char) : List Char := Text.trimStart cs

def expect (mark : Char) : List Char → Except Reject (List Char)
  | c :: cs => if c = mark then .ok cs else .error (.stuck (c :: cs))
  | [] => .error (.stuck [])

-- Every character outside ASCII may stand in an identifier, blank or not.
def isIdentChar (c : Char) : Bool := c.isAlphanum || c = '-' || c = '_' || 0x80 ≤ c.toNat

def lowerAscii (cs : List Char) : String := .ofList (cs.map Char.toLower)

def identChars : List Char → Reading (List Char × List Char)
  | ['\\'] => .error (.stuck [])
  | '\\' :: c :: cs => (identChars cs).map fun r => (c :: r.1, r.2)
  | c :: cs =>
      if isIdentChar c then (identChars cs).map fun r => (c :: r.1, r.2) else .ok ([], c :: cs)
  | [] => .ok ([], [])

def ident (cs : List Char) : Reading (List Char × List Char) := do
  let (word, rest) ← identChars cs
  if word = [] then .error (.stuck rest) else .ok (word, rest)

def quotedChars (mark : Char) : List Char → Reading (List Char × List Char)
  | [] => .error (.stuck [])
  | ['\\'] => .error (.stuck [])
  | '\\' :: c :: cs => (quotedChars mark cs).map fun r => (c :: r.1, r.2)
  | c :: cs =>
      if c = mark then .ok ([], cs) else (quotedChars mark cs).map fun r => (c :: r.1, r.2)

def isQuote (c : Char) : Bool := c = '"' || c = '\''

def untilParen (cs : List Char) : Reading (List Char × List Char) :=
  if ')' ∈ cs then .ok (cs.takeWhile (· ≠ ')'), cs.dropWhile (· ≠ ')')) else .error (.stuck [])

def AttrRelation.ofMark? : Char → Option AttrRelation
  | '~' => some .includes
  | '|' => some .dashMatch
  | '^' => some .startsWith
  | '$' => some .endsWith
  | '*' => some .substring
  | '!' => some .notEquals
  | _ => none

def attrOp : List Char → Reading (AttrRelation × List Char)
  | [] => .error (.stuck [])
  | c :: cs =>
      if c = '=' then .ok (.equals, cs)
      else
        match AttrRelation.ofMark? c with
        | some op => (expect '=' cs).map fun rest => (op, rest)
        | none => .error (.stuck (c :: cs))

def attrValue : List Char → Reading (List Char × List Char)
  | c :: cs => if isQuote c then quotedChars c cs else ident (c :: cs)
  | [] => ident []

def caseFlag : List Char → Bool × List Char
  | c :: cs =>
      if c = 'i' || c = 'I' then (true, skipBlank cs)
      else if c = 's' || c = 'S' then (false, skipBlank cs)
      else (false, c :: cs)
  | [] => (false, [])

def attrEnd (cs : List Char) : Reading (Bool × List Char) := do
  let (ignoreCase, rest) := caseFlag cs
  let rest ← expect ']' rest
  .ok (ignoreCase, rest)

def attrComparison (name : String) (cs : List Char) : Reading (AttrTest × List Char) := do
  let (op, rest) ← attrOp cs
  let (value, rest) ← attrValue (skipBlank rest)
  let (ignoreCase, rest) ← attrEnd (skipBlank rest)
  .ok (.compare name op (.ofList value) ignoreCase, rest)

def attrCondition (name : String) : List Char → Reading (AttrTest × List Char)
  | ']' :: cs => .ok (.present name, cs)
  | cs => attrComparison name cs

def attrTest (cs : List Char) : Reading (AttrTest × List Char) := do
  let (word, rest) ← ident (skipBlank cs)
  attrCondition (lowerAscii word) (skipBlank rest)

def plainPseudo? : String → Option PseudoClass
  | "root" => some .root
  | "empty" => some .empty
  | "first-child" => some .firstChild
  | "last-child" => some .lastChild
  | "only-child" => some .onlyChild
  | "first-of-type" => some .firstOfType
  | "last-of-type" => some .lastOfType
  | "only-of-type" => some .onlyOfType
  | "checked" => some .checked
  | "disabled" => some .disabled
  | "enabled" => some .enabled
  | _ => none

def nthPseudo? : String → Option (Nth → PseudoClass)
  | "nth-child" => some .nthChild
  | "nth-last-child" => some .nthLastChild
  | "nth-of-type" => some .nthOfType
  | "nth-last-of-type" => some .nthLastOfType
  | _ => none

-- The flag says whether the entries of the list may begin with a combinator.
def listPseudo? : String → Option (Bool × (SelectorList → PseudoClass))
  | "not" => some (false, .not)
  | "is" | "matches" | "where" => some (false, .is)
  | "has" => some (true, .has)
  | _ => none

def nthArgument (cs : List Char) : Reading (Nth × List Char) := do
  let (raw, rest) ← untilParen cs
  match Nth.readStripped? (Nth.strip raw) with
  | some e => .ok (e, rest)
  | none => .error (.invalidNth (.ofList (Text.trim raw)))

def containsArgument : List Char → Reading (List Char × List Char)
  | c :: cs =>
      if isQuote c then (quotedChars c cs).map fun r => (r.1, skipBlank r.2)
      else (untilParen (c :: cs)).map fun r => (Text.trim r.1, r.2)
  | [] => .error (.stuck [])

def opening : List Char → Reading (Compound × List Char)
  | '*' :: cs => .ok ([.universal], cs)
  | c :: cs =>
      if isIdentChar c then (ident (c :: cs)).map fun r => ([.type (lowerAscii r.1)], r.2)
      else .ok ([], c :: cs)
  | [] => .ok ([], [])

def Combinator.ofMark? : Char → Option Combinator
  | '>' => some .child
  | '+' => some .nextSibling
  | '~' => some .subsequentSibling
  | _ => none

def anchor (relative : Bool) : List Char → Reading (Option Combinator × List Char)
  | [] => .ok (none, [])
  | c :: cs =>
      match Combinator.ofMark? c with
      | some combinator =>
          if relative then .ok (some combinator, skipBlank cs) else .error (.stuck (c :: cs))
      | none => .ok (none, c :: cs)

def isEnd (c : Char) : Bool := c = ',' || c = ')'

-- What follows a compound: nothing that continues the selector, or a combinator. Blanks alone are
-- one, unless the selector ends behind them.
def separator (cs : List Char) : Reading (Option Combinator × List Char) :=
  match skipBlank cs with
  | [] => .ok (none, [])
  | c :: rest =>
      if isEnd c then .ok (none, c :: rest)
      else
        match Combinator.ofMark? c with
        | some combinator => .ok (some combinator, skipBlank rest)
        | none =>
            if cs.head?.any Text.isBlank then .ok (some .descendant, c :: rest)
            else .error (.stuck (c :: rest))

section Nested

variable (nested : Bool → List Char → Reading (SelectorList × List Char))

def pseudoArgument (name : String) (cs : List Char) : Reading (PseudoClass × List Char) :=
  match nthPseudo? name, listPseudo? name with
  | some make, _ => (nthArgument cs).map fun r => (make r.1, r.2)
  | none, some (relative, make) => (nested relative cs).map fun r => (make r.1, r.2)
  | none, none =>
      if name = "contains" then
        (containsArgument (skipBlank cs)).map fun r => (.contains (.ofList r.1), r.2)
      else .error (.unmatchedPseudoClass name)

def namedPseudo (name : String) : List Char → Reading (PseudoClass × List Char)
  | '(' :: cs => do
      let (cls, rest) ← pseudoArgument nested name cs
      let rest ← expect ')' rest
      .ok (cls, rest)
  | cs =>
      match plainPseudo? name with
      | some cls => .ok (cls, cs)
      | none => .error (.unmatchedPseudoClass name)

def pseudo (cs : List Char) : Reading (PseudoClass × List Char) := do
  let (word, rest) ← ident cs
  namedPseudo nested (lowerAscii word) rest

def condition? : List Char → Option (Reading (Simple × List Char))
  | '#' :: cs => some ((ident cs).map fun r => (.id (.ofList r.1), r.2))
  | '.' :: cs => some ((ident cs).map fun r => (.className (.ofList r.1), r.2))
  | '[' :: cs => some ((attrTest cs).map fun r => (.attribute r.1, r.2))
  | ':' :: cs => some ((pseudo nested cs).map fun r => (.pseudo r.1, r.2))
  | _ => none

-- A condition takes at least one character, so as many steps as characters are enough.
def conditions : Nat → List Char → Reading (Compound × List Char)
  | 0, cs => .ok ([], cs)
  | steps + 1, cs =>
      match condition? nested cs with
      | none => .ok ([], cs)
      | some read => do
          let (part, rest) ← read
          let (parts, rest) ← conditions steps rest
          .ok (part :: parts, rest)

def compound (cs : List Char) : Reading (Compound × List Char) := do
  let (first, rest) ← opening cs
  let (others, rest) ← conditions nested rest.length rest
  if first ++ others = [] then .error (.stuck rest) else .ok (first ++ others, rest)

-- Each further compound takes at least one character.
def continuation : Nat → Complex → List Char → Reading (Complex × List Char)
  | 0, left, cs => .ok (left, cs)
  | steps + 1, left, cs => do
      match ← separator cs with
      | (none, rest) => .ok (left, rest)
      | (some combinator, rest) => do
          let (parts, rest) ← compound nested rest
          continuation steps (.link left combinator parts) rest

def complex (relative : Bool) (cs : List Char) : Reading (Complex × List Char) := do
  let (anchor, rest) ← anchor relative cs
  let (parts, rest) ← compound nested rest
  continuation nested rest.length (.start anchor parts) rest

-- A list inside a pseudo-class ends at a parenthesis, which is left standing; any other ends with
-- the text.
def atListEnd (inner : Bool) (cs : List Char) : Bool := cs.head? = if inner then some ')' else none

def entries (relative inner : Bool) : Nat → List Char → Reading (SelectorList × List Char)
  | 0, cs => .error (.stuck cs)
  | steps + 1, cs => do
      let (entry, rest) ← complex nested relative (skipBlank cs)
      match skipBlank rest with
      | ',' :: rest => do
          let (others, rest) ← entries relative inner steps rest
          .ok (entry :: others, rest)
      | rest => if atListEnd inner rest then .ok ([entry], rest) else .error (.stuck rest)

end Nested

def listAt : Nat → Bool → Bool → List Char → Reading (SelectorList × List Char)
  | 0, _, _, cs => .error (.stuck cs)
  | depth + 1, relative, inner, cs =>
      entries (fun relative cs => listAt depth relative true cs) relative inner (cs.length + 1) cs

-- No text nests deeper than it is long.
def parseChars (relative : Bool) (cs : List Char) : Except Error SelectorList :=
  if cs.all Text.isBlank then .error .empty
  else
    match listAt (cs.length + 1) relative false cs with
    | .ok (list, _) => .ok list
    | .error reject => .error (reject.toError cs)

namespace SelectorList

def parse (text : String) : Except Error SelectorList := parseChars false text.toList

def parseRelative (text : String) : Except Error SelectorList :=
  parseChars true text.toList

end SelectorList

end DomQuery.Selector
