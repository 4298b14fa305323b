import DomQuery.Markup.Reference
import DomQuery.Markup.Token

set_option autoImplicit false

namespace DomQuery.Markup

def skipSpace (cs : List Char) : List Char := cs.dropWhile isSpace

def showNull (cs : List Char) : List Char := cs.map fun c => if c = '\x00' then replacement else c

def lowerName (cs : List Char) : String := .ofList ((showNull cs).map Char.toLower)

def opensWith (word : List Char) (cs : List Char) : Bool :=
  (cs.take word.length).map Char.toLower == word

def isQuote (c : Char) : Bool := c = '"' || c = '\''

def endsName (c : Char) : Bool := isSpace c || c = '/' || c = '>'

def plainValue (cs : List Char) : String := .ofList (showNull (resolveAll true cs))

def attrValue? (cs : List Char) : Option (String × List Char) :=
  match skipSpace cs with
  | '=' :: cs =>
      match skipSpace cs with
      | c :: cs =>
          if isQuote c then
            match cs.dropWhile (· ≠ c) with
            | [] => none
            | _ :: rest => some (plainValue (cs.takeWhile (· ≠ c)), rest)
          else
            let ends (c : Char) : Bool := isSpace c || c = '>'
            some (plainValue ((c :: cs).takeWhile (!ends ·)), (c :: cs).dropWhile (!ends ·))
      | [] => some ("", [])
  | _ => some ("", cs)

def attrName (c : Char) (cs : List Char) : String × List Char :=
  let ends (c : Char) : Bool := endsName c || c = '='
  (lowerName (c :: cs.takeWhile (!ends ·)), cs.dropWhile (!ends ·))

-- The inside of a tag behind its name: the attributes, whether the tag closes itself, and the text
-- behind it; none if the text ends within the tag.
def attributes? : Nat → List Char → Option (List Field × Bool × List Char)
  | 0, _ => none
  | steps + 1, cs =>
      match skipSpace cs with
      | [] => none
      | '>' :: rest => some ([], false, rest)
      | '/' :: '>' :: rest => some ([], true, rest)
      | '/' :: rest => attributes? steps rest
      | c :: rest => do
          let (name, rest) := attrName c rest
          let (value, rest) ← attrValue? rest
          let (others, closing, rest) ← attributes? steps rest
          return ((name, value) :: others.filter (·.1 ≠ name), closing, rest)

def tag? (cs : List Char) : Option (Tag × List Char) := do
  let name := lowerName (cs.takeWhile (!endsName ·))
  let rest := cs.dropWhile (!endsName ·)
  let (attrs, closing, rest) ← attributes? (rest.length + 1) rest
  return (⟨name, attrs, closing⟩, rest)

def commentBody : List Char → List Char × List Char
  | '-' :: '-' :: '>' :: cs => ([], cs)
  | '-' :: '-' :: '!' :: '>' :: cs => ([], cs)
  | ['-', '-', '!'] | ['-', '-'] | ['-'] | [] => ([], [])
  | c :: cs =>
      let (body, rest) := commentBody cs
      (c :: body, rest)

def comment (cs : List Char) : List Char × List Char :=
  match cs with
  | '>' :: rest | '-' :: '>' :: rest => ([], rest)
  | cs => commentBody cs

def upToAngle (cs : List Char) : List Char × List Char :=
  (cs.takeWhile (· ≠ '>'), (cs.dropWhile (· ≠ '>')).drop 1)

def commentToken (read : List Char × List Char) : List Token × List Char :=
  ([.comment (.ofList (showNull read.1))], read.2)

def identifier? : List Char → Option (String × Bool × List Char)
  | c :: cs =>
      if isQuote c then
        let ends (d : Char) : Bool := d = c || d = '>'
        let rest := cs.dropWhile (!ends ·)
        some (.ofList (showNull (cs.takeWhile (!ends ·))), rest.head? == some c, rest.drop 1)
      else none
  | [] => none

def Doctype.broken (d : Doctype) : Doctype := { d with malformed := true }

def systemPart (d : Doctype) (cs : List Char) : Doctype × List Char :=
  match identifier? (skipSpace cs) with
  | none => (d.broken, (upToAngle cs).2)
  | some (id, false, rest) => (Doctype.broken { d with systemId := some id }, rest)
  | some (id, true, rest) =>
      let d := { d with systemId := some id }
      if skipSpace rest = [] then (d.broken, []) else (d, (upToAngle rest).2)

def publicPart (d : Doctype) (cs : List Char) : Doctype × List Char :=
  match identifier? (skipSpace cs) with
  | none => (d.broken, (upToAngle cs).2)
  | some (id, false, rest) => (Doctype.broken { d with publicId := some id }, rest)
  | some (id, true, rest) =>
      let d := { d with publicId := some id }
      match skipSpace rest with
      | '>' :: rest => (d, rest)
      | rest => systemPart d rest

def doctype (cs : List Char) : Doctype × List Char :=
  match skipSpace cs with
  | [] => (Doctype.broken {}, [])
  | '>' :: rest => (Doctype.broken {}, rest)
  | cs =>
      let ends (c : Char) : Bool := isSpace c || c = '>'
      let d : Doctype := { name := some (lowerName (cs.takeWhile (!ends ·))) }
      match skipSpace (cs.dropWhile (!ends ·)) with
      | [] => (d.broken, [])
      | '>' :: rest => (d, rest)
      | rest =>
          if opensWith ['p', 'u', 'b', 'l', 'i', 'c'] rest then publicPart d (rest.drop 6)
          else if opensWith ['s', 'y', 's', 't', 'e', 'm'] rest then systemPart d (rest.drop 6)
          else (d.broken, (upToAngle rest).2)

def closes (name : List Char) (cs : List Char) : Bool :=
  opensWith ('<' :: '/' :: name) cs && (cs.drop (name.length + 2)).head?.any endsName

def upToEndTag (name : List Char) : List Char → List Char × List Char
  | [] => ([], [])
  | c :: cs =>
      if closes name (c :: cs) then ([], c :: cs)
      else
        let (body, rest) := upToEndTag name cs
        (c :: body, rest)

-- A script may hide its end tag in a comment, and there in a script of its own.
inductive ScriptPart where
  | open | commented | nested
deriving DecidableEq

def scriptName : List Char := ['s', 'c', 'r', 'i', 'p', 't']

def opensScript (cs : List Char) : Bool :=
  opensWith ('<' :: scriptName) cs && (cs.drop 7).head?.any endsName

def ScriptPart.next (part : ScriptPart) (cs : List Char) : ScriptPart :=
  match part with
  | .open => if ['<', '!', '-', '-'].isPrefixOf cs then .commented else .open
  | .commented =>
      if ['-', '-', '>'].isPrefixOf cs then .open
      else if opensScript cs then .nested
      else .commented
  | .nested =>
      if ['-', '-', '>'].isPrefixOf cs then .open
      else if closes scriptName cs then .commented
      else .nested

def upToScriptEnd (part : ScriptPart) : List Char → List Char × List Char
  | [] => ([], [])
  | c :: cs =>
      if part ≠ .nested && closes scriptName (c :: cs) then ([], c :: cs)
      else
        let (body, rest) := upToScriptEnd (part.next (c :: cs)) cs
        (c :: body, rest)

def characters (cs : List Char) : List Token := cs.map .char

def faultInFront : List Char → List Token
  | '&' :: cs => if lacksSemicolon cs then [.fault] else []
  | _ => []

def declaration (foreign : Bool) (cs : List Char) : List Token × List Char :=
  if ['-', '-'].isPrefixOf cs then commentToken (comment (cs.drop 2))
  else if opensWith ['d', 'o', 'c', 't', 'y', 'p', 'e'] cs then
    let (d, rest) := doctype (cs.drop 7)
    ([.doctype d], rest)
  else if foreign && ['[', 'C', 'D', 'A', 'T', 'A', '['].isPrefixOf cs then
    characterData (cs.drop 7)
  else commentToken (upToAngle cs)
where
  characterData : List Char → List Token × List Char
    | ']' :: ']' :: '>' :: cs => ([], cs)
    | c :: cs =>
        let (body, rest) := characterData cs
        (.char c :: body, rest)
    | [] => ([], [])

-- Markup behind `<`. A tag that the text breaks off is lost with the text.
def angle (foreign : Bool) (cs : List Char) : List Token × List Char :=
  match cs with
  | '!' :: rest => declaration foreign rest
  | '?' :: _ => commentToken (upToAngle cs)
  | '/' :: '>' :: rest => ([.fault], rest)
  | ['/'] => (characters ['<', '/'], [])
  | '/' :: c :: rest =>
      if c.isAlpha then
        match tag? (c :: rest) with
        | some (tag, rest) => ([.endTag tag.name], rest)
        | none => ([], [])
      else commentToken (upToAngle (c :: rest))
  | c :: rest =>
      if c.isAlpha then
        match tag? (c :: rest) with
        | some (tag, rest) => ([.startTag tag], rest)
        | none => ([], [])
      else (characters ['<'], cs)
  | [] => (characters ['<'], [])

def scan (content : Content) (foreign : Bool) (cs : List Char) : List Token × List Char :=
  match content with
  | .markup =>
      match cs with
      | '<' :: rest => angle foreign rest
      | '&' :: rest =>
          let (chars, left) := reference false rest
          (faultInFront cs ++ characters chars, left)
      | c :: rest => ([.char c], rest)
      | [] => ([], [])
  | .resolvable name =>
      let (body, rest) := upToEndTag name.toList cs
      (faultInFront body ++ characters (resolveAll false (showNull body)), rest)
  | .raw name =>
      let (body, rest) := upToEndTag name.toList cs
      (characters (showNull body), rest)
  | .script =>
      let (body, rest) := upToScriptEnd .open cs
      (characters (showNull body), rest)
  | .plain => (characters (showNull cs), [])

end DomQuery.Markup
