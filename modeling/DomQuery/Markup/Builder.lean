import DomQuery.Markup.Foreign
import DomQuery.Markup.Vocabulary

set_option autoImplicit false

namespace DomQuery.Markup

inductive Mode where
  | initial | beforeHtml | beforeHead | inHead | afterHead | inBody | text
  | inTable | inTableText | inCaption | inColumnGroup | inTableBody | inRow | inCell
  | inSelect | inSelectInTable | inTemplate
  | afterBody | inFrameset | afterFrameset | afterAfterBody | afterAfterFrameset
deriving DecidableEq

-- Formatting in force: an element with the tag that made it, or the edge of an element that
-- formatting from outside does not enter.
inductive Formatting where
  | edge
  | element (r : Ref) (tag : Tag)

structure Builder where
  draft : Draft
  mode : Mode := .initial
  returnMode : Mode := .initial
  templateModes : List Mode := []
  -- Innermost first.
  openElements : List Ref := []
  -- Latest first.
  formatting : List Formatting := []
  tableText : List Char := []
  head : Option Ref := none
  form : Option Ref := none
  -- A fragment is read as the content of an element of this name.
  context : Option String := none
  oldPage : Bool := false
  oldSystemIds : List String := []
  framesetOk : Bool := true
  skipNewline : Bool := false
  fostering : Bool := false
  content : Content := .markup
  interrupted : Bool := false

namespace Builder

def document : Ref := 0

def new : Builder := { draft := ⟨#[{ item := .holder }]⟩ }

def element? (b : Builder) (r : Ref) : Option DraftElement := b.draft.element? r

def is (b : Builder) (r : Ref) (name : String) : Bool := (b.element? r).any (·.isHtml name)

def isOf (b : Builder) (r : Ref) (names : Names) : Bool := (b.element? r).any (·.isHtmlOf names)

def current? (b : Builder) : Option Ref := b.openElements.head?

def currentIs (b : Builder) (name : String) : Bool := b.current?.any (b.is · name)

def currentIsOf (b : Builder) (names : Names) : Bool := b.current?.any (b.isOf · names)

def root (b : Builder) : Ref := b.openElements.getLastD document

def body? (b : Builder) : Option Ref :=
  (b.openElements.reverse[1]?).filter (b.is · "body")

def hasOpen (b : Builder) (name : String) : Bool := b.openElements.any (b.is · name)

def inScope (b : Builder) (scope : Scope) (p : Ref → Bool) : Bool :=
  go b.openElements
where
  go : List Ref → Bool
    | [] => false
    | r :: rs => p r || (!(b.element? r).any scope.stopsAt && go rs)

def hasInScope (b : Builder) (scope : Scope) (name : String) : Bool :=
  b.inScope scope (b.is · name)

def pop (b : Builder) : Builder := { b with openElements := b.openElements.drop 1 }

def popIf (b : Builder) (name : String) : Builder := if b.currentIs name then b.pop else b

def popThrough (b : Builder) (p : Ref → Bool) : Builder :=
  { b with openElements := (b.openElements.dropWhile (!p ·)).drop 1 }

def popThroughNamed (b : Builder) (name : String) : Builder := b.popThrough (b.is · name)

def popTo (b : Builder) (names : Names) : Builder :=
  { b with openElements := b.openElements.dropWhile (!b.isOf · names) }

def closeAllOf (b : Builder) (names : Names) : Builder :=
  { b with openElements := b.openElements.dropWhile (b.isOf · names) }

def closeImplied (b : Builder) : Builder := b.closeAllOf impliedEnds

def closeImpliedBut (b : Builder) (name : String) : Builder :=
  b.closeAllOf (impliedEnds.filter (· ≠ name))

def closeParagraph (b : Builder) : Builder := (b.closeImpliedBut "p").popThroughNamed "p"

def closeParagraphInScope (b : Builder) : Builder :=
  if b.hasInScope .button "p" then b.closeParagraph else b

def removeOpen (b : Builder) (r : Ref) : Builder :=
  { b with openElements := b.openElements.erase r }

-- Where children of `target` go. Content that a table does not hold goes in front of the table,
-- or where the table would be.
def spotIn (b : Builder) (target : Ref) : Spot :=
  let inside (r : Ref) : Spot := .last (((b.element? r).bind (·.content)).getD r)
  if b.fostering && b.isOf target tableOuter then
    match b.openElements.dropWhile (!b.isOf · ["table", "template"]) with
    | [] => .last b.root
    | r :: outer =>
        if b.is r "template" then inside r
        else if (b.draft.parent r).isSome then .before r
        else inside (outer.head?.getD b.root)
  else inside target

def spot (b : Builder) : Spot := b.spotIn (b.current?.getD document)

def create (b : Builder) (space : Space) (tag : Tag) : Builder × Ref :=
  let isTemplate := space = .html && tag.name = "template"
  let draft := if isTemplate then b.draft.push .holder else b.draft
  let content := if isTemplate then some b.draft.next else none
  ({ b with draft := draft.push (.element ⟨space, tag.name, tag.attrs, content⟩) }, draft.next)

def insertRef (b : Builder) (space : Space) (tag : Tag) : Builder × Ref :=
  let spot := b.spot
  let (b, r) := b.create space tag
  ({ b with draft := b.draft.move r spot, openElements := r :: b.openElements }, r)

def insert (b : Builder) (tag : Tag) : Builder := (b.insertRef .html tag).1

def insertNamed (b : Builder) (name : String) : Builder := b.insert { name }

def insertClosed (b : Builder) (tag : Tag) : Builder := (b.insert tag).pop

def insertChar (b : Builder) (c : Char) : Builder :=
  { b with draft := b.draft.insertText (.ofList [c]) b.spot }

def insertComment (b : Builder) (content : String) : Builder :=
  { b with draft := b.draft.insert (.comment content) b.spot }

def commentIn (b : Builder) (r : Ref) (content : String) : Builder :=
  { b with draft := b.draft.insert (.comment content) (.last r) }

def insertRoot (b : Builder) (attrs : List Field) : Builder :=
  let (b, r) := b.create .html ⟨"html", attrs, false⟩
  { b with draft := b.draft.move r (.last document), openElements := [r] }

def insertText (b : Builder) (tag : Tag) (content : Content) : Builder :=
  { b.insert tag with content, returnMode := b.mode, mode := .text }

def markEdge (b : Builder) : Builder := { b with formatting := .edge :: b.formatting }

def clearToEdge (b : Builder) : Builder :=
  { b with
    formatting := (b.formatting.dropWhile fun
      | .edge => false
      | _ => true).drop 1 }

def inForce (b : Builder) : List (Ref × Tag) :=
  go b.formatting
where
  go : List Formatting → List (Ref × Tag)
    | .element r tag :: rest => (r, tag) :: go rest
    | _ => []

def removeFormatting (b : Builder) (r : Ref) : Builder :=
  { b with
    formatting := b.formatting.filter fun
      | .element s _ => s ≠ r
      | .edge => true }

def isFormatting (b : Builder) (r : Ref) : Bool :=
  b.formatting.any fun
    | .element s _ => s = r
    | .edge => false

def replaceFormatting (b : Builder) (old new : Ref) : Builder :=
  { b with
    formatting := b.formatting.map fun
      | .element s tag => .element (if s = old then new else s) tag
      | .edge => .edge }

def reconstruct (b : Builder) : Builder :=
  let closed := (b.inForce.takeWhile fun (r, _) => !b.openElements.contains r).reverse
  closed.foldl (fun b (r, tag) =>
    let (b, new) := b.insertRef .html tag
    b.replaceFormatting r new) b

def sameTag (a b : Tag) : Bool :=
  a.name = b.name && a.attrs.length = b.attrs.length && a.attrs.all b.attrs.contains

-- No more than three equal elements are in force; the earliest gives way.
def insertFormatting (b : Builder) (tag : Tag) : Builder :=
  let equal := b.inForce.filter fun e => sameTag tag e.2
  let b := match equal.getLast? with
    | some earliest => if 3 ≤ equal.length then b.removeFormatting earliest.1 else b
    | none => b
  let (b, r) := b.insertRef .html tag
  { b with formatting := .element r tag :: b.formatting }

def insertForeign (b : Builder) (space : Space) (tag : Tag) : Builder :=
  let b' := (b.insertRef space (foreignTag space tag)).1
  if tag.selfClosing then b'.pop else b'

def contextElement? (b : Builder) : Option DraftElement :=
  b.context.map fun name => ⟨.html, name, [], none⟩

-- The element that an open one counts as: in a fragment the context stands for the outermost.
def standing? (b : Builder) (r : Ref) : Option DraftElement :=
  if b.openElements.getLast? = some r then b.contextElement?.or (b.element? r) else b.element? r

def adjusted? (b : Builder) : Option DraftElement := b.current?.bind b.standing?

def inForeign (b : Builder) : Bool := b.adjusted?.any (·.space ≠ .html)

def modeOf? (b : Builder) (name : String) (outer : List Ref) : Option Mode :=
  if name = "select" then
    some (if (outer.find? (b.isOf · ["table", "template"])).any (b.is · "table") then
      .inSelectInTable else .inSelect)
  else if tableCells.contains name && outer ≠ [] then some .inCell
  else if name = "tr" then some .inRow
  else if tableSections.contains name then some .inTableBody
  else if name = "caption" then some .inCaption
  else if name = "colgroup" then some .inColumnGroup
  else if name = "table" then some .inTable
  else if name = "template" then b.templateModes.head?
  else if name = "head" && outer ≠ [] then some .inHead
  else if name = "body" then some .inBody
  else if name = "frameset" then some .inFrameset
  else if name = "html" then some (if b.head.isNone then .beforeHead else .afterHead)
  else none

def modeAt (b : Builder) : List Ref → Mode
  | [] => .inBody
  | r :: outer =>
      match (b.standing? r).filter (·.space = .html) with
      | some e => (b.modeOf? e.name outer).getD (b.modeAt outer)
      | none => b.modeAt outer

def resetMode (b : Builder) : Mode := b.modeAt b.openElements

end Builder

-- The token has had its effect; or it is looked at once more, now in another part of the document;
-- or the rules for another part say what it does here.
inductive Step where
  | done (b : Builder)
  | again (b : Builder)
  | byRules (mode : Mode) (b : Builder)

namespace Builder

def againIn (b : Builder) (mode : Mode) : Step := .again { b with mode }

def continueIn (b : Builder) (mode : Mode) : Step := .done { b with mode }

def foster (b : Builder) : Step := .byRules .inBody { b with fostering := true }

end Builder

end DomQuery.Markup
