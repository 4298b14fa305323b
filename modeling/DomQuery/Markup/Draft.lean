import DomQuery.Markup.Source
import DomQuery.Markup.Token

set_option autoImplicit false

namespace DomQuery.Markup

abbrev Ref := Nat

inductive Space where
  | html | svg | mathml
deriving DecidableEq

structure DraftElement where
  space : Space
  name : String
  attrs : List Field := []
  content : Option Ref := none

inductive Item where
  | holder
  | element (e : DraftElement)
  | text (content : String)
  | comment (content : String)
  | doctype (name publicId systemId : String)

structure Cell where
  item : Item
  parent : Option Ref := none
  children : List Ref := []

structure Draft where
  cells : Array Cell

inductive Spot where
  | last (parent : Ref)
  | before (sibling : Ref)

namespace Draft

def item (d : Draft) (r : Ref) : Item := (d.cells[r]?.map (·.item)).getD .holder

def parent (d : Draft) (r : Ref) : Option Ref := d.cells[r]?.bind (·.parent)

def children (d : Draft) (r : Ref) : List Ref := (d.cells[r]?.map (·.children)).getD []

def element? (d : Draft) (r : Ref) : Option DraftElement :=
  match d.item r with
  | .element e => some e
  | _ => none

def modify (d : Draft) (r : Ref) (f : Cell → Cell) : Draft := ⟨d.cells.modify r f⟩

def push (d : Draft) (item : Item) : Draft := ⟨d.cells.push { item }⟩

def next (d : Draft) : Ref := d.cells.size

def remove (d : Draft) (r : Ref) : Draft :=
  match d.parent r with
  | some parent =>
      (d.modify parent fun c => { c with children := c.children.erase r }).modify r fun c =>
        { c with parent := none }
  | none => d

def holder (d : Draft) : Spot → Option Ref
  | .last parent => some parent
  | .before sibling => d.parent sibling

def neighbour (d : Draft) : Spot → Option Ref
  | .last parent => (d.children parent).getLast?
  | .before sibling =>
      (((d.parent sibling).map d.children).getD []).takeWhile (· ≠ sibling) |>.getLast?

def move (d : Draft) (r : Ref) (spot : Spot) : Draft :=
  let d := d.remove r
  let d := match d.holder spot with
    | some parent => d.modify parent fun c =>
        { c with
          children := match spot with
            | .last _ => c.children ++ [r]
            | .before sibling =>
                c.children.takeWhile (· ≠ sibling) ++ r :: c.children.dropWhile (· ≠ sibling) }
    | none => d
  d.modify r fun c => { c with parent := d.holder spot }

def insertText (d : Draft) (content : String) (spot : Spot) : Draft :=
  let joined := (d.neighbour spot).bind fun r =>
    match d.item r with
    | .text old => some (d.modify r fun c => { c with item := .text (old ++ content) })
    | _ => none
  joined.getD ((d.push (.text content)).move d.next spot)

def insert (d : Draft) (item : Item) (spot : Spot) : Draft := (d.push item).move d.next spot

def moveChildren (d : Draft) (old new : Ref) : Draft :=
  (d.children old).foldl (fun d r => d.move r (.last new)) d

def addAttrs (d : Draft) (r : Ref) (attrs : List Field) : Draft :=
  d.modify r fun c =>
    match c.item with
    | .element e =>
        let added := attrs.filter fun a => !e.attrs.any (·.1 == a.1)
        { c with item := .element { e with attrs := e.attrs ++ added } }
    | _ => c

-- The node as the root of a finished tree. No path is longer than the draft has nodes.
def source? (d : Draft) : Nat → Ref → Option Source
  | 0, _ => none
  | depth + 1, r =>
      match d.item r with
      | .holder => none
      | .element e => some (.element e.name e.attrs ((d.children r).filterMap (d.source? depth)))
      | .text content => some (.text content)
      | .comment content => some (.comment content)
      | .doctype name publicId systemId => some (.doctype name publicId systemId)

def sources (d : Draft) (r : Ref) : List Source := (d.children r).filterMap (d.source? d.next)

end Draft

end DomQuery.Markup
