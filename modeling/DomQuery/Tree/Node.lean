import DomQuery.Fields
import DomQuery.Text.Basic

set_option autoImplicit false

namespace DomQuery

structure NodeId where
  word : UInt32
deriving DecidableEq

namespace NodeId

def document : NodeId := ⟨0⟩

def absent : NodeId := ⟨0xFFFFFFFF⟩

def index (id : NodeId) : Nat := id.word.toNat

-- The identity with this index, taken modulo `2 ^ 32`.
def ofIndex (n : Nat) : NodeId := ⟨UInt32.ofNat n⟩

def isValid (id : NodeId) : Bool := id ≠ absent

def toOption (id : NodeId) : Option NodeId := if id.isValid then some id else none

def display (id : NodeId) : String := if id.isValid then "#" ++ id.index.repr else "#none"

theorem index_injective (a b : NodeId) (same : a.index = b.index) : a = b := by
  cases a
  cases b
  simpa [index, UInt32.toNat_inj] using same

theorem index_of_index (n : Nat) (bound : n < UInt32.size) : (ofIndex n).index = n := by
  simpa [index, ofIndex] using Nat.mod_eq_of_lt bound

theorem of_index_index (id : NodeId) : ofIndex id.index = id :=
  index_injective _ _ (index_of_index _ id.word.toNat_lt)

end NodeId

inductive NodeType where
  | element | text | instruction | comment | document | doctype
deriving DecidableEq

namespace NodeType

def number : NodeType → Nat
  | element => 1
  | text => 3
  | instruction => 7
  | comment => 8
  | document => 9
  | doctype => 10

def ofNumber? (n : Nat) : Option NodeType :=
  [element, text, instruction, comment, document, doctype].find? (·.number == n)

def name : NodeType → String
  | element => "element"
  | text => "text"
  | instruction => "processing-instruction"
  | comment => "comment"
  | document => "document"
  | doctype => "doctype"

end NodeType

structure Element where
  name : String
  attrs : Fields := .empty

namespace Element

def attr? (e : Element) (name : String) : Option String := e.attrs.get? name

def hasAttr (e : Element) (name : String) : Bool := e.attrs.contains name

def setAttr (e : Element) (name value : String) : Element :=
  { e with attrs := e.attrs.insert name value }

theorem attr_set_attr (e : Element) (name other value : String) :
    (e.setAttr name value).attr? other = if other = name then some value else e.attr? other :=
  Fields.get_insert e.attrs name other value

def removeAttr (e : Element) (name : String) : Element := { e with attrs := e.attrs.erase name }

def takeAttr (e : Element) (name : String) : Option String × Element :=
  let taken := e.attrs.takeOut name
  (taken.1, { e with attrs := taken.2 })

theorem take_attr_eq (e : Element) (name : String) :
    e.takeAttr name = (e.attr? name, e.removeAttr name) := by
  rw [takeAttr, Fields.take_out_eq]
  rfl

def id? (e : Element) : Option String := e.attr? "id"

def classes (e : Element) : List String := ((e.attr? "class").getD "").blankWords

def hasClass (e : Element) (name : String) : Bool := e.classes.contains name

end Element

inductive Payload where
  | document
  | doctype (name publicId systemId : String)
  | element (e : Element)
  | text (content : String)
  | comment (content : String)
  | instruction (target data : String)

namespace Payload

def type : Payload → NodeType
  | document => .document
  | doctype .. => .doctype
  | element _ => .element
  | text _ => .text
  | comment _ => .comment
  | instruction .. => .instruction

def element? : Payload → Option Element
  | element e => some e
  | _ => none

def text? : Payload → Option String
  | text content => some content
  | _ => none

def isElement (p : Payload) : Bool := p.element?.isSome

def mapElement (f : Element → Element) : Payload → Payload
  | element e => element (f e)
  | p => p

end Payload

structure Links where
  parent : Option NodeId := none
  firstChild : Option NodeId := none
  lastChild : Option NodeId := none
  prevSibling : Option NodeId := none
  nextSibling : Option NodeId := none
deriving DecidableEq

structure Node where
  payload : Payload
  links : Links := {}

end DomQuery
