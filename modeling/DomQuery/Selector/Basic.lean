import DomQuery.Selector.Nth
import DomQuery.Text.Quoted

set_option autoImplicit false

namespace DomQuery.Selector

inductive Combinator where
  | descendant | child | nextSibling | subsequentSibling
deriving DecidableEq

inductive AttrRelation where
  | equals | includes | dashMatch | startsWith | endsWith | substring | notEquals
deriving DecidableEq

inductive AttrTest where
  | present (name : String)
  | compare (name : String) (op : AttrRelation) (value : String) (ignoreCase : Bool)
deriving DecidableEq

mutual

inductive Simple where
  | universal
  | type (name : String)
  | id (name : String)
  | className (name : String)
  | attribute (test : AttrTest)
  | pseudo (cls : PseudoClass)

inductive PseudoClass where
  | root | empty
  | firstChild | lastChild | onlyChild
  | firstOfType | lastOfType | onlyOfType
  | nthChild (e : Nth) | nthLastChild (e : Nth) | nthOfType (e : Nth) | nthLastOfType (e : Nth)
  | checked | disabled | enabled
  | not (list : List Complex)
  | is (list : List Complex)
  | has (list : List Complex)
  | contains (text : String)

-- Compounds, each a list of conditions on one element, joined from left to right. A selector with
-- an anchor begins with a combinator, whose left side is the scope that it is matched in.
inductive Complex where
  | start (anchor : Option Combinator) (compound : List Simple)
  | link (left : Complex) (combinator : Combinator) (compound : List Simple)

end

abbrev Compound := List Simple

abbrev SelectorList := List Complex

namespace Complex

def anchor : Complex → Option Combinator
  | start anchor _ => anchor
  | link left _ _ => left.anchor

def compounds : Complex → List Compound
  | start _ compound => [compound]
  | link left _ compound => left.compounds ++ [compound]

def combinators : Complex → List Combinator
  | start .. => []
  | link left combinator _ => left.combinators ++ [combinator]

theorem length_compounds : (c : Complex) → c.compounds.length = c.combinators.length + 1
  | start .. => rfl
  | link left combinator compound => by simp [compounds, combinators, length_compounds left]

end Complex

def SelectorList.isRelative (list : SelectorList) : Bool := list.any (·.anchor.isSome)

inductive Error where
  | empty
  | unexpectedToken (token : Char) (offset : Nat)
  | unmatchedPseudoClass (name : String)
  | unexpectedEnd
  | invalidNth (text : String)
deriving DecidableEq

def Error.message : Error → String
  | empty => "Empty selector"
  | unexpectedToken token offset => "Unexpected " ++ token.quoted ++ " at offset " ++ offset.repr
  | unmatchedPseudoClass name => "unmatched pseudo-class :" ++ name
  | unexpectedEnd => "Unexpected end of selector"
  | invalidNth text => "Invalid nth expression " ++ text.quoted

-- A failure in the course of reading. Where no rule applies, what is left of the text tells how
-- far reading came.
inductive Reject where
  | stuck (rest : List Char)
  | unmatchedPseudoClass (name : String)
  | invalidNth (text : String)
deriving DecidableEq

def byteLength : List Char → Nat
  | [] => 0
  | c :: cs => c.utf8Size + byteLength cs

def Reject.toError (text : List Char) : Reject → Error
  | stuck [] => .unexpectedEnd
  | stuck (c :: rest) => .unexpectedToken c (byteLength text - byteLength (c :: rest))
  | unmatchedPseudoClass name => .unmatchedPseudoClass name
  | invalidNth text => .invalidNth text

end DomQuery.Selector
