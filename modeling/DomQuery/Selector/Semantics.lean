import DomQuery.Selector.Basic
import DomQuery.Text.Lowercase
import DomQuery.Text.Basic
import DomQuery.Tree.Walk

set_option autoImplicit false

namespace DomQuery.Selector

def AttrRelation.compare (op : AttrRelation) (expected value : List Char) : Bool :=
  match op with
  | .equals => value == expected
  | .notEquals => value != expected
  | .includes => !expected.isEmpty && (Text.words value).contains expected
  | .dashMatch => value == expected || (expected ++ ['-']).isPrefixOf value
  | .startsWith => !expected.isEmpty && expected.isPrefixOf value
  | .endsWith => !expected.isEmpty && expected.isSuffixOf value
  | .substring => !expected.isEmpty && Text.occursIn expected value

def AttrTest.holds (test : AttrTest) (e : Element) : Bool :=
  match test with
  | .present name => e.hasAttr name
  | .compare name op expected ignoreCase =>
      let fold := if ignoreCase then Text.lower else id
      match e.attr? name with
      | some value => op.compare (fold expected.toList) (fold value.toList)
      | none => op = .notEquals

def equalAscii (a b : String) : Bool := a.toList.map Char.toLower == b.toList.map Char.toLower

def precedingElement? (t : Tree) (n : NodeId) : Option NodeId :=
  (t.precedingSiblings n).find? t.isElement

-- The element children of the parent of `n`, itself included; a root is alone.
def row (t : Tree) (n : NodeId) : List NodeId :=
  match t.parent n with
  | some parent => t.elementChildren parent
  | none => [n]

def typeRow (t : Tree) (n : NodeId) (name : String) : List NodeId :=
  match t.parent n with
  | some _ => (row t n).filter fun m => t.tagName? m == some name
  | none => [n]

def place (ns : List NodeId) (n : NodeId) : Nat := (ns.idxOf? n).getD 0 + 1

def placeFromEnd (ns : List NodeId) (n : NodeId) : Nat := max ns.length 1 + 1 - place ns n

def Nth.picks (e : Nth) (position : Nat) : Bool := e.holds (Int32.ofNat position)

def canBeDisabled (e : Element) : Bool :=
  ["button", "input", "select", "textarea", "optgroup", "option", "fieldset"].contains e.name

def isChecked (e : Element) : Bool :=
  if e.name = "input" then
    e.hasAttr "checked" &&
      (e.attr? "type").any fun kind => equalAscii kind "checkbox" || equalAscii kind "radio"
  else e.name = "option" && e.hasAttr "selected"

def isHollow (t : Tree) (n : NodeId) : Bool :=
  (t.children n).all fun m => !t.isElement m && (t.text? m).all (·.isEmpty)

def Combinator.joins (combinator : Combinator) (t : Tree) (left right : NodeId) : Bool :=
  match combinator with
  | .descendant => t.contains left right
  | .child => t.parent right == some left
  | .nextSibling => precedingElement? t right == some left
  | .subsequentSibling => (t.precedingSiblings right).contains left

-- Without a scope nothing answers to an anchor; with one, a selector without an anchor is bound to
-- the nodes below it.
def anchored (t : Tree) (anchor : Option Combinator) (scope : Option NodeId) (n : NodeId) : Bool :=
  match scope with
  | some scope => (anchor.getD .descendant).joins t scope n
  | none => anchor.isNone

def leftOf (t : Tree) (combinator : Combinator) (n : NodeId) : List NodeId :=
  match combinator with
  | .child => (t.parent n).toList
  | .descendant => t.ancestors n
  | .nextSibling => (precedingElement? t n).toList
  | .subsequentSibling => (t.precedingSiblings n).filter t.isElement

-- The nodes where a selector in `:has` can match: below `n`, or for a sibling anchor among the
-- siblings behind it and below them.
def reach (t : Tree) (anchor : Option Combinator) (n : NodeId) : List NodeId :=
  match anchor with
  | some .nextSibling | some .subsequentSibling =>
      (t.followingSiblings n).flatMap fun m => m :: t.descendants m
  | _ => t.descendants n

mutual

def Simple.holds (t : Tree) (n : NodeId) (e : Element) : Simple → Bool
  | .universal => true
  | .type name => equalAscii e.name name
  | .id name => e.id? == some name
  | .className name => e.hasClass name
  | .attribute test => test.holds e
  | .pseudo cls => cls.holds t n e

def PseudoClass.holds (t : Tree) (n : NodeId) (e : Element) : PseudoClass → Bool
  | .root => (t.parent n).all fun parent => !t.isElement parent
  | .empty => isHollow t n
  | .firstChild => place (row t n) n == 1
  | .lastChild => placeFromEnd (row t n) n == 1
  | .onlyChild => (row t n).length ≤ 1
  | .firstOfType => place (typeRow t n e.name) n == 1
  | .lastOfType => placeFromEnd (typeRow t n e.name) n == 1
  | .onlyOfType => (typeRow t n e.name).length ≤ 1
  | .nthChild nth => nth.picks (place (row t n) n)
  | .nthLastChild nth => nth.picks (placeFromEnd (row t n) n)
  | .nthOfType nth => nth.picks (place (typeRow t n e.name) n)
  | .nthLastOfType nth => nth.picks (placeFromEnd (typeRow t n e.name) n)
  | .checked => isChecked e
  | .disabled => canBeDisabled e && e.hasAttr "disabled"
  | .enabled => canBeDisabled e && !e.hasAttr "disabled"
  | .not list => !anyHolds t none n list
  | .is list => anyHolds t none n list
  | .has list => anyReached t n list
  | .contains text => Text.occursIn text.toList (t.textContent n).toList

def allHold (t : Tree) (n : NodeId) (e : Element) : List Simple → Bool
  | [] => true
  | part :: parts => part.holds t n e && allHold t n e parts

def Complex.holds (t : Tree) (scope : Option NodeId) : Complex → NodeId → Bool
  | .start anchor compound, n =>
      (t.element? n).any (allHold t n · compound) && anchored t anchor scope n
  | .link left combinator compound, n =>
      (t.element? n).any (allHold t n · compound) &&
        (leftOf t combinator n).any (left.holds t scope)

def anyHolds (t : Tree) (scope : Option NodeId) (n : NodeId) : List Complex → Bool
  | [] => false
  | entry :: entries => entry.holds t scope n || anyHolds t scope n entries

def anyReached (t : Tree) (n : NodeId) : List Complex → Bool
  | [] => false
  | entry :: entries =>
      (reach t entry.anchor n).any (entry.holds t (some n)) || anyReached t n entries

end

namespace SelectorList

def holds (list : SelectorList) (t : Tree) (n : NodeId) : Bool := anyHolds t none n list

def holdsIn (list : SelectorList) (t : Tree) (scope n : NodeId) : Bool :=
  anyHolds t (some scope) n list

def queryAll (list : SelectorList) (t : Tree) (root : NodeId) : List NodeId :=
  (t.descendants root).filter (list.holdsIn t root)

end SelectorList

end DomQuery.Selector
