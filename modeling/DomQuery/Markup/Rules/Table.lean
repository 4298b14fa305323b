import DomQuery.Markup.Rules.Body

set_option autoImplicit false

namespace DomQuery.Markup.Builder

def tableContext : Names := ["table", "template", "html"]

def sectionContext : Names := tableSections ++ ["template", "html"]

def rowContext : Names := ["tr", "template", "html"]

def inTableRules (b : Builder) (token : Token) : Step :=
  match token with
  | .char _ =>
      if b.currentIsOf tableOuter then { b with returnMode := b.mode }.againIn .inTableText
      else b.foster
  | .comment content => .done (b.insertComment content)
  | .startTag tag =>
      let name := tag.name
      let b' := b.popTo tableContext
      if name = "caption" then (b'.markEdge.insert tag).continueIn .inCaption
      else if name = "colgroup" then (b'.insert tag).continueIn .inColumnGroup
      else if name = "col" then (b'.insertNamed "colgroup").againIn .inColumnGroup
      else if tableSections.contains name then (b'.insert tag).continueIn .inTableBody
      else if tableCells.contains name || name = "tr" then
        (b'.insertNamed "tbody").againIn .inTableBody
      else if name = "table" then
        if b.hasInScope .table name then
          let b := b.popThroughNamed name
          b.againIn b.resetMode
        else .done b
      else if ["style", "script", "template"].contains name then .byRules .inHead b
      else if name = "input" && isHidden tag then .done (b.insertClosed tag)
      else if name = "form" then
        if b.hasOpen "template" || b.form.isSome then .done b
        else
          let (b, r) := b.insertRef .html tag
          .done { b.pop with form := some r }
      else b.foster
  | .endTag name =>
      if name = "table" then
        if b.hasInScope .table name then
          let b := b.popThroughNamed name
          b.continueIn b.resetMode
        else .done b
      else if tableParts.contains name || ["body", "html"].contains name then .done b
      else if name = "template" then .byRules .inHead b
      else b.foster
  | .endOfText => .byRules .inBody b
  | _ => .done b

-- The characters that have come between the parts of a table: blanks stay, anything else takes
-- them with it out of the table.
def flushTableText (b : Builder) : Builder :=
  let chars := b.tableText.reverse
  let b := { b with tableText := [] }
  if chars.all isSpace then chars.foldl insertChar b
  else { chars.foldl bodyChar { b with fostering := true } with fostering := false }

def inTableTextRules (b : Builder) (token : Token) : Step :=
  match token with
  | .char c => .done (if c = '\x00' then b else { b with tableText := c :: b.tableText })
  | _ => b.flushTableText.againIn b.returnMode

def closeCaption (b : Builder) : Builder := (b.closeImplied.popThroughNamed "caption").clearToEdge

def inCaptionRules (b : Builder) (token : Token) : Step :=
  match token with
  | .startTag tag =>
      if tableParts.contains tag.name then
        if b.hasInScope .table "caption" then b.closeCaption.againIn .inTable else .done b
      else .byRules .inBody b
  | .endTag name =>
      if name = "caption" then
        if b.hasInScope .table name then b.closeCaption.continueIn .inTable else .done b
      else if name = "table" then
        if b.hasInScope .table "caption" then b.closeCaption.againIn .inTable else .done b
      else if tableParts.contains name || ["body", "html"].contains name then .done b
      else .byRules .inBody b
  | _ => .byRules .inBody b

def inColumnGroupRules (b : Builder) (token : Token) : Step :=
  let other := if b.currentIs "colgroup" then b.pop.againIn .inTable else .done b
  match token with
  | .char c => if isSpace c then .done (b.insertChar c) else other
  | .comment content => .done (b.insertComment content)
  | .startTag tag =>
      if tag.name = "html" then .byRules .inBody b
      else if tag.name = "col" then .done (b.insertClosed tag)
      else if tag.name = "template" then .byRules .inHead b
      else other
  | .endTag name =>
      if name = "colgroup" then
        if b.currentIs name then b.pop.continueIn .inTable else .done b
      else if name = "col" then .done b
      else if name = "template" then .byRules .inHead b
      else other
  | .endOfText => .byRules .inBody b
  | _ => .done b

def leaveSection (b : Builder) : Step :=
  if b.inScope .table (b.isOf · ["table", "tbody", "tfoot"]) then
    (b.popTo sectionContext).pop.againIn .inTable
  else .done b

def inTableBodyRules (b : Builder) (token : Token) : Step :=
  let b' := b.popTo sectionContext
  match token with
  | .startTag tag =>
      if tag.name = "tr" then (b'.insert tag).continueIn .inRow
      else if tableCells.contains tag.name then (b'.insertNamed "tr").againIn .inRow
      else if tableParts.contains tag.name then b.leaveSection
      else .byRules .inTable b
  | .endTag name =>
      if tableSections.contains name then
        if b.hasInScope .table name then b'.pop.continueIn .inTable else .done b
      else if name = "table" then b.leaveSection
      else if tableParts.contains name || ["body", "html"].contains name then .done b
      else .byRules .inTable b
  | _ => .byRules .inTable b

def inRowRules (b : Builder) (token : Token) : Step :=
  let b' := b.popTo rowContext
  let leave : Step := if b.hasInScope .table "tr" then b'.pop.againIn .inTableBody else .done b
  match token with
  | .startTag tag =>
      if tableCells.contains tag.name then (b'.insert tag).markEdge.continueIn .inCell
      else if tableParts.contains tag.name then leave
      else .byRules .inTable b
  | .endTag name =>
      if name = "tr" then
        if b.hasInScope .table name then b'.pop.continueIn .inTableBody else .done b
      else if name = "table" then leave
      else if tableSections.contains name then
        if b.hasInScope .table name then leave else .done b
      else if tableParts.contains name || ["body", "html"].contains name then .done b
      else .byRules .inTable b
  | _ => .byRules .inTable b

def closeCell (b : Builder) : Builder :=
  (b.closeImplied.popThrough (b.isOf · tableCells)).clearToEdge

def inCellRules (b : Builder) (token : Token) : Step :=
  match token with
  | .startTag tag =>
      if tableParts.contains tag.name then
        if b.inScope .table (b.isOf · tableCells) then b.closeCell.againIn .inRow else .done b
      else .byRules .inBody b
  | .endTag name =>
      if tableCells.contains name then
        if b.hasInScope .table name then
          (b.closeImplied.popThroughNamed name).clearToEdge.continueIn .inRow
        else .done b
      else if tableOuter.contains name then
        if b.hasInScope .table name then b.closeCell.againIn .inRow else .done b
      else if tableParts.contains name || ["body", "html"].contains name then .done b
      else .byRules .inBody b
  | _ => .byRules .inBody b

end DomQuery.Markup.Builder
