import DomQuery.Markup.Misnesting

set_option autoImplicit false

namespace DomQuery.Markup.Builder

def bodyChar (b : Builder) (c : Char) : Builder :=
  if c = '\x00' then b
  else { b.reconstruct with framesetOk := b.framesetOk && isSpace c }.insertChar c

def isHidden (tag : Tag) : Bool :=
  (tag.attrs.lookup "type").any fun kind => kind.map Char.toLower = "hidden"

def closeItem (b : Builder) (names : Names) : Builder :=
  let stops (r : Ref) : Bool := b.isOf r (specialNames.removeAll ["address", "div", "p"])
  match b.openElements.find? fun r => b.isOf r names || stops r with
  | some r =>
      match (b.element? r).filter (·.isHtmlOf names) with
      | some e => (b.closeImpliedBut e.name).popThroughNamed e.name
      | none => b
  | none => b

def closeLink (b : Builder) : Builder :=
  match b.inForce.find? fun e => e.2.name = "a" with
  | some (r, _) => ((b.closeFormatting "a").removeFormatting r).removeOpen r
  | none => b

def insertFrameset (b : Builder) (tag : Tag) : Builder :=
  match b.body? with
  | some body =>
      if b.framesetOk then
        { { b with draft := b.draft.remove body, openElements := [b.root] }.insert tag with
          mode := .inFrameset }
      else b
  | none => b

def addBodyAttrs (b : Builder) (tag : Tag) : Builder :=
  match b.body? with
  | some body =>
      if b.hasOpen "template" then b
      else { b with framesetOk := false, draft := b.draft.addAttrs body tag.attrs }
  | none => b

def openForm (b : Builder) (tag : Tag) : Builder :=
  let inTemplate := b.hasOpen "template"
  if b.form.isSome && !inTemplate then b
  else
    let (b, r) := b.closeParagraphInScope.insertRef .html tag
    if inTemplate then b else { b with form := some r }

def closeForm (b : Builder) : Builder :=
  if b.hasOpen "template" then
    if b.hasInScope .usual "form" then b.closeImplied.popThroughNamed "form" else b
  else
    match b.form with
    | some r =>
        let b := { b with form := none }
        if b.inScope .usual (· = r) then b.closeImplied.removeOpen r else b
    | none => b

def inFrame (b : Builder) : Builder := { b with framesetOk := false }

def openSelect (b : Builder) (tag : Tag) : Builder :=
  let inTable := [Mode.inTable, .inCaption, .inTableBody, .inRow, .inCell].contains b.mode
  { (b.reconstruct.insert tag).inFrame with
    mode := if inTable then .inSelectInTable else .inSelect }

def bodyStart (b : Builder) (tag : Tag) : Step :=
  let name := tag.name
  if name = "html" then
    .done (if b.hasOpen "template" then b
      else { b with draft := b.draft.addAttrs b.root tag.attrs })
  else if metadata.contains name then .byRules .inHead b
  else if name = "body" then .done (b.addBodyAttrs tag)
  else if name = "frameset" then .done (b.insertFrameset tag)
  else if blocks.contains name || name = "p" then .done (b.closeParagraphInScope.insert tag)
  else if headings.contains name then
    let b := b.closeParagraphInScope
    .done ((if b.currentIsOf headings then b.pop else b).insert tag)
  else if ["pre", "listing"].contains name then
    .done { b.closeParagraphInScope.insert tag with skipNewline := true, framesetOk := false }
  else if name = "form" then .done (b.openForm tag)
  else if name = "li" then .done ((b.inFrame.closeItem ["li"]).closeParagraphInScope.insert tag)
  else if ["dd", "dt"].contains name then
    .done ((b.inFrame.closeItem ["dd", "dt"]).closeParagraphInScope.insert tag)
  else if name = "plaintext" then
    .done { b.closeParagraphInScope.insert tag with content := .plain }
  else if name = "button" then
    let b := if b.hasInScope .usual name then b.closeImplied.popThroughNamed name else b
    .done (b.reconstruct.insert tag).inFrame
  else if name = "a" then .done (b.closeLink.reconstruct.insertFormatting tag)
  else if name = "nobr" then
    let b := b.reconstruct
    let b := if b.hasInScope .usual name then (b.closeFormatting name).reconstruct else b
    .done (b.insertFormatting tag)
  else if formattingNames.contains name then .done (b.reconstruct.insertFormatting tag)
  else if objects.contains name then .done (b.reconstruct.insert tag).markEdge.inFrame
  else if name = "table" then
    let b := if b.oldPage then b else b.closeParagraphInScope
    .done { b.insert tag with framesetOk := false, mode := .inTable }
  else if ["area", "br", "embed", "img", "keygen", "wbr"].contains name then
    .done (b.reconstruct.insertClosed tag).inFrame
  else if name = "image" then
    .done (b.reconstruct.insertClosed { tag with name := "img" }).inFrame
  else if name = "input" then
    let b := b.reconstruct.insertClosed tag
    .done (if isHidden tag then b else b.inFrame)
  else if ["param", "source", "track"].contains name then .done (b.insertClosed tag)
  else if name = "hr" then .done (b.closeParagraphInScope.insertClosed tag).inFrame
  else if name = "textarea" then
    .done { b.inFrame.insertText tag (.resolvable name) with skipNewline := true }
  else if name = "xmp" then
    .done (b.closeParagraphInScope.reconstruct.inFrame.insertText tag (.raw name))
  else if name = "iframe" then .done (b.inFrame.insertText tag (.raw name))
  else if ["noembed", "noscript"].contains name then .done (b.insertText tag (.raw name))
  else if name = "select" then .done (b.openSelect tag)
  else if ["optgroup", "option"].contains name then
    .done ((b.popIf "option").reconstruct.insert tag)
  else if ["rb", "rtc"].contains name then
    .done ((if b.hasInScope .usual "ruby" then b.closeImplied else b).insert tag)
  else if ["rp", "rt"].contains name then
    .done ((if b.hasInScope .usual "ruby" then b.closeImpliedBut "rtc" else b).insert tag)
  else if name = "math" then .done (b.insertForeign .mathml tag)
  else if name = "svg" then .done (b.insertForeign .svg tag)
  else if tableParts.contains name || ["frame", "head"].contains name then .done b
  else .done (b.reconstruct.insert tag)

def closeInScope (b : Builder) (scope : Scope) (name : String) : Builder :=
  if b.hasInScope scope name then (b.closeImpliedBut name).popThroughNamed name else b

def bodyEnd (b : Builder) (name : String) : Step :=
  if name = "template" then .byRules .inHead b
  else if name = "body" then
    if b.hasInScope .usual "body" then b.continueIn .afterBody else .done b
  else if name = "html" then
    if b.hasInScope .usual "body" then b.againIn .afterBody else .done b
  else if closedAsBlocks.contains name then
    .done (if b.hasInScope .usual name then b.closeImplied.popThroughNamed name else b)
  else if name = "form" then .done b.closeForm
  else if name = "p" then
    .done (if b.hasInScope .button name then b else b.insertNamed name).closeParagraph
  else if name = "li" then .done (b.closeInScope .item name)
  else if ["dd", "dt"].contains name then .done (b.closeInScope .usual name)
  else if headings.contains name then
    .done (if b.inScope .usual (b.isOf · headings) then
        b.closeImplied.popThrough (b.isOf · headings)
      else b)
  else if formattingNames.contains name then .done (b.closeFormatting name)
  else if objects.contains name then
    .done (if b.hasInScope .usual name then (b.closeImplied.popThroughNamed name).clearToEdge
      else b)
  else if name = "br" then .done (b.reconstruct.insertClosed { name }).inFrame
  else .done (b.closeNamed name)

def inBodyRules (b : Builder) (token : Token) : Step :=
  match token with
  | .char c => .done (b.bodyChar c)
  | .comment content => .done (b.insertComment content)
  | .startTag tag => b.bodyStart tag
  | .endTag name => b.bodyEnd name
  | .endOfText => if b.templateModes.isEmpty then .done b else .byRules .inTemplate b
  | _ => .done b

def textRules (b : Builder) (token : Token) : Step :=
  match token with
  | .char c => .done (b.insertChar c)
  | .endTag name => .done { b.pop with mode := b.returnMode, interrupted := name = "script" }
  | .endOfText => b.pop.againIn b.returnMode
  | _ => .done b

end DomQuery.Markup.Builder
