import DomQuery.Markup.Builder

set_option autoImplicit false

namespace DomQuery.Markup

namespace Builder

def declare (b : Builder) (d : Doctype) : Builder :=
  if b.mode = .initial then
    let item := .doctype (d.name.getD "") (d.publicId.getD "") (d.systemId.getD "")
    { b with
      draft := b.draft.insert item (.last document), oldPage := d.isOld b.oldSystemIds,
      mode := .beforeHtml }
  else b

def initialRules (b : Builder) (token : Token) : Step :=
  let other := Step.again { b with oldPage := true, mode := .beforeHtml }
  match token with
  | .char c => if isSpace c then .done b else other
  | .comment content => .done (b.commentIn document content)
  | _ => other

def opensParts : Names := ["head", "body", "html", "br"]

def beforeHtmlRules (b : Builder) (token : Token) : Step :=
  let other := (b.insertRoot []).againIn .beforeHead
  match token with
  | .char c => if isSpace c then .done b else other
  | .comment content => .done (b.commentIn document content)
  | .startTag tag =>
      if tag.name = "html" then (b.insertRoot tag.attrs).continueIn .beforeHead else other
  | .endTag name => if opensParts.contains name then other else .done b
  | _ => other

def insertHead (b : Builder) (tag : Tag) : Builder :=
  let (b, r) := b.insertRef .html tag
  { b with head := some r }

def beforeHeadRules (b : Builder) (token : Token) : Step :=
  let other := (b.insertHead { name := "head" }).againIn .inHead
  match token with
  | .char c => if isSpace c then .done b else other
  | .comment content => .done (b.insertComment content)
  | .startTag tag =>
      if tag.name = "html" then .byRules .inBody b
      else if tag.name = "head" then (b.insertHead tag).continueIn .inHead
      else other
  | .endTag name => if opensParts.contains name then other else .done b
  | _ => other

def openTemplate (b : Builder) (tag : Tag) : Builder :=
  { b.markEdge.insert tag with
    framesetOk := false, mode := .inTemplate, templateModes := .inTemplate :: b.templateModes }

def closeTemplate (b : Builder) : Builder :=
  if b.hasOpen "template" then
    let b := ((b.closeAllOf allImpliedEnds).popThroughNamed "template").clearToEdge
    let b := { b with templateModes := b.templateModes.drop 1 }
    { b with mode := b.resetMode }
  else b

def inHeadRules (b : Builder) (token : Token) : Step :=
  let other := b.pop.againIn .afterHead
  match token with
  | .char c => if isSpace c then .done (b.insertChar c) else other
  | .comment content => .done (b.insertComment content)
  | .startTag tag =>
      if tag.name = "html" then .byRules .inBody b
      else if ["base", "basefont", "bgsound", "link", "meta"].contains tag.name then
        .done (b.insertClosed tag)
      else if tag.name = "title" then .done (b.insertText tag (.resolvable tag.name))
      else if ["noframes", "noscript", "style"].contains tag.name then
        .done (b.insertText tag (.raw tag.name))
      else if tag.name = "script" then .done (b.insertText tag .script)
      else if tag.name = "template" then .done (b.openTemplate tag)
      else if tag.name = "head" then .done b
      else other
  | .endTag name =>
      if name = "head" then b.pop.continueIn .afterHead
      else if ["body", "html", "br"].contains name then other
      else if name = "template" then .done b.closeTemplate
      else .done b
  | _ => other

def inHeadLate (b : Builder) (token : Token) : Step :=
  let head := b.head.getD b.root
  match { b with openElements := head :: b.openElements }.inHeadRules token with
  | .done b => .done (b.removeOpen head)
  | step => step

def afterHeadRules (b : Builder) (token : Token) : Step :=
  let other := (b.insertNamed "body").againIn .inBody
  match token with
  | .char c => if isSpace c then .done (b.insertChar c) else other
  | .comment content => .done (b.insertComment content)
  | .startTag tag =>
      if tag.name = "html" then .byRules .inBody b
      else if tag.name = "body" then
        .done { b.insert tag with framesetOk := false, mode := .inBody }
      else if tag.name = "frameset" then (b.insert tag).continueIn .inFrameset
      else if metadata.contains tag.name then b.inHeadLate token
      else if tag.name = "head" then .done b
      else other
  | .endTag name =>
      if name = "template" then .byRules .inHead b
      else if ["body", "html", "br"].contains name then other
      else .done b
  | _ => other

end Builder

end DomQuery.Markup
