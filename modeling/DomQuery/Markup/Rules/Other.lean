import DomQuery.Markup.Reference
import DomQuery.Markup.Builder

set_option autoImplicit false

namespace DomQuery.Markup.Builder

def templateMode (name : String) : Mode :=
  if ["caption", "colgroup"].contains name || tableSections.contains name then .inTable
  else if name = "col" then .inColumnGroup
  else if name = "tr" then .inTableBody
  else if tableCells.contains name then .inRow
  else .inBody

def inTemplateRules (b : Builder) (token : Token) : Step :=
  match token with
  | .char _ | .comment _ => .byRules .inBody b
  | .startTag tag =>
      if metadata.contains tag.name then .byRules .inHead b
      else
        let mode := templateMode tag.name
        { b with templateModes := mode :: b.templateModes.drop 1 }.againIn mode
  | .endTag name => if name = "template" then .byRules .inHead b else .done b
  | .endOfText =>
      if b.hasOpen "template" then
        let b := (b.popThroughNamed "template").clearToEdge
        let b := { b with templateModes := b.templateModes.drop 1 }
        b.againIn b.resetMode
      else .done b
  | _ => .done b

def afterBodyRules (b : Builder) (token : Token) : Step :=
  let other := b.againIn .inBody
  match token with
  | .char c => if isSpace c then .byRules .inBody b else other
  | .comment content => .done (b.commentIn b.root content)
  | .startTag tag => if tag.name = "html" then .byRules .inBody b else other
  | .endTag name =>
      if name = "html" then
        if b.context.isSome then .done b else b.continueIn .afterAfterBody
      else other
  | .endOfText => .done b
  | _ => .done b

def afterAfterBodyRules (b : Builder) (token : Token) : Step :=
  let other := b.againIn .inBody
  match token with
  | .char c => if isSpace c then .byRules .inBody b else other
  | .comment content => .done (b.commentIn document content)
  | .startTag tag => if tag.name = "html" then .byRules .inBody b else other
  | .endTag _ => other
  | .endOfText => .done b
  | _ => .done b

def inFramesetRules (b : Builder) (token : Token) : Step :=
  match token with
  | .char c => .done (if isSpace c then b.insertChar c else b)
  | .comment content => .done (b.insertComment content)
  | .startTag tag =>
      if tag.name = "html" then .byRules .inBody b
      else if tag.name = "frameset" then .done (b.insert tag)
      else if tag.name = "frame" then .done (b.insertClosed tag)
      else if tag.name = "noframes" then .byRules .inHead b
      else .done b
  | .endTag name =>
      if name = "frameset" && b.openElements.length ≠ 1 then
        let b := b.pop
        if b.context.isNone && !b.currentIs name then b.continueIn .afterFrameset else .done b
      else .done b
  | _ => .done b

def afterFramesetRules (b : Builder) (token : Token) : Step :=
  match token with
  | .char c => .done (if isSpace c then b.insertChar c else b)
  | .comment content => .done (b.insertComment content)
  | .startTag tag =>
      if tag.name = "html" then .byRules .inBody b
      else if tag.name = "noframes" then .byRules .inHead b
      else .done b
  | .endTag name => if name = "html" then b.continueIn .afterAfterFrameset else .done b
  | _ => .done b

def afterAfterFramesetRules (b : Builder) (token : Token) : Step :=
  match token with
  | .char c => if isSpace c then .byRules .inBody b else .done b
  | .comment content => .done (b.commentIn document content)
  | .startTag tag =>
      if tag.name = "html" then .byRules .inBody b
      else if tag.name = "noframes" then .byRules .inHead b
      else .done b
  | _ => .done b

-- The rules for foreign elements apply to the token. They leave to HTML what stands at the points
-- where foreign elements hold HTML.
def isForeign (b : Builder) (token : Token) : Bool :=
  match b.adjusted?.filter (·.space ≠ .html) with
  | none => false
  | some e =>
      match token with
      | .endOfText => false
      | .char _ => !(e.isMathText || e.isHtmlPoint)
      | .startTag tag =>
          !(e.isHtmlPoint || (e.isMathText && !(["mglyph", "malignmark"].contains tag.name)) ||
            (e.isAnnotation && tag.name = "svg"))
      | _ => true

def leaveForeign (b : Builder) : Builder :=
  { b with
    openElements := b.openElements.dropWhile fun r =>
      !(b.element? r).any fun e => e.space = .html || e.isMathText || e.isSvgPoint }

def breaksForeign (tag : Tag) : Bool :=
  foreignBreakers.contains tag.name ||
    (tag.name = "font" && tag.attrs.any fun a => ["color", "face", "size"].contains a.1)

def foreignEnd (b : Builder) (name : String) : List Ref → Step
  | [] | [_] => .done b
  | r :: outer =>
      match b.element? r with
      | some e =>
          if e.space = .html then .byRules b.mode b
          else if e.name.map Char.toLower = name then .done (b.popThrough (· = r))
          else b.foreignEnd name outer
      | none => b.foreignEnd name outer

def foreignRules (b : Builder) (token : Token) : Step :=
  match token with
  | .char c =>
      if c = '\x00' then .done (b.insertChar replacement)
      else .done ({ b with framesetOk := b.framesetOk && isSpace c }.insertChar c)
  | .comment content => .done (b.insertComment content)
  | .startTag tag =>
      if breaksForeign tag then
        let b := b.leaveForeign
        .byRules b.mode b
      else .done (b.insertForeign ((b.adjusted?.map (·.space)).getD .html) tag)
  | .endTag name =>
      if ["br", "p"].contains name then
        let b := b.leaveForeign
        .byRules b.mode b
      else b.foreignEnd name b.openElements
  | _ => .done b

end DomQuery.Markup.Builder
