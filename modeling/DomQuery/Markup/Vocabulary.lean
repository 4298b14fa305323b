import DomQuery.Markup.Draft

set_option autoImplicit false

namespace DomQuery.Markup

abbrev Names := List String

def headings : Names := ["h1", "h2", "h3", "h4", "h5", "h6"]

-- Elements that a stray end tag cannot reach through.
def specialNames : Names :=
  headings ++
    ["address", "applet", "area", "article", "aside", "base", "basefont", "bgsound", "blockquote",
      "body", "br", "button", "caption", "center", "col", "colgroup", "dd", "details", "dir", "div",
      "dl", "dt", "embed", "fieldset", "figcaption", "figure", "footer", "form", "frame",
      "frameset", "head", "header", "hgroup", "hr", "html", "iframe", "img", "input", "isindex",
      "li", "link", "listing", "main", "marquee", "menu", "meta", "nav", "noembed", "noframes",
      "noscript", "object", "ol", "p", "param", "plaintext", "pre", "script", "section", "select",
      "source", "style", "summary", "table", "tbody", "td", "template", "textarea", "tfoot", "th",
      "thead", "title", "tr", "track", "ul", "wbr", "xmp"]

def impliedEnds : Names := ["dd", "dt", "li", "option", "optgroup", "p", "rb", "rp", "rt", "rtc"]

def allImpliedEnds : Names :=
  impliedEnds ++ ["caption", "colgroup", "tbody", "td", "tfoot", "th", "thead", "tr"]

def metadata : Names :=
  ["base", "basefont", "bgsound", "link", "meta", "noframes", "script", "style", "template",
    "title"]

def blocks : Names :=
  ["address", "article", "aside", "blockquote", "center", "details", "dialog", "dir", "div", "dl",
    "fieldset", "figcaption", "figure", "footer", "header", "hgroup", "main", "menu", "nav", "ol",
    "search", "section", "summary", "ul"]

def closedAsBlocks : Names := blocks ++ ["button", "listing", "pre"]

def formattingNames : Names :=
  ["a", "b", "big", "code", "em", "font", "i", "nobr", "s", "small", "strike", "strong", "tt", "u"]

def objects : Names := ["applet", "marquee", "object"]

def tableSections : Names := ["tbody", "tfoot", "thead"]

def tableCells : Names := ["td", "th"]

def tableParts : Names := ["caption", "col", "colgroup", "tr"] ++ tableSections ++ tableCells

def tableOuter : Names := ["table", "tr"] ++ tableSections

def foreignBreakers : Names :=
  headings ++
    ["b", "big", "blockquote", "body", "br", "center", "code", "dd", "div", "dl", "dt", "em",
      "embed", "head", "hr", "i", "img", "li", "listing", "menu", "meta", "nobr", "ol", "p", "pre",
      "ruby", "s", "small", "span", "strong", "strike", "sub", "sup", "table", "tt", "u", "ul",
      "var"]

namespace DraftElement

def isHtml (e : DraftElement) (name : String) : Bool := e.space = .html && e.name = name

def isHtmlOf (e : DraftElement) (names : Names) : Bool := e.space = .html && names.contains e.name

def isMathText (e : DraftElement) : Bool :=
  e.space = .mathml && ["mi", "mo", "mn", "ms", "mtext"].contains e.name

def isSvgPoint (e : DraftElement) : Bool :=
  e.space = .svg && ["foreignObject", "desc", "title"].contains e.name

def isAnnotation (e : DraftElement) : Bool := e.space = .mathml && e.name = "annotation-xml"

def isHtmlPoint (e : DraftElement) : Bool :=
  e.isSvgPoint ||
    (e.isAnnotation &&
      (e.attrs.lookup "encoding").any fun value =>
        ["text/html", "application/xhtml+xml"].contains (value.map Char.toLower))

end DraftElement

-- Open elements beyond which a search does not look.
inductive Scope where
  | usual | item | button | table | select

def Scope.stopsAt (scope : Scope) (e : DraftElement) : Bool :=
  let usual :=
    e.isHtmlOf
        ["applet", "caption", "html", "table", "td", "th", "marquee", "object", "template"] ||
      e.isMathText || e.isSvgPoint
  match scope with
  | .usual => usual
  | .item => usual || e.isHtmlOf ["ol", "ul"]
  | .button => usual || e.isHtml "button"
  | .table => e.isHtmlOf ["html", "table", "template"]
  | .select => !e.isHtmlOf ["optgroup", "option"]

end DomQuery.Markup
