import DomQuery.Fields

set_option autoImplicit false

namespace DomQuery.Markup

structure Tag where
  name : String
  attrs : List Field := []
  selfClosing : Bool := false

structure Doctype where
  name : Option String := none
  publicId : Option String := none
  systemId : Option String := none
  malformed : Bool := false

inductive Token where
  | doctype (d : Doctype)
  | startTag (tag : Tag)
  | endTag (name : String)
  | comment (content : String)
  | char (c : Char)
  -- A mistake that stands for nothing, but comes between what is in front of it and behind it.
  | fault
  | endOfText

inductive Content where
  | markup
  | resolvable (name : String)
  | raw (name : String)
  | script
  | plain
deriving DecidableEq

def isSpace (c : Char) : Bool := c = ' ' || c = '\t' || c = '\n' || c = '\x0c' || c = '\r'

def oldDescriptions : List (String × List String) :=
  [("advasoft ltd", ["html 3.0 aswedit + extensions"]),
    ("as", ["html 3.0 aswedit + extensions"]),
    ("ietf",
      ["html", "html 2.0", "html 2.0 level 1", "html 2.0 level 2", "html 2.0 strict",
        "html 2.0 strict level 1", "html 2.0 strict level 2", "html 2.1e", "html 3", "html 3.0",
        "html 3.2", "html 3.2 final", "html level 0", "html level 1", "html level 2",
        "html level 3", "html strict", "html strict level 0", "html strict level 1",
        "html strict level 2", "html strict level 3"]),
    ("metrius", ["metrius presentational"]),
    ("microsoft",
      ["internet explorer 2.0 html", "internet explorer 2.0 html strict",
        "internet explorer 2.0 tables", "internet explorer 3.0 html",
        "internet explorer 3.0 html strict", "internet explorer 3.0 tables"]),
    ("netscape comm. corp.", ["html", "strict html"]),
    ("o'reilly and associates", ["html 2.0", "html extended 1.0", "html extended relaxed 1.0"]),
    ("softquad", ["hotmetal pro 4.0::19971010::extensions to html 4.0"]),
    ("softquad software", ["hotmetal pro 6.0::19990601::extensions to html 4.0"]),
    ("spyglass", ["html 2.0 extended"]),
    ("sq", ["html 2.0 hotmetal + extensions"]),
    ("sun microsystems corp.", ["hotjava html", "hotjava strict html"]),
    ("w3c",
      ["html 3 1995-03-24", "html 3.2", "html 3.2 draft", "html 3.2 final", "html 3.2s draft",
        "html 4.0 frameset", "html 4.0 transitional", "html experimental 19960712",
        "html experimental 970421", "w3 html"]),
    ("w3o", ["w3 html 3.0"]),
    ("webtechs", ["mozilla html", "mozilla html 2.0"])]

-- Of these descriptions it depends on the system identifier whether they mean an old page.
def agingDescriptions : List (String × List String) :=
  [("w3c", ["html 4.01 frameset", "html 4.01 transitional"])]

def oldPublicIds : List String :=
  ["-//w3o//dtd w3 html strict 3.0//en//", "-/w3c/dtd html 4.0 transitional/en", "html"]

def isDescribed (descriptions : List (String × List String)) (id : String) : Bool :=
  descriptions.any fun (owner, forms) =>
    forms.any fun form => ("-//" ++ owner ++ "//dtd " ++ form ++ "//").isPrefixOf id

def Doctype.isOld (d : Doctype) (oldSystemIds : List String) : Bool :=
  let publicId := d.publicId.map (·.map Char.toLower)
  let systemId := d.systemId.map (·.map Char.toLower)
  d.malformed || d.name ≠ some "html" || publicId.any oldPublicIds.contains ||
    systemId.any oldSystemIds.contains || publicId.any (isDescribed oldDescriptions) ||
    (systemId.isNone && publicId.any (isDescribed agingDescriptions))

end DomQuery.Markup
