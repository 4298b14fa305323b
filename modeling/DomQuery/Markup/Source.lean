import DomQuery.Tree.Edit

set_option autoImplicit false

namespace DomQuery.Markup

inductive Source where
  | element (name : String) (attrs : List Field) (children : List Source)
  | text (content : String)
  | comment (content : String)
  | doctype (name publicId systemId : String)
  | instruction (target data : String)

structure Config where
  keepBlankText : Bool := true
  keepComments : Bool := true
  keepDoctype : Bool := true

namespace Source

def payload : Source → Payload
  | element name attrs _ => .element ⟨name, .ofList attrs⟩
  | text content => .text content
  | comment content => .comment content
  | doctype name publicId systemId => .doctype name publicId systemId
  | instruction target data => .instruction target data

def children : Source → List Source
  | element _ _ children => children
  | _ => []

end Source

def Config.keeps (cfg : Config) : Source → Bool
  | .text content => cfg.keepBlankText || !content.isAllBlank
  | .comment _ => cfg.keepComments
  | .doctype .. => cfg.keepDoctype
  | _ => true

def place (parent : Option NodeId) (p : Payload) (t : Tree) : Tree :=
  match parent with
  | some parent => (t.push p).appendChild parent t.nextId
  | none => t.push p

mutual

def graft (cfg : Config) (parent : Option NodeId) (t : Tree) : Source → Tree
  | .element name attrs children =>
      graftAll cfg (some t.nextId) (place parent (Source.element name attrs children).payload t)
        children
  | source => if cfg.keeps source then place parent source.payload t else t

def graftAll (cfg : Config) (parent : Option NodeId) (t : Tree) : List Source → Tree
  | [] => t
  | source :: sources => graftAll cfg parent (graft cfg parent t source) sources

end

def graftRoots (cfg : Config) (t : Tree) : List Source → Tree × List NodeId
  | [] => (t, [])
  | source :: sources =>
      let (grown, roots) := graftRoots cfg (graft cfg none t source) sources
      (grown, if cfg.keeps source then t.nextId :: roots else roots)

def plant (cfg : Config) (sources : List Source) : Tree :=
  graftAll cfg (some .document) .new sources

-- What turns text into the nodes at the top of a document. A fragment is read as what a `template`
-- holds; the nodes at its top stand in a node that only holds them.
structure Reader where
  document : String → List Source
  fragment : String → List Source
deriving Inhabited

namespace Reader

def parseDocument (r : Reader) (cfg : Config) (text : String) : Tree := plant cfg (r.document text)

def fragmentSources (r : Reader) (text : String) : List Source :=
  (r.fragment text).flatMap Source.children

def parseFragment (r : Reader) (cfg : Config) (t : Tree) (text : String) : Tree × List NodeId :=
  graftRoots cfg t (r.fragmentSources text)

end Reader

end DomQuery.Markup
