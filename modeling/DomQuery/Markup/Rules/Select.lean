import DomQuery.Markup.Builder

set_option autoImplicit false

namespace DomQuery.Markup.Builder

def closeGroup (b : Builder) : Builder :=
  let b := match b.openElements with
    | r :: outer :: _ => if b.is r "option" && b.is outer "optgroup" then b.pop else b
    | _ => b
  b.popIf "optgroup"

def closeSelect (b : Builder) : Builder :=
  let b := b.popThroughNamed "select"
  { b with mode := b.resetMode }

def endSelect (b : Builder) : Builder :=
  if b.hasInScope .select "select" then b.closeSelect else b

def inSelectRules (b : Builder) (token : Token) : Step :=
  match token with
  | .char c => .done (if c = '\x00' then b else b.insertChar c)
  | .comment content => .done (b.insertComment content)
  | .startTag tag =>
      let name := tag.name
      if name = "html" then .byRules .inBody b
      else if name = "option" then .done ((b.popIf name).insert tag)
      else if name = "optgroup" then .done (((b.popIf "option").popIf name).insert tag)
      else if name = "hr" then .done (((b.popIf "option").popIf "optgroup").insertClosed tag)
      else if name = "select" then .done b.endSelect
      else if ["input", "keygen", "textarea"].contains name then
        if b.hasInScope .select "select" then .again b.closeSelect else .done b
      else if ["script", "template"].contains name then .byRules .inHead b
      else .done b
  | .endTag name =>
      if name = "optgroup" then .done b.closeGroup
      else if name = "option" then .done (b.popIf name)
      else if name = "select" then .done b.endSelect
      else if name = "template" then .byRules .inHead b
      else .done b
  | .endOfText => .byRules .inBody b
  | _ => .done b

def inSelectInTableRules (b : Builder) (token : Token) : Step :=
  let ends (name : String) : Bool :=
    ["caption", "table", "tr"].contains name || tableSections.contains name ||
      tableCells.contains name
  match token with
  | .startTag tag => if ends tag.name then .again b.closeSelect else .byRules .inSelect b
  | .endTag name =>
      if !ends name then .byRules .inSelect b
      else if b.hasInScope .table name then .again b.closeSelect
      else .done b
  | _ => .byRules .inSelect b

end DomQuery.Markup.Builder
