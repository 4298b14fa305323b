import DomQuery.Fields
import DomQuery.Text.Basic

set_option autoImplicit false

namespace DomQuery.Style

abbrev Declarations := Fields

def splitFirst? (mark : Char) : List Char → Option (List Char × List Char)
  | [] => none
  | c :: cs =>
      if c = mark then some ([], cs) else (splitFirst? mark cs).map fun r => (c :: r.1, r.2)

-- One segment between semicolons. A value may hold further colons.
def declaration? (segment : List Char) : Option Field :=
  (splitFirst? ':' segment).bind fun (name, value) =>
    let name := Text.trim name
    let value := Text.trim value
    if name = [] || value = [] then none else some (.ofList name, .ofList value)

namespace Declarations

def parse (text : String) : Declarations :=
  Fields.ofList ((text.toList.splitOn ';').filterMap declaration?)

def set (d : Declarations) (name value : String) : Declarations :=
  if value.isEmpty then d.erase name else d.insert name value

def setAll (d : Declarations) (es : List Field) : Declarations :=
  es.foldl (fun d e => d.set e.1 e.2) d

def ofPairs (es : List Field) : Declarations := setAll .empty es

def project (d : Declarations) (names : List String) : Declarations :=
  Fields.ofList (names.filterMap fun name => (d.get? name).map fun value => (name, value))

def writeField (e : Field) : List Char := e.1.toList ++ [':', ' '] ++ e.2.toList ++ [';']

def render (d : Declarations) : String :=
  .ofList ([' '].intercalate (d.entries.map writeField))

end Declarations

end DomQuery.Style
