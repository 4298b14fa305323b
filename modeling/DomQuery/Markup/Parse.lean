import DomQuery.Markup.Arrival
import DomQuery.Markup.Rules.Head
import DomQuery.Markup.Rules.Other
import DomQuery.Markup.Rules.Select
import DomQuery.Markup.Rules.Table
import DomQuery.Markup.Scan

set_option autoImplicit false

namespace DomQuery.Markup

namespace Builder

def rules (mode : Mode) (b : Builder) (token : Token) : Step :=
  match mode with
  | .initial => b.initialRules token
  | .beforeHtml => b.beforeHtmlRules token
  | .beforeHead => b.beforeHeadRules token
  | .inHead => b.inHeadRules token
  | .afterHead => b.afterHeadRules token
  | .inBody => b.inBodyRules token
  | .text => b.textRules token
  | .inTable => b.inTableRules token
  | .inTableText => b.inTableTextRules token
  | .inCaption => b.inCaptionRules token
  | .inColumnGroup => b.inColumnGroupRules token
  | .inTableBody => b.inTableBodyRules token
  | .inRow => b.inRowRules token
  | .inCell => b.inCellRules token
  | .inSelect => b.inSelectRules token
  | .inSelectInTable => b.inSelectInTableRules token
  | .inTemplate => b.inTemplateRules token
  | .afterBody => b.afterBodyRules token
  | .inFrameset => b.inFramesetRules token
  | .afterFrameset => b.afterFramesetRules token
  | .afterAfterBody => b.afterAfterBodyRules token
  | .afterAfterFrameset => b.afterAfterFramesetRules token

-- Rules that refer to other rules, at most `limit` in a row. The flag says whether the token is to
-- be looked at again.
def settle (token : Token) : Nat → Step → Builder × Bool
  | 0, .byRules _ b => ({ b with fostering := false }, false)
  | limit + 1, .byRules mode b => settle token limit (b.rules mode token)
  | _, .done b => ({ b with fostering := false }, false)
  | _, .again b => ({ b with fostering := false }, true)

def digest (token : Token) : Nat → Builder → Builder
  | 0, b => b
  | limit + 1, b =>
      let first := if b.isForeign token then b.foreignRules token else b.rules b.mode token
      match settle token 8 first with
      | (b, true) => digest token limit b
      | (b, false) => b

def feed (b : Builder) (token : Token) : Builder :=
  let limit := 4 * b.openElements.length + 40
  let skipped := b.skipNewline
  let b := { b with skipNewline := false }
  match token with
  | .doctype d => b.declare d
  | .fault => b
  | .char '\n' => if skipped then b else digest token limit b
  | _ => digest token limit b

-- Two steps take at least one character.
def read (a : Arrival) : Nat → Builder → List Char → Builder
  | 0, b, _ => b.feed .endOfText
  | _, b, [] => b.feed .endOfText
  | steps + 1, b, cs =>
      let (tokens, rest) := scan b.content b.inForeign cs
      let b := tokens.foldl feed { b with content := .markup, interrupted := false }
      read a steps b (if b.interrupted then a.resume rest else rest)

def readAll (b : Builder) (text : String) : Builder :=
  let a := Arrival.ofText text
  b.read a (2 * a.chars.length + 2) a.chars

def forFragment : Builder :=
  let b := { Builder.new.insertRoot [] with
    context := some "template", templateModes := [.inTemplate] }
  { b with mode := b.resetMode }

end Builder

-- Every text is a document; `html`, `head` and `body` come into being if they are not written.
-- Pages with one of these system identifiers are old.
def reader (oldSystemIds : List String) : Reader where
  document text := ({ Builder.new with oldSystemIds }.readAll text).draft.sources Builder.document
  fragment text := (Builder.forFragment.readAll text).draft.sources Builder.document

end DomQuery.Markup
