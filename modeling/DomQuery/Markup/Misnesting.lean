import DomQuery.Markup.Builder

set_option autoImplicit false

namespace DomQuery.Markup

namespace Builder

def closeNamed (b : Builder) (name : String) : Builder :=
  match b.openElements.find? fun r => b.is r name || b.isOf r specialNames with
  | some r => if b.is r name then (b.closeImpliedBut name).popThrough (· = r) else b
  | none => b

-- The copying of the elements between the formatting element and the block: the node that moves
-- on, and the copy behind which the formatting element is to be in force.
structure Split where
  builder : Builder
  moving : Ref
  behind : Option Ref := none

-- An element between formatting and block, the one next to the block having number zero.
-- Formatting gets a copy that takes what has moved so far; anything else is closed, and so is what
-- lies too far out.
def Split.step (s : Split) (between : Ref × Nat) : Split :=
  let (r, number) := between
  let b := s.builder
  match b.formatting.findSome? fun
      | .element other tag => if other = r then some tag else none
      | .edge => none with
  | none => { s with builder := b.removeOpen r }
  | some tag =>
      if number ≥ 3 then { s with builder := (b.removeFormatting r).removeOpen r }
      else
        let (b, copy) := b.create .html tag
        let b := b.replaceFormatting r copy
        let b := { b with
          openElements := b.openElements.map fun other => if other = r then copy else other
          draft := b.draft.move s.moving (.last copy) }
        { builder := b, moving := copy, behind := s.behind.or (some copy) }

def moveFormatting (b : Builder) (old copy : Ref) (tag : Tag) (behind : Option Ref) : Builder :=
  match behind with
  | none => b.replaceFormatting old copy
  | some behind =>
      let formatting := b.formatting.flatMap fun
        | .element r other =>
            if r = behind then [.element copy tag, .element r other] else [.element r other]
        | .edge => [.edge]
      { b with formatting }.removeFormatting old

def splitAt (b : Builder) (formatting block : Ref) (tag : Tag) : Builder :=
  let outside := (b.openElements.dropWhile (· ≠ formatting)).drop 1
  let between := ((b.openElements.dropWhile (· ≠ block)).drop 1).takeWhile (· ≠ formatting)
  let s := between.zipIdx.foldl Split.step { builder := b, moving := block }
  let b := s.builder
  let b := { b with draft := b.draft.move s.moving (b.spotIn (outside.head?.getD b.root)) }
  let (b, copy) := b.create .html tag
  let b := { b with draft := (b.draft.moveChildren block copy).move copy (.last block) }
  let b := (b.moveFormatting formatting copy tag s.behind).removeOpen formatting
  { b with
    openElements := b.openElements.flatMap fun r => if r = block then [copy, r] else [r] }

def closeFormattingTurns (b : Builder) (name : String) : Nat → Builder
  | 0 => b
  | turns + 1 =>
      match b.inForce.find? fun e => e.2.name = name with
      | none => b.closeNamed name
      | some (r, tag) =>
          if !b.openElements.contains r then b.removeFormatting r
          else if !b.inScope .usual (· = r) then b
          else
            let inside := b.openElements.takeWhile (· ≠ r)
            match inside.reverse.find? (b.isOf · specialNames) with
            | none => (b.removeFormatting r).popThrough (· = r)
            | some block => (b.splitAt r block tag).closeFormattingTurns name turns

def closeFormatting (b : Builder) (name : String) : Builder :=
  if b.currentIs name && !b.current?.any b.isFormatting then b.pop
  else b.closeFormattingTurns name 8

end Builder

end DomQuery.Markup
