import DomQuery.Markup.Source

set_option autoImplicit false

namespace DomQuery

def Element.setAll (e : Element) (attrs : List Field) : Element :=
  attrs.foldl (fun e field => e.setAttr field.1 field.2) e

theorem Element.set_all_eq (e : Element) (attrs : List Field) :
    e.setAll attrs = { e with attrs := e.attrs.insertAll attrs } := by
  induction attrs generalizing e with
  | nil => rfl
  | cons field attrs ih => exact ih (e.setAttr field.1 field.2)

namespace Markup

namespace Config

mutual

def prune (cfg : Config) : Source → Source
  | .element name attrs children => .element name attrs (pruneAll cfg children)
  | source => source

def pruneAll (cfg : Config) : List Source → List Source
  | [] => []
  | source :: sources =>
      if cfg.keeps source then prune cfg source :: pruneAll cfg sources else pruneAll cfg sources

end

end Config

namespace Source

mutual

def preorder : Source → List Payload
  | element name attrs children => (element name attrs children).payload :: preorderAll children
  | source => [source.payload]

def preorderAll : List Source → List Payload
  | [] => []
  | source :: sources => preorder source ++ preorderAll sources

end

mutual

-- A source as an element keeps it: an attribute that comes again replaces the value of the first.
def settle : Source → Source
  | element name attrs children =>
      element name (Element.setAll ⟨name, .empty⟩ attrs).attrs.entries (settleAll children)
  | source => source

def settleAll : List Source → List Source
  | [] => []
  | source :: sources => settle source :: settleAll sources

end

theorem payload_element (name : String) (attrs : List Field) (children : List Source) :
    (element name attrs children).payload = .element (Element.setAll ⟨name, .empty⟩ attrs) := by
  rw [Element.set_all_eq]
  rfl

theorem preorder_eq (source : Source) :
    source.preorder = source.payload :: preorderAll source.children := by
  cases source <;> rfl

theorem preorder_all_append (first second : List Source) :
    preorderAll (first ++ second) = preorderAll first ++ preorderAll second := by
  induction first with
  | nil => rfl
  | cons source sources ih => rw [List.cons_append, preorderAll, preorderAll, ih, List.append_assoc]

theorem settle_all_append (first second : List Source) :
    settleAll (first ++ second) = settleAll first ++ settleAll second := by
  induction first with
  | nil => rfl
  | cons source sources ih => rw [List.cons_append, settleAll, settleAll, ih, List.cons_append]

end Source

open Source Config

section Pruning

variable (cfg : Config)

theorem keeps_settle (source : Source) : cfg.keeps source.settle = cfg.keeps source := by
  cases source <;> rfl

mutual

theorem prune_settle : (source : Source) → cfg.prune source.settle = (cfg.prune source).settle
  | .element name _ children => congrArg (Source.element name _) (prune_settle_all children)
  | .text _ => rfl
  | .comment _ => rfl
  | .doctype _ _ _ => rfl
  | .instruction _ _ => rfl

theorem prune_settle_all : (sources : List Source) →
    cfg.pruneAll (settleAll sources) = settleAll (cfg.pruneAll sources)
  | [] => rfl
  | source :: sources => by
      by_cases kept : cfg.keeps source
      · have still : cfg.keeps source.settle := (keeps_settle cfg source).trans kept
        rw [settleAll, pruneAll, if_pos still, pruneAll, if_pos kept, settleAll,
          prune_settle source, prune_settle_all sources]
      · have dropped : ¬cfg.keeps source.settle := by rwa [keeps_settle]
        rw [settleAll, pruneAll, if_neg dropped, pruneAll, if_neg kept, prune_settle_all sources]

end

end Pruning

-- With nothing left to drop, every source is placed and its children are grafted below it.
theorem graft_whole (parent : Option NodeId) (t : Tree) (source : Source) :
    graft {} parent t source =
      graftAll {} (some t.nextId) (place parent source.payload t) source.children := by
  cases source <;> rfl

section Grafting

variable (cfg : Config)

mutual

theorem graft_pruned (parent : Option NodeId) (t : Tree) : (source : Source) →
    graft cfg parent t source =
      if cfg.keeps source then graft {} parent t (cfg.prune source) else t
  | .element _ _ children => graft_all_pruned (some t.nextId) _ children
  | .text _ => rfl
  | .comment _ => rfl
  | .doctype _ _ _ => rfl
  | .instruction _ _ => rfl

theorem graft_all_pruned (parent : Option NodeId) (t : Tree) : (sources : List Source) →
    graftAll cfg parent t sources = graftAll {} parent t (cfg.pruneAll sources)
  | [] => rfl
  | source :: sources => by
      by_cases kept : cfg.keeps source
      · rw [graftAll, pruneAll, if_pos kept, graftAll, graft_pruned parent t source, if_pos kept,
          graft_all_pruned parent _ sources]
      · rw [graftAll, pruneAll, if_neg kept, graft_pruned parent t source, if_neg kept,
          graft_all_pruned parent t sources]

end

end Grafting

end Markup

end DomQuery
