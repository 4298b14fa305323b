import DomQuery.Text.Basic
import DomQuery.Text.Lowercase
import DomQuery.Text.Quoted
import DomQuery.Tree.Edit
import DomQuery.Tree.Walk
import DomQuery.Selector.Parse
import DomQuery.Selector.Semantics
import DomQuery.Style.Json
import DomQuery.Selection.Basic
import DomQuery.Markup.Parse
import DomQuery.Selection.Relatives
import DomQuery.Selection.Styling
import DomQuery.Selection.Members
import DomQuery.Selection.Visit
import DomQuery.Proofs.Walk
import DomQuery.Proofs.Forest.Basic
import DomQuery.Proofs.Forest.Edit
import DomQuery.Proofs.Forest.Preorder
import DomQuery.Proofs.Forest.Run
import DomQuery.Proofs.Selector.Chain
import DomQuery.Proofs.Forest.Order
import DomQuery.Proofs.Selection.Outcome
import DomQuery.Proofs.Selection.Union
import DomQuery.Proofs.Selector.Reading
import DomQuery.Proofs.Selector.Compound
import DomQuery.Proofs.Selector.Entries
import DomQuery.Proofs.Selector.Bounds
import DomQuery.Proofs.Selector.Stuck
import DomQuery.Proofs.Selector.Offsets
import DomQuery.Proofs.Selector.Joined
import DomQuery.Proofs.Selector.Scope
import DomQuery.Proofs.Selection.Find
import DomQuery.Proofs.Selector.Shape
import DomQuery.Proofs.Selector.Written
import DomQuery.Proofs.Selector.Image
import DomQuery.Proofs.Selector.Composed
import DomQuery.Proofs.Selection.Alternatives
import DomQuery.Proofs.Forest.Growth
import DomQuery.Proofs.Selection.Effect
import DomQuery.Proofs.Selection.Derived
import DomQuery.Proofs.Selection.Session
import DomQuery.Proofs.Forest.Frame
import DomQuery.Proofs.Selection.Atomic
import DomQuery.Proofs.Forest.Alike
import DomQuery.Proofs.Selector.Alike
import DomQuery.Proofs.Selection.Stable
import DomQuery.Proofs.Selector.Candidates
import DomQuery.Proofs.Selector.Unanchored
import DomQuery.Proofs.Selection.Scoped
import DomQuery.Proofs.Fields
import DomQuery.Proofs.Style.RoundTrip
import DomQuery.Proofs.Selection.Styled
import DomQuery.Proofs.Selection.Sorted
import DomQuery.Proofs.Forest.Rows
import DomQuery.Proofs.Forest.Place
import DomQuery.Proofs.Markup.Grafted
import DomQuery.Proofs.Forest.Descent
import DomQuery.Proofs.Forest.Comparison
import DomQuery.Proofs.Selection.Converse
import DomQuery.Proofs.Selection.Having
import DomQuery.Proofs.Selection.Extent
import DomQuery.Proofs.Selection.Position
import DomQuery.Proofs.Selector.Progression
import DomQuery.Proofs.Selector.Expression
import DomQuery.Proofs.Selector.Named
import DomQuery.Proofs.Text.Lowercase
import DomQuery.Proofs.Selector.Folded
import DomQuery.Proofs.Selector.Spelled
import DomQuery.Proofs.Style.Segment
import DomQuery.Proofs.Style.Overlay
import DomQuery.Proofs.Style.Ordinary
import DomQuery.Proofs.Style.Spilled
import DomQuery.Proofs.Selection.Spared
import DomQuery.Proofs.Forest.Topmost
import DomQuery.Proofs.Selector.Containing
import DomQuery.Proofs.Selection.Anchored
import DomQuery.Proofs.Selection.Places
import DomQuery.Proofs.Forest.Siblings
import DomQuery.Proofs.Attributes
