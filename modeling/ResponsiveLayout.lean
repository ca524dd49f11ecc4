import ResponsiveLayout.Config.Document
import ResponsiveLayout.Config.Read
import ResponsiveLayout.Config.Write
import ResponsiveLayout.Proofs.Reentry.Order
import ResponsiveLayout.Rehearsal.Stage
import ResponsiveLayout.Proofs.Container.Passing
import ResponsiveLayout.Proofs.Reentry.Closure
import ResponsiveLayout.Proofs.Reentry.Relayout
import ResponsiveLayout.Proofs.Flex.Frames
import ResponsiveLayout.Proofs.Flex.Freshness
import ResponsiveLayout.Proofs.Flex.Transposition
import ResponsiveLayout.Proofs.Grid.Refusal
import ResponsiveLayout.Proofs.Grid.Packing
import ResponsiveLayout.Proofs.Grid.Freshness
import ResponsiveLayout.Proofs.Stack.Heights
import ResponsiveLayout.Proofs.Host.Stacking
import ResponsiveLayout.Proofs.Stack.Moves
import ResponsiveLayout.Proofs.Stack.Agreement
import ResponsiveLayout.Proofs.Stack.Crowding
import ResponsiveLayout.Proofs.Stack.Survival
import ResponsiveLayout.Proofs.Container.Visits
import ResponsiveLayout.Proofs.Container.Predictable
import ResponsiveLayout.Proofs.Container.Settling
import ResponsiveLayout.Proofs.Container.Registration
import ResponsiveLayout.Proofs.Stack.OwedPass
import ResponsiveLayout.Proofs.Scalar
import ResponsiveLayout.Proofs.Flex.Level
import ResponsiveLayout.Proofs.Flex.Shrinking
import ResponsiveLayout.Proofs.Flex.Edges
import ResponsiveLayout.Proofs.Flex.Anchoring
import ResponsiveLayout.Proofs.Config.Written
import ResponsiveLayout.Proofs.Config.RoundTrip
import ResponsiveLayout.Proofs.Flex.Spacing
import ResponsiveLayout.Proofs.Flex.Filling
import ResponsiveLayout.Proofs.Container.Unmatched
import ResponsiveLayout.Proofs.Stack.Rearrangement
import ResponsiveLayout.Proofs.Table
import ResponsiveLayout.Proofs.Grid.Tiers
import ResponsiveLayout.Proofs.Grid.Inheritance
import ResponsiveLayout.Proofs.Grid.Extents
import ResponsiveLayout.Proofs.Single.Units
import ResponsiveLayout.Proofs.Single.Packing
import ResponsiveLayout.Proofs.Single.Rounding
import ResponsiveLayout.Proofs.Single.Arithmetic
import ResponsiveLayout.Proofs.Single.Products
import ResponsiveLayout.Proofs.Single.Amounts
import ResponsiveLayout.Proofs.Flex.Rounds
import ResponsiveLayout.Proofs.Flex.Steps
import ResponsiveLayout.Proofs.Flex.Overflow
import ResponsiveLayout.Proofs.Flex.Numbers
import ResponsiveLayout.Proofs.Host.History
import ResponsiveLayout.Proofs.Flex.Freezing
import ResponsiveLayout.Proofs.Container.Transactions
import ResponsiveLayout.Proofs.Container.Identity
