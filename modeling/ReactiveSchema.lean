import ReactiveSchema.Script.Session
import ReactiveSchema.Proofs.Act.Along
import ReactiveSchema.Proofs.Act.Respect
import ReactiveSchema.Proofs.Act.RespectViews
import ReactiveSchema.Proofs.Act.RespectPrograms
import ReactiveSchema.Proofs.Act.RespectSessions
import ReactiveSchema.Proofs.Act.PlainPrograms
import ReactiveSchema.Proofs.Act.Working
import ReactiveSchema.Proofs.Act.Elementary
import ReactiveSchema.Proofs.Reactive.Subscriptions
import ReactiveSchema.Proofs.Reactive.Wake
import ReactiveSchema.Proofs.Reactive.NoLostWake
import ReactiveSchema.Proofs.Memory.Keys
import ReactiveSchema.Proofs.Observe.Pictures
import ReactiveSchema.Proofs.Observe.Looks
import ReactiveSchema.Proofs.Observe.SchemaLooks
import ReactiveSchema.Proofs.Observe.ScopeLooks
import ReactiveSchema.Proofs.Observe.ExpressionLooks
import ReactiveSchema.Proofs.Observe.MarkupLooks
import ReactiveSchema.Proofs.Observe.ContainerLooks
import ReactiveSchema.Proofs.Observe.Balanced
import ReactiveSchema.Proofs.Observe.BalancedPasses
import ReactiveSchema.Proofs.Act.Compiling
import ReactiveSchema.Proofs.Memory.Grows
import ReactiveSchema.Proofs.Observe.Faces
import ReactiveSchema.Proofs.Memory.Trees
import ReactiveSchema.Proofs.Memory.Overwrite
import ReactiveSchema.Proofs.Reactive.Readers
import ReactiveSchema.Proofs.Reactive.Telling
import ReactiveSchema.Proofs.Observe.Alike
import ReactiveSchema.Proofs.Reactive.PathWrite
import ReactiveSchema.Proofs.Memory.Severed
import ReactiveSchema.Proofs.Memory.Apart
import ReactiveSchema.Proofs.Reactive.NestedUpdate
import ReactiveSchema.Proofs.Reactive.Minded
import ReactiveSchema.Proofs.Reactive.Signals
import ReactiveSchema.Proofs.Reactive.Kinds
import ReactiveSchema.Proofs.Reactive.Deriving
import ReactiveSchema.Proofs.Reactive.Rendering
import ReactiveSchema.Proofs.Reactive.OneRender
import ReactiveSchema.Proofs.Reactive.Spared
import ReactiveSchema.Proofs.Reactive.SingleWrite
import ReactiveSchema.Proofs.Reactive.FaultyReaders
import ReactiveSchema.Proofs.Reactive.Aside
import ReactiveSchema.Proofs.View.Compilation
import ReactiveSchema.Proofs.View.FirstCompile
import ReactiveSchema.Proofs.View.OneShot
import ReactiveSchema.Proofs.Reactive.Linked
import ReactiveSchema.Proofs.Reactive.Record
import ReactiveSchema.Proofs.Reactive.Replay
import ReactiveSchema.Proofs.Reactive.PlainRuns
import ReactiveSchema.Proofs.Reactive.Phases
import ReactiveSchema.Proofs.Reactive.BatchOrder
import ReactiveSchema.Proofs.View.Unmount
import ReactiveSchema.Proofs.View.Assignment
import ReactiveSchema.Proofs.Act.TidyPrograms
import ReactiveSchema.Proofs.Act.Restoring
import ReactiveSchema.Proofs.Text.Blanks
import ReactiveSchema.Proofs.Expr.Pieces
import ReactiveSchema.Proofs.Expr.Renaming
import ReactiveSchema.Proofs.Expr.RenamedTokens
import ReactiveSchema.Proofs.Reactive.Asleep
import ReactiveSchema.Proofs.Reactive.Unread
import ReactiveSchema.Proofs.Reactive.UnreadWrite
import ReactiveSchema.Proofs.View.Shown
import ReactiveSchema.Proofs.View.Minimality
import ReactiveSchema.Proofs.Observe.Steady
import ReactiveSchema.Proofs.Observe.Showing
import ReactiveSchema.Proofs.Markup.Escapes
import ReactiveSchema.Proofs.Markup.Canonical
import ReactiveSchema.Proofs.Markup.Rendered
import ReactiveSchema.Proofs.Markup.Unambiguous
import ReactiveSchema.Proofs.Markup.Omission
import ReactiveSchema.Proofs.Reactive.ListOperations
import ReactiveSchema.Proofs.Reactive.LiveLists
import ReactiveSchema.Proofs.Reactive.ListLikeness
import ReactiveSchema.Proofs.Expr.Lowering
import ReactiveSchema.Proofs.Expr.Refusals
import ReactiveSchema.Proofs.View.Listening
import ReactiveSchema.Proofs.Observe.Reports
import ReactiveSchema.Proofs.View.Failing
import ReactiveSchema.Proofs.Observe.Leaves
import ReactiveSchema.Proofs.Observe.Unbound
import ReactiveSchema.Proofs.View.CompiledLeaves
import ReactiveSchema.Proofs.View.LeafViews
import ReactiveSchema.Proofs.View.ScalarChildren
import ReactiveSchema.Proofs.Text.Colours
import ReactiveSchema.Proofs.Reactive.Mirrored
import ReactiveSchema.Proofs.Observe.Owning
import ReactiveSchema.Proofs.Observe.Lookup
import ReactiveSchema.Proofs.Memory.Extent
import ReactiveSchema.Proofs.Memory.Whole
import ReactiveSchema.Proofs.Memory.Mirrors
import ReactiveSchema.Proofs.Observe.Tandem
import ReactiveSchema.Proofs.Observe.TandemFaces
import ReactiveSchema.Proofs.Observe.TandemValues
import ReactiveSchema.Proofs.Observe.TandemAccess
import ReactiveSchema.Proofs.Observe.TandemScopes
import ReactiveSchema.Proofs.Observe.TandemOperators
import ReactiveSchema.Proofs.Observe.TandemExpressions
import ReactiveSchema.Proofs.Observe.TandemParts
import ReactiveSchema.Proofs.Observe.SecondLook
import ReactiveSchema.Proofs.Observe.Keeping
import ReactiveSchema.Proofs.Observe.KeepingWrites
import ReactiveSchema.Proofs.Observe.KeepingLooks
import ReactiveSchema.Proofs.Observe.KeepingContainers
import ReactiveSchema.Proofs.Act.Whole
import ReactiveSchema.Proofs.Act.Keeping
import ReactiveSchema.Proofs.Act.KeepingWrites
import ReactiveSchema.Proofs.Act.KeepingSchemas
import ReactiveSchema.Proofs.Act.KeepingViews
import ReactiveSchema.Proofs.Act.KeepingOperations
import ReactiveSchema.Proofs.Act.KeepingPrograms
import ReactiveSchema.Proofs.View.Observation
