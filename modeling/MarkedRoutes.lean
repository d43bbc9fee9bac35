import MarkedRoutes.Bookshelf.Service
import MarkedRoutes.Generated.Execution
import MarkedRoutes.Main
import MarkedRoutes.Outline
import MarkedRoutes.Proofs.Serving.TemplatePattern
import MarkedRoutes.Proofs.Serving.PathMatching
import MarkedRoutes.Proofs.Serving.PatternRun
import MarkedRoutes.Proofs.Serving.Routing
import MarkedRoutes.Proofs.Binding.Rules
import MarkedRoutes.Proofs.Binding.Soundness
import MarkedRoutes.Proofs.Binding.Completeness
import MarkedRoutes.Proofs.Binding.Reordering
import MarkedRoutes.Proofs.Discovery.Declared
import MarkedRoutes.Proofs.Generated.EvaluationOrder
import MarkedRoutes.Proofs.Generated.DispatchRun
import MarkedRoutes.Proofs.Generated.Naming
import MarkedRoutes.Proofs.Generated.Registration
import MarkedRoutes.Proofs.Generated.Writability
import MarkedRoutes.Proofs.Generated.PrintedAlike
import MarkedRoutes.Proofs.Generated.Header
import MarkedRoutes.Proofs.Discovery.Exactness
import MarkedRoutes.Proofs.Discovery.Markers
import MarkedRoutes.Proofs.Serving.PathParameters
import MarkedRoutes.Proofs.Serving.RoundTrip
import MarkedRoutes.Proofs.Generated.DistinctNames
import MarkedRoutes.Proofs.Resolution.NamedConverters
import MarkedRoutes.Proofs.Command.Layering
import MarkedRoutes.Proofs.Command.FailedRuns
import MarkedRoutes.Proofs.Discovery.Independence
import MarkedRoutes.Proofs.Analysis.SourceOrder
import MarkedRoutes.Proofs.Resolution.MountedPaths
import MarkedRoutes.Proofs.Discovery.Relocation
import MarkedRoutes.Proofs.Analysis.Mounting
import MarkedRoutes.Proofs.Http.RequestIdText
import MarkedRoutes.Proofs.Serving.RequestIds
import MarkedRoutes.Proofs.Serving.DisjointTemplates
import MarkedRoutes.Proofs.Bookshelf.History
import MarkedRoutes.Proofs.Bookshelf.Requests
import MarkedRoutes.Proofs.Bookshelf.Runs
import MarkedRoutes.Proofs.Resolution.RelativePaths
import MarkedRoutes.Proofs.Generated.CalleePaths
import MarkedRoutes.Proofs.Analysis.Loading
import MarkedRoutes.Proofs.Resolution.SameType
import MarkedRoutes.Proofs.Http.HeaderLookup
import MarkedRoutes.Proofs.Json.StringLengths
import MarkedRoutes.Proofs.Json.RoundTrip
import MarkedRoutes.Proofs.Serving.ResponseBodies
import MarkedRoutes.Proofs.Command.RepeatedRuns
import MarkedRoutes.Proofs.Discovery.Visits
import MarkedRoutes.Proofs.Discovery.MisplacedMarkers
import MarkedRoutes.Proofs.Analysis.ReturnShapes
import MarkedRoutes.Proofs.Analysis.RouteArguments
import MarkedRoutes.Proofs.Serving.HandlerErrors
import MarkedRoutes.Proofs.Bookshelf.DateTexts
import MarkedRoutes.Proofs.Bookshelf.DateOrder
import MarkedRoutes.Proofs.TemplateText
import MarkedRoutes.Proofs.Json.RecordRoundTrip
import MarkedRoutes.Proofs.Bookshelf.DateRoundTrip
import MarkedRoutes.Proofs.Bookshelf.ProvidedAnswer
import MarkedRoutes.Proofs.Generated.NameOrder
import MarkedRoutes.Proofs.Source.LiteralEnds
import MarkedRoutes.Proofs.Source.WordEnds
import MarkedRoutes.Proofs.Source.PieceEnds
import MarkedRoutes.Proofs.Source.TokenPieces
import MarkedRoutes.Proofs.Source.SqueezedPieces
import MarkedRoutes.Proofs.Resolution.CanonicalTypes
