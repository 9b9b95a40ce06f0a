import Endpoints.Client.Call
import Endpoints.Endpoint.Events
import Endpoints.Expansion.Expand
import Endpoints.Main
import Endpoints.Number.DecimalReader
import Endpoints.Proofs.Notifications
import Endpoints.Proofs.GeneratedScope
import Endpoints.Proofs.OutputCollisions
import Endpoints.Proofs.PayloadSelection
import Endpoints.Proofs.QueryReencoding
import Endpoints.Proofs.SettingOrder
import Endpoints.Proofs.TagRecognition
import Endpoints.Proofs.HostConfinement
import Endpoints.Proofs.HeaderLayers
import Endpoints.Proofs.FormRoundTrip
import Endpoints.Proofs.JsonRoundTrip
import Endpoints.Proofs.MultipartRoundTrip
import Endpoints.Proofs.PayloadDecoding
import Endpoints.Proofs.EndpointContents
import Endpoints.Proofs.MethodLookup
import Endpoints.Proofs.TerminalCalls
import Endpoints.Proofs.ConstructorNames
import Endpoints.Proofs.GeneratedNames
import Endpoints.Proofs.NamedItems
import Endpoints.Proofs.OutputCheck
import Endpoints.Proofs.BuildWarnings
import Endpoints.Proofs.BaseExtension
import Endpoints.Proofs.FileComposition
import Endpoints.Proofs.OutputFrame
import Endpoints.Proofs.CollectedInputs
import Endpoints.Proofs.FirstViolation
import Endpoints.Proofs.BuildFailures
import Endpoints.Proofs.TagGrammar
import Endpoints.Proofs.FormHistory
import Endpoints.Proofs.OptionsRebuilding
import Endpoints.Proofs.BodyOwnership
import Endpoints.Proofs.TypeComparison
import Endpoints.Proofs.InferredTerminal
import Endpoints.Proofs.ScannedTraits
import Endpoints.Proofs.TypeRoundTrip
