import ScriptHost.Builtin.Console
import ScriptHost.Builtin.Method
import ScriptHost.Builtin.Regex
import ScriptHost.CommandLine.Help
import ScriptHost.CommandLine.Options
import ScriptHost.CommandLine.Program
import ScriptHost.CommandLine.Suggestion
import ScriptHost.Decimal.Binary
import ScriptHost.Decimal.Shortest
import ScriptHost.Decimal.Style
import ScriptHost.File.Path
import ScriptHost.File.ScriptText
import ScriptHost.File.Tree
import ScriptHost.Host.Call
import ScriptHost.Host.Construction
import ScriptHost.Host.Display
import ScriptHost.Host.Fault
import ScriptHost.Host.FaultClass
import ScriptHost.Host.Hashable
import ScriptHost.Host.Image
import ScriptHost.Host.Order
import ScriptHost.Host.Value
import ScriptHost.Instance.Capability
import ScriptHost.Instance.Construction
import ScriptHost.Instance.FunctionNames
import ScriptHost.Instance.Interpreter
import ScriptHost.Instance.Invocation
import ScriptHost.Instance.Lookup
import ScriptHost.Instance.Registry
import ScriptHost.Instance.ScriptEngine
import ScriptHost.Json.Reader
import ScriptHost.Json.Writer
import ScriptHost.Main
import ScriptHost.Pattern.CaseKin
import ScriptHost.Pattern.Match
import ScriptHost.Pattern.Node
import ScriptHost.Pattern.Parser
import ScriptHost.Pattern.Source
import ScriptHost.Pattern.Spans
import ScriptHost.Pattern.Template
import ScriptHost.Proofs.Applier
import ScriptHost.Proofs.Atomicity
import ScriptHost.Proofs.CallArguments
import ScriptHost.Proofs.CallBoundary
import ScriptHost.Proofs.Dispatch
import ScriptHost.Proofs.Encodings
import ScriptHost.Proofs.EngineBoundary
import ScriptHost.Proofs.HiddenGlobals
import ScriptHost.Proofs.HostFaults
import ScriptHost.Proofs.HostImages
import ScriptHost.Proofs.Invocation
import ScriptHost.Proofs.KeptReferences
import ScriptHost.Proofs.PlainCall
import ScriptHost.Proofs.ReadScalars
import ScriptHost.Proofs.Registration
import ScriptHost.Proofs.RegistrationRuns
import ScriptHost.Proofs.RegistryBalance
import ScriptHost.Proofs.RegistryGrowth
import ScriptHost.Proofs.RenderedCapability
import ScriptHost.Proofs.Replies
import ScriptHost.Proofs.RoundTrip
import ScriptHost.Proofs.Transition
import ScriptHost.Script.Access
import ScriptHost.Script.Callable
import ScriptHost.Script.Engine
import ScriptHost.Script.Expression
import ScriptHost.Script.Grammar
import ScriptHost.Script.Library.Arrays
import ScriptHost.Script.Library.Collections
import ScriptHost.Script.Library.Dates
import ScriptHost.Script.Library.Functions
import ScriptHost.Script.Library.Globals
import ScriptHost.Script.Library.JsonText
import ScriptHost.Script.Library.Objects
import ScriptHost.Script.Library.Scalars
import ScriptHost.Script.Library.Texts
import ScriptHost.Script.Native
import ScriptHost.Script.Number
import ScriptHost.Script.Object
import ScriptHost.Script.Operator
import ScriptHost.Script.Reading
import ScriptHost.Script.Realm
import ScriptHost.Script.Statement
import ScriptHost.Script.Syntax
import ScriptHost.Script.Token
import ScriptHost.Script.Value
import ScriptHost.Script.Variable
import ScriptHost.Service.Exchange
import ScriptHost.Service.Message
import ScriptHost.Service.Origins
import ScriptHost.Service.Routes
import ScriptHost.Text.Charset
import ScriptHost.Text.CodePoint
import ScriptHost.Text.Quoted
import ScriptHost.Text.Utf16
import ScriptHost.Text.Utf8
import ScriptHost.Unicode.Blank
import ScriptHost.Unicode.Case
import ScriptHost.Unicode.Digit
import ScriptHost.Unicode.Identifier
import ScriptHost.Unicode.Names
import ScriptHost.Unicode.Printable
import ScriptHost.Unicode.Ranges
import ScriptHost.Unicode.Word
import ScriptHost.Proofs.AnsweredCalls
import ScriptHost.Proofs.AssignedKeys
import ScriptHost.Proofs.BoundModules
import ScriptHost.Proofs.NameResolution
import ScriptHost.Proofs.Coexistence
import ScriptHost.Proofs.IntactTexts
import ScriptHost.Proofs.NestedFaults
import ScriptHost.Proofs.HeldData
import ScriptHost.Proofs.ParameterCalls
import ScriptHost.Proofs.EchoedTrees
import ScriptHost.Proofs.FilteredLists
import ScriptHost.Proofs.FreshEngines
import ScriptHost.Proofs.FunctionModules
import ScriptHost.Proofs.PreparedInstances
import ScriptHost.Proofs.AnsweredLines
import ScriptHost.Proofs.DeclaredFunctions
import ScriptHost.Proofs.DecodedArguments
import ScriptHost.Proofs.PlainCapabilities
import ScriptHost.Proofs.Representability
import ScriptHost.Proofs.ConsoleTexts
import ScriptHost.Proofs.FileTexts
import ScriptHost.Proofs.JsonArguments
import ScriptHost.Proofs.RegexMethods
import ScriptHost.Proofs.AllowedOrigins
import ScriptHost.Proofs.AskedNames
