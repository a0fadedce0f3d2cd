import Tailpost.Reader.Disk
import Tailpost.Reader.FileReader
import Tailpost.Text.Lines
import Tailpost.Transition.Core
import Tailpost.Reader.Tailing
import Tailpost.Reader.Rotation
import Tailpost.Memory.Slice
import Tailpost.Sender.HTTPSender
import Tailpost.Sender.Batching
import Tailpost.Sender.Stop
import Tailpost.Agent.Pipeline
import Tailpost.Agent.Shutdown
import Tailpost.Agent.Stranding
import Tailpost.Container.ContainerReader
import Tailpost.Container.Reconnect
import Tailpost.Container.Lifetime
import Tailpost.Hoare.Triple
import Tailpost.Operator.Controller
import Tailpost.Operator.Outcome
import Tailpost.Operator.Convergence
import Tailpost.Text.Rendering
import Tailpost.Operator.Idempotence
import Tailpost.Operator.Rollout
import Tailpost.Text.Path
import Tailpost.Operator.HostPaths
import Tailpost.Configuration.LoadConfig
import Tailpost.Text.Yaml
import Tailpost.Configuration.ConfigFile
import Tailpost.Operator.ConfigText
import Tailpost.Operator.ConfigMeaning
import Tailpost.Reader.Factory
import Tailpost.Operator.SourceSelection
import Tailpost.Text.Json
import Tailpost.Http.Header
import Tailpost.Text.BinaryText
import Tailpost.Security.Auth
import Tailpost.Health.HealthServer
import Tailpost.Security.Encryption
import Tailpost.Sender.Delivery
import Tailpost.Sender.DecryptingServer
import Tailpost.Agent.Telemetry
import Tailpost.Sender.Cancellation
import Tailpost.Sender.Closing
import Tailpost.Operator.Ending
import Tailpost.Reader.Acceptance
import Tailpost.Operator.Conditions
import Tailpost.Hoare.Locality
import Tailpost.Operator.Isolation
import Tailpost.Operator.Ownership
import Tailpost.Operator.Stillness
import Tailpost.Operator.Quantities
import Tailpost.Reader.Blocking
import Tailpost.Container.Blocking
import Tailpost.Reader.Lifecycle
import Tailpost.Container.Lifecycle
import Tailpost.Reader.Restart
import Tailpost.Security.BasicAuth
import Tailpost.Container.ReadLine
import Tailpost.Operator.Degradation
import Tailpost.Sender.SecureBatching
import Tailpost.Reader.Spelling
import Tailpost.Text.Scanner
import Tailpost.Reader.MacOSLogReader
import Tailpost.Agent.Refinement
import Tailpost.Agent.Completion
import Tailpost.Agent.Deployment
import Tailpost.Operator.History
import Tailpost.Operator.DeepCopy
import Tailpost.Reader.LogStream
import Tailpost.Reader.WindowsEventLog
import Tailpost.Health.OwnCredentials
import Tailpost.Operator.Probes
import Tailpost.Container.Windows
import Tailpost.Agent.Lifetimes
import Tailpost.Agent.Contexts
