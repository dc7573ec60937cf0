import MiniDocker.Seccomp.Table
import MiniDocker.Seccomp.Bpf
import MiniDocker.Seccomp.Filter
import MiniDocker.Network.Allocation
import MiniDocker.Launch.Protocol
import MiniDocker.Launch.Barrier
import MiniDocker.Launch.Start
import MiniDocker.Launch.Isolation
import MiniDocker.Record.Value
import MiniDocker.Record.Config
import MiniDocker.Record.Json
import MiniDocker.Record.JsonRoundTrip
import MiniDocker.Record.ConfigFile
import MiniDocker.Store.Resolve
import MiniDocker.Pods.Membership
import MiniDocker.Pods.Files
import MiniDocker.Limits.Resources
import MiniDocker.Capabilities.Words
import MiniDocker.Image.Store
import MiniDocker.Image.BuildFile
import MiniDocker.Store.Calls
import MiniDocker.Logs.Logger
import MiniDocker.Image.Copy
import MiniDocker.Oci.Load
import MiniDocker.Oci.Generate
import MiniDocker.Record.JsonLoad
import MiniDocker.Oci.Refine
import MiniDocker.Image.Build
import MiniDocker.Store.Cleanup
import MiniDocker.Pods.Lifecycle
