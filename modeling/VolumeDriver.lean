import VolumeDriver.Controller
import VolumeDriver.Csi.RequestTrace
import VolumeDriver.Gateway.Provider
import VolumeDriver.Gateway.Store
import VolumeDriver.Host.Memory
import VolumeDriver.Host.Scripted
import VolumeDriver.Listener
import VolumeDriver.Main
import VolumeDriver.Mount.Worker
import VolumeDriver.Node
import VolumeDriver.Proofs.Controller.Capacity
import VolumeDriver.Proofs.Controller.ConcurrentAttaches
import VolumeDriver.Proofs.Controller.ConcurrentCreates
import VolumeDriver.Proofs.Controller.Rejection
import VolumeDriver.Proofs.Controller.Retries
import VolumeDriver.Proofs.Gateway.Recreation
import VolumeDriver.Proofs.Gateway.Soundness
import VolumeDriver.Proofs.Provider.Agreement
import VolumeDriver.Proofs.Provider.MissingVolume
import VolumeDriver.Proofs.Provider.SingleEffect
import VolumeDriver.Proofs.Publication.Convergence
import VolumeDriver.Proofs.Publication.Ordering
import VolumeDriver.Proofs.Publication.ReadOnly
import VolumeDriver.Proofs.Publication.Withdrawal
import VolumeDriver.Settings
import VolumeDriver.Proofs.Publication.Attachment
import VolumeDriver.Proofs.Publication.Exposure
import VolumeDriver.Proofs.Publication.Ownership
import VolumeDriver.Proofs.Publication.Secrecy
import VolumeDriver.Proofs.Files.Walk
import VolumeDriver.Proofs.Path
import VolumeDriver.Proofs.Files.Entry
import VolumeDriver.Proofs.Files.Making
import VolumeDriver.Proofs.Publication.RoundTrip
import VolumeDriver.Proofs.Csi.RequestTrace
import VolumeDriver.Proofs.Gateway.Outcome
import VolumeDriver.Proofs.Publication.Validity
import VolumeDriver.Proofs.Decimal
import VolumeDriver.Proofs.Gateway.Scope
import VolumeDriver.Proofs.Controller.Sizes
import VolumeDriver.Proofs.Controller.Expansion
import VolumeDriver.Proofs.Controller.Listing
import VolumeDriver.Proofs.Controller.Capabilities
import VolumeDriver.Proofs.Text.Words
import VolumeDriver.Proofs.Mount.Table
import VolumeDriver.Proofs.Mount.Recognition
import VolumeDriver.Proofs.Files.Removing
import VolumeDriver.Proofs.Mount.Clearing
import VolumeDriver.Proofs.Mount.Lookup
import VolumeDriver.Proofs.Mount.Options
import VolumeDriver.Proofs.Host.SensitiveOptions
import VolumeDriver.Proofs.Labels
import VolumeDriver.Proofs.Controller.Placement
import VolumeDriver.Proofs.Provider.Polling
import VolumeDriver.Proofs.Controller.Naming
import VolumeDriver.Proofs.Net.Numerals
import VolumeDriver.Proofs.Net.Reading
import VolumeDriver.Proofs.Net.Printing
import VolumeDriver.Proofs.Endpoint
import VolumeDriver.Proofs.Mount.Respelling
import VolumeDriver.Proofs.Trace
import VolumeDriver.Proofs.Publication.Disclosure
