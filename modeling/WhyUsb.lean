import WhyUsb.Lib.Lts
import WhyUsb.Ring.Agreement
import WhyUsb.Ring.Interleaving
import WhyUsb.Ring.Bytes
import WhyUsb.Queue.Drain
import WhyUsb.Queue.Fairness
import WhyUsb.Protocol.Exact
import WhyUsb.Descriptor.Image
import WhyUsb.Driver.Mock
import WhyUsb.Driver.Pump
import WhyUsb.Driver.Mapping
import WhyUsb.Session.Network
import WhyUsb.Session.Shutdown
import WhyUsb.Session.Bracketing
import WhyUsb.Session.Cancellation
import WhyUsb.Session.EndToEnd
import WhyUsb.Descriptor.Served
import WhyUsb.Descriptor.Settings
import WhyUsb.Session.QueueRequests
import WhyUsb.Session.ControlRuns
import WhyUsb.Session.DescriptorReads
import WhyUsb.Session.Reports
import WhyUsb.Session.SendFailure
import WhyUsb.Protocol.Bulk
import WhyUsb.Ring.Observer
import WhyUsb.Driver.WindowsBackend
import WhyUsb.Driver.SharedResources
import WhyUsb.Session.BulkChecks
import WhyUsb.Session.DetachLimit
import WhyUsb.Session.NoPanic
import WhyUsb.Session.Completion
import WhyUsb.Driver.Handles
import WhyUsb.Session.Stall
import WhyUsb.Session.UsbIpTrace
import WhyUsb.Session.Transports
import WhyUsb.Config.VhciTable
import WhyUsb.Config.Accepted
