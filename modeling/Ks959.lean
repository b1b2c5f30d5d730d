import Ks959.Setup
import Ks959.Speed
import Ks959.Rx.Session
import Ks959.Rx.Information
import Ks959.Tx.Transaction
import Ks959.Tx.Layout
import Ks959.Device.Lengths
import Ks959.Device.Bookkeeping
import Ks959.Device.FirstMatch
import Ks959.Device.PathMatch
import Ks959.Tools.RxLoops
import Ks959.Tools.Ep81Monitor
import Ks959.Tools.DecoderAgreement
import Ks959.Tools.TxProbe
import Ks959.Tools.MonitorDiscovery
import Ks959.Tools.ReadLoop
import Ks959.Tools.HexBytes
import Ks959.Lib.Occurrences
import Ks959.Lib.Dialogue
import Ks959.Tools.Libusb
import Ks959.Tools.Arguments
import Ks959.Tools.UsbTools
import Ks959.Tools.ArmScan
import Ks959.Tools.Handshake
import Ks959.Tools.SendTools
import Ks959.Tools.Sessions
import Ks959.Tools.WinUsb
import Ks959.Tools.Probe
import Ks959.Tools.WinRead
import Ks959.Tools.WinTools
import Ks959.Tools.InitSequence
import Ks959.Tools.ControlTest
import Ks959.Tools.WinSessions
import Ks959.Device.Lifetime
import Ks959.Tools.LibraryTools
import Ks959.Tools.CtrlMatrix
import Ks959.Exchange.Dongle
import Ks959.Exchange.Host
import Ks959.Exchange.Runs
import Ks959.Exchange.Listeners
import Ks959.Tools.LibProbe
