import Ostiole.Armdebug.Close
import Ostiole.Cmsisdap.Sequences
import Ostiole.Cmsisdap.Transport
import Ostiole.Coresight.Preorder
import Ostiole.Cortexm.GroupRelease
import Ostiole.Cortexm.Restore
import Ostiole.Cortexm.Uncertain
import Ostiole.Dap.JtagSpec
import Ostiole.Dap.RegisterSpec
import Ostiole.Dap.Segments
import Ostiole.Discover.Order
import Ostiole.Ftdi.Encoding
import Ostiole.Jlink.Align
import Ostiole.Jtag.Guarantee
import Ostiole.Swd.Codec
import Ostiole.Swd.Equivalence
import Ostiole.Swd.Restore
import Ostiole.Usb.Parsing
