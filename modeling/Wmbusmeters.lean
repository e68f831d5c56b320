import Wmbusmeters.Frame
import Wmbusmeters.MBusRawTTY
import Wmbusmeters.Timers
import Wmbusmeters.Simulator
import Wmbusmeters.Descriptors
import Wmbusmeters.Source
import Wmbusmeters.Receive
import Wmbusmeters.Manager
import Wmbusmeters.MeterStatus
import Wmbusmeters.Send
import Wmbusmeters.Compact5
import Wmbusmeters.Daemon
import Wmbusmeters.Link
import Wmbusmeters.SerialTTYs
import Wmbusmeters.Detect
import Wmbusmeters.Ownership
import Wmbusmeters.ConcurrentClose
