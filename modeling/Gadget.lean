import Gadget.Bench.Device
import Gadget.Bench.Firmware
import Gadget.Bench.Uart
import Gadget.Proofs.Console.Accounting
import Gadget.Proofs.Console.Calls
import Gadget.Proofs.Console.NoticeOrder
import Gadget.Proofs.Ring.Queue
import Gadget.Proofs.Console.NoticeText
import Gadget.Proofs.Console.Pass
import Gadget.Proofs.Console.Recovery
import Gadget.Proofs.Console.Logging
import Gadget.Proofs.Console.Decoding
import Gadget.Proofs.Console.Binding
import Gadget.Proofs.Serial.Control
import Gadget.Proofs.Vendor.Packets
import Gadget.Proofs.Log.Cutting
import Gadget.Proofs.Usb.Layout
import Gadget.Proofs.Usb.Separation
import Gadget.Proofs.Firmware.Loop
import Gadget.Proofs.Log.Slipping
import Gadget.Proofs.Console.Flush
import Gadget.Proofs.Console.Splitting
import Gadget.Proofs.Board.Refusal
import Gadget.Proofs.Usb.Answering
