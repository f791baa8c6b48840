import Gadget.Console.Basic

namespace Gadget

inductive BindError (ε : Type)
  | receiveUnsupported
  | alreadyBound
  | port (cause : ε)
deriving DecidableEq

def BindError.message {ε : Type} (describe : ε → String) : BindError ε → String
  | receiveUnsupported => "stdio_uart_buf is transmit only, rx_pin must be None"
  | alreadyBound => ""
  | port cause => describe cause

namespace Console

variable {capacity : Capacity} {π ε : Type}

def target : String := "usb_test_device::stdio_uart_buf"

def route [SerialPort π ε] (settings : PortSettings) (port : π) : Logged π :=
  match settings.txPin with
  | some pin => SerialPort.route pin port
  | none => pure port

/-- Routes and enables a port and makes it the console's own. The answer is the rate in effect; the
port comes back as it was left, also by an attempt that failed. -/
def bind [SerialPort π ε] (console : Console capacity π) (port : π) (settings : PortSettings) :
    Logged (Except (BindError ε) UInt32 × Console capacity π × π) :=
  if settings.rxPin.isSome then pure (.error .receiveUnsupported, console, port)
  else if console.isBound then pure (.error .alreadyBound, console, port)
  else do
    let port ← route settings port
    match SerialPort.enable settings.baud port with
    | (.error cause, port) => pure (.error (.port cause), console, port)
    | (.ok baud, port) =>
      .log .info target <|
        "stdio uart bound at " ++ Text.decimal baud.toNat ++ " baud, " ++
          Text.decimal capacity.size ++ " byte tx buffer"
      pure (.ok baud, { console with port := some port }, port)

end Console

end Gadget
