import Gadget.Bytes

namespace Gadget

inductive Direction
  | toDevice
  | toHost
deriving DecidableEq

inductive RequestKind
  | standard
  | ofClass
  | ofVendor
  | reserved
deriving DecidableEq

inductive Recipient
  | device
  | interface
  | endpoint
  | other
  | reserved
deriving DecidableEq

structure Request where
  direction : Direction
  kind : RequestKind
  recipient : Recipient
  code : UInt8
  value : UInt16
  index : UInt16
  length : UInt16
deriving DecidableEq

inductive Reply
  | accept (payload : Bytes)
  | reject
deriving DecidableEq

end Gadget
