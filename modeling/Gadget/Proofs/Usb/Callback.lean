import Gadget.Usb.Function
import Mathlib.Data.List.DropRight

namespace Gadget

inductive Callback (β : Type)
  | reset
  | controlIn (request : Request) (accept : Bytes → Except UsbError Unit)
  | controlOut (request : Request) (data : Bytes)
  | packetReceived (address : EndpointAddress) (bus : β)
  | packetSent (address : EndpointAddress)

namespace Callback

variable {β : Type}

def isReset : Callback β → Bool
  | reset => true
  | _ => false

def received? : Callback β → Option EndpointAddress
  | packetReceived address _ => some address
  | _ => none

def request? : Callback β → Option Request
  | controlIn request _ | controlOut request _ => some request
  | _ => none

end Callback

namespace UsbFunction

variable {κ β : Type} [UsbFunction κ] [UsbBus β]

def handle (function : κ) : Callback β → Logged (Option Reply × κ)
  | .reset => do
    let function ← reset function
    pure (none, function)
  | .controlIn request accept => controlIn request accept function
  | .controlOut request data => controlOut request data function
  | .packetReceived address bus => do
    let (function, _) ← packetReceived address function bus
    pure (none, function)
  | .packetSent address => pure (none, packetSent address function)

def after (function : κ) (history : List (Callback β)) : κ :=
  history.foldl (fun function callback => (handle function callback).value.2) function

theorem after_append_singleton (function : κ) (history : List (Callback β))
    (callback : Callback β) :
    after function (history ++ [callback]) = (handle (after function history) callback).value.2 :=
  List.foldl_append

theorem after_append (function : κ) (history more : List (Callback β)) :
    after function (history ++ more) = after (after function history) more :=
  List.foldl_append

def records (function : κ) : List (Callback β) → List Record
  | [] => []
  | callback :: rest =>
    (handle function callback).records ++ records (handle function callback).value.2 rest

theorem records_append (function : κ) (history more : List (Callback β)) :
    records function (history ++ more) =
      records function history ++ records (after function history) more := by
  induction history generalizing function with
  | nil => rfl
  | cons callback rest ih =>
    rw [List.cons_append, records, ih, ← List.append_assoc]
    rfl

end UsbFunction

namespace Events

variable {α γ : Type}

/-- What the last event that tells something told, since the last event that ends it. -/
def latest (ends : α → Bool) (tells : α → Option γ) (events : List α) : Option γ :=
  ((events.rtakeWhile fun event => !ends event).filterMap tells).getLast?

/-- What was told last, or what is told at first and after each end. -/
def inForce (initially : γ) (ends : α → Bool) (tells : α → Option γ) (events : List α) : γ :=
  (latest ends tells events).getD initially

def count (ends counts : α → Bool) (events : List α) : Nat :=
  (events.rtakeWhile fun event => !ends event).countP counts

theorem latest_append_singleton (ends : α → Bool) (tells : α → Option γ) (events : List α)
    (event : α) :
    latest ends tells (events ++ [event]) =
      if ends event then none else (tells event).or (latest ends tells events) := by
  rw [latest, List.rtakeWhile_concat]
  cases ends event with
  | true => rfl
  | false =>
    simp only [Bool.not_false, if_true, List.filterMap_append, List.getLast?_append, latest]
    cases told : tells event <;> simp [told]

theorem inForce_append_singleton (initially : γ) (ends : α → Bool) (tells : α → Option γ)
    (events : List α) (event : α) :
    inForce initially ends tells (events ++ [event]) =
      if ends event then initially
      else (tells event).getD (inForce initially ends tells events) := by
  rw [inForce, latest_append_singleton]
  cases ends event with
  | true => rfl
  | false => exact Option.getD_or

theorem count_append_singleton (ends counts : α → Bool) (events : List α) (event : α) :
    count ends counts (events ++ [event]) =
      if ends event then 0 else count ends counts events + (counts event).toNat := by
  rw [count, List.rtakeWhile_concat]
  cases ends event with
  | true => rfl
  | false =>
    simp only [Bool.not_false, if_true, List.countP_append, count]
    cases counted : counts event <;> simp [counted]

end Events

end Gadget
