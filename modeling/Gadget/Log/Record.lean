namespace Gadget

inductive Level
  | error | warn | info | debug | trace
deriving DecidableEq

namespace Level

def name : Level → String
  | error => "ERROR"
  | warn => "WARN"
  | info => "INFO"
  | debug => "DEBUG"
  | trace => "TRACE"

def letter : Level → Char
  | error => 'E'
  | warn => 'W'
  | info => 'I'
  | debug => 'D'
  | trace => 'T'

def verbosity : Level → Nat
  | error => 1
  | warn => 2
  | info => 3
  | debug => 4
  | trace => 5

end Level

/-- The most verbose level still recorded, or none at all. -/
abbrev Threshold := Option Level

def Threshold.admits (threshold : Threshold) (level : Level) : Bool :=
  match threshold with
  | none => false
  | some most => level.verbosity ≤ most.verbosity

/-- A message is written fragment by fragment. One that is persistent goes on after a fragment that
did not fit, any other stops there. -/
structure Message where
  fragments : List String
  persistent : Bool
deriving DecidableEq

def Message.ofString (text : String) : Message := ⟨[text], false⟩

def Message.text (message : Message) : String := String.join message.fragments

structure Record where
  level : Level
  target : String
  message : Message
deriving DecidableEq

structure Logged (α : Type) where
  value : α
  records : List Record
deriving DecidableEq

namespace Logged

instance : Monad Logged where
  pure value := ⟨value, []⟩
  bind first next :=
    let second := next first.value
    ⟨second.value, first.records ++ second.records⟩

def log (level : Level) (target text : String) : Logged Unit :=
  ⟨(), [⟨level, target, .ofString text⟩]⟩

@[simp] theorem value_pure {α : Type} (a : α) : (pure a : Logged α).value = a := rfl

@[simp] theorem records_pure {α : Type} (a : α) : (pure a : Logged α).records = [] := rfl

@[simp] theorem value_bind {α β : Type} (first : Logged α) (next : α → Logged β) :
    (first >>= next).value = (next first.value).value := rfl

@[simp] theorem records_bind {α β : Type} (first : Logged α) (next : α → Logged β) :
    (first >>= next).records = first.records ++ (next first.value).records := rfl

def kept {α : Type} (logged : Logged α) (threshold : Threshold) : List Record :=
  logged.records.filter fun record => threshold.admits record.level

end Logged

namespace Text

def decimal (n : Nat) : String := String.ofList (Nat.toDigits 10 n)

def upperHex (n : Nat) : String := String.ofList ((Nat.toDigits 16 n).map Char.toUpper)

end Text

end Gadget
