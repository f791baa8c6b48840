import Gadget.Log.Line

namespace Gadget

structure Logger (σ : Type) (ρ : Type) where
  emit : Bytes → σ → Nat × σ
  hook : σ → ρ

namespace Logger

variable {σ ρ : Type}

def log (logger : Logger σ ρ) (record : Record) (sink : σ) : σ :=
  (logger.emit (Line.render record).bytes sink).2

def logAll (logger : Logger σ ρ) (records : List Record) (sink : σ) : σ :=
  records.foldl (fun sink record => logger.log record sink) sink

def flush (logger : Logger σ ρ) (sink : σ) : ρ := logger.hook sink

def enabled (_ : Logger σ ρ) (_ : Level) (_ : String) : Bool := true

end Logger

end Gadget
