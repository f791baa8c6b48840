import Gadget.Bench.Wire
import Gadget.Console.Bind
import Gadget.Console.Task

namespace Gadget.Bench

structure Capture where
  lines : List Bytes
  flushes : Nat

namespace Capture

def empty : Capture := ⟨[], 0⟩

def logger (hook : Bool) : Logger Capture Capture where
  emit data capture := (data.length, { capture with lines := capture.lines ++ [data] })
  hook capture := if hook then { capture with flushes := capture.flushes + 1 } else capture

end Capture

structure ConsoleBench where
  capacity : Capacity
  console : Console capacity Port
  wire : Wire
  routes : Bool

inductive ConsoleStep
  | bind (settings : PortSettings) (achieved : Option UInt32) (refuses : Bool)
  | write (write : Write)
  | log (record : Record)
  | task
  | flush
  | flushLog
  | adjust (change : Wire → Wire)

inductive ConsoleAnswer
  | none
  | accepted (count : Nat)
  | bound (result : Except (BindError PortError) UInt32) (port : Port)
  /-- The wire never takes everything, so the console was not flushed. -/
  | wouldSpin

namespace ConsoleBench

def ofCapacity (capacity : Capacity) (routes : Bool) : ConsoleBench :=
  ⟨capacity, .empty, .free, routes⟩

def record (records : List Record) (bench : ConsoleBench) : ConsoleBench :=
  if bench.routes then { bench with console := bench.console.logAll records } else bench

def adjust (change : Wire → Wire) (bench : ConsoleBench) : ConsoleBench :=
  { bench with
    wire := change bench.wire
    console := { bench.console with
      port := bench.console.port.map fun port => { port with wire := change port.wire } } }

def currentWire (bench : ConsoleBench) : Wire := bench.console.port.elim bench.wire Port.wire

def passes (bench : ConsoleBench) : Nat :=
  bench.currentWire.passes (bench.console.ring.length + Notice.capacity)

def logger (bench : ConsoleBench) :
    Logger (Console bench.capacity Port) (Option (List Attempt × Console bench.capacity Port)) :=
  Console.logger bench.passes

def flushed (bench : ConsoleBench)
    (result : Option (List Attempt × Console bench.capacity Port)) :
    Report ConsoleAnswer × ConsoleBench :=
  match result with
  | some (attempts, console) => (⟨.none, [], attempts⟩, { bench with console })
  | none => (⟨.wouldSpin, [], []⟩, bench)

def spins (bench : ConsoleBench) : Bool := bench.console.isBound && !bench.currentWire.isLive

def step (threshold : Threshold) (bench : ConsoleBench) :
    ConsoleStep → Report ConsoleAnswer × ConsoleBench
  | .bind settings achieved refuses =>
    let bound := bench.console.bind ⟨none, none, achieved, refuses, bench.wire⟩ settings
    let (result, console, port) := bound.value
    (⟨.bound result port, bound.kept threshold, []⟩,
      { bench with console }.record (bound.kept threshold))
  | .write write =>
    let (count, console) := bench.console.accept write
    (⟨.accepted count, [], []⟩, { bench with console })
  | .log record =>
    (⟨.none, [], []⟩, { bench with console := bench.logger.log record bench.console })
  | .task =>
    let (attempts, console) := bench.console.task
    (⟨.none, [], attempts⟩, { bench with console })
  | .flush =>
    if bench.spins then (⟨.wouldSpin, [], []⟩, bench)
    else bench.flushed (bench.console.flush bench.passes)
  | .flushLog =>
    if bench.spins then (⟨.wouldSpin, [], []⟩, bench)
    else bench.flushed (bench.logger.flush bench.console)
  | .adjust change => (⟨.none, [], []⟩, bench.adjust change)

end ConsoleBench

end Gadget.Bench
