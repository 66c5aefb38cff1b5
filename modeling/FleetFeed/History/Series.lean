import FleetFeed.Event.Record
import FleetFeed.History.Window

/-! The load of one container over time, and its picture as a line of blocks. -/
namespace FleetFeed.History

open Event

structure Series where
  window : Window StatsEvent
  deriving DecidableEq, Repr

namespace Series

def new (capacity : Nat) : Series := ⟨.new capacity⟩

/-- Adds a sample; one of another container starts the series anew. -/
def record (s : Series) (sample : StatsEvent) : Series :=
  let kept := match s.window.latest with
    | some last => if last.containerId = sample.containerId then s.window else s.window.clear
    | none => s.window
  ⟨kept.push sample⟩

def cpu (s : Series) : List Binary64 := s.window.samples.map (·.cpuPercent)

def memory (s : Series) : List Binary64 := s.window.samples.map (·.memoryPercent)

def latest (s : Series) : Option StatsEvent := s.window.latest

def length (s : Series) : Nat := s.window.length

end Series

def sparkLevels : List Char := ['▁', '▂', '▃', '▄', '▅', '▆', '▇', '█']

/-- A percentage as one of eight levels; what lies outside the range counts as its end, what is no number as zero. -/
def sparkLevel (x : Binary64) : Nat :=
  let f := x.toFloat
  let clamped := if f < 0.0 then 0.0 else if f > 100.0 then 100.0 else f
  let level := ((clamped / 100.0) * 7.0).round
  min level.toUInt64.toNat 7

def sparkline (points : List Binary64) : String :=
  String.ofList (points.map fun x => sparkLevels.getD (sparkLevel x) '█')

end FleetFeed.History
