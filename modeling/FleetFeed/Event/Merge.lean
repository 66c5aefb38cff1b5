import FleetFeed.Event.Record
import FleetFeed.Time.Instant

/-! Records of several feeds in the order of their own timestamps. -/
namespace FleetFeed.Event

open Time

def Record.instant? (r : Record) : Option Instant := Rfc3339.parse? r.timestamp

/-- Instants in order, those that are not known last. -/
def notAfter : Option Instant → Option Instant → Bool
  | some a, some b => a.le b
  | some _, none => true
  | none, some _ => false
  | none, none => true

/-- Sorts records by instant; records of one instant, and those without, keep their order. -/
def mergeByTimestamp (records : List Record) : List Record :=
  records.mergeSort fun a b => notAfter a.instant? b.instant?

end FleetFeed.Event
