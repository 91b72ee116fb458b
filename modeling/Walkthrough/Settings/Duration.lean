import Walkthrough.Json.Record

/-!
Lengths of time.
-/
namespace Walkthrough

structure Duration where
  seconds : Nat
  nanos : Nat
  nanos_lt : nanos < 1000000000 := by decide
deriving DecidableEq, Repr

namespace Duration

def ofMillis (ms : Nat) : Duration :=
  ⟨ms / 1000, ms % 1000 * 1000000, by omega⟩

def millis (d : Duration) : Nat := d.seconds * 1000 + d.nanos / 1000000

def ofParts (seconds nanos : Nat) : Duration :=
  ⟨seconds + nanos / 1000000000, nanos % 1000000000, Nat.mod_lt _ (by decide)⟩

instance : Inhabited Duration := ⟨ofMillis 0⟩

open Json (RecordField Schema Reader)

def overflow? (parts : Nat × Nat) : Option Json.ShapeFault :=
  if parts.1 + parts.2 / 1000000000 ≤ 18446744073709551615 then none
  else some (.custom "overflow deserializing Duration")

def schema : Schema (Nat × Nat) where
  label := "Duration"
  blank := (0, 0)
  closed := true
  refusal? := overflow?
  fields := [
    .required "secs" (Reader.nat "u64") Json.ofNat (·.1) fun v d => (v, d.2),
    .required "nanos" Reader.nat32 Json.ofNat (·.2) fun v d => (d.1, v)]

def reader : Reader Duration := fun levels o => do
  let (seconds, nanos) ← schema.read levels o
  return ofParts seconds nanos

def toJson (d : Duration) : Json := schema.write (d.seconds, d.nanos)

end Duration

end Walkthrough
