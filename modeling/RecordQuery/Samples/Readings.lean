import RecordQuery.Table

/-!
# Readings

A record type whose times differ by less than a millisecond, with repeated samples some of
which are missing.
-/

namespace RecordQuery.Samples.Readings

/-- The table of readings. -/
def table : Table :=
  .ofColumns "Reading" [
    ("seq", .plain (.integer ⟨false, .size⟩)),
    ("offset", .plain (.integer ⟨true, .size⟩)),
    ("taken_at", .plain .timestamp),
    ("samples", (FieldType.plain (.integer ⟨true, .w32⟩)).asNullable.asSequence)]

/-- A reading some microseconds after the start of 2024. -/
def reading (seq : UInt64) (offset : Int64) (micros : Nat) (samples : List (Option Int64)) :
    Record :=
  [.value (.number (.unsigned seq)),
    .value (.number (.signed offset)),
    .dateTime ⟨⟨2024, 1, 1⟩, 0, micros * 1000⟩,
    .value (.list (samples.map fun
      | some n => .number (.signed n)
      | none => .null))]

/-- Three readings within two milliseconds. -/
def records : List Record := [
  reading 0 (-2) 100 [some 1, none],
  reading 1 0 900 [some 1, some 2],
  reading 2 3 1500 []]

end RecordQuery.Samples.Readings
