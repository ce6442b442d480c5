import RecordQuery.Request

/-!
# Tickets

A record type with an enumeration, a repeated field, and a note that its table leaves out, and
two requests for some of its records.
-/

namespace RecordQuery.Samples.Tickets

/-- The priorities; their numbers are their order. -/
def priorities : List Variant :=
  [⟨"Low", 0⟩, ⟨"Normal", 1⟩, ⟨"Urgent", 10⟩]

/-- The table of tickets. The last cell of a ticket is its internal note. -/
def table : Table where
  recordName := "Ticket"
  fields := [
    ⟨"id", .plain (.integer ⟨false, .w64⟩), 0⟩,
    ⟨"title", .plain .string, 1⟩,
    ⟨"priority", .plain (.enum priorities), 2⟩,
    ⟨"openedAt", .plain .timestamp, 3⟩,
    ⟨"closedOn", (FieldType.plain .timestamp).asNullable, 4⟩,
    ⟨"tags", (FieldType.plain .string).asSequence, 5⟩,
    ⟨"owner", (FieldType.plain .string).asNullable, 6⟩]
  blank := [
    .value (.number (.unsigned 0)),
    .value (.string ""),
    .value (.enum 0),
    .dateTime (.midnight ⟨1970, 1, 1⟩),
    .value .null,
    .value (.list []),
    .value .null,
    .value (.string "")]

/-- A ticket that was opened at half past nine in the morning. -/
def ticket (id : UInt64) (title : String) (priority : UInt32) (opened : Date)
    (closed : Option Date) (tags : List String) (owner : Option String) (note : String) :
    Record :=
  [.value (.number (.unsigned id)),
    .value (.string title),
    .value (.enum priority),
    .dateTime ⟨opened, 9 * 3600 + 30 * 60, 0⟩,
    match closed with
    | some d => .dateTime (.midnight d)
    | none => .value .null,
    .value (.list (tags.map .string)),
    match owner with
    | some s => .value (.string s)
    | none => .value .null,
    .value (.string note)]

/-- Three tickets, one of them closed. -/
def records : List Record := [
  ticket 1 "Login fails" 10 ⟨2024, 1, 10⟩ none ["auth", "bug"] (some "ana") "escalated",
  ticket 2 "Dark mode" 0 ⟨2024, 2, 3⟩ (some ⟨2024, 3, 1⟩) ["ui"] none "",
  ticket 3 "Slow search" 1 ⟨2024, 2, 20⟩ none [] (some "bo") ""]

/-- The tickets below the highest priority that are not ana's and have no internal note, by
owner from the last to the first: of pages of one ticket the second, with owner and number
alone. -/
def secondByOwner : Request where
  filters := [
    ⟨"PRIORITY", .lessThan, .string "urgent"⟩,
    ⟨"owner", .notIn, .array [.null, .string "ana"]⟩,
    ⟨"title", .notContains, .string "login"⟩]
  predicates := [.own fun r => (r.read 7).equal (.string "")]
  sort := some ⟨"owner", .descending⟩
  select := ["owner", "Id"]
  page := some 2
  pageSize := some 1
  count := true

/-- The tickets of February 2024 or later that are not for the interface and have one of three
numbers, asked for by typed values and a piece of JSON: an instant half a second past midnight,
integers of both kinds, and a list of tags. -/
def typedSinceFebruary : Request where
  filters := [
    ⟨"openedAt", .greaterThanOrEqual, .timestamp { secs := 1706745600, nanos := 500000000 }⟩,
    ⟨"id", .isIn, .array [.number (.unsigned 1), .number (.signed 2), .number (.unsigned 3)]⟩,
    ⟨"tags", .notEquals, .json (.array [.string "ui"])⟩]
  select := ["id"]
  count := true

end RecordQuery.Samples.Tickets
