import RecordQuery.CustomerReport

/-!
# Command Line

Prints a customer report. The options name the files that the report is made from.
-/

namespace RecordQuery.CommandLine

/-- The files that the command line names. -/
structure Arguments where
  request : Option String := none
  options : Option String := none
  data : Option String := none
  compact : Bool := false

/-- What the command line asks for. -/
inductive Command
  | report (arguments : Arguments)
  | help

/-- How the command is used. -/
def usage : String :=
  "Filter, sort, select and page a customer list\n\n" ++
  "Options:\n" ++
  "  --request <REQUEST>  JSON filter request\n" ++
  "  --options <OPTIONS>  JSON paging options\n" ++
  "  --data <DATA>        JSON array of customers\n" ++
  "  --compact            Print compact JSON\n" ++
  "  -h, --help           Print help\n"

/-- Set the file of an option that was not given before. -/
def setFile (a : Arguments) (option path : String) : Except String Arguments :=
  match option, a with
  | "--request", { request := none, .. } => .ok { a with request := some path }
  | "--options", { options := none, .. } => .ok { a with options := some path }
  | "--data", { data := none, .. } => .ok { a with data := some path }
  | _, _ => .error ("unexpected argument '" ++ option ++ "'")

/-- Read the arguments one by one. -/
def parse (a : Arguments) : List String → Except String Command
  | [] => .ok (.report a)
  | "--help" :: _ => .ok .help
  | "-h" :: _ => .ok .help
  | "--compact" :: rest => parse { a with compact := true } rest
  | [option] => .error ("a value is required for '" ++ option ++ "'")
  | option :: path :: rest => do parse (← setFile a option path) rest

/-- The contents of a file, or its name if it cannot be read. -/
def readSource (path : String) : IO CustomerReport.Source := do
  try
    return .text path (← IO.FS.readFile path)
  catch _ => return .missing path

/-- The contents of a file that may not be named. -/
def readOptional : Option String → IO (Option CustomerReport.Source)
  | some path => return some (← readSource path)
  | none => return none

/-- Print the report that some arguments ask for. -/
def report (a : Arguments) : IO UInt32 := do
  let input : CustomerReport.Input := {
    data := ← readOptional a.data
    options := ← readOptional a.options
    request := ← readOptional a.request
    compact := a.compact }
  match CustomerReport.run input with
  | .ok text =>
    IO.print text
    return 0
  | .error e =>
    IO.eprintln ("Error: " ++ e.message)
    match e.cause? with
    | some cause => IO.eprintln ("\nCaused by:\n    " ++ cause)
    | none => pure ()
    return 1

end RecordQuery.CommandLine

open RecordQuery.CommandLine in
/-- The program. -/
def main (args : List String) : IO UInt32 :=
  match parse {} args with
  | .ok (.report a) => report a
  | .ok .help => do
    IO.print usage
    return 0
  | .error e => do
    IO.eprintln ("error: " ++ e)
    return 2
