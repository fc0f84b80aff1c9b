import DocQuery.Command.Arguments
import DocQuery.Command.Basic
set_option autoImplicit false

/-!
# Main: the program

Reads the files that the arguments name, lets the command do its work, and prints what comes of
it.  Errors are printed to standard error; the exit code is 1 for a failure and 2 for wrong
arguments.
-/

namespace DocQuery

/-- The text of a file that there may be. -/
def readOptional : Option String → IO (Option String)
  | none => pure none
  | some path => some <$> IO.FS.readFile path

/-- The documents of a run: those of a file, or else of standard input, unless it is a
terminal. -/
def readData : Option String → IO (Option String)
  | some path => readOptional (some path)
  | none => do
    let input ← IO.getStdin
    if ← input.isTty then pure none else some <$> input.readToEnd

/-- The query that arguments ask for. -/
def readRequest (q : QueryArguments) : IO QueryRequest := do
  let schema ← readOptional q.schema
  let config ← readOptional q.config
  pure ⟨schema.getD "", config, q.model.getD "", q.filter, q.values, q.orderBy,
    q.offset, q.limit⟩

/-- The layout that arguments ask for. -/
def QueryArguments.style (q : QueryArguments) : Value.Style :=
  if q.pretty then .pretty else .compact

/-- Prints a failure. -/
def fail (message : String) (code : UInt32) : IO UInt32 := do
  IO.eprintln message
  pure code

/-- Prints a result or a failure. -/
def finish {α : Type} (print : α → String) (result : Except CommandError α) : IO UInt32 := do
  match result with
  | .ok a =>
    IO.println (print a)
    pure 0
  | .error e => fail e.message 1

/-- Prints the problems of a schema. -/
def report (problems : List Problem) : IO UInt32 := do
  if problems.isEmpty then
    IO.println "Schema is valid"
    pure 0
  else
    for p in problems do IO.println p.text
    pure 1

/-- Does the work of a command. -/
def Command.execute : Command → IO UInt32
  | .compile q => do
    let request ← readRequest q
    finish (Aggregation.print q.style) request.compile
  | .run q => do
    let data ← readData q.data
    let request ← readRequest q
    finish (fun docs => (Value.array docs).print q.style) (request.run data)
  | .check path => do
    let text ← IO.FS.readFile path
    match Schema.problemsOf text with
    | .ok problems => report problems
    | .error e => fail e.message 1

end DocQuery

open DocQuery in
/-- Does what the arguments ask for. -/
def main (arguments : List String) : IO UInt32 := do
  match Command.read arguments with
  | .error e => fail e.message 2
  | .ok command =>
    try command.execute
    catch e => fail ("IO error: " ++ toString e) 1
