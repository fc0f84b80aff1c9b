import DocQuery.Number.Reading
import DocQuery.Text.Split
set_option autoImplicit false

/-!
# Command: arguments

The arguments of the program: the name of a command, options with and without values, and free
arguments. A value that starts with a minus sign has to be joined to its option by an equals
sign, and behind two minus signs all arguments are free.
-/

namespace DocQuery

/-- The arguments that describe a query.  Schema and settings are given by file. -/
structure QueryArguments where
  schema : Option String := none
  model : Option String := none
  filter : Option String := none
  values : List String := []
  orderBy : List String := []
  offset : Option Nat := none
  limit : Option Nat := none
  config : Option String := none
  data : Option String := none
  pretty : Bool := false
  deriving DecidableEq, Repr

/-- What the program is asked to do. -/
inductive Command where
  | compile (q : QueryArguments)
  | run (q : QueryArguments)
  /-- checks the schema of a file -/
  | check (path : String)
  deriving DecidableEq, Repr

/-- What is wrong with arguments. -/
inductive ArgumentFault where
  | noCommand
  | unknownCommand (name : String)
  | unexpected (argument : String)
  | noValue (option : String)
  | badNumber (option value : String)
  | missing (option : String)
  deriving DecidableEq, Repr

/-- The text of a fault. -/
def ArgumentFault.message : ArgumentFault → String
  | .noCommand => "error: a command is needed: compile, run or check-schema"
  | .unknownCommand name => "error: unrecognized subcommand '" ++ name ++ "'"
  | .unexpected argument => "error: unexpected argument '" ++ argument ++ "' found"
  | .noValue option => "error: a value is required for '" ++ option ++ "' but none was supplied"
  | .badNumber option value => "error: invalid value '" ++ value ++ "' for '" ++ option ++ "'"
  | .missing option => "error: the following required argument was not provided: " ++ option

namespace Command

/-- A part of the arguments. -/
inductive Word where
  /-- an option, with the value joined to it -/
  | option (name : String) (joined : Option String)
  | free (text : String)
  deriving DecidableEq, Repr

/-- The option that a letter stands for. -/
def longName? : Char → Option String
  | 's' => some "--schema"
  | 'm' => some "--model"
  | 'd' => some "--data"
  | 'p' => some "--pretty"
  | _ => none

/-- The name of the option without a value. -/
def prettyName : String := "--pretty"

/-- The options of letters behind one minus sign; what follows a letter that takes a value is
its value. -/
def shortWords : List Char → List Word
  | [] => []
  | c :: rest =>
    match longName? c with
    | none => [.option ("-" ++ String.singleton c) none]
    | some name =>
      if name = prettyName then .option name none :: shortWords rest
      else
        match rest with
        | [] => [.option name none]
        | '=' :: value => [.option name (some (String.ofList value))]
        | value => [.option name (some (String.ofList value))]

/-- The parts that an argument consists of. -/
def wordsOf (argument : String) : List Word :=
  match argument.toList with
  | '-' :: '-' :: _ =>
    match Text.splitOnce? '=' argument with
    | some (name, value) => [.option name (some value)]
    | none => [.option argument none]
  | '-' :: c :: rest => shortWords (c :: rest)
  | _ => [.free argument]

/-- The parts of arguments. -/
def words : List String → List Word
  | [] => []
  | "--" :: rest => rest.map .free
  | a :: rest => wordsOf a ++ words rest

/-- The number above all counts. -/
def countLimit : Nat := 18446744073709551616

/-- The count of a text. -/
def count? (text : String) : Option Nat :=
  let digits := (Text.stripFirst? '+' text).getD text
  let n := Number.ofDigits digits.toList
  if digits ≠ "" ∧ digits.toList.all Char.isDigit ∧ n < countLimit then some n else none

/-- The count that an option gives. -/
def countOf (option value : String) : Except ArgumentFault (Option Nat) :=
  match count? value with
  | some n => .ok (some n)
  | none => .error (.badNumber option value)

/-- The arguments with one more option that has a value. -/
def setOption (q : QueryArguments) (name value : String) :
    Except ArgumentFault QueryArguments :=
  match name with
  | "--schema" => .ok { q with schema := some value }
  | "--model" => .ok { q with model := some value }
  | "--values" => .ok { q with values := q.values ++ [value] }
  | "--order-by" => .ok { q with orderBy := q.orderBy ++ [value] }
  | "--offset" =>
    match countOf name value with
    | .ok n => .ok { q with offset := n }
    | .error e => .error e
  | "--limit" =>
    match countOf name value with
    | .ok n => .ok { q with limit := n }
    | .error e => .error e
  | "--config" => .ok { q with config := some value }
  | "--data" => .ok { q with data := some value }
  | _ => .error (.unexpected name)

/-- Whether an option takes a value. -/
def takesValue (name : String) : Bool :=
  ["--schema", "--model", "--values", "--order-by", "--offset", "--limit", "--config",
    "--data"].contains name

/-- The arguments of parts, one after another. -/
def readWords (q : QueryArguments) : List Word → Except ArgumentFault QueryArguments
  | [] => .ok q
  | .free text :: rest =>
    match q.filter with
    | none => readWords { q with filter := some text } rest
    | some _ => .error (.unexpected text)
  | .option name (some value) :: rest =>
    match setOption q name value with
    | .ok q => readWords q rest
    | .error e => .error e
  | .option name none :: .free value :: rest =>
    if name = prettyName then
      match q.filter with
      | none => readWords { q with pretty := true, filter := some value } rest
      | some _ => .error (.unexpected value)
    else
      match setOption q name value with
      | .ok q => readWords q rest
      | .error e => .error e
  | .option name none :: rest =>
    if name = prettyName then readWords { q with pretty := true } rest
    else if takesValue name then .error (.noValue name)
    else .error (.unexpected name)

/-- The arguments of a query; schema and model are needed. -/
def readQuery (arguments : List String) : Except ArgumentFault QueryArguments :=
  match readWords {} (words arguments) with
  | .error e => .error e
  | .ok q =>
    if q.schema.isNone then .error (.missing "--schema")
    else if q.model.isNone then .error (.missing "--model")
    else .ok q

/-- The command of arguments. -/
def read : List String → Except ArgumentFault Command
  | [] => .error .noCommand
  | "compile" :: rest =>
    match readQuery rest with
    | .error e => .error e
    | .ok q => if q.data.isSome then .error (.unexpected "--data") else .ok (.compile q)
  | "run" :: rest =>
    match readQuery rest with
    | .error e => .error e
    | .ok q => .ok (.run q)
  | ["check-schema", path] => .ok (.check path)
  | ["check-schema"] => .error (.missing "<SCHEMA>")
  | "check-schema" :: _ :: extra :: _ => .error (.unexpected extra)
  | name :: _ => .error (.unknownCommand name)

end Command

end DocQuery
