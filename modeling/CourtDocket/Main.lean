/-
# The program

Finds out what a run needs from outside, runs it, prints what it leaves and ends with its code.
-/

import CourtDocket.Command.Run

open CourtDocket Command

/-- The number of an error of the operating system. -/
def errorNumber : IO.Error → UInt32
  | .noFileOrDirectory _ code _ => code
  | .permissionDenied _ code _ => code
  | .inappropriateType _ code _ => code
  | .invalidArgument _ code _ => code
  | _ => 5

/-- What the operating system calls an error. -/
def errorText (number : Nat) : String :=
  let name :=
    match number with
    | 2 => "No such file or directory"
    | 13 => "Permission denied"
    | 20 => "Not a directory"
    | 21 => "Is a directory"
    | 36 => "File name too long"
    | 40 => "Too many levels of symbolic links"
    | _ => "Input/output error"
  name ++ " (os error " ++ toString number ++ ")"

/-- The reason for which a file cannot be used.  The number of an error may have a minus sign, and
a directory is opened before it is refused. -/
def fileAnswer (e : IO.Error) : FileAnswer :=
  let code := errorNumber e
  let number := (if code < 0x80000000 then code else 0 - code).toNat
  if number = 21 then .unread (errorText number) else .unopened (errorText number)

/-- Reads a file. -/
def readFile (path : String) : IO FileAnswer := do
  try
    let bytes ← IO.FS.readBinFile path
    pure (.content bytes.toList)
  catch e => pure (fileAnswer e)

/-- The standard input from here on. -/
partial def readInput (input : IO.FS.Stream) (before : ByteArray) : IO ByteArray := do
  let more ← input.read 65536
  if more.isEmpty then pure before else readInput input (before ++ more)

/-- The part of the outside that a request needs. -/
def observe (r : Request) : IO World := do
  let files ← r.files.mapM fun path => do pure (path, ← readFile path)
  let env ← Override.variableNames.mapM fun name => do pure (name, ← IO.getEnv name)
  let input ← if r.needsInput then readInput (← IO.getStdin) .empty else pure .empty
  pure
    { input := input.toList
      file := fun path => (files.lookup path).getD (.unopened "not looked at")
      env := fun name => (env.lookup name).join }

/-- Runs the program; no text is printed where help is asked for. -/
def main (args : List String) : IO UInt32 := do
  let o ←
    match Request.parse args with
    | .error stop => pure (stop.outcome "")
    | .ok r => do pure (r.runLogged (← observe r))
  for e in o.events do
    IO.eprintln e.line
  IO.print o.output
  pure (UInt32.ofNat o.exit)
