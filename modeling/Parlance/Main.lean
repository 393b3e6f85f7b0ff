import Parlance.CommandLine
import Parlance.Json.Printer
import Std.Time

/-!
The program: it reads utterances line by line and writes one line of JSON for each. Messages go to
standard error.
-/

namespace Parlance.CommandLine

/-- The environment and the files of the machine. -/
def Host.machine : Host IO where
  environment name := IO.getEnv name
  isFile path := do
    try
      return (← (← IO.FS.realPath path).metadata).type == .file
    catch _ => return false
  readText path := do
    try
      return some (← IO.FS.readFile path)
    catch _ => return none

/-- The date of today, the first of all dates if the clock shows none of the calendar. -/
def today : IO Calendar.Date := do
  let d ← Std.Time.PlainDate.now
  return (Calendar.Date.of? d.year.toInt d.month.val.toNat d.day.val.toNat).getD
    ⟨Calendar.firstYear, 1, 1, by decide⟩

/-- Answers the lines of the input until it ends or one fails. -/
partial def loop (input output : IO.FS.Stream) (s : Session) : IO UInt32 := do
  let line ← input.getLine
  if line.isEmpty then return 0
  match s.answer (← today) line with
  | (.ok j, s) =>
    output.putStrLn j.render
    output.flush
    loop input output s
  | (.error e, _) =>
    IO.eprintln e.message
    return 1

end Parlance.CommandLine

open Parlance.CommandLine in
def main (args : List String) : IO UInt32 := do
  match ← (start Host.machine args).run with
  | .error e =>
    IO.eprintln e.message
    return 1
  | .ok none =>
    IO.eprintln "usage: [--config <config.toml>] --catalog <catalog.toml> [--locale <tag>]"
    return 0
  | .ok (some s) => loop (← IO.getStdin) (← IO.getStdout) s
