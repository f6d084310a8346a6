import Termwise.CommandLine.Run

/-
  This file defines the program: it takes the words of the
  command line, the input and the environment, and writes
  what the run writes.

  Key definitions include:
    * `main`
-/

open Termwise

/- The variables of the environment with their values. -/
def environment : IO (List (String × String)) := do
  let out ←
    try IO.FS.readFile "/proc/self/environ"
    catch _ => pure ""
  return (out.splitOn "\x00").filterMap fun entry =>
    match entry.splitOn "=" with
    | name :: value :: rest =>
        some (name, "=".intercalate (value :: rest))
    | _ => none

/- A random source that no one has chosen. -/
def freshSource : IO Twister := do
  let bytes ← IO.getRandomBytes 32
  return Twister.ofSeed
    (bytes.toList.foldl (fun n b => 256 * n + (b.toNat : Int)) 0)

/- Run the program. -/
def main (words : List String) : IO UInt32 := do
  let env ← environment
  let source ← freshSource
  let input ←
    if CommandLine.readsInput (Order.read words) then
      (← IO.getStdin).readToEnd
    else pure ""
  let t := CommandLine.runProgram env source words input
  (← IO.getStdout).putStr (Transcript.written t.out)
  (← IO.getStderr).putStr (Transcript.written t.err)
  match t.ending with
  | .exit code => return UInt32.ofNat code
  | .failed f =>
      (← IO.getStderr).putStr (Transcript.written [f.message])
      return 1
