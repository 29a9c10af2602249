import PooledTcp.Cli.LoadProgram
import PooledTcp.Cli.ServerProgram

/-!
# The command line

The first word names the program; the others are its arguments. The programs run on a host without a network:
the files are read beforehand, so that only reading and printing happen here.
-/

namespace PooledTcp.Cli

/-- The bytes of the files that the words name and that are there. -/
def readFiles (words : List String) : IO (List (String × Bytes)) := do
  let mut files := []
  for word in words do
    try
      files := (word, (← IO.FS.readBinFile word).toList) :: files
    catch _ => pure ()
  return files

/-- Print what a program leaves behind. -/
def leave (o : Outcome) : IO UInt32 := do
  IO.print o.printed
  if let some line := o.failure then IO.eprintln line
  return UInt32.ofNat o.status

end PooledTcp.Cli

open PooledTcp.Cli in
/-- Run the program that the first word names. -/
def main (words : List String) : IO UInt32 := do
  match words with
  | [] => leave { status := Outcome.misusedStatus }
  | program :: args =>
    if program == LoadProgram.name then leave (LoadProgram.run args).outcome
    else if program == ServerProgram.name then
      let files ← readFiles args
      leave (ServerProgram.run {} (fun path => files.lookup path) args).outcome
    else leave { status := Outcome.misusedStatus }
