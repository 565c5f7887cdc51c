/-
The command line.

`mailpolicy CONFIG` answers the requests that come on standard input, one after another, by the configuration
in the given file, until the input ends or a request cannot be read.  It asks no name server: reputation lists
and sender policies count as out of reach.
-/
import MailPolicy.Engine.Setup
import MailPolicy.Wire.Arrival

namespace MailPolicy.Main

/-- A network without name servers. -/
def unreachable : Network where
  listed _ := .after 0 .failed
  policy _ _ := .temperror

/-- The paths of the files of values in a configuration. -/
def keyPaths (c : Config) : List Text :=
  c.stages.flatMap fun s => s.checks.filterMap fun
    | .hash k => some k.path
    | _ => none

/-- What is under a path. -/
def entryAt (path : Text) : IO Entry := do
  try
    let content ← IO.FS.readBinFile (String.ofList path)
    return .file content.toList 0
  catch
    | .noFileOrDirectory .. => return .absent
    | _ => return .directory

/-- The files that a configuration mentions, as they are now. -/
def filesOf (c : Config) : IO Files := do
  let mut files : Files := {}
  for path in keyPaths c do
    files := files.put path (← entryAt path)
  return files

/-- Octets of standard input that are asked for at a time. -/
def chunk : USize := 4096

/-- Answers the requests on the input; `arrived` has not been read yet. -/
partial def serve (e : Engine) (files : Files) (input output : IO.FS.Stream) (s : EngineState)
    (arrived : List UInt8) (ended : Bool) : IO Unit := do
  match Wire.readArrived? arrived ended with
  | none =>
    let more ← input.read chunk
    serve e files input output s (arrived ++ more.toList) more.isEmpty
  | some _ =>
    match Wire.readRequest arrived with
    | .ok (none, _) => return
    | .ok (some r, rest) =>
      let (outcome, s) := e.decide unreachable r s
      reply (e.responses.answer outcome)
      serve e files input output (s.syncFiles files) rest ended
    | .error err =>
      let outcome : Except Fault (Decision Float) := .error err.fault
      reply (e.responses.answer outcome)
where
  reply (action : Text) : IO Unit := do
    output.putStr (String.ofList (Wire.reply action))
    output.flush

/-- Builds the engine of a configuration and answers requests. -/
def run (text : Text) : IO UInt32 := do
  let files ← match Config.read text with
    | .ok c => filesOf c
    | .error _ => pure {}
  match Setup.read text (← IO.monoMsNow) files with
  | .error f =>
    IO.eprintln f.message
    return 1
  | .ok setup =>
    serve setup.engine files (← IO.getStdin) (← IO.getStdout) setup.state [] false
    return 0

end MailPolicy.Main

def main (args : List String) : IO UInt32 := do
  match args with
  | [path] =>
    let content ← IO.FS.readBinFile path
    match MailPolicy.Utf8.decode? content.toList with
    | some text => MailPolicy.Main.run text
    | none =>
      IO.eprintln "stream did not contain valid UTF-8"
      return 1
  | _ =>
    IO.eprintln "usage: mailpolicy CONFIG"
    return 1
