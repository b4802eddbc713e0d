import RecordRing.Measure.Report
import RecordRing.Process.Launch

set_option autoImplicit false

namespace RecordRing

namespace CommandLine

def usage : String :=
  "usage: producer [settings] [seconds] | consumer [settings] | report"

def contents (path : String) : IO (Option Buffer) := do
  try
    return some (.ofArray (← IO.FS.readBinFile path).data)
  catch _ =>
    return none

/-- Add a file that was found to a tree. Its directories are added with it. -/
def withFile (tree : FileTree) (path : String) (bytes : Option Buffer) : FileTree :=
  let names := FileTree.names path
  match bytes with
  | some held => tree.store names held
  | none => { tree with root := tree.root.put (.directory []) names.dropLast }

/-- Run a program, and write its log, its complaints and the ring that it leaves. -/
def execute (program : Host → List String → RunOutcome) (arguments : List String) : IO UInt32 := do
  let settingsPath := arguments.headD ""
  let empty : FileTree := { root := .directory [] }
  let named := withFile empty settingsPath (← contents settingsPath)
  let host : Host := { files := named, fedPath := "" }
  match host.settings arguments with
  | .error report =>
      IO.eprint report.text
      return 1
  | .ok settings =>
      let files := withFile named settings.ringPath (← contents settings.ringPath)
      let outcome := program { host with files, fedPath := settings.ringPath } arguments
      for line in outcome.log do
        IO.println line
      IO.eprint outcome.errorText
      match outcome.files.read settings.ringPath with
      | .ok bytes => IO.FS.writeBinFile settings.ringPath (ByteArray.mk bytes.toArray)
      | .error _ => pure ()
      return UInt32.ofNat outcome.exitStatus

end CommandLine

end RecordRing

open RecordRing in
/-- Run the program that the first argument names. -/
def main (arguments : List String) : IO UInt32 := do
  match arguments with
  | "producer" :: rest => CommandLine.execute Host.runProducer rest
  | "consumer" :: rest => CommandLine.execute Host.runConsumer rest
  | ["report"] =>
      IO.print (Report.banner ++ Report.layout)
      return 0
  | _ =>
      IO.eprintln CommandLine.usage
      return 2
