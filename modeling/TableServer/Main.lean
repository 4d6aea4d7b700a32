import TableServer.Console.Program

/-! The command line of the program: reading files and the environment, and printing. -/
namespace TableServer.Console

def readOctets (path : String) : IO (Except FileFault Text.Octets) := do
  try
    return .ok (← IO.FS.readBinFile path).toList
  catch
    | .noFileOrDirectory .. => return .error (.refused 2 "No such file or directory")
    | .permissionDenied .. => return .error (.refused 13 "Permission denied")
    | .inappropriateType .. => return .error (.refused 21 "Is a directory")
    | _ => return .error (.refused 5 "Input/output error")

def environment : IO (List (String × String)) := do
  let found ← Settings.variableNames.mapM fun name => do
    return (← IO.getEnv name).map fun text => (name, text)
  return found.filterMap id

def usage : String :=
  "usage: query FIXTURE REQUEST [-H HEADER]... [-d DATA] | tables FIXTURE | version"

def complain (code : UInt32) (message : String) : IO UInt32 := do
  IO.eprintln message
  return code

def runCommand (settings : Settings) (command : Command) : IO UInt32 := do
  let file ← match command.fixture? with
    | some path => readOctets path
    | none => pure (.ok [])
  match command.run settings file with
  | .error breakdown => complain 1 breakdown.message
  | .ok output => do
      output.lines.forM IO.println
      return UInt32.ofNat output.exit

end TableServer.Console

def main (args : List String) : IO UInt32 := do
  match TableServer.Console.Command.read? args with
  | none => TableServer.Console.complain 2 TableServer.Console.usage
  | some command =>
      match TableServer.Settings.read? [] (← TableServer.Console.environment) with
      | none =>
          TableServer.Console.complain 1 "a setting of the environment is not admissible"
      | some settings => TableServer.Console.runCommand settings command
