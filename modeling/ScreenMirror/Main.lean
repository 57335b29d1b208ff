import ScreenMirror.Command.Outcome
import ScreenMirror.Picture.Png

/-!
# The compositor as a program

Reads the command line and the configuration, refreshes a session at the rate
that the configuration asks for, and files the frames of virtual screens.
-/

namespace ScreenMirror.Program

def readText? (path : String) : IO (Option String) := do
  try return some (← IO.FS.readFile path) catch _ => return none

def isThere (path : String) : IO Bool := do
  try
    let _ ← IO.FS.Handle.mk path .read
    return true
  catch _ => return false

/-- Where a configuration is looked for if the command line names none. -/
def defaultPaths : IO (List String) := do
  let home := (← IO.getEnv "HOME").map (· ++ "/.config")
  let base := (← IO.getEnv "XDG_CONFIG_HOME") <|> home
  let here := (← IO.currentDir).toString
  return (base.map (· ++ "/mirror-comp/config.ron")).toList ++
    [here ++ "/config.ron", "/etc/mirror-comp/config.ron"]

def firstThere? : List String → IO (Option String)
  | [] => return none
  | path :: rest => do if ← isThere path then return some path else firstThere? rest

def readEnvironment : IO Environment := do
  let values ← Environment.names.mapM fun name => return (name, ← IO.getEnv name)
  return fun name => (values.lookup name).join

def readConfig (options : RunOptions String) : IO (Config Float32) := do
  let path ←
    match options.config with
    | some path => pure (some path)
    | none => firstThere? (← defaultPaths)
  let text? ← match path with
    | some path => readText? path
    | none => pure none
  return (Config.ofFile text?).override (← readEnvironment)

/-- Pictures are filed in a directory; one that cannot be filed is left out. -/
def filePictures (directory : String) (pictures : List (String × Picture)) : IO Unit :=
  pictures.forM fun (name, picture) => do
    let path := if name.startsWith "/" then name else directory ++ "/" ++ name
    try IO.FS.writeBinFile path (Png.encode picture)
    catch e => IO.eprintln ("Failed to dump frame: " ++ toString e)

/-- A session is refreshed until it has had all its refreshes. -/
partial def play (config : Config Float32) (options : RunOptions String) (session : Session Float32) :
    IO Unit := do
  if options.frames.any (· ≤ session.sequence) then return
  let file (session : Session Float32) : IO Unit := do
    if let some directory := options.dump then filePictures directory (session.pictures config)
  match session.refresh with
  | .error e =>
    file session.cutShort
    IO.eprintln e.message
  | .ok next =>
    file next
    IO.sleep (1000 / max config.refreshRate 1)
    play config options { next with services := { next.services with delivered := [] } }

def run (options : RunOptions String) : IO UInt32 := do
  if let some directory := options.dump then
    try IO.FS.createDirAll directory
    catch e =>
      IO.eprintln ("Failed to create dump directory " ++ directory ++ ": " ++ toString e)
      return Outcome.failure.code
  let config ← readConfig options
  match Session.start config with
  | .error e =>
    IO.eprintln e.message
    return Outcome.overflow.code
  | .ok session =>
    play config options session
    return 0

/-- The program with the name under which it was started: an argument like the
others. -/
def start (arguments : List String) : IO UInt32 := do
  match Command.parse arguments with
  | .error e =>
    IO.eprintln e.message
    return Outcome.failure.code
  | .ok .help =>
    IO.print Command.helpText
    return 0
  | .ok .version =>
    IO.print Command.versionText
    return 0
  | .ok (.run options) => run options

end ScreenMirror.Program

def main (arguments : List String) : IO UInt32 := do
  ScreenMirror.Program.start ((← IO.appPath).toString :: arguments)
