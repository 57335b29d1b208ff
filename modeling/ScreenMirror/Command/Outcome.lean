import ScreenMirror.Command.Arguments
import ScreenMirror.Command.Session
import ScreenMirror.Config.Environment
import ScreenMirror.Config.Text

/-!
# Outcomes of commands

What a command comes to that ends by itself: its exit code, what it prints, and
the pictures that it files in a new directory.
-/

namespace ScreenMirror

structure Outcome where
  code : UInt32 := 0
  output : String := ""
  directory : Option String := none
  /-- The pictures in the order in which they are filed; a later one replaces an
  earlier one of the same name. -/
  pictures : List (String × Picture) := []

instance : Inhabited Outcome := ⟨{}⟩

namespace Outcome

def failure : Outcome := { code := 1 }

def overflow : Outcome := { code := 101 }

/-- What a run comes to that ends before a refresh, with the texts of all files
that there are.  No directory can be made in the place of a file. -/
def ofRun (env : Environment) (files : String → Option String) (options : RunOptions String)
    (frames : Nat) : Outcome :=
  if (options.dump.bind files).isSome then failure
  else
    let config : Config Float32 := (Config.ofFile (options.config.bind files)).override env
    match Session.start config with
    | .error _ => overflow
    | .ok session =>
      { directory := options.dump
        pictures := ((session.run frames).pictures config).filterMap fun (name, picture) =>
          (entryName? name).map fun entry => (entry, picture) }

/-- What a command line comes to; a run without a last refresh comes to nothing. -/
def ofArguments? (env : Environment) (files : String → Option String) (line : List String) :
    Option Outcome :=
  match Command.parse line with
  | .error _ => some failure
  | .ok .help => some { output := Command.helpText }
  | .ok .version => some { output := Command.versionText }
  | .ok (.run options) => options.frames.map (ofRun env files options)

end Outcome

end ScreenMirror
