import ScreenMirror.Text.Integer

/-!
# Command lines

A command line is the name under which the program is started, and arguments
after it.  All of it is read alike, the name too: as settings, each an option
followed by its value, of which a later one replaces an earlier one.  A question
for help or for the version ends the reading, whatever follows.
-/

namespace ScreenMirror

/-- Arguments as the system passes them on; not each of them need be text. -/
class Argument (A : Type) where
  text? : A → Option String
  quoted : A → String

instance : Argument String := ⟨some, String.quote⟩

structure RunOptions (A : Type) where
  config : Option A := none
  /-- The refresh to stop before. -/
  frames : Option Nat := none
  dump : Option A := none
  deriving DecidableEq, Repr, Inhabited

/-- What a command line asks for. -/
inductive Command (A : Type) where
  | help
  | version
  | run (options : RunOptions A)
  deriving DecidableEq, Repr, Inhabited

/-- What is wrong with a command line. -/
inductive ArgumentError (A : Type) where
  | unknown (argument : A)
  | missingPath
  | missingDirectory
  | missingNumber
  deriving DecidableEq, Repr, Inhabited

variable {A : Type} [Argument A]

def ArgumentError.message : ArgumentError A → String
  | unknown argument => "Unknown argument " ++ Argument.quoted argument
  | missingPath => "--config expects a path"
  | missingDirectory => "--dump expects a directory"
  | missingNumber => "--frames expects a number"

namespace Command

/-- What an argument is that stands where an option can stand. -/
inductive Switch where
  | help
  | version
  | config
  | frames
  | dump
  deriving DecidableEq, Repr, Inhabited

def Switch.named? : String → Option Switch
  | "-h" | "--help" => some .help
  | "-V" | "--version" => some .version
  | "--config" => some .config
  | "--frames" => some .frames
  | "--dump" => some .dump
  | _ => none

def switch? (argument : A) : Option Switch := (Argument.text? argument).bind Switch.named?

def frameCount? (value : String) : Option Nat :=
  let digits := match value.toList with
    | '+' :: rest => rest
    | digits => digits
  (IntegerKind.digits? digits).bind fun n => if n < UInt64.size then some n else none

/-- What the rest of a command line asks for, after the options read so far. -/
def parseFrom (options : RunOptions A) : List A → Except (ArgumentError A) (Command A)
  | [] => .ok (.run options)
  | argument :: rest =>
    match switch? argument with
    | some .help => .ok .help
    | some .version => .ok .version
    | some .config =>
      match rest with
      | [] => .error .missingPath
      | path :: rest => parseFrom { options with config := some path } rest
    | some .frames =>
      match rest with
      | [] => .error .missingNumber
      | value :: rest =>
        match (Argument.text? value).bind frameCount? with
        | none => .error .missingNumber
        | some frames => parseFrom { options with frames := some frames } rest
    | some .dump =>
      match rest with
      | [] => .error .missingDirectory
      | directory :: rest => parseFrom { options with dump := some directory } rest
    | none => .error (.unknown argument)

/-- What a command line asks for.  The name of the program is read as an argument. -/
def parse (line : List A) : Except (ArgumentError A) (Command A) := parseFrom {} line

def release : String := "0.1.0"

def versionText : String := "mirror-comp " ++ release ++ " (git commit unknown)\n"

def helpText : String :=
  "mirror-comp " ++ release ++ "\n" ++
  "unknown\n" ++
  "\n" ++
  "Composes mirrored and extended virtual screens.\n" ++
  "\n" ++
  "Options:\n" ++
  "  -h, --help           Show this message\n" ++
  "  -V, --version        Show the version of mirror-comp\n" ++
  "      --config <path>  Read the configuration from <path>\n" ++
  "      --frames <n>     Stop after <n> vsyncs\n" ++
  "      --dump <dir>     Write every virtual frame as PNG into <dir>\n"

end Command

end ScreenMirror
