import ScreenMirror.Proofs.Command.Counts

/-!
# The grammar of arguments

Arguments are well formed if they are a row of settings, each one an option and its value.
`parse_grammar` says of everything that is read as arguments what it comes to: the last settings
of each kind, the first question after well-formed settings, or the first fault after them.

A command line has the name of the program in front, which is read like the arguments.  So an
ordinary one is refused at its start, whatever is asked for (`name_read_as_argument`).
-/

namespace ScreenMirror.Command

variable {A : Type}

/-! ### Settings -/

inductive Setting (A : Type) where
  | config (path : A)
  | frames (count : Nat)
  | dump (directory : A)
  deriving DecidableEq, Repr

namespace Setting

def config? : Setting A → Option A
  | config path => some path
  | frames _ => none
  | dump _ => none

def frames? : Setting A → Option Nat
  | config _ => none
  | frames count => some count
  | dump _ => none

def dump? : Setting A → Option A
  | config _ => none
  | frames _ => none
  | dump directory => some directory

/-- The options with one more setting, which replaces an earlier one of its kind. -/
def apply (options : RunOptions A) : Setting A → RunOptions A
  | config path => { options with config := some path }
  | frames count => { options with frames := some count }
  | dump directory => { options with dump := some directory }

end Setting

/-- The last setting of each kind. -/
def lastOf (settings : List (Setting A)) : RunOptions A where
  config := (settings.filterMap Setting.config?).getLast?
  frames := (settings.filterMap Setting.frames?).getLast?
  dump := (settings.filterMap Setting.dump?).getLast?

theorem filterMap_getLast?_cons {B C : Type} (f : B → Option C) (first : B) (rest : List B) :
    ((first :: rest).filterMap f).getLast? = ((rest.filterMap f).getLast?).or (f first) := by
  cases found : f first with
  | none => rw [List.filterMap_cons_none found, Option.or_none]
  | some value => rw [List.filterMap_cons_some found, List.getLast?_cons, Option.or_some]

theorem foldl_apply (settings : List (Setting A)) (options : RunOptions A) :
    settings.foldl Setting.apply options =
      { config := (lastOf settings).config.or options.config
        frames := (lastOf settings).frames.or options.frames
        dump := (lastOf settings).dump.or options.dump } := by
  induction settings generalizing options with
  | nil => rfl
  | cons first rest ih =>
    rw [List.foldl_cons, ih]
    simp only [lastOf, filterMap_getLast?_cons, Option.or_assoc]
    cases first <;> rfl

variable [Argument A]

/-- How a setting is written: an option, and then a value. -/
inductive Setting.Written : A → A → Setting A → Prop where
  | config {option path : A} (named : Argument.text? option = some "--config") :
      Written option path (.config path)
  | frames {option value : A} {text : String} {count : Nat}
      (named : Argument.text? option = some "--frames") (read : Argument.text? value = some text)
      (counts : IsCount text count) : Written option value (.frames count)
  | dump {option directory : A} (named : Argument.text? option = some "--dump") :
      Written option directory (.dump directory)

/-- Arguments that are nothing but settings. -/
inductive Written : List A → List (Setting A) → Prop where
  | nil : Written [] []
  | cons {option value : A} {arguments : List A} {setting : Setting A} {settings : List (Setting A)}
      (first : setting.Written option value) (later : Written arguments settings) :
      Written (option :: value :: arguments) (setting :: settings)

/-! ### Questions and faults -/

def AsksHelp (argument : A) : Prop :=
  Argument.text? argument = some "-h" ∨ Argument.text? argument = some "--help"

def AsksVersion (argument : A) : Prop :=
  Argument.text? argument = some "-V" ∨ Argument.text? argument = some "--version"

/-- Neither a question nor an option. -/
def Strange (argument : A) : Prop :=
  ∀ name ∈ ["-h", "--help", "-V", "--version", "--config", "--frames", "--dump"],
    Argument.text? argument ≠ some name

instance (argument : A) : Decidable (Strange argument) := List.decidableBAll _ _

/-- What is wrong at the start of the arguments, where an option should be. -/
inductive Fault : List A → ArgumentError A → Prop where
  | unknown {argument : A} {rest : List A} (strange : Strange argument) :
      Fault (argument :: rest) (.unknown argument)
  | noPath {option : A} (named : Argument.text? option = some "--config") :
      Fault [option] .missingPath
  | noNumber {option : A} (named : Argument.text? option = some "--frames") :
      Fault [option] .missingNumber
  | noCount {option value : A} {rest : List A} (named : Argument.text? option = some "--frames")
      (other : ∀ text count, Argument.text? value = some text → ¬IsCount text count) :
      Fault (option :: value :: rest) .missingNumber
  | noDirectory {option : A} (named : Argument.text? option = some "--dump") :
      Fault [option] .missingDirectory

/-! ### Reading -/

theorem named?_eq_some_iff {name : String} {switch : Switch} :
    Switch.named? name = some switch ↔
      match switch with
      | .help => name = "-h" ∨ name = "--help"
      | .version => name = "-V" ∨ name = "--version"
      | .config => name = "--config"
      | .frames => name = "--frames"
      | .dump => name = "--dump" := by
  unfold Switch.named?
  split <;> cases switch <;> simp_all

theorem switch?_eq_some_iff {argument : A} {switch : Switch} :
    switch? argument = some switch ↔
      match switch with
      | .help => AsksHelp argument
      | .version => AsksVersion argument
      | .config => Argument.text? argument = some "--config"
      | .frames => Argument.text? argument = some "--frames"
      | .dump => Argument.text? argument = some "--dump" := by
  unfold switch? AsksHelp AsksVersion
  cases Argument.text? argument with
  | none => cases switch <;> simp
  | some name =>
    rw [Option.bind_some, named?_eq_some_iff]
    cases switch <;> simp

theorem switch?_eq_none_iff {argument : A} : switch? argument = none ↔ Strange argument := by
  unfold switch? Strange
  cases Argument.text? argument with
  | none => simp
  | some name =>
    rw [Option.bind_some]
    unfold Switch.named?
    split <;> simp_all

theorem parseFrom_setting {option value : A} {setting : Setting A}
    (first : setting.Written option value) (rest : List A) (options : RunOptions A) :
    parseFrom options (option :: value :: rest) = parseFrom (setting.apply options) rest := by
  rw [parseFrom.eq_def]
  cases first with
  | config named =>
    have found : switch? option = some .config := switch?_eq_some_iff.mpr named
    simp only [found, Setting.apply]
  | frames named read counts =>
    have found : switch? option = some .frames := switch?_eq_some_iff.mpr named
    simp only [found, read, Option.bind_some, frameCount?_eq_some_iff.mpr counts, Setting.apply]
  | dump named =>
    have found : switch? option = some .dump := switch?_eq_some_iff.mpr named
    simp only [found, Setting.apply]

theorem parseFrom_settings {before rest : List A} {settings : List (Setting A)}
    (written : Written before settings) (options : RunOptions A) :
    parseFrom options (before ++ rest) = parseFrom (settings.foldl Setting.apply options) rest := by
  induction written generalizing options with
  | nil => rfl
  | cons first later ih =>
    rw [List.cons_append, List.cons_append, parseFrom_setting first, ih, List.foldl_cons]

theorem parseFrom_help {question : A} (asks : AsksHelp question) (rest : List A)
    (options : RunOptions A) : parseFrom options (question :: rest) = .ok .help := by
  have found : switch? question = some .help := switch?_eq_some_iff.mpr asks
  rw [parseFrom.eq_def]
  simp only [found]

theorem parseFrom_version {question : A} (asks : AsksVersion question) (rest : List A)
    (options : RunOptions A) : parseFrom options (question :: rest) = .ok .version := by
  have found : switch? question = some .version := switch?_eq_some_iff.mpr asks
  rw [parseFrom.eq_def]
  simp only [found]

theorem parseFrom_fault {rest : List A} {e : ArgumentError A} (fault : Fault rest e)
    (options : RunOptions A) : parseFrom options rest = .error e := by
  rw [parseFrom.eq_def]
  cases fault with
  | unknown strange => simp only [switch?_eq_none_iff.mpr strange]
  | @noPath option named =>
    have found : switch? option = some .config := switch?_eq_some_iff.mpr named
    simp only [found]
  | @noNumber option named =>
    have found : switch? option = some .frames := switch?_eq_some_iff.mpr named
    simp only [found]
  | @noDirectory option named =>
    have found : switch? option = some .dump := switch?_eq_some_iff.mpr named
    simp only [found]
  | @noCount option value rest named other =>
    have found : switch? option = some .frames := switch?_eq_some_iff.mpr named
    have uncounted : (Argument.text? value).bind frameCount? = none := by
      rw [Option.bind_eq_none_iff]
      intro text read
      cases counted : frameCount? text with
      | none => rfl
      | some count => exact absurd (frameCount?_eq_some_iff.mp counted) (other text count read)
    simp only [found, uncounted]

theorem parse_settings {before rest : List A} {settings : List (Setting A)}
    (written : Written before settings) :
    parse (before ++ rest) = parseFrom (lastOf settings) rest := by
  rw [parse, parseFrom_settings written, foldl_apply]
  simp only [Option.or_none]

/-! ### What arguments come to -/

/-- What arguments ask for, or what is wrong with them. -/
inductive Means : List A → Except (ArgumentError A) (Command A) → Prop where
  /-- Nothing but settings, of which the last one of each kind counts. -/
  | run {arguments : List A} {settings : List (Setting A)} (written : Written arguments settings) :
      Means arguments (.ok (.run (lastOf settings)))
  | help {before rest : List A} {question : A} {settings : List (Setting A)}
      (written : Written before settings) (asks : AsksHelp question) :
      Means (before ++ question :: rest) (.ok .help)
  | version {before rest : List A} {question : A} {settings : List (Setting A)}
      (written : Written before settings) (asks : AsksVersion question) :
      Means (before ++ question :: rest) (.ok .version)
  | wrong {before rest : List A} {settings : List (Setting A)} {e : ArgumentError A}
      (written : Written before settings) (fault : Fault rest e) :
      Means (before ++ rest) (.error e)

theorem parse_of_means {arguments : List A} {result : Except (ArgumentError A) (Command A)}
    (means : Means arguments result) : parse arguments = result := by
  cases means with
  | @run _ settings written =>
    have read : parse (arguments ++ []) = parseFrom (lastOf settings) [] := parse_settings written
    rw [List.append_nil] at read
    exact read
  | help written asks => rw [parse_settings written, parseFrom_help asks]
  | version written asks => rw [parse_settings written, parseFrom_version asks]
  | wrong written fault => rw [parse_settings written, parseFrom_fault fault]

theorem means_cons {option value : A} {setting : Setting A} {rest : List A}
    (first : setting.Written option value) (later : ∃ result, Means rest result) :
    ∃ result, Means (option :: value :: rest) result := by
  obtain ⟨result, means⟩ := later
  cases means with
  | run written => exact ⟨_, .run (.cons first written)⟩
  | help written asks => exact ⟨_, .help (.cons first written) asks⟩
  | version written asks => exact ⟨_, .version (.cons first written) asks⟩
  | wrong written fault => exact ⟨_, .wrong (.cons first written) fault⟩

theorem exists_means (arguments : List A) (options : RunOptions A) :
    ∃ result, Means arguments result := by
  have none_before : Written ([] : List A) [] := .nil
  -- `parseFrom` stops or goes on after a setting, which leaves the meaning of the rest
  induction options, arguments using parseFrom.induct with
  | case1 options => exact ⟨_, .run none_before⟩
  | case2 options question rest asked =>
    exact ⟨_, .help none_before (switch?_eq_some_iff.mp asked)⟩
  | case3 options question rest asked =>
    exact ⟨_, .version none_before (switch?_eq_some_iff.mp asked)⟩
  | case4 options option found =>
    exact ⟨_, .wrong none_before (.noPath (switch?_eq_some_iff.mp found))⟩
  | case5 options option found path rest ih =>
    exact means_cons (.config (switch?_eq_some_iff.mp found)) ih
  | case6 options option found =>
    exact ⟨_, .wrong none_before (.noNumber (switch?_eq_some_iff.mp found))⟩
  | case7 options option found value rest uncounted =>
    refine ⟨_, .wrong none_before (.noCount (switch?_eq_some_iff.mp found) ?_)⟩
    intro text count read counts
    rw [read, Option.bind_some, frameCount?_eq_some_iff.mpr counts] at uncounted
    cases uncounted
  | case8 options option found value rest count counted ih =>
    obtain ⟨text, read, counts⟩ := Option.bind_eq_some_iff.mp counted
    exact means_cons (.frames (switch?_eq_some_iff.mp found) read
      (frameCount?_eq_some_iff.mp counts)) ih
  | case9 options option found =>
    exact ⟨_, .wrong none_before (.noDirectory (switch?_eq_some_iff.mp found))⟩
  | case10 options option found directory rest ih =>
    exact means_cons (.dump (switch?_eq_some_iff.mp found)) ih
  | case11 options argument rest strange =>
    exact ⟨_, .wrong none_before (.unknown (switch?_eq_none_iff.mp strange))⟩

/-- Arguments are read as what they mean: settings to the end, a question after settings,
whatever follows it, or the first fault after settings. -/
theorem parse_grammar {arguments : List A} {result : Except (ArgumentError A) (Command A)} :
    parse arguments = result ↔ Means arguments result := by
  constructor
  · rintro rfl
    obtain ⟨result, means⟩ := exists_means arguments {}
    rwa [parse_of_means means]
  · exact parse_of_means

/-- An option that is given as a value is one. -/
example : parseFrom {} ["--config", "--help", "--frames", "+07", "--frames", "3", "-V", "--dump"] =
    .ok .version := by decide

/-! ### The name of the program -/

theorem unknown_means_iff {program : A} {arguments : List A} (strange : Strange program) :
    Means arguments (.error (.unknown program)) ↔ ∃ before rest settings,
      arguments = before ++ program :: rest ∧ Written before settings := by
  constructor
  · intro means
    cases means with
    | wrong written fault =>
      cases fault with
      | unknown => exact ⟨_, _, _, rfl, written⟩
  · rintro ⟨before, rest, settings, rfl, written⟩
    exact .wrong written (.unknown strange)

/-- The program's name is read as the first of its arguments.  Unless it is one of the options,
the command line is refused for it, and that is right only if the same word is the first fault of
the arguments themselves. -/
theorem name_read_as_argument (program : A) (arguments : List A) :
    (∀ result, parse (program :: arguments) = result ↔ Means (program :: arguments) result) ∧
    (Strange program → parse (program :: arguments) = .error (.unknown program) ∧
      (Means arguments (parse (program :: arguments)) ↔ ∃ before rest settings,
        arguments = before ++ program :: rest ∧ Written before settings)) := by
  refine ⟨fun result => parse_grammar, fun strange => ?_⟩
  have refused : parse (program :: arguments) = .error (.unknown program) :=
    parseFrom_fault (.unknown strange) {}
  rw [refused]
  exact ⟨rfl, unknown_means_iff strange⟩

/-- A plain question for help gets no answer. -/
theorem help_refused : Strange "mirror-comp" ∧ Means ["--help"] (.ok .help) ∧
    parse ["mirror-comp", "--help"] = .error (.unknown "mirror-comp") ∧
    ¬ Means ["--help"] (parse ["mirror-comp", "--help"]) := by
  have strange : Strange "mirror-comp" := by decide
  have asks : Means ["--help"] (.ok .help) := .help .nil (Or.inr rfl)
  obtain ⟨refused, right⟩ := (name_read_as_argument "mirror-comp" ["--help"]).2 strange
  refine ⟨strange, asks, refused, fun means => ?_⟩
  obtain ⟨before, rest, settings, same, -⟩ := right.mp means
  have named : "mirror-comp" ∈ ["--help"] := same ▸ List.mem_append_right before List.mem_cons_self
  exact absurd named (by decide)

end ScreenMirror.Command
