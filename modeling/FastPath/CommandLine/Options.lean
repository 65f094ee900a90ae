/-!
# Options

The command line consists of switches, each at most once, and at most one path. Words are read from
left to right: the first that is wrong, or that asks for the version or for help, decides.
-/

namespace FastPath.CommandLine

/-- An option without a value. -/
inductive Switch
  /-- Print which tables are there. -/
  | listCapabilities
  /-- Write the configuration with its defaults. -/
  | saveConfig
  /-- Do not poll from the start. -/
  | noPoll
  /-- Log everything. -/
  | verbose
deriving DecidableEq

/-- What the command line asks for. -/
structure Options where
  /-- The path of the configuration, when it is not the usual one. -/
  config : Option String
  switches : List Switch
deriving DecidableEq

/-- No option is given. -/
def Options.unset : Options := ⟨none, []⟩

/-- The switch is given. -/
def Options.has (o : Options) (s : Switch) : Bool :=
  s ∈ o.switches

/-- What a run is for. -/
inductive Invocation
  | run (o : Options)
  | version
  | help
deriving DecidableEq

/-- Why a command line is wrong. -/
inductive UsageError
  | unexpected (word : String)
  | repeated (option : String)
  | missingValue (option : String)
  | needlessValue (option : String)
deriving DecidableEq

/-- The wording of an error. -/
def UsageError.message : UsageError → String
  | unexpected word => s!"unexpected argument {word}"
  | repeated option => s!"{option} is given twice"
  | missingValue option => s!"{option} needs a value"
  | needlessValue option => s!"{option} takes no value"

/-- What an option asks for by itself. -/
inductive Wish
  | switch (s : Switch)
  | version
  | help

/-- What a long option without a value asks for. -/
def longWish? : String → Option Wish
  | "--list-capabilities" => some (.switch .listCapabilities)
  | "--save-config" => some (.switch .saveConfig)
  | "--no-poll" => some (.switch .noPoll)
  | "--verbose" => some (.switch .verbose)
  | "--version" => some .version
  | "--help" => some .help
  | _ => none

/-- What a letter asks for. -/
def letterWish? : Char → Option Wish
  | 'v' => some (.switch .verbose)
  | 'V' => some .version
  | 'h' => some .help
  | _ => none

/-- How reading goes on after a word: with more options, or not at all. -/
abbrev Reading := Except (Except UsageError Invocation) Options

/-- Follow a wish. -/
def Options.follow (word : String) (o : Options) : Wish → Reading
  | .version => .error (.ok .version)
  | .help => .error (.ok .help)
  | .switch s =>
    if o.has s then .error (.error (.repeated word)) else .ok { o with switches := s :: o.switches }

/-- Follow the letters after a single dash. -/
def Options.followLetters (word : String) : List Char → Options → Reading
  | [], o => .ok o
  | letter :: rest, o =>
    match letterWish? letter with
    | some wish => do followLetters word rest (← o.follow word wish)
    | none => .error (.error (.unexpected word))

/-- Take the path of the configuration. -/
def Options.takeConfig (path : String) (o : Options) : Reading :=
  if o.config.isSome then .error (.error (.repeated "--config"))
  else if path.isEmpty then .error (.error (.missingValue "--config"))
  else .ok { o with config := some path }

/-- Take a long option, which may have a value attached. -/
def Options.takeLong (word : String) (o : Options) : Reading :=
  let name := String.ofList (word.toList.takeWhile (· ≠ '='))
  match name, word.toList.dropWhile (· ≠ '=') with
  | "--config", _ :: value => o.takeConfig (String.ofList value)
  | _, [] =>
    match longWish? name with
    | some wish => o.follow word wish
    | none => .error (.error (.unexpected word))
  | _, _ =>
    .error (.error (if (longWish? name).isSome then .needlessValue name else .unexpected word))

/-- The word can be the value of an option: it does not look like an option itself. -/
def isValue (word : String) : Bool :=
  word = "-" || !word.startsWith "-"

/-- Read words, given the options read before them. -/
def readFrom : List String → Options → Except UsageError Invocation
  | [], o => .ok (.run o)
  | "--" :: rest, o =>
    match rest with
    | [] => .ok (.run o)
    | extra :: _ => .error (.unexpected extra)
  | "--config" :: rest, o =>
    match rest with
    | [] => .error (.missingValue "--config")
    | value :: rest =>
      if isValue value then
        match o.takeConfig value with
        | .ok o => readFrom rest o
        | .error result => result
      else .error (.missingValue "--config")
  | word :: rest, o =>
    let reading : Reading :=
      if word.startsWith "--" then o.takeLong word
      else if isValue word then .error (.error (.unexpected word))
      else o.followLetters word (word.toList.drop 1)
    match reading with
    | .ok o => readFrom rest o
    | .error result => result

/-- Read a command line. -/
def read (words : List String) : Except UsageError Invocation :=
  readFrom words .unset

end FastPath.CommandLine
