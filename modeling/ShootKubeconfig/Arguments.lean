import ShootKubeconfig.LogFormat

namespace ShootKubeconfig

structure Arguments where
  /-- The file with the configuration; without one the defaults hold. -/
  config? : Option String := none
  /-- Where the metrics and the health of the process are served. -/
  bindAddress : String := "0.0.0.0:8080"
  logFormat : LogFormat := .compact
  deriving DecidableEq, Repr

namespace Arguments

inductive Parameter where
  | config
  | bindAddress
  | logFormat
  deriving DecidableEq, Repr

namespace Parameter

def all : List Parameter := [config, bindAddress, logFormat]

def option : Parameter → String
  | .config => "--config"
  | .bindAddress => "--bind-address"
  | .logFormat => "--log-format"

def valueName : Parameter → String
  | .config => "FILE"
  | .bindAddress => "BIND_ADDRESS"
  | .logFormat => "LOG_FORMAT"

def environmentName : Parameter → String
  | .config => "CONFIG_FILE"
  | .bindAddress => "BIND_ADDRESS"
  | .logFormat => "LOG_FORMAT"

def usage (parameter : Parameter) : String :=
  s!"{parameter.option} <{parameter.valueName}>"

end Parameter

inductive Failure where
  | unexpected (argument : String)
  | valueMissing (parameter : Parameter)
  | repeated (parameter : Parameter)
  | logFormat (value : String)
  deriving DecidableEq, Repr

def Failure.message : Failure → String
  | .unexpected argument => s!"unexpected argument '{argument}' found"
  | .valueMissing parameter =>
      s!"a value is required for '{parameter.usage}' but none was supplied"
  | .repeated parameter => s!"the argument '{parameter.usage}' cannot be used multiple times"
  | .logFormat value => s!"invalid value '{value}' for '{Parameter.logFormat.usage}'"

def splitWord (word : String) : String × Option String :=
  let chars := word.toList
  let option := chars.takeWhile (· ≠ '=')
  match chars.drop option.length with
  | [] => (word, none)
  | _ :: value => (.ofList option, some (.ofList value))

def parameterOf (word : String) : Except Failure Parameter :=
  match Parameter.all.find? (·.option == word) with
  | some parameter => .ok parameter
  | none => .error (.unexpected word)

/-- The word after an option is its value, unless it is an option itself. -/
def requireValue (parameter : Parameter) (word : String) : Except Failure String :=
  if word.startsWith "-" && word != "-" then do
    discard (parameterOf (splitWord word).1)
    .error (.valueMissing parameter)
  else
    .ok word

def given : List String → Except Failure (List (Parameter × String))
  | [] => .ok []
  | word :: rest => do
      let (option, value?) := splitWord word
      let parameter ← parameterOf option
      match value?, rest with
      | none, [] => .error (.valueMissing parameter)
      | some value, rest => return (parameter, value) :: (← given rest)
      | none, next :: rest =>
          let value ← requireValue parameter next
          return (parameter, value) :: (← given rest)

def put (arguments : Arguments) (parameter : Parameter) (value : String) :
    Except Failure Arguments :=
  match parameter with
  | .config => .ok { arguments with config? := some value }
  | .bindAddress => .ok { arguments with bindAddress := value }
  | .logFormat =>
      match LogFormat.read false value with
      | .ok logFormat => .ok { arguments with logFormat }
      | .error _ => .error (.logFormat value)

/-- What the environment says holds unless the command line says otherwise. -/
def read (environment : Parameter → Option String) (words : List String) :
    Except Failure Arguments := do
  let given ← given words
  Parameter.all.foldlM (fun arguments parameter =>
    match given.filter (·.1 = parameter) with
    | [] =>
        match environment parameter with
        | some value => arguments.put parameter value
        | none => .ok arguments
    | [(_, value)] => arguments.put parameter value
    | _ => .error (.repeated parameter)) {}

end Arguments

end ShootKubeconfig
