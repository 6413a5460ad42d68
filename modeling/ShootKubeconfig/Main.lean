import ShootKubeconfig.Arguments
import ShootKubeconfig.Configuration
import ShootKubeconfig.Json.Writer

namespace ShootKubeconfig

def Configuration.settings (configuration : Configuration) : List (String × String) :=
  let shoot := configuration.shoot
  [("maxConcurrentReconciles", toString shoot.maxConcurrent),
    ("maxConcurrentReconcilesPerNamespace", toString shoot.maxConcurrentPerNamespace),
    ("quotaExceededRetryDelay", s!"{shoot.quotaRetry.milliseconds}ms"),
    ("admissionRequeueMin", s!"{shoot.admissionRetryMin.milliseconds}ms"),
    ("admissionRequeueMax", s!"{shoot.admissionRetryMax.milliseconds}ms"),
    ("maxObjectSize", toString configuration.maxObjectSize)]

def Configuration.summary (configuration : Configuration) : LogFormat → String
  | .compact =>
      String.intercalate " " (configuration.settings.map fun (name, value) => s!"{name}={value}")
  | .json =>
      (Json.ofFields (configuration.settings.map fun (name, value) =>
        (name, .text value))).write

def sourceOf (file? : Option String) : IO Configuration.Source := do
  match file? with
  | none => return .defaults
  | some file =>
      try
        let content ← IO.FS.readBinFile file
        return .file content.toList
      catch _ => return .missingFile

def environment : IO (Arguments.Parameter → Option String) := do
  let values ← Arguments.Parameter.all.mapM fun parameter =>
    return (parameter, ← IO.getEnv parameter.environmentName)
  return fun parameter => (values.lookup parameter).join

end ShootKubeconfig

open ShootKubeconfig in
def main (words : List String) : IO UInt32 := do
  match Arguments.read (← environment) words with
  | .error failure =>
      IO.eprintln s!"error: {failure.message}"
      return 2
  | .ok arguments =>
      match Configuration.load (← sourceOf arguments.config?) with
      | .error failure =>
          let wording := failure.wording (arguments.config?.getD "")
          IO.eprintln s!"Error: {wording.text}"
          return 1
      | .ok configuration =>
          IO.println s!"Loaded configuration: {configuration.summary arguments.logFormat}"
          return 0
