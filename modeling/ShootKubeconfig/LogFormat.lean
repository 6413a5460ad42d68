namespace ShootKubeconfig

inductive LogFormat where
  | compact
  | json
  deriving DecidableEq, Repr, Inhabited

namespace LogFormat

def name : LogFormat → String
  | .compact => "compact"
  | .json => "json"

/-- Only the case of letters may be ignored. -/
def read (ignoreCase : Bool) (text : String) : Except String LogFormat :=
  let text' := if ignoreCase then String.ofList (text.toList.map Char.toLower) else text
  match [compact, json].find? fun format => format.name == text' with
  | some format => .ok format
  | none => .error s!"invalid variant: {text}"

end LogFormat

end ShootKubeconfig
