namespace ShootKubeconfig

/-- What is said of a failure. Where another library has the last word, that word is left open. -/
structure Wording where
  text : String
  isWhole : Bool := true
  deriving DecidableEq, Repr

namespace Wording

instance : Coe String Wording := ⟨fun text => { text }⟩

instance : Coe Wording String := ⟨text⟩

def openEnded (text : String) : Wording where
  text
  isWhole := false

def after (heading : String) (wording : Wording) : Wording :=
  { wording with text := heading ++ wording.text }

def whole? (wording : Wording) : Option String :=
  if wording.isWhole then some wording.text else none

end Wording

end ShootKubeconfig
