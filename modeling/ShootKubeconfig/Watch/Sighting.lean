import ShootKubeconfig.Watch.RelevanceFilter

namespace ShootKubeconfig.Watch

inductive Sighting where
  | shoot (event : Event Shoot)
  | configMap (event : Event ConfigMap)
  | shootState (event : Event ShootState)
  | resourceQuota (event : Event ResourceQuota)

/-- The event of a change from one version of an object to another, where only some versions are
watched. A version that is no longer watched is as good as gone. -/
def Event.ofChange? (watched : α → Bool) (old new : Option α) : Option (Event α) :=
  match old.filter watched, new.filter watched with
  | _, some new => some (.apply new)
  | some old, none => some (.delete old)
  | none, none => none

def Event.ofList (objects : List α) : List (Event α) :=
  .init :: objects.map .initApply ++ [.initDone]

end ShootKubeconfig.Watch
