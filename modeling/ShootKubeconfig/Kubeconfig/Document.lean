import ShootKubeconfig.Yaml.Tree

namespace ShootKubeconfig.Kubeconfig

structure ShootReference where
  namespaceName : String
  name : String
  deriving DecidableEq, Repr

/-- What the credential plugin reads when it fetches a credential. -/
structure PluginSettings where
  shoot : ShootReference
  gardenIdentity : String
  deriving DecidableEq, Repr

structure Extension where
  name : String
  settings : PluginSettings
  deriving DecidableEq, Repr

structure Cluster where
  name : String
  server : String
  certificateAuthorityData : String
  extensions : Option (List Extension)
  deriving DecidableEq, Repr

structure Context where
  name : String
  cluster : String
  user : String
  deriving DecidableEq, Repr

structure User where
  name : String
  pluginArguments : List String
  deriving DecidableEq, Repr

structure Document where
  clusters : List Cluster
  contexts : List Context
  currentContext : String
  users : List User
  deriving DecidableEq, Repr

open Yaml

def execApiVersion : String := "client.authentication.k8s.io/v1beta1"

def execCommand : String := "kubectl"

def PluginSettings.toTree (settings : PluginSettings) : Tree :=
  .mapping [
    ("shootRef",
      .mapping [
        ("namespace", .text settings.shoot.namespaceName),
        ("name", .text settings.shoot.name)]),
    ("gardenClusterIdentity", .text settings.gardenIdentity)]

def Extension.toTree (extension : Extension) : Tree :=
  .mapping [("name", .text extension.name), ("extension", extension.settings.toTree)]

def Cluster.toTree (cluster : Cluster) : Tree :=
  .mapping [
    ("name", .text cluster.name),
    ("cluster",
      .mapping (
        [("server", .text cluster.server),
          ("certificate-authority-data", .text cluster.certificateAuthorityData)] ++
        (cluster.extensions.map fun extensions =>
          ("extensions", .sequence (extensions.map Extension.toTree))).toList))]

def Context.toTree (context : Context) : Tree :=
  .mapping [
    ("name", .text context.name),
    ("context", .mapping [("cluster", .text context.cluster), ("user", .text context.user)])]

def User.toTree (user : User) : Tree :=
  .mapping [
    ("name", .text user.name),
    ("user",
      .mapping [
        ("exec",
          .mapping [
            ("apiVersion", .text execApiVersion),
            ("command", .text execCommand),
            ("args", .sequence (user.pluginArguments.map .text)),
            ("provideClusterInfo", .boolean true)])])]

def Document.toTree (document : Document) : Tree :=
  .mapping [
    ("apiVersion", .text "v1"),
    ("kind", .text "Config"),
    ("clusters", .sequence (document.clusters.map Cluster.toTree)),
    ("contexts", .sequence (document.contexts.map Context.toTree)),
    ("current-context", .text document.currentContext),
    ("preferences", .mapping []),
    ("users", .sequence (document.users.map User.toTree))]

def Document.write (document : Document) : String :=
  document.toTree.write

end ShootKubeconfig.Kubeconfig
