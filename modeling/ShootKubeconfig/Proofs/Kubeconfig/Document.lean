import ShootKubeconfig.Proofs.Kubeconfig.Request
import ShootKubeconfig.Proofs.Text.Base64

namespace ShootKubeconfig.Kubeconfig

/-- The server to which the first context with a name leads, by the first cluster with the name
that the context refers to. -/
def Document.server? (document : Document) (name : String) : Option String := do
  let context ← document.contexts.find? (·.name == name)
  let cluster ← document.clusters.find? (·.name == context.cluster)
  return cluster.server

/-- A cluster and a context for each endpoint, in order, one user for all contexts, and the first
context as the current one. -/
structure Document.Serves (document : Document) (endpoints : List Endpoint) : Prop where
  clusters_length : document.clusters.length = endpoints.length
  contexts_length : document.contexts.length = endpoints.length
  paired : ∀ (index : Nat) (endpoint : Endpoint) (cluster : Cluster) (context : Context),
    endpoints[index]? = some endpoint → document.clusters[index]? = some cluster →
      document.contexts[index]? = some context →
        cluster.server = "https://" ++ endpoint.host ∧ context.name = cluster.name ∧
          context.cluster = cluster.name
  singleUser : ∃ user, document.users = [user] ∧
    ∀ context ∈ document.contexts, context.user = user.name
  current : document.contexts.head?.map (·.name) = some document.currentContext

namespace Request

section Resolution

variable {request : Request} {format : Format} {endpoint first : Endpoint}

theorem contextName_eq_iff :
    request.contextName first = request.contextName endpoint ↔ first.name = endpoint.name :=
  String.append_right_inj _

private theorem contextName_beq :
    (request.contextName first == request.contextName endpoint) =
      (first.name == endpoint.name) := by
  rw [Bool.eq_iff_iff, beq_iff_eq, beq_iff_eq, contextName_eq_iff]

private theorem find?_map_contextName {α : Type} (nameOf : α → String) (make : Endpoint → α)
    (named : ∀ one, nameOf (make one) = request.contextName one) :
    (request.endpoints.map make).find? (nameOf · == request.contextName endpoint) =
      (request.endpoints.find? (·.name == endpoint.name)).map make := by
  rw [List.find?_map]
  congr 2
  funext other
  rw [Function.comp_apply, named, contextName_beq]

/-- Of several endpoints with one name the first is reached. -/
theorem server?_contextName :
    (request.document format).server? (request.contextName endpoint) =
      (request.endpoints.find? (·.name == endpoint.name)).map fun first =>
        "https://" ++ first.host := by
  simp only [Document.server?, document]
  rw [find?_map_contextName Context.name request.context fun _ => rfl]
  cases found : request.endpoints.find? (·.name == endpoint.name) with
  | none => rfl
  | some first =>
      have named : first.name = endpoint.name := by simpa using List.find?_some found
      have foundAgain : request.endpoints.find? (·.name == first.name) = some first := by
        rw [named, found]
      simp only [Option.map_some, Option.bind_eq_bind, Option.bind_some, context]
      rw [find?_map_contextName Cluster.name (request.cluster format) fun _ => rfl, foundAgain]
      rfl

private theorem find?_name_of_nodup {endpoints : List Endpoint}
    (distinct : (endpoints.map (·.name)).Nodup) (member : endpoint ∈ endpoints) :
    endpoints.find? (·.name == endpoint.name) = some endpoint := by
  induction endpoints with
  | nil => cases member
  | cons head rest ih =>
      rw [List.map_cons, List.nodup_cons] at distinct
      cases member with
      | head => simp
      | tail _ member =>
          have different : head.name ≠ endpoint.name := by
            intro same
            apply distinct.1
            rw [same]
            exact List.mem_map_of_mem member
          rw [List.find?_cons_of_neg (by simpa using different)]
          exact ih distinct.2 member

private theorem nodup_contextNames (distinct : (request.endpoints.map (·.name)).Nodup) :
    (request.endpoints.map request.contextName).Nodup := by
  simp only [List.Nodup, List.pairwise_map, ne_eq, contextName_eq_iff] at distinct ⊢
  exact distinct

theorem serves_document (someEndpoint : request.endpoints ≠ []) :
    (request.document format).Serves request.endpoints where
  clusters_length := List.length_map _
  contexts_length := List.length_map _
  paired := by
    intro index endpoint cluster context found foundCluster foundContext
    simp only [document, List.getElem?_map, found, Option.map_some, Option.some.injEq]
      at foundCluster foundContext
    subst foundCluster foundContext
    exact ⟨rfl, rfl, rfl⟩
  singleUser := by
    refine ⟨_, rfl, ?_⟩
    intro context member
    obtain ⟨endpoint, _, rfl⟩ := List.mem_map.mp member
    rfl
  current := by
    obtain ⟨first, rest, split⟩ := List.exists_cons_of_ne_nil someEndpoint
    simp [document, split, context]

end Resolution

end Request

def after? (start text : String) : Option String :=
  if start.toList <+: text.toList then some (.ofList (text.toList.drop start.toList.length))
  else none

private theorem after?_append (start rest : String) : after? start (start ++ rest) = some rest := by
  rw [after?, String.toList_append, if_pos (List.prefix_append _ _), List.drop_left,
    String.ofList_toList]

def settingsOfArguments? : List String → Option PluginSettings
  | [_, _, name, namespaceName, gardenIdentity] => do
      return {
        shoot := {
          namespaceName := ← after? "--namespace=" namespaceName
          name := ← after? "--name=" name }
        gardenIdentity := ← after? "--garden-cluster-identity=" gardenIdentity }
  | _ => none

/-- What the plugin gets to know of a shoot for one of its clusters, and in which way. -/
def settings? (user : User) (cluster : Cluster) : Option (Format × PluginSettings) :=
  match cluster.extensions with
  | some [extension] => some (.current, extension.settings)
  | some _ => none
  | none => (settingsOfArguments? user.pluginArguments).map (.legacy, ·)

def endpoint? (user : User) (cluster : Cluster) : Option Endpoint := do
  return ⟨← after? (user.name ++ "-") cluster.name, ← after? "https://" cluster.server⟩

/-- The request that a kubeconfig answers, and the format. -/
def Document.request? (document : Document) : Option (Format × Request) := do
  let user ← document.users.head?
  let cluster ← document.clusters.head?
  let (format, settings) ← settings? user cluster
  return (format, {
    endpoints := ← document.clusters.mapM (endpoint? user)
    certificateAuthority := ← (Base64.decodeText cluster.certificateAuthorityData).toOption
    namespaceName := settings.shoot.namespaceName
    shootName := settings.shoot.name
    gardenIdentity := settings.gardenIdentity })

namespace Request

def user (request : Request) (format : Format) : User :=
  ⟨request.userName, request.pluginArguments format⟩

def settings (request : Request) : PluginSettings :=
  ⟨⟨request.namespaceName, request.shootName⟩, request.gardenIdentity⟩

section Recovery

variable {request : Request} {format : Format}

private theorem settings?_cluster (endpoint : Endpoint) :
    settings? (request.user format) (request.cluster format endpoint) =
      some (format, request.settings) := by
  cases format with
  | current => rfl
  | legacy =>
      simp only [settings?, cluster, extensions, user, pluginArguments, settingsOfArguments?,
        after?_append]
      rfl

private theorem endpoint?_cluster (endpoint : Endpoint) :
    endpoint? (request.user format) (request.cluster format endpoint) = some endpoint := by
  simp only [endpoint?, user, cluster, contextName, after?_append]
  rfl

private theorem mapM_endpoint? (endpoints : List Endpoint) :
    (endpoints.map (request.cluster format)).mapM (endpoint? (request.user format)) =
      some endpoints := by
  induction endpoints with
  | nil => rfl
  | cons endpoint rest ih =>
      rw [List.map_cons, List.mapM_cons, endpoint?_cluster, ih]
      rfl

theorem request?_document (someEndpoint : request.endpoints ≠ []) :
    (request.document format).request? = some (format, request) := by
  obtain ⟨first, rest, split⟩ := List.exists_cons_of_ne_nil someEndpoint
  have oneUser : (request.document format).users.head? = some (request.user format) := rfl
  have firstCluster : (request.document format).clusters.head? =
      some (request.cluster format first) := by
    simp [document, split]
  have everyEndpoint : (request.document format).clusters.mapM (endpoint? (request.user format)) =
      some request.endpoints := mapM_endpoint? request.endpoints
  have decoded : Base64.decodeText (request.cluster format first).certificateAuthorityData =
      .ok request.certificateAuthority := Base64.decodeText_eq_ok_iff.mpr rfl
  simp only [Document.request?, oneUser, firstCluster, settings?_cluster, everyEndpoint, decoded,
    Option.bind_eq_bind, Option.bind_some, Except.toOption, settings]
  rfl

theorem document_injective {other : Request} {otherFormat : Format}
    (someEndpoint : request.endpoints ≠ []) (otherEndpoint : other.endpoints ≠ [])
    (same : other.document otherFormat = request.document format) :
    otherFormat = format ∧ other = request := by
  have recovered := @request?_document other otherFormat otherEndpoint
  rw [same, request?_document someEndpoint] at recovered
  cases recovered
  exact ⟨rfl, rfl⟩

end Recovery

/-- A kubeconfig is closed: its current context, and with different names of endpoints every
context, leads to the server of its own endpoint. It loses nothing: each of its clusters refers to
the shoot in the way of its format, and the request can be read from it. -/
theorem document_closed (request : Request) (format : Format) (valid : request.defect? = none) :
    request.build format = .ok (request.document format).write ∧
      (request.document format).Serves request.endpoints ∧
      (∃ first, request.endpoints.head? = some first ∧
        (request.document format).server? (request.document format).currentContext =
          some ("https://" ++ first.host)) ∧
      ((request.endpoints.map (·.name)).Nodup →
        ((request.document format).contexts.map (·.name)).Nodup ∧
          ((request.document format).clusters.map (·.name)).Nodup ∧
          ∀ (index : Nat) (endpoint : Endpoint) (context : Context),
            request.endpoints[index]? = some endpoint →
              (request.document format).contexts[index]? = some context →
                (request.document format).server? context.name =
                  some ("https://" ++ endpoint.host)) ∧
      (∀ user ∈ (request.document format).users, ∀ cluster ∈ (request.document format).clusters,
        settings? user cluster = some (format, request.settings)) ∧
      (request.document format).request? = some (format, request) ∧
      ∀ (other : Request) (otherFormat : Format), other.defect? = none →
        other.document otherFormat = request.document format →
          otherFormat = format ∧ other = request := by
  have someEndpoint := (defect?_eq_none_iff.mp valid).1
  refine ⟨build_eq_ok_iff.mpr ⟨valid, rfl⟩, serves_document someEndpoint, ?_, ?_, ?_,
    request?_document someEndpoint, ?_⟩
  · obtain ⟨first, rest, split⟩ := List.exists_cons_of_ne_nil someEndpoint
    have current : (request.document format).currentContext = request.contextName first := by
      simp [document, split]
    refine ⟨first, by rw [split]; rfl, ?_⟩
    rw [current, server?_contextName, split, List.find?_cons_of_pos (by simp)]
    rfl
  · intro distinct
    have names : (request.document format).contexts.map (·.name) =
        request.endpoints.map request.contextName := List.map_map
    have clusterNames : (request.document format).clusters.map (·.name) =
        request.endpoints.map request.contextName := List.map_map
    rw [names, clusterNames]
    refine ⟨nodup_contextNames distinct, nodup_contextNames distinct, ?_⟩
    intro index endpoint context found foundContext
    simp only [document, List.getElem?_map, found, Option.map_some, Option.some.injEq]
      at foundContext
    subst foundContext
    change (request.document format).server? (request.contextName endpoint) = _
    rw [server?_contextName, find?_name_of_nodup distinct (List.mem_of_getElem? found)]
    rfl
  · intro user userMember cluster clusterMember
    obtain rfl := List.mem_singleton.mp userMember
    obtain ⟨endpoint, _, rfl⟩ := List.mem_map.mp clusterMember
    exact settings?_cluster endpoint
  · intro other otherFormat otherValid same
    exact document_injective someEndpoint (defect?_eq_none_iff.mp otherValid).1 same

theorem document_closed_sample :
    let request : Request := {
      endpoints := [⟨"external", "api.foo.example"⟩, ⟨"external-2", "10.0.0.1:443"⟩]
      certificateAuthority := [0x66, 0x6F, 0x6F]
      namespaceName := "garden--dev"
      shootName := "foo-external"
      gardenIdentity := "landscape" }
    (request.document .legacy).server? "garden--dev--foo-external-external-2" =
        some "https://10.0.0.1:443" ∧
      (request.document .legacy).request? = some (.legacy, request) ∧
      request.document .current ≠ request.document .legacy := by
  intro request
  obtain ⟨_, _, _, resolves, _, recovered, determined⟩ :=
    document_closed request .legacy (by decide)
  refine ⟨?_, recovered, ?_⟩
  · exact (resolves (by decide)).2.2 1 _ _ rfl rfl
  · intro same
    exact absurd (determined request .current (by decide) same).1 (by decide)

end Request

end ShootKubeconfig.Kubeconfig
