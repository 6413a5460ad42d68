import ShootKubeconfig.Proofs.Endpoints
import ShootKubeconfig.Proofs.Reconcile.Wanted
import ShootKubeconfig.Proofs.Uri

namespace ShootKubeconfig

namespace AdvertisedAddress

/-- An endpoint shows the name of an address and the host that its authority ends with. -/
structure ShownBy (address : AdvertisedAddress) (endpoint : Kubeconfig.Endpoint) : Prop where
  name : endpoint.name = address.name
  host : ∃ authority, Uri.authority address.url = .ok authority ∧
    Uri.Layout (Utf8.encode address.url) authority ∧
    Uri.Hosted authority (Utf8.encode endpoint.host)
  hostless : Uri.authority address.url = .ok none → endpoint.host = ""
  unmarked : '@' ∉ endpoint.host.toList

/-- Addresses that differ at most in what stands around the host of a URL that can be read. -/
inductive Alike : AdvertisedAddress → AdvertisedAddress → Prop
  | same {address : AdvertisedAddress} : Alike address address
  | around {name url url' : String} {authority authority' : Option Octets} {host : Octets}
      (read : Uri.authority url = .ok authority) (read' : Uri.authority url' = .ok authority')
      (names : Uri.Names url host) (names' : Uri.Names url' host) :
      Alike ⟨name, url⟩ ⟨name, url'⟩

variable {address other : AdvertisedAddress} {endpoint : Kubeconfig.Endpoint}

theorem shownBy_of_endpoint (made : address.endpoint = .ok endpoint) :
    address.ShownBy endpoint := by
  obtain ⟨authority, read, rfl⟩ := endpoint_eq_ok_iff.mp made
  obtain ⟨layout, ascii⟩ := Uri.layout_of_authority read
  have hosted := Uri.hosted_hostOf ascii
  refine ⟨rfl, ⟨authority, read, layout, hosted⟩, ?_, Uri.at_not_mem_toList hosted.unmarked⟩
  intro readNone
  rw [read] at readNone
  cases readNone
  rfl

private theorem Alike.of_hostOf {name url url' : String} {authority authority' : Option Octets}
    (read : Uri.authority url = .ok authority) (read' : Uri.authority url' = .ok authority')
    (same : Uri.hostOf authority = Uri.hostOf authority') : Alike ⟨name, url⟩ ⟨name, url'⟩ := by
  have names' := Uri.names_hostOf read'
  rw [← same] at names'
  exact .around read read' (Uri.names_hostOf read) names'

theorem Alike.endpoint_eq (alike : Alike address other) : address.endpoint = other.endpoint := by
  cases alike with
  | same => rfl
  | around read read' names names' =>
      simp only [AdvertisedAddress.endpoint, read, read',
        Uri.hostOf_eq_of_names read read' names names']

end AdvertisedAddress

theorem endpointsOf_eq_of_alike {addresses others : List AdvertisedAddress}
    (alike : List.Forall₂ AdvertisedAddress.Alike addresses others) :
    endpointsOf addresses = endpointsOf others := by
  induction alike with
  | nil => rfl
  | cons first _ ih => simp only [endpointsOf, first.endpoint_eq, ih]

variable {shoot other : Shoot}

private theorem unmarked_of_shown {addresses : List AdvertisedAddress}
    {endpoints : List Kubeconfig.Endpoint}
    (shown : List.Forall₂ AdvertisedAddress.ShownBy addresses endpoints) :
    ∀ endpoint ∈ endpoints, '@' ∉ endpoint.host.toList := by
  induction shown with
  | nil => simp
  | cons first _ ih => exact List.forall_mem_cons.mpr ⟨first.unmarked, ih⟩

/-- A server is a constant and a host. -/
private theorem unmarked_server {request : Kubeconfig.Request}
    (unmarked : ∀ endpoint ∈ request.endpoints, '@' ∉ endpoint.host.toList)
    (format : Kubeconfig.Format) :
    ∀ cluster ∈ (request.document format).clusters, '@' ∉ cluster.server.toList := by
  intro cluster among
  obtain ⟨endpoint, held, rfl⟩ := List.mem_map.mp among
  have notInScheme : '@' ∉ "https://".toList := by decide
  simpa [Kubeconfig.Request.cluster, notInScheme] using unmarked endpoint held

namespace Reconcile

variable {key : Key} {state : ShootState} {found : Option ConfigMap} {text : String}

theorem Wanted.of_endpoints (wanted : Wanted key shoot state found text)
    (silent : other.advertisedAddresses = [] → shoot.advertisedAddresses = [])
    (same : shoot.endpoints = other.endpoints)
    (version : shoot.kubernetesVersion = other.kubernetesVersion) :
    Wanted key other state found text := by
  obtain ⟨advertised, provisioned, trusted, reachable, identified, chosen, built⟩ := wanted
  exact ⟨mt silent advertised, provisioned, trusted, same ▸ reachable, identified,
    version ▸ chosen, built⟩

theorem wanted_iff_of_alike
    (alike : List.Forall₂ AdvertisedAddress.Alike shoot.advertisedAddresses
      other.advertisedAddresses)
    (version : shoot.kubernetesVersion = other.kubernetesVersion) :
    Wanted key shoot state found text ↔ Wanted key other state found text := by
  have same : shoot.endpoints = other.endpoints := endpointsOf_eq_of_alike alike
  have silent : shoot.advertisedAddresses = [] ↔ other.advertisedAddresses = [] := by
    rw [← List.length_eq_zero_iff, alike.length_eq, List.length_eq_zero_iff]
  constructor
  · intro wanted
    exact wanted.of_endpoints silent.mpr same version
  · intro wanted
    exact wanted.of_endpoints silent.mp same.symm version.symm

/-- An endpoint shows the host of a URL as it is written and nothing around it. So neither the
servers of a kubeconfig nor the kubeconfig depend on what a URL says before its host, and a URL
that cannot be read leaves no endpoint. -/
theorem userInformation_concealed (shoot : Shoot) :
    ((∀ address ∈ shoot.advertisedAddresses,
        ∃ authority, Uri.authority address.url = .ok authority) →
      ∃ endpoints, shoot.endpoints = .ok endpoints ∧
        List.Forall₂ AdvertisedAddress.ShownBy shoot.advertisedAddresses endpoints ∧
        ∀ key authority identity format,
          ∀ cluster ∈ ((request key authority endpoints identity).document format).clusters,
            '@' ∉ cluster.server.toList) ∧
      (∀ other : Shoot,
        List.Forall₂ AdvertisedAddress.Alike shoot.advertisedAddresses
            other.advertisedAddresses →
          shoot.kubernetesVersion = other.kubernetesVersion →
            shoot.endpoints = other.endpoints ∧
              ∀ key state found text,
                Wanted key shoot state found text ↔ Wanted key other state found text) ∧
      ∀ failure, shoot.endpoints = .error failure ↔
        ∃ before address after cause, shoot.advertisedAddresses = before ++ address :: after ∧
          (∀ earlier ∈ before, ∃ authority, Uri.authority earlier.url = .ok authority) ∧
          Uri.authority address.url = .error cause ∧
          failure = .endpointUrl address.name address.url cause := by
  refine ⟨?_, ?_, fun failure => endpoints_eq_error_iff⟩
  · intro parses
    obtain ⟨endpoints, made⟩ := exists_endpoints parses
    have shown : List.Forall₂ AdvertisedAddress.ShownBy shoot.advertisedAddresses endpoints :=
      (endpointsOf_eq_ok_iff.mp made).imp fun _ _ => AdvertisedAddress.shownBy_of_endpoint
    refine ⟨endpoints, made, shown, ?_⟩
    intro key authority identity format
    exact unmarked_server (unmarked_of_shown shown) format
  · intro other alike version
    exact ⟨endpointsOf_eq_of_alike alike, fun _ _ _ _ => wanted_iff_of_alike alike version⟩

namespace Sample

def guarded : Shoot where
  kubernetesVersion := "1.30.1"
  status := some {
    advertisedAddresses :=
      [⟨"external", "https://admin:p@ss@API.Foo.example:443/healthz"⟩,
        ⟨"internal", "api.foo.local"⟩] }

def unguarded : Shoot where
  kubernetesVersion := "1.30.1"
  status := some {
    advertisedAddresses :=
      [⟨"external", "http://API.Foo.example:443?watch"⟩, ⟨"internal", "api.foo.local"⟩] }

def shown : List Kubeconfig.Endpoint :=
  [⟨"external", "API.Foo.example:443"⟩, ⟨"internal", "api.foo.local"⟩]

end Sample

theorem userInformation_concealed_sample :
    Sample.guarded.endpoints = .ok Sample.shown ∧
      List.Forall₂ AdvertisedAddress.ShownBy Sample.guarded.advertisedAddresses Sample.shown ∧
      Sample.guarded.endpoints = Sample.unguarded.endpoints ∧
      ∀ key state found text, Wanted key Sample.guarded state found text ↔
        Wanted key Sample.unguarded state found text := by
  obtain ⟨shows, changes, -⟩ := userInformation_concealed Sample.guarded
  have read : Uri.authority "https://admin:p@ss@API.Foo.example:443/healthz" =
      .ok (some (Utf8.encode "admin:p@ss@API.Foo.example:443")) :=
    toOption_eq_some_iff.mp (by decide +kernel)
  have readBare : Uri.authority "http://API.Foo.example:443?watch" =
      .ok (some (Utf8.encode "API.Foo.example:443")) :=
    toOption_eq_some_iff.mp (by decide +kernel)
  have readInternal : Uri.authority "api.foo.local" = .ok (some (Utf8.encode "api.foo.local")) :=
    toOption_eq_some_iff.mp (by decide +kernel)
  have alike : List.Forall₂ AdvertisedAddress.Alike Sample.guarded.advertisedAddresses
      Sample.unguarded.advertisedAddresses :=
    .cons (.of_hostOf read readBare (by decide +kernel)) (.cons .same .nil)
  have parses : ∀ address ∈ Sample.guarded.advertisedAddresses,
      ∃ authority, Uri.authority address.url = .ok authority :=
    List.forall_mem_cons.mpr ⟨⟨_, read⟩, List.forall_mem_cons.mpr ⟨⟨_, readInternal⟩, by simp⟩⟩
  have known : Sample.guarded.endpoints = .ok Sample.shown :=
    toOption_eq_some_iff.mp (by decide +kernel)
  obtain ⟨endpoints, made, shown, -⟩ := shows parses
  cases known.symm.trans made
  obtain ⟨same, wanted⟩ := changes _ alike rfl
  exact ⟨known, shown, same, wanted⟩

end Reconcile

end ShootKubeconfig
