import Mathlib.Data.List.Forall2
import ShootKubeconfig.Endpoints
import ShootKubeconfig.Proofs.Except

namespace ShootKubeconfig

variable {address : AdvertisedAddress} {addresses : List AdvertisedAddress}
  {endpoints : List Kubeconfig.Endpoint} {shoot : Shoot}

theorem AdvertisedAddress.endpoint_eq_ok_iff {endpoint : Kubeconfig.Endpoint} :
    address.endpoint = .ok endpoint ↔
      ∃ authority, Uri.authority address.url = .ok authority ∧
        endpoint = ⟨address.name, Uri.hostOf authority⟩ := by
  unfold AdvertisedAddress.endpoint
  cases Uri.authority address.url with
  | error cause => simp
  | ok authority => simp [eq_comm]

theorem AdvertisedAddress.endpoint_eq_error_iff {failure : Failure} :
    address.endpoint = .error failure ↔
      ∃ cause, Uri.authority address.url = .error cause ∧
        failure = .endpointUrl address.name address.url cause := by
  unfold AdvertisedAddress.endpoint
  cases Uri.authority address.url with
  | error cause => simp [eq_comm]
  | ok authority => simp

theorem endpointsOf_eq_ok_iff :
    endpointsOf addresses = .ok endpoints ↔
      List.Forall₂ (fun address endpoint => address.endpoint = .ok endpoint) addresses
        endpoints := by
  induction addresses generalizing endpoints with
  | nil => simp [endpointsOf, eq_comm]
  | cons address rest ih =>
      simp only [endpointsOf, bind_eq_ok_iff, pure_eq_ok_iff, ih, List.forall₂_cons_left_iff]
      constructor
      · rintro ⟨endpoint, made, others, madeOthers, rfl⟩
        exact ⟨endpoint, others, made, madeOthers, rfl⟩
      · rintro ⟨endpoint, others, made, madeOthers, rfl⟩
        exact ⟨endpoint, made, others, madeOthers, rfl⟩

theorem endpointsOf_eq_error_iff {failure : Failure} :
    endpointsOf addresses = .error failure ↔
      ∃ before address after, addresses = before ++ address :: after ∧
        (∀ earlier ∈ before, ∃ endpoint, earlier.endpoint = .ok endpoint) ∧
        address.endpoint = .error failure := by
  induction addresses with
  | nil => simp [endpointsOf]
  | cons address rest ih =>
      simp only [endpointsOf, bind_eq_error_iff, pure_ne_error, and_false, exists_false, or_false,
        ih]
      constructor
      · rintro (failed | ⟨endpoint, made, before, failing, after, rfl, sound, failed⟩)
        · exact ⟨[], address, rest, rfl, by simp, failed⟩
        · exact ⟨address :: before, failing, after, rfl,
            List.forall_mem_cons.mpr ⟨⟨endpoint, made⟩, sound⟩, failed⟩
      · rintro ⟨before, failing, after, split, sound, failed⟩
        cases before with
        | nil =>
            cases split
            exact .inl failed
        | cons first before =>
            cases split
            obtain ⟨⟨endpoint, made⟩, soundRest⟩ := List.forall_mem_cons.mp sound
            exact .inr ⟨endpoint, made, before, failing, after, rfl, soundRest, failed⟩

theorem length_endpointsOf (made : endpointsOf addresses = .ok endpoints) :
    endpoints.length = addresses.length :=
  (endpointsOf_eq_ok_iff.mp made).length_eq.symm

theorem exists_endpoint_at {index : Nat}
    (made : endpointsOf addresses = .ok endpoints) (found : addresses[index]? = some address) :
    ∃ endpoint, endpoints[index]? = some endpoint ∧ address.endpoint = .ok endpoint := by
  rw [endpointsOf_eq_ok_iff] at made
  induction made generalizing index with
  | nil => simp at found
  | cons madeFirst _ ih =>
      cases index with
      | zero =>
          cases found
          exact ⟨_, rfl, madeFirst⟩
      | succ index => exact ih found

/-- The endpoints of some addresses are free of defects exactly if each address has a name and a
URL with a host. -/
theorem exists_endpointsOf_iff :
    (∃ endpoints, endpointsOf addresses = .ok endpoints ∧
        ∀ endpoint ∈ endpoints, endpoint.name ≠ "" ∧ endpoint.host ≠ "") ↔
      ∀ address ∈ addresses, address.name ≠ "" ∧
        ∃ authority, Uri.authority address.url = .ok authority ∧ Uri.hostOf authority ≠ "" := by
  induction addresses with
  | nil => simp [endpointsOf]
  | cons address rest ih =>
      rw [List.forall_mem_cons, ← ih]
      simp only [endpointsOf, bind_eq_ok_iff, pure_eq_ok_iff, AdvertisedAddress.endpoint_eq_ok_iff]
      constructor
      · rintro ⟨_, ⟨_, ⟨authority, parsed, rfl⟩, others, madeOthers, rfl⟩, sound⟩
        obtain ⟨⟨named, hosted⟩, soundOthers⟩ := List.forall_mem_cons.mp sound
        exact ⟨⟨named, authority, parsed, hosted⟩, others, madeOthers, soundOthers⟩
      · rintro ⟨⟨named, authority, parsed, hosted⟩, others, madeOthers, soundOthers⟩
        refine ⟨_, ⟨_, ⟨authority, parsed, rfl⟩, others, madeOthers, rfl⟩, ?_⟩
        exact List.forall_mem_cons.mpr ⟨⟨named, hosted⟩, soundOthers⟩

theorem endpoints_eq_error_iff {failure : Failure} :
    shoot.endpoints = .error failure ↔
      ∃ before address after cause, shoot.advertisedAddresses = before ++ address :: after ∧
        (∀ earlier ∈ before, ∃ authority, Uri.authority earlier.url = .ok authority) ∧
        Uri.authority address.url = .error cause ∧
        failure = .endpointUrl address.name address.url cause := by
  unfold Shoot.endpoints
  rw [endpointsOf_eq_error_iff]
  constructor
  · rintro ⟨before, address, after, split, sound, failed⟩
    obtain ⟨cause, unread, rfl⟩ := AdvertisedAddress.endpoint_eq_error_iff.mp failed
    refine ⟨before, address, after, cause, split, ?_, unread, rfl⟩
    intro earlier held
    obtain ⟨endpoint, made⟩ := sound earlier held
    obtain ⟨authority, read, -⟩ := AdvertisedAddress.endpoint_eq_ok_iff.mp made
    exact ⟨authority, read⟩
  · rintro ⟨before, address, after, cause, split, sound, unread, rfl⟩
    refine ⟨before, address, after, split, ?_,
      AdvertisedAddress.endpoint_eq_error_iff.mpr ⟨cause, unread, rfl⟩⟩
    intro earlier held
    obtain ⟨authority, read⟩ := sound earlier held
    exact ⟨_, AdvertisedAddress.endpoint_eq_ok_iff.mpr ⟨authority, read, rfl⟩⟩

theorem exists_endpoints
    (parses : ∀ address ∈ shoot.advertisedAddresses,
      ∃ authority, Uri.authority address.url = .ok authority) :
    ∃ endpoints, shoot.endpoints = .ok endpoints := by
  rw [exists_ok_iff]
  intro failure failed
  obtain ⟨before, address, after, cause, split, -, unread, -⟩ := endpoints_eq_error_iff.mp failed
  obtain ⟨authority, read⟩ := parses address (by simp [split])
  cases read.symm.trans unread

end ShootKubeconfig
