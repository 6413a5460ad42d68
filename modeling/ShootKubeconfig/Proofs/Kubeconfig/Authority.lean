import ShootKubeconfig.Proofs.Kubeconfig.Request
import ShootKubeconfig.Proofs.Text.Base64
import ShootKubeconfig.Proofs.TrustAnchor

/-!
The certificate authority on its way from the state of a shoot into a kubeconfig.

It is read from base64 and written in base64 again. As nothing but the written form is read, the
text of the state comes out as it went in.
-/

namespace ShootKubeconfig

namespace TrustAnchor

/-- The first entry with the right name holds a text under the key of the certificate, beside other
fields. Of several fields with that key the last counts. -/
inductive Provisions : ShootState → List (String × Json) → String → Prop
  | intro {metadata : Metadata} {before after : List GeneratedData} {type encoded : String}
      {front back : List (String × Json)}
      (unnamed : ∀ generated ∈ before, generated.name ≠ dataName)
      (last : ∀ field ∈ back, field.1 ≠ certificateKey) :
      Provisions
        { metadata
          generated := before ++
            ⟨dataName, type, .object (front ++ (certificateKey, .text encoded) :: back)⟩ :: after }
        (front ++ back) encoded

def textField (entry : String × String) : String × Json :=
  (entry.1, .text entry.2)

section Provisions

variable {state : ShootState} {others : List (String × Json)} {encoded : String}

theorem Provisions.exists_generated (provisions : Provisions state others encoded) :
    ∃ type fields, state.generated? dataName = some ⟨dataName, type, .object fields⟩ ∧
      (Table.ofList fields).get? certificateKey = some (.text encoded) := by
  cases provisions with
  | intro unnamed last =>
      exact ⟨_, _, generated?_of_unnamed unnamed rfl,
        Table.get?_ofList_eq_some_iff.mpr ⟨_, _, rfl, last⟩⟩

theorem Provisions.unique {further : List (String × Json)} {other : String}
    (provisions : Provisions state others encoded) (again : Provisions state further other) :
    encoded = other := by
  obtain ⟨type, fields, found, held⟩ := provisions.exists_generated
  obtain ⟨_, _, foundAgain, heldAgain⟩ := again.exists_generated
  cases found.symm.trans foundAgain
  cases held.symm.trans heldAgain
  rfl

end Provisions

end TrustAnchor

end ShootKubeconfig
