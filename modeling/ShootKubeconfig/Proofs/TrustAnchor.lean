import ShootKubeconfig.Proofs.Except
import ShootKubeconfig.TrustAnchor

namespace ShootKubeconfig.TrustAnchor

/-- Fields of which some have another text instead, though not that of the certificate. -/
inductive Redacted : List (String × Json) → List (String × Json) → Prop
  | nil : Redacted [] []
  | kept (field : String × Json) {fields others : List (String × Json)}
      (rest : Redacted fields others) : Redacted (field :: fields) (field :: others)
  | replaced {name : String} (other : name ≠ certificateKey) (text replacement : String)
      {fields others : List (String × Json)} (rest : Redacted fields others) :
      Redacted ((name, .text text) :: fields) ((name, .text replacement) :: others)

/-- States that differ at most in what is beside the certificate: the entries before its own, which
do not have its name, the type of its own, the other texts in it, all entries after it, and the
metadata but for whether the state is about to go. -/
inductive Redaction : ShootState → ShootState → Prop
  | intro {metadata otherMetadata : Metadata} {before otherBefore after otherAfter :
      List GeneratedData} {type otherType : String} {fields otherFields : List (String × Json)}
      (terminating : metadata.terminating = otherMetadata.terminating)
      (unnamed : ∀ generated ∈ before, generated.name ≠ dataName)
      (otherUnnamed : ∀ generated ∈ otherBefore, generated.name ≠ dataName)
      (redacted : Redacted fields otherFields) :
      Redaction
        { metadata, generated := before ++ ⟨dataName, type, .object fields⟩ :: after }
        { metadata := otherMetadata
          generated := otherBefore ++ ⟨dataName, otherType, .object otherFields⟩ :: otherAfter }

section Redacted

variable {fields others : List (String × Json)}

def namedText? (field : String × Json) : Option (String × String) := do
  return (field.1, ← Json.text? field.2)

theorem dictionaryOf?_texts (fields : List (String × Json)) :
    Json.dictionaryOf? Json.text? (.object fields) = (fields.mapM namedText?).map Table.ofList := by
  unfold Json.dictionaryOf? Json.fields? namedText?
  simp only [Option.bind_eq_bind, Option.bind_some, Option.pure_def, Option.map_eq_bind]
  rfl

theorem Redacted.entries (redacted : Redacted fields others) {entries : List (String × String)}
    (read : fields.mapM namedText? = some entries) :
    ∃ otherEntries, others.mapM namedText? = some otherEntries ∧
      Table.lookup certificateKey otherEntries.reverse =
        Table.lookup certificateKey entries.reverse := by
  -- of several fields with one name the last counts, hence the look-up from the end
  induction redacted generalizing entries with
  | nil =>
      cases read
      exact ⟨[], rfl, rfl⟩
  | kept field rest ih =>
      simp only [List.mapM_cons, Option.pure_def, Option.bind_eq_bind, Option.bind_eq_some_iff,
        Option.some.injEq] at read
      obtain ⟨entry, readFirst, further, readRest, rfl⟩ := read
      obtain ⟨otherFurther, readOther, same⟩ := ih readRest
      refine ⟨entry :: otherFurther, by simp [readFirst, readOther], ?_⟩
      rw [List.reverse_cons, List.reverse_cons, Table.lookup_append, Table.lookup_append, same]
  | @replaced name different text replacement _ _ rest ih =>
      simp only [List.mapM_cons, Option.pure_def, Option.bind_eq_bind, Option.bind_eq_some_iff,
        Option.some.injEq] at read
      obtain ⟨entry, readFirst, further, readRest, rfl⟩ := read
      cases readFirst
      obtain ⟨otherFurther, readOther, same⟩ := ih readRest
      refine ⟨(name, replacement) :: otherFurther, by simp [namedText?, Json.text?, readOther], ?_⟩
      rw [List.reverse_cons, List.reverse_cons, Table.lookup_append, Table.lookup_append, same]
      simp [Table.lookup, different]

theorem Redacted.texts (redacted : Redacted fields others) {held : Dictionary String}
    (read : TrustAnchor.texts (.object fields) = .ok held) :
    ∃ otherHeld, TrustAnchor.texts (.object others) = .ok otherHeld ∧
      otherHeld.get? certificateKey = held.get? certificateKey := by
  unfold TrustAnchor.texts at read ⊢
  rw [dictionaryOf?_texts] at read ⊢
  cases entriesRead : fields.mapM namedText? with
  | none => simp [entriesRead] at read
  | some entries =>
      obtain ⟨otherEntries, otherRead, same⟩ := redacted.entries entriesRead
      rw [entriesRead] at read
      cases read
      rw [otherRead]
      exact ⟨_, rfl, by rw [Table.get?_ofList, Table.get?_ofList, same]⟩

end Redacted

section Redaction

variable {state other : ShootState} {authority : Octets}

theorem generated?_of_unnamed {metadata : Metadata} {before after : List GeneratedData}
    {generated : GeneratedData} (unnamed : ∀ earlier ∈ before, earlier.name ≠ dataName)
    (named : generated.name = dataName) :
    ({ metadata, generated := before ++ generated :: after } : ShootState).generated? dataName =
      some generated := by
  have noneBefore : before.find? (·.name == dataName) = none := by
    simpa [List.find?_eq_none] using unnamed
  simp [ShootState.generated?, List.find?_append, noneBefore, named]

theorem Redaction.terminating (redaction : Redaction state other) :
    state.terminating = other.terminating := by
  cases redaction
  assumption

theorem Redaction.ofShootState (redaction : Redaction state other)
    (provisioned : TrustAnchor.ofShootState state = .ok authority) :
    TrustAnchor.ofShootState other = .ok authority := by
  cases redaction with
  | intro _ unnamed otherUnnamed redacted =>
      unfold TrustAnchor.ofShootState at provisioned ⊢
      rw [generated?_of_unnamed unnamed rfl] at provisioned
      rw [generated?_of_unnamed otherUnnamed rfl]
      simp only [bind_eq_ok_iff] at provisioned ⊢
      obtain ⟨held, read, encoded, found, decoded⟩ := provisioned
      obtain ⟨otherHeld, otherRead, same⟩ := redacted.texts read
      refine ⟨otherHeld, otherRead, encoded, ?_, decoded⟩
      unfold encodedCertificate at found ⊢
      rw [same, found]

end Redaction

end ShootKubeconfig.TrustAnchor
