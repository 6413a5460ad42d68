/-!
Values under keys. Entries stand in the order of their keys, each key once, so two tables are
equal exactly when they answer every look-up alike.
-/

namespace ShootKubeconfig

/-- A strict linear order of keys. -/
class KeyOrder (κ : Type) [LT κ] : Prop where
  irrefl : ∀ key : κ, ¬key < key
  trans : ∀ {first second third : κ}, first < second → second < third → first < third
  linear : ∀ first second : κ, first < second ∨ first = second ∨ second < first

namespace KeyOrder

instance : KeyOrder String where
  irrefl := String.lt_irrefl
  trans := String.lt_trans
  linear := Std.lt_trichotomy

instance : KeyOrder Nat where
  irrefl := Nat.lt_irrefl
  trans := Nat.lt_trans
  linear := Nat.lt_trichotomy

variable {κ α β : Type} [LT κ] [LT α] [LT β] [KeyOrder α] [KeyOrder β]

instance [DecidableLT α] : DecidableLT (Option α) :=
  inferInstanceAs (DecidableRel (Option.lt fun first second : α => first < second))

/-- No key comes before every key. -/
instance : KeyOrder (Option α) where
  irrefl key before := by
    cases key with
    | none => exact before
    | some key => exact irrefl key before
  trans {first second third} before before' := by
    cases third with
    | none => exact absurd before' Option.not_lt_none
    | some third => cases first with
      | none => trivial
      | some first => cases second with
        | none => exact absurd before Option.not_lt_none
        | some second => exact @trans α _ _ first second third before before'
  linear first second := by
    cases first with
    | none => cases second with
      | none => exact .inr (.inl rfl)
      | some _ => exact .inl trivial
    | some first => cases second with
      | none => exact .inr (.inr trivial)
      | some second =>
          rcases linear first second with before | rfl | after
          · exact .inl before
          · exact .inr (.inl rfl)
          · exact .inr (.inr after)

/-- Keys in the order of their first parts, and where these are the same of their second parts. -/
theorem ofParts (parts : κ → α × β)
    (eq_of_parts : ∀ {first second}, parts first = parts second → first = second)
    (lt_iff : ∀ {first second}, first < second ↔ Prod.lexLt (parts first) (parts second)) :
    KeyOrder κ where
  irrefl key before := by
    rcases lt_iff.mp before with before | ⟨_, before⟩
    · exact irrefl _ before
    · exact irrefl _ before
  trans before before' := by
    apply lt_iff.mpr
    rcases lt_iff.mp before with before | ⟨same, before⟩ <;>
      rcases lt_iff.mp before' with before' | ⟨same', before'⟩
    · exact .inl (trans before before')
    · exact .inl (same' ▸ before)
    · exact .inl (same ▸ before')
    · exact .inr ⟨same.trans same', trans before before'⟩
  linear first second := by
    rcases linear (parts first).1 (parts second).1 with before | same | after
    · exact .inl (lt_iff.mpr (.inl before))
    · rcases linear (parts first).2 (parts second).2 with before | same' | after
      · exact .inl (lt_iff.mpr (.inr ⟨same, before⟩))
      · exact .inr (.inl (eq_of_parts (Prod.ext same same')))
      · exact .inr (.inr (lt_iff.mpr (.inr ⟨same.symm, after⟩)))
    · exact .inr (.inr (lt_iff.mpr (.inl after)))

end KeyOrder

structure Table (κ α : Type) [LT κ] where
  entries : List (κ × α)
  ordered : entries.Pairwise (fun first second => first.1 < second.1) := by simp

abbrev Dictionary (α : Type) : Type := Table String α

namespace Table

variable {κ α : Type}

section Entries

variable [DecidableEq κ]

def lookup (key : κ) : List (κ × α) → Option α
  | [] => none
  | (other, value) :: rest => if other = key then some value else lookup key rest

def eraseEntry (key : κ) (entries : List (κ × α)) : List (κ × α) :=
  entries.filter fun entry => entry.1 ≠ key

private theorem lookup_eraseEntry (key : κ) (entries : List (κ × α)) (asked : κ) :
    lookup asked (eraseEntry key entries) =
      if asked = key then none else lookup asked entries := by
  induction entries with
  | nil => simp [eraseEntry, lookup]
  | cons head rest ih =>
      simp only [eraseEntry, ne_eq, decide_not] at ih ⊢
      by_cases h : head.1 = key
      · by_cases h' : asked = key
        · simpa [h, h'] using ih
        · have : ¬key = asked := fun e => h' e.symm
          simpa [lookup, h, h', this] using ih
      · by_cases h' : asked = key
        · subst h'
          simpa [lookup, h] using ih
        · simp [lookup, h, ih, h']

private theorem lookup_filter (keep : κ → Bool) (entries : List (κ × α)) (asked : κ) :
    lookup asked (entries.filter fun entry => keep entry.1) =
      if keep asked then lookup asked entries else none := by
  induction entries with
  | nil => simp [lookup]
  | cons head rest ih =>
      by_cases h : keep head.1
      · by_cases h' : head.1 = asked
        · subst h'
          simp [lookup, h]
        · simp [lookup, h, h', ih]
      · by_cases h' : head.1 = asked
        · subst h'
          simp [h, ih]
        · simp [lookup, h, h', ih]

theorem lookup_append (key : κ) (first second : List (κ × α)) :
    lookup key (first ++ second) = (lookup key first).or (lookup key second) := by
  induction first with
  | nil => rfl
  | cons head rest ih =>
      by_cases h : head.1 = key
      · simp [lookup, h]
      · simp [lookup, h, ih]

theorem lookup_eq_some_iff_split {key : κ} {value : α} {entries : List (κ × α)} :
    lookup key entries = some value ↔
      ∃ front back, entries = front ++ (key, value) :: back ∧ ∀ entry ∈ front, entry.1 ≠ key := by
  induction entries with
  | nil => simp [lookup]
  | cons head rest ih =>
      unfold lookup
      by_cases here : head.1 = key
      · rw [if_pos here]
        constructor
        · intro same
          obtain rfl : head = (key, value) := Prod.ext here (Option.some.inj same)
          exact ⟨[], rest, rfl, by simp⟩
        · rintro ⟨front, back, split, others⟩
          cases front with
          | nil => rw [(List.cons.inj split).1]
          | cons first front =>
              obtain rfl := (List.cons.inj split).1
              exact absurd here (others head List.mem_cons_self)
      · rw [if_neg here, ih]
        constructor
        · rintro ⟨front, back, rfl, others⟩
          exact ⟨head :: front, back, rfl, List.forall_mem_cons.mpr ⟨here, others⟩⟩
        · rintro ⟨front, back, split, others⟩
          cases front with
          | nil => exact absurd (congrArg Prod.fst (List.cons.inj split).1) here
          | cons first front =>
              exact ⟨front, back, (List.cons.inj split).2, (List.forall_mem_cons.mp others).2⟩

variable [LT κ] [DecidableLT κ]

def insertEntry (key : κ) (value : α) : List (κ × α) → List (κ × α)
  | [] => [(key, value)]
  | (other, existing) :: rest =>
      if key < other then (key, value) :: (other, existing) :: rest
      else if key = other then (key, value) :: rest
      else (other, existing) :: insertEntry key value rest

private theorem mem_insertEntry {key : κ} {value : α} {entries : List (κ × α)}
    {entry : κ × α} (h : entry ∈ insertEntry key value entries) :
    entry = (key, value) ∨ entry ∈ entries := by
  induction entries with
  | nil => simpa [insertEntry] using h
  | cons head rest ih =>
      simp only [insertEntry] at h
      split at h
      · simpa using h
      · split at h
        · rcases List.mem_cons.1 h with h | h
          · exact .inl h
          · exact .inr (List.mem_cons_of_mem _ h)
        · rcases List.mem_cons.1 h with h | h
          · exact .inr (h ▸ List.mem_cons_self)
          · exact (ih h).imp_right (List.mem_cons_of_mem _)

private theorem lookup_insertEntry (key : κ) (value : α) (entries : List (κ × α)) (asked : κ) :
    lookup asked (insertEntry key value entries) =
      if asked = key then some value else lookup asked entries := by
  induction entries with
  | nil => by_cases h : key = asked <;> simp [insertEntry, lookup, h, eq_comm]
  | cons head rest ih =>
      simp only [insertEntry]
      split
      · by_cases h : key = asked <;> simp [lookup, h, eq_comm]
      · split
        · next heq =>
            by_cases h : key = asked
            · simp [lookup, h]
            · have h' : ¬asked = key := fun e => h e.symm
              simp [lookup, h, h', heq ▸ h]
        · next hne =>
            by_cases h : head.1 = asked
            · have h' : ¬asked = key := fun e => hne (e ▸ h.symm)
              simp [lookup, h, h']
            · simp [lookup, h, ih]

private theorem insertEntry_perm {key : κ} {entries : List (κ × α)} (absent : lookup key entries = none)
    (value : α) : (insertEntry key value entries).Perm ((key, value) :: entries) := by
  induction entries with
  | nil => exact .refl _
  | cons head rest ih =>
      simp only [lookup] at absent
      split at absent
      next => cases absent
      next different =>
          simp only [insertEntry]
          split
          next => exact .refl _
          next =>
              rw [if_neg (Ne.symm different)]
              exact ((ih absent).cons head).trans (.swap _ _ _)

end Entries

section Ordered

variable [LT κ] [KeyOrder κ]

private theorem lt_of_not_lt_of_ne {key other : κ} (hlt : ¬key < other) (hne : key ≠ other) :
    other < key := by
  rcases KeyOrder.linear key other with h | h | h
  · exact absurd h hlt
  · exact absurd h hne
  · exact h

variable [DecidableEq κ]

private theorem lookup_eq_none_of_lt {key : κ} {entries : List (κ × α)}
    (h : ∀ entry ∈ entries, key < entry.1) : lookup key entries = none := by
  induction entries with
  | nil => rfl
  | cons head rest ih =>
      have hne : head.1 ≠ key := fun e =>
        KeyOrder.irrefl key (by simpa [e] using h head List.mem_cons_self)
      simp [lookup, hne, ih fun entry hmem => h entry (List.mem_cons_of_mem _ hmem)]

theorem lookup_eq_some_iff {key : κ} {value : α} {entries : List (κ × α)}
    (ordered : entries.Pairwise (fun first second => first.1 < second.1)) :
    lookup key entries = some value ↔ (key, value) ∈ entries := by
  induction entries with
  | nil => simp [lookup]
  | cons head rest ih =>
      obtain ⟨other, existing⟩ := head
      obtain ⟨before, ordered⟩ := List.pairwise_cons.1 ordered
      by_cases h : other = key
      · subst h
        have absent : (other, value) ∉ rest := fun hmem =>
          KeyOrder.irrefl other (before (other, value) hmem)
        simp [lookup, absent, eq_comm]
      · have h' : ¬key = other := fun e => h e.symm
        simp [lookup, h, h', ih ordered]

private theorem not_lt_head {head other : κ × α} {rest others : List (κ × α)}
    (ordered : (other :: others).Pairwise (fun first second => first.1 < second.1))
    (same : ∀ key, lookup key (head :: rest) = lookup key (other :: others)) :
    ¬head.1 < other.1 := by
  intro before
  have absent : lookup head.1 (other :: others) = none := by
    apply lookup_eq_none_of_lt
    intro entry member
    rcases List.mem_cons.1 member with rfl | member
    · exact before
    · exact KeyOrder.trans before ((List.pairwise_cons.1 ordered).1 entry member)
  have found := same head.1
  rw [absent] at found
  simp [lookup] at found

theorem entries_eq_of_lookup_eq {first second : List (κ × α)}
    (hfirst : first.Pairwise (fun a b => a.1 < b.1))
    (hsecond : second.Pairwise (fun a b => a.1 < b.1))
    (h : ∀ key, lookup key first = lookup key second) : first = second := by
  induction first generalizing second with
  | nil =>
      cases second with
      | nil => rfl
      | cons head rest => simpa [lookup] using h head.1
  | cons head rest ih =>
      cases second with
      | nil => simpa [lookup] using h head.1
      | cons other others =>
          have hkey : head.1 = other.1 := by
            rcases KeyOrder.linear head.1 other.1 with hlt | heq | hlt
            · exact absurd hlt (not_lt_head hsecond h)
            · exact heq
            · exact absurd hlt (not_lt_head hfirst fun key => (h key).symm)
          have hvalue : head.2 = other.2 := by
            have := h head.1
            simpa [lookup, hkey] using this
          obtain ⟨before, hfirst⟩ := List.pairwise_cons.1 hfirst
          obtain ⟨before', hsecond⟩ := List.pairwise_cons.1 hsecond
          have hrest : rest = others := by
            apply ih hfirst hsecond
            intro key
            by_cases hk : head.1 = key
            · rw [lookup_eq_none_of_lt fun entry hmem => hk ▸ before entry hmem,
                lookup_eq_none_of_lt fun entry hmem => hk ▸ hkey ▸ before' entry hmem]
            · have := h key
              simpa [lookup, hk, hkey ▸ hk] using this
          rw [hrest, Prod.ext hkey hvalue]

private theorem eraseEntry_perm {key : κ} {value : α} {entries : List (κ × α)}
    (ordered : entries.Pairwise (fun first second => first.1 < second.1))
    (found : lookup key entries = some value) :
    ((key, value) :: eraseEntry key entries).Perm entries := by
  induction entries with
  | nil => cases found
  | cons head rest ih =>
      obtain ⟨before, ordered⟩ := List.pairwise_cons.1 ordered
      simp only [lookup] at found
      split at found
      next same =>
          obtain rfl : head = (key, value) := Prod.ext same (Option.some.inj found)
          have others : ∀ entry ∈ rest, decide (entry.1 ≠ key) = true := by
            intro entry member
            refine decide_eq_true fun again => KeyOrder.irrefl key ?_
            simpa [again] using before entry member
          rw [eraseEntry, List.filter_cons_of_neg (by simp), List.filter_eq_self.2 others]
      next different =>
          rw [eraseEntry, List.filter_cons_of_pos (by simpa using different)]
          exact (List.Perm.swap _ _ _).trans ((ih ordered found).cons head)

private theorem insertEntry_ordered [DecidableLT κ] (key : κ) (value : α) {entries : List (κ × α)}
    (ordered : entries.Pairwise (fun first second => first.1 < second.1)) :
    (insertEntry key value entries).Pairwise (fun first second => first.1 < second.1) := by
  induction entries with
  | nil => simp [insertEntry]
  | cons head rest ih =>
      obtain ⟨before, ordered⟩ := List.pairwise_cons.1 ordered
      simp only [insertEntry]
      split
      next hlt =>
        refine List.pairwise_cons.2 ⟨fun entry h => ?_, List.pairwise_cons.2 ⟨before, ordered⟩⟩
        rcases List.mem_cons.1 h with h | h
        · exact h ▸ hlt
        · exact KeyOrder.trans hlt (before entry h)
      next hlt =>
        split
        next heq => exact List.pairwise_cons.2 ⟨heq ▸ before, ordered⟩
        next hne =>
          refine List.pairwise_cons.2 ⟨fun entry h => ?_, ih ordered⟩
          rcases mem_insertEntry h with h | h
          · exact h ▸ lt_of_not_lt_of_ne hlt hne
          · exact before entry h

end Ordered

variable [LT κ]

@[ext] theorem ext_entries {first second : Table κ α} (h : first.entries = second.entries) :
    first = second := by
  cases first
  cases second
  simp_all

instance [DecidableEq κ] [DecidableEq α] : DecidableEq (Table κ α) := fun first second =>
  decidable_of_iff (first.entries = second.entries)
    ⟨ext_entries, fun h => h ▸ rfl⟩

def empty : Table κ α := ⟨[], .nil⟩

instance : EmptyCollection (Table κ α) := ⟨empty⟩

instance : Inhabited (Table κ α) := ⟨empty⟩

def restrict (table : Table κ α) (keep : κ → Bool) : Table κ α :=
  ⟨table.entries.filter fun entry => keep entry.1, table.ordered.filter _⟩

def keys (table : Table κ α) : List κ :=
  table.entries.map (·.1)

def values (table : Table κ α) : List α :=
  table.entries.map (·.2)

def size (table : Table κ α) : Nat :=
  table.entries.length

theorem nodup_keys [KeyOrder κ] (table : Table κ α) : table.keys.Nodup := by
  refine List.pairwise_map.mpr (table.ordered.imp ?_)
  intro first second before same
  exact KeyOrder.irrefl _ (same ▸ before)

variable [DecidableEq κ]

def erase (table : Table κ α) (key : κ) : Table κ α :=
  ⟨eraseEntry key table.entries, table.ordered.filter _⟩

def get? (table : Table κ α) (key : κ) : Option α :=
  lookup key table.entries

def contains (table : Table κ α) (key : κ) : Bool :=
  (table.get? key).isSome

@[simp] theorem get?_empty (key : κ) : (empty : Table κ α).get? key = none := rfl

@[simp] theorem get?_erase (table : Table κ α) (key asked : κ) :
    (table.erase key).get? asked = if asked = key then none else table.get? asked :=
  lookup_eraseEntry key table.entries asked

@[simp] theorem get?_restrict (table : Table κ α) (keep : κ → Bool) (asked : κ) :
    (table.restrict keep).get? asked = if keep asked then table.get? asked else none :=
  lookup_filter keep table.entries asked

theorem get?_of_get?_erase {table : Table κ α} {key erased : κ} {value : α}
    (h : (table.erase erased).get? key = some value) : table.get? key = some value := by
  rw [get?_erase] at h
  split at h
  · cases h
  · exact h

variable [KeyOrder κ]

theorem mem_values_iff {table : Table κ α} {value : α} :
    value ∈ table.values ↔ ∃ key, table.get? key = some value := by
  simp [values, get?, lookup_eq_some_iff table.ordered]

theorem mem_keys_iff {table : Table κ α} {key : κ} :
    key ∈ table.keys ↔ ∃ value, table.get? key = some value := by
  simp [keys, get?, lookup_eq_some_iff table.ordered]

theorem ext_get? {first second : Table κ α} (h : ∀ key, first.get? key = second.get? key) :
    first = second :=
  ext_entries (entries_eq_of_lookup_eq first.ordered second.ordered h)

theorem erase_of_get? {table : Table κ α} {key : κ} (h : table.get? key = none) :
    table.erase key = table := by
  apply ext_get?
  intro asked
  rw [get?_erase]
  split
  next heq => rw [heq, h]
  next => rfl

theorem values_erase_perm {table : Table κ α} {key : κ} {value : α}
    (found : table.get? key = some value) :
    (value :: (table.erase key).values).Perm table.values :=
  (eraseEntry_perm table.ordered found).map Prod.snd

variable [DecidableLT κ]

def insert (table : Table κ α) (key : κ) (value : α) : Table κ α :=
  ⟨insertEntry key value table.entries, insertEntry_ordered key value table.ordered⟩

def singleton (key : κ) (value : α) : Table κ α :=
  empty.insert key value

/-- Of two entries with one key the later stays. -/
def ofList (entries : List (κ × α)) : Table κ α :=
  entries.foldl (fun table entry => table.insert entry.1 entry.2) empty

@[simp] theorem get?_insert (table : Table κ α) (key asked : κ) (value : α) :
    (table.insert key value).get? asked =
      if asked = key then some value else table.get? asked :=
  lookup_insertEntry key value table.entries asked

@[simp] theorem get?_singleton (key asked : κ) (value : α) :
    (singleton key value).get? asked = if asked = key then some value else none := by
  simp [singleton]

private theorem get?_foldl_insert (entries : List (κ × α)) (table : Table κ α) (asked : κ) :
    (entries.foldl (fun table entry => table.insert entry.1 entry.2) table).get? asked =
      (lookup asked entries.reverse).or (table.get? asked) := by
  induction entries generalizing table with
  | nil => rfl
  | cons head rest ih =>
      rw [List.foldl_cons, ih, get?_insert, List.reverse_cons, lookup_append, Option.or_assoc]
      by_cases h : head.1 = asked
      · simp [lookup, h]
      · have h' : ¬asked = head.1 := fun e => h e.symm
        simp [lookup, h, h']

theorem get?_ofList (entries : List (κ × α)) (asked : κ) :
    (ofList entries).get? asked = lookup asked entries.reverse := by
  rw [ofList, get?_foldl_insert, get?_empty, Option.or_none]

/-- Of several entries with one key the last stays. -/
theorem get?_ofList_eq_some_iff {key : κ} {value : α} {entries : List (κ × α)} :
    (ofList entries).get? key = some value ↔
      ∃ front back, entries = front ++ (key, value) :: back ∧ ∀ entry ∈ back, entry.1 ≠ key := by
  rw [get?_ofList, lookup_eq_some_iff_split]
  constructor
  · rintro ⟨front, back, split, others⟩
    refine ⟨back.reverse, front.reverse, ?_, ?_⟩
    · rw [← List.reverse_inj, split]
      simp
    · simpa using others
  · rintro ⟨front, back, rfl, others⟩
    exact ⟨back.reverse, front.reverse, by simp, by simpa using others⟩

theorem insert_insert (table : Table κ α) (key : κ) (first second : α) :
    (table.insert key first).insert key second = table.insert key second := by
  apply ext_get?
  intro asked
  simp only [get?_insert]
  split <;> rfl

theorem insert_of_get? {table : Table κ α} {key : κ} {value : α}
    (h : table.get? key = some value) : table.insert key value = table := by
  apply ext_get?
  intro asked
  rw [get?_insert]
  split
  next heq => rw [heq, h]
  next => rfl

theorem erase_insert (table : Table κ α) (key : κ) (value : α) :
    (table.insert key value).erase key = table.erase key := by
  apply ext_get?
  intro asked
  simp only [get?_erase, get?_insert]
  split <;> rfl

theorem insert_erase (table : Table κ α) (key : κ) (value : α) :
    (table.erase key).insert key value = table.insert key value := by
  apply ext_get?
  intro asked
  simp only [get?_insert, get?_erase]
  split <;> rfl

theorem values_insert_perm {table : Table κ α} {key : κ} (absent : table.get? key = none)
    (value : α) : (table.insert key value).values.Perm (value :: table.values) :=
  (insertEntry_perm absent value).map Prod.snd

end Table

end ShootKubeconfig
