import ShootKubeconfig.Json.Binary64
import ShootKubeconfig.Table

namespace ShootKubeconfig

inductive Json where
  | null
  | boolean (value : Bool)
  | integer (value : Int)
  | fraction (value : Binary64)
  | text (value : String)
  | list (items : List Json)
  | object (fields : List (String × Json))
  deriving Inhabited

namespace Json

mutual

def beq : Json → Json → Bool
  | .null, .null => true
  | .boolean a, .boolean b => a == b
  | .integer a, .integer b => a == b
  | .fraction a, .fraction b => a == b
  | .text a, .text b => a == b
  | .list a, .list b => beqItems a b
  | .object a, .object b => beqFields a b
  | _, _ => false

def beqItems : List Json → List Json → Bool
  | [], [] => true
  | a :: as, b :: bs => beq a b && beqItems as bs
  | _, _ => false

def beqFields : List (String × Json) → List (String × Json) → Bool
  | [], [] => true
  | (name, a) :: as, (other, b) :: bs => name == other && beq a b && beqFields as bs
  | _, _ => false

end

mutual

private theorem eq_of_beq : ∀ {a b : Json}, beq a b = true → a = b
  | .null, b, h => by cases b <;> simp_all [beq]
  | .boolean _, b, h => by cases b <;> simp_all [beq]
  | .integer _, b, h => by cases b <;> simp_all [beq]
  | .fraction _, b, h => by cases b <;> simp_all [beq]
  | .text _, b, h => by cases b <;> simp_all [beq]
  | .list as, b, h => by
      cases b with
      | list bs => exact congrArg Json.list (eq_of_beqItems (by simpa [beq] using h))
      | _ => simp [beq] at h
  | .object as, b, h => by
      cases b with
      | object bs => exact congrArg Json.object (eq_of_beqFields (by simpa [beq] using h))
      | _ => simp [beq] at h

private theorem eq_of_beqItems : ∀ {as bs : List Json}, beqItems as bs = true → as = bs
  | [], bs, h => by cases bs <;> simp_all [beqItems]
  | a :: as, bs, h => by
      cases bs with
      | nil => simp [beqItems] at h
      | cons b bs =>
          simp only [beqItems, Bool.and_eq_true] at h
          rw [eq_of_beq h.1, eq_of_beqItems h.2]

private theorem eq_of_beqFields :
    ∀ {as bs : List (String × Json)}, beqFields as bs = true → as = bs
  | [], bs, h => by cases bs <;> simp_all [beqFields]
  | (name, a) :: as, bs, h => by
      cases bs with
      | nil => simp [beqFields] at h
      | cons b bs =>
          obtain ⟨other, b⟩ := b
          simp only [beqFields, Bool.and_eq_true, beq_iff_eq] at h
          rw [h.1.1, eq_of_beq h.1.2, eq_of_beqFields h.2]

end

mutual

private theorem beq_refl : ∀ a : Json, beq a a = true
  | .null => rfl
  | .boolean _ => by simp [beq]
  | .integer _ => by simp [beq]
  | .fraction _ => by simp [beq]
  | .text _ => by simp [beq]
  | .list as => by simp [beq, beqItems_refl as]
  | .object as => by simp [beq, beqFields_refl as]

private theorem beqItems_refl : ∀ as : List Json, beqItems as as = true
  | [] => rfl
  | a :: as => by simp [beqItems, beq_refl a, beqItems_refl as]

private theorem beqFields_refl : ∀ as : List (String × Json), beqFields as as = true
  | [] => rfl
  | (_, a) :: as => by simp [beqFields, beq_refl a, beqFields_refl as]

end

instance : DecidableEq Json := fun a b =>
  if h : beq a b = true then .isTrue (eq_of_beq h)
  else .isFalse fun e => h (e ▸ beq_refl a)

/-- Of two fields with one name the later stays. -/
def ofFields (fields : List (String × Json)) : Json :=
  .object (Table.ofList fields).entries

/-- A field of an object, where a missing field reads as null. -/
def field (value : Json) (name : String) : Json :=
  match value with
  | .object fields => (Table.lookup name fields).getD .null
  | _ => .null

def field? (value : Json) (name : String) : Option Json :=
  match value with
  | .object fields => Table.lookup name fields
  | _ => none

def isObject : Json → Bool
  | .object _ => true
  | _ => false

end Json

end ShootKubeconfig
