import Mathlib.Data.Nat.Digits.Defs
import Mathlib.Tactic.Positivity
import ShootKubeconfig.Proofs.Except
import ShootKubeconfig.Proofs.Text.Run
import ShootKubeconfig.Quantity

/-!
Which texts are read as amounts, and what they are read as.

A written amount is a decimal integer followed by a power of ten or by the letters of a unit. The
reader finds whatever way there is to write a text, so its result can be told from that way alone.
-/

namespace ShootKubeconfig.Quantity

section Grammar

/-- The number that decimal digits spell, the last of them counting least. -/
def decimal (digits : List Char) : Nat :=
  Nat.ofDigits 10 (digits.reverse.map fun digit => digit.toNat - '0'.toNat)

structure Digits (text : List Char) : Prop where
  nonempty : text ≠ []
  all : ∀ c ∈ text, c.isDigit = true

/-- A text is an integer in decimal digits, with or without a sign. -/
inductive Spells : List Char → Int → Prop where
  | unsigned {digits : List Char} (decimals : Digits digits) : Spells digits (decimal digits)
  | plus {digits : List Char} (decimals : Digits digits) :
      Spells ('+' :: digits) (decimal digits)
  | minus {digits : List Char} (decimals : Digits digits) :
      Spells ('-' :: digits) (-decimal digits)

inductive Measure where
  | power (exponent : Int)
  | unit (letters : List Char)

inductive Written : List Char → Int → Measure → Prop where
  | power {front back : List Char} {mark : Char} {amount exponent : Int}
      (leads : Spells front amount) (marked : mark = 'e' ∨ mark = 'E')
      (follows : Spells back exponent) :
      Written (front ++ mark :: back) amount (.power exponent)
  | unit {front letters : List Char} {amount : Int}
      (leads : Spells front amount) (short : letters.length ≤ 2)
      (alphabetic : ∀ c ∈ letters, c.isAlpha = true) :
      Written (front ++ letters) amount (.unit letters)

/-- The suffixes of the units, each with the thousandths that its unit has. -/
def units : List (String × Int) :=
  [("", 10 ^ 3), ("m", 1),
    ("k", 10 ^ 6), ("M", 10 ^ 9), ("G", 10 ^ 12), ("T", 10 ^ 15), ("P", 10 ^ 18), ("E", 10 ^ 21),
    ("Ki", 1000 * 2 ^ 10), ("Mi", 1000 * 2 ^ 20), ("Gi", 1000 * 2 ^ 30), ("Ti", 1000 * 2 ^ 40),
    ("Pi", 1000 * 2 ^ 50), ("Ei", 1000 * 2 ^ 60)]

/-- How many thousandths one of a measure is. -/
inductive Measure.Counts : Measure → Int → Prop where
  | power (exponent : Nat) : Counts (.power exponent) (1000 * 10 ^ exponent)
  | unit {suffix : String} {factor : Int} (listed : (suffix, factor) ∈ units) :
      Counts (.unit suffix.toList) factor

/-- A text is an amount of so many thousandths, with nothing in it out of range. -/
inductive Denotes (written : List Char) : Int → Prop where
  | product {amount factor : Int} {measure : Measure} (shaped : Written written amount measure)
      (amountFits : Fits amount) (counted : measure.Counts factor) (factorFits : Fits factor)
      (fits : Fits (amount * factor)) : Denotes written (amount * factor)

/-- What is wrong with a text. Each defect is reported only where none before it applies. -/
inductive Fails (written : List Char) : Malformed → Prop where
  | shape (unwritten : ∀ amount measure, ¬Written written amount measure) :
      Fails written (.shape (String.ofList written))
  | amountTooLarge {amount : Int} {measure : Measure} (shaped : Written written amount measure)
      (above : 2 ^ 127 ≤ amount) : Fails written .integerTooLarge
  | amountTooSmall {amount : Int} {measure : Measure} (shaped : Written written amount measure)
      (below : amount < -2 ^ 127) : Fails written .integerTooSmall
  | exponentTooLarge {amount exponent : Int} (shaped : Written written amount (.power exponent))
      (amountFits : Fits amount) (above : 2 ^ 31 ≤ exponent) : Fails written .integerTooLarge
  | exponentTooSmall {amount exponent : Int} (shaped : Written written amount (.power exponent))
      (amountFits : Fits amount) (below : exponent < -2 ^ 31) : Fails written .integerTooSmall
  | negativeExponent {amount exponent : Int} (shaped : Written written amount (.power exponent))
      (amountFits : Fits amount) (within : -2 ^ 31 ≤ exponent) (negative : exponent < 0) :
      Fails written (.shape (String.ofList written))
  | unknownUnit {amount : Int} {letters : List Char}
      (shaped : Written written amount (.unit letters)) (amountFits : Fits amount)
      (unknown : ∀ factor, ¬(Measure.unit letters).Counts factor) :
      Fails written (.suffix (String.ofList written))
  | powerOutOfRange {amount : Int} {exponent : Nat}
      (shaped : Written written amount (.power exponent)) (amountFits : Fits amount)
      (within : exponent < 2 ^ 31) (large : ¬Fits (1000 * 10 ^ exponent)) :
      Fails written (.outOfRange (String.ofList written))
  | outOfRange {amount factor : Int} {measure : Measure} (shaped : Written written amount measure)
      (amountFits : Fits amount) (counted : measure.Counts factor) (factorFits : Fits factor)
      (large : ¬Fits (amount * factor)) : Fails written (.outOfRange (String.ofList written))

end Grammar

section Numerals

variable {text front rest digits : List Char} {value : Int} {numeral : Numeral}

theorem natural_eq_decimal (digits : List Char) : natural digits = decimal digits := by
  rw [decimal, Nat.ofDigits_eq_foldr, List.foldr_map, List.foldr_reverse, natural]
  congr 1
  funext value digit
  simp only [Nat.cast_id]
  omega

theorem splitDigits_eq_iff :
    splitDigits text = (digits, rest) ↔
      text = digits ++ rest ∧ (∀ c ∈ digits, c.isDigit = true) ∧
        ∀ c, rest.head? = some c → c.isDigit = false := by
  simp only [splitDigits, Prod.mk.injEq]
  exact Text.run_iff

/-- Digits that stand first, read as an integer whose sign is known. -/
def afterSign? (negative : Bool) (text : List Char) : Option (Numeral × List Char) :=
  match splitDigits text with
  | ([], _) => none
  | (digits, rest) => some (⟨negative, digits⟩, rest)

private theorem numeral?_plus (text : List Char) : numeral? ('+' :: text) = afterSign? false text := rfl

private theorem numeral?_minus (text : List Char) : numeral? ('-' :: text) = afterSign? true text := rfl

private theorem numeral?_unsigned (noPlus : text.head? ≠ some '+') (noMinus : text.head? ≠ some '-') :
    numeral? text = afterSign? false text := by
  unfold numeral?
  split
  next negative digits signed =>
    split at signed
    · exact absurd rfl noPlus
    · exact absurd rfl noMinus
    · cases signed
      rfl

private theorem afterSign?_eq_some_iff {negative : Bool} :
    afterSign? negative text = some (numeral, rest) ↔
      ∃ digits, Digits digits ∧ numeral = ⟨negative, digits⟩ ∧ text = digits ++ rest ∧
        ∀ c, rest.head? = some c → c.isDigit = false := by
  unfold afterSign?
  constructor
  · intro read
    split at read
    · cases read
    · next digits _ nonempty split =>
        cases read
        obtain ⟨same, all, stops⟩ := splitDigits_eq_iff.mp split
        exact ⟨digits, ⟨nonempty, all⟩, rfl, same, stops⟩
  · rintro ⟨digits, decimals, rfl, rfl, stops⟩
    rw [splitDigits_eq_iff.mpr ⟨rfl, decimals.all, stops⟩]
    obtain ⟨c, digits, rfl⟩ := List.exists_cons_of_ne_nil decimals.nonempty
    rfl

private theorem value_unsigned (digits : List Char) : Numeral.value ⟨false, digits⟩ = decimal digits := by
  simp [Numeral.value, natural_eq_decimal]

private theorem value_negative (digits : List Char) : Numeral.value ⟨true, digits⟩ = -decimal digits := by
  simp [Numeral.value, natural_eq_decimal]

theorem Spells.numeral? (spelled : Spells front value)
    (stops : ∀ c, rest.head? = some c → c.isDigit = false) :
    ∃ numeral, numeral? (front ++ rest) = some (numeral, rest) ∧ numeral.value = value := by
  cases spelled with
  | unsigned decimals =>
      refine ⟨_, ?_, value_unsigned front⟩
      have read : afterSign? false (front ++ rest) = some (⟨false, front⟩, rest) :=
        afterSign?_eq_some_iff.mpr ⟨front, decimals, rfl, rfl, stops⟩
      obtain ⟨c, digits, rfl⟩ := List.exists_cons_of_ne_nil decimals.nonempty
      have isDigit := decimals.all c List.mem_cons_self
      have notSign {sign : Char} (other : sign.isDigit = false) : c ≠ sign := by
        rintro rfl
        cases isDigit.symm.trans other
      rw [numeral?_unsigned (by simp [notSign]) (by simp [notSign])]
      exact read
  | plus decimals =>
      refine ⟨_, ?_, value_unsigned _⟩
      rw [List.cons_append, numeral?_plus]
      exact afterSign?_eq_some_iff.mpr ⟨_, decimals, rfl, rfl, stops⟩
  | minus decimals =>
      refine ⟨_, ?_, value_negative _⟩
      rw [List.cons_append, numeral?_minus]
      exact afterSign?_eq_some_iff.mpr ⟨_, decimals, rfl, rfl, stops⟩

theorem spells_of_numeral? (read : numeral? text = some (numeral, rest)) :
    ∃ front, Spells front numeral.value ∧ text = front ++ rest := by
  by_cases plus : text.head? = some '+'
  · obtain ⟨rest, rfl⟩ := List.head?_eq_some_iff.mp plus
    obtain ⟨digits, decimals, rfl, rfl, _⟩ := afterSign?_eq_some_iff.mp read
    exact ⟨'+' :: digits, value_unsigned digits ▸ .plus decimals, rfl⟩
  · by_cases minus : text.head? = some '-'
    · obtain ⟨rest, rfl⟩ := List.head?_eq_some_iff.mp minus
      obtain ⟨digits, decimals, rfl, rfl, _⟩ := afterSign?_eq_some_iff.mp read
      exact ⟨'-' :: digits, value_negative digits ▸ .minus decimals, rfl⟩
    · rw [numeral?_unsigned plus minus] at read
      obtain ⟨digits, decimals, rfl, rfl, _⟩ := afterSign?_eq_some_iff.mp read
      exact ⟨digits, value_unsigned digits ▸ .unsigned decimals, rfl⟩

theorem Spells.exists_digit (spelled : Spells text value) : ∃ c ∈ text, c.isDigit = true := by
  have ofDigits {digits : List Char} (decimals : Digits digits) :
      ∃ c ∈ digits, c.isDigit = true := by
    obtain ⟨c, member⟩ := List.exists_mem_of_ne_nil digits decimals.nonempty
    exact ⟨c, member, decimals.all c member⟩
  cases spelled with
  | unsigned decimals => exact ofDigits decimals
  | plus decimals | minus decimals =>
      obtain ⟨c, member, isDigit⟩ := ofDigits decimals
      exact ⟨c, List.mem_cons_of_mem _ member, isDigit⟩

end Numerals

section Shapes

def Scale.measure : Scale → Measure
  | .exponent numeral => .power numeral.value
  | .suffix letters => .unit letters

variable {text front rest letters : List Char} {numeral : Numeral} {amount : Int} {scale : Scale}
  {measure : Measure}

private theorem not_isDigit_of_isAlpha {c : Char} (alphabetic : c.isAlpha = true) : c.isDigit = false := by
  have letter : (65 ≤ c.toNat ∧ c.toNat ≤ 90) ∨ (97 ≤ c.toNat ∧ c.toNat ≤ 122) := by
    rcases Bool.or_eq_true_iff.mp alphabetic with upper | lower
    · exact .inl (of_decide_eq_true upper)
    · obtain ⟨low, high⟩ := Bool.and_eq_true_iff.mp lower
      exact .inr ⟨of_decide_eq_true low, of_decide_eq_true high⟩
  refine Bool.and_eq_false_iff.mpr (.inr (decide_eq_false fun digit => ?_))
  have low : c.toNat ≤ 57 := digit
  omega

theorem exponent?_eq_some_iff :
    exponent? text = some numeral ↔
      ∃ mark back, text = mark :: back ∧ (mark = 'e' ∨ mark = 'E') ∧
        numeral? back = some (numeral, []) := by
  cases text with
  | nil => simp [exponent?]
  | cons mark back =>
      by_cases marked : mark = 'e' ∨ mark = 'E'
      · simp only [exponent?, if_pos marked]
        cases read : numeral? back with
        | none => simp [read]
        | some pair =>
            obtain ⟨other, rest⟩ := pair
            cases rest <;> simp [read, marked]
      · simp [exponent?, marked]

private theorem exponent?_of_alphabetic (alphabetic : ∀ c ∈ letters, c.isAlpha = true) :
    exponent? letters = none := by
  rw [Option.eq_none_iff_forall_ne_some]
  intro numeral read
  obtain ⟨mark, back, rfl, _, readBack⟩ := exponent?_eq_some_iff.mp read
  obtain ⟨front, spelled, same⟩ := spells_of_numeral? readBack
  rw [List.append_nil] at same
  obtain ⟨c, member, isDigit⟩ := spelled.exists_digit
  rw [← same] at member
  have notDigit := not_isDigit_of_isAlpha (alphabetic c (List.mem_cons_of_mem mark member))
  rw [isDigit] at notDigit
  cases notDigit

private theorem scale?_of_alphabetic (short : letters.length ≤ 2)
    (alphabetic : ∀ c ∈ letters, c.isAlpha = true) : scale? letters = some (.suffix letters) := by
  have all : letters.all Char.isAlpha = true := List.all_eq_true.mpr alphabetic
  simp only [scale?, exponent?_of_alphabetic alphabetic, short, all, and_self, if_true]

theorem shape?_of_scale? (spelled : Spells front amount)
    (stops : ∀ c, rest.head? = some c → c.isDigit = false) (read : scale? rest = some scale) :
    ∃ numeral, shape? (front ++ rest) = some (numeral, scale) ∧ numeral.value = amount := by
  obtain ⟨numeral, readFront, value⟩ := spelled.numeral? stops
  exact ⟨numeral, by simp [shape?, readFront, read], value⟩

theorem Written.shape? (shaped : Written text amount measure) :
    ∃ numeral scale, shape? text = some (numeral, scale) ∧ numeral.value = amount ∧
      scale.measure = measure := by
  -- An `E` is both a mark and a letter. It is a mark only before a digit or a sign, so that the two
  -- ways to write an amount never compete for a text.
  cases shaped with
  | @power _ back mark _ _ leads marked follows =>
      have ends : ∀ c, ([] : List Char).head? = some c → c.isDigit = false := by
        rintro c ⟨⟩
      obtain ⟨exponent, readBack, value⟩ := follows.numeral? ends
      rw [List.append_nil] at readBack
      have stops : ∀ c, (mark :: back).head? = some c → c.isDigit = false := by
        rintro c ⟨⟩
        rcases marked with rfl | rfl <;> rfl
      have read : scale? (mark :: back) = some (.exponent exponent) := by
        simp [scale?, exponent?_eq_some_iff.mpr ⟨mark, back, rfl, marked, readBack⟩]
      obtain ⟨numeral, readAll, same⟩ := shape?_of_scale? leads stops read
      exact ⟨numeral, .exponent exponent, readAll, same, congrArg Measure.power value⟩
  | @unit _ letters _ leads short alphabetic =>
      have stops : ∀ c, letters.head? = some c → c.isDigit = false := fun c first =>
        not_isDigit_of_isAlpha (alphabetic c (List.mem_of_mem_head? first))
      obtain ⟨numeral, readAll, same⟩ :=
        shape?_of_scale? leads stops (scale?_of_alphabetic short alphabetic)
      exact ⟨numeral, .suffix letters, readAll, same, rfl⟩

theorem written_of_shape? (read : shape? text = some (numeral, scale)) :
    Written text numeral.value scale.measure := by
  simp only [shape?, Option.bind_eq_bind, Option.bind_eq_some_iff, Option.pure_def,
    Option.some.injEq, Prod.mk.injEq, Prod.exists] at read
  obtain ⟨_, rest, readFront, _, readRest, rfl, rfl⟩ := read
  obtain ⟨front, leads, rfl⟩ := spells_of_numeral? readFront
  unfold scale? at readRest
  split at readRest
  · next exponent marked =>
      cases readRest
      obtain ⟨mark, back, rfl, marked, readBack⟩ := exponent?_eq_some_iff.mp marked
      obtain ⟨back', follows, same⟩ := spells_of_numeral? readBack
      rw [List.append_nil] at same
      exact .power leads marked (same ▸ follows)
  · split at readRest
    · next accepted =>
        cases readRest
        exact .unit leads accepted.1 (by simpa using accepted.2)
    · cases readRest

theorem shape?_eq_none_iff :
    shape? text = none ↔ ∀ amount measure, ¬Written text amount measure := by
  constructor
  · intro unread amount measure shaped
    obtain ⟨numeral, scale, read, _, _⟩ := shaped.shape?
    rw [unread] at read
    cases read
  · intro unwritten
    cases read : shape? text with
    | none => rfl
    | some pair => exact absurd (written_of_shape? read) (unwritten _ _)

end Shapes

section Values

variable {amount factor lowest highest : Int} {numeral : Numeral} {letters : List Char}
  {measure : Measure}

private theorem within_of_mem (low : lowest ≤ numeral.value) (high : numeral.value ≤ highest) :
    numeral.within lowest highest = .ok numeral.value := by
  rw [Numeral.within, if_neg (by omega), if_neg (by omega)]

private theorem within_of_gt (above : highest < numeral.value) :
    numeral.within lowest highest = .error .integerTooLarge :=
  if_pos above

private theorem within_of_lt (below : numeral.value < lowest) (ordered : lowest ≤ highest) :
    numeral.within lowest highest = .error .integerTooSmall := by
  rw [Numeral.within, if_neg (by omega), if_pos below]

private theorem scaled_of_fits {text : String} (fits : Fits (amount * factor)) :
    scaled text amount factor = .ok (amount * factor) := by
  simp [scaled, bounded?, fits]

private theorem scaled_of_not_fits {text : String} (large : ¬Fits (amount * factor)) :
    scaled text amount factor = .error (.outOfRange text) := by
  simp [scaled, bounded?, large]

private theorem thousandths?_of_listed : ∀ entry ∈ units, thousandths? entry.1.toList = some entry.2 := by
  decide

theorem thousandths?_eq_some_iff :
    thousandths? letters = some factor ↔ (Measure.unit letters).Counts factor := by
  constructor
  · intro known
    have listed : (String.ofList letters, factor) ∈ units := by
      unfold thousandths? at known
      split at known <;> cases known <;> decide
    have counted := Measure.Counts.unit listed
    rwa [String.toList_ofList] at counted
  · intro counted
    cases counted with
    | unit listed => exact thousandths?_of_listed _ listed

theorem counts_power_iff {exponent : Int} :
    (Measure.power exponent).Counts factor ↔
      ∃ power : Nat, exponent = power ∧ factor = 1000 * 10 ^ power := by
  constructor
  · rintro ⟨⟩
    exact ⟨_, rfl, rfl⟩
  · rintro ⟨power, rfl, rfl⟩
    exact .power power

theorem Measure.Counts.one_le (counted : measure.Counts factor) : 1 ≤ factor := by
  cases counted with
  | power exponent =>
      have positive : (0 : Int) < 10 ^ exponent := by positivity
      omega
  | unit listed =>
      have all : ∀ entry ∈ units, 1 ≤ entry.2 := by decide
      exact all _ listed

private theorem fits_of_listed : ∀ entry ∈ units, Fits entry.2 := by
  decide

theorem Measure.Counts.fits_of_le (counted : measure.Counts factor) (small : factor ≤ 2 ^ 127) :
    Fits factor := by
  -- `2 ^ 127` is just out of range, but no measure is that large.
  cases counted with
  | power exponent =>
      rw [fits_power_iff, largestExponent]
      by_contra large
      have least : (10 : Int) ^ 36 ≤ 10 ^ exponent :=
        pow_le_pow_right₀ (by decide) (by omega)
      omega
  | unit listed => exact fits_of_listed _ listed

/-- If an amount other than zero makes a product in range, all that it is made of is in range. -/
private theorem fits_of_fits_mul (nonzero : amount ≠ 0) (counted : measure.Counts factor)
    (fits : Fits (amount * factor)) : Fits amount ∧ Fits factor := by
  obtain ⟨low, high⟩ := fits
  have positive := counted.one_le
  rcases lt_or_gt_of_ne nonzero with negative | natural
  · have amountLow : amount * factor ≤ amount := mul_le_of_one_le_right negative.le positive
    have factorHigh : amount * factor ≤ -1 * factor :=
      mul_le_mul_of_nonneg_right (by omega) (by omega)
    exact ⟨⟨by omega, by omega⟩, counted.fits_of_le (by omega)⟩
  · have amountHigh : amount ≤ amount * factor := le_mul_of_one_le_right natural.le positive
    have factorHigh : factor ≤ amount * factor := le_mul_of_one_le_left (by omega) natural
    exact ⟨⟨by omega, by omega⟩, counted.fits_of_le (by omega)⟩

end Values

section Reading

variable {text : String} {value amount factor : Int} {failure : Malformed} {measure : Measure}
  {numeral : Numeral}

private theorem valueOf_power {power : Nat} (same : numeral.value = power) (within : power < 2 ^ 31) :
    valueOf text amount (.exponent numeral) =
      if Fits (1000 * 10 ^ power) then scaled text amount (1000 * 10 ^ power)
      else .error (.outOfRange text) := by
  have natural : ¬(power : Int) < 0 := by omega
  rw [valueOf, within_of_mem (by omega) (by omega), same]
  simp only [bind, Except.bind, natural, if_false, Int.toNat_natCast, fits_power_iff]

private theorem lt_of_fits_power {power : Nat} (fits : Fits (1000 * 10 ^ power)) : power < 2 ^ 31 := by
  rw [fits_power_iff, largestExponent] at fits
  omega

theorem valueOf_of_counts {scale : Scale} (counted : scale.measure.Counts factor)
    (factorFits : Fits factor) : valueOf text amount scale = scaled text amount factor := by
  cases scale with
  | exponent numeral =>
      obtain ⟨power, same, rfl⟩ := counts_power_iff.mp counted
      rw [valueOf_power same (lt_of_fits_power factorFits), if_pos factorFits]
  | suffix letters => rw [valueOf, thousandths?_eq_some_iff.mpr counted]

private theorem read_of_shape {scale : Scale}
    (shaped : shape? (Text.trimBlank text.toList) = some (numeral, scale)) :
    Quantity.read text = (numeral.within (-2 ^ 127) (2 ^ 127 - 1)).bind fun amount =>
      valueOf (String.ofList (Text.trimBlank text.toList)) amount scale := by
  rw [Quantity.read]
  simp only [shaped]
  rfl

/-- Once an amount is known to be in range, what is read only depends on its measure. -/
theorem read_of_written (shaped : Written (Text.trimBlank text.toList) amount measure)
    (fits : Fits amount) :
    ∃ scale, scale.measure = measure ∧
      Quantity.read text = valueOf (String.ofList (Text.trimBlank text.toList)) amount scale := by
  obtain ⟨numeral, scale, read, rfl, same⟩ := shaped.shape?
  have high := fits.2
  refine ⟨scale, same, ?_⟩
  rw [read_of_shape read, within_of_mem fits.1 (by omega)]
  rfl

theorem read_of_denotes (denotes : Denotes (Text.trimBlank text.toList) value) :
    Quantity.read text = .ok value := by
  obtain ⟨shaped, amountFits, counted, factorFits, fits⟩ := denotes
  obtain ⟨scale, rfl, same⟩ := read_of_written shaped amountFits
  rw [same, valueOf_of_counts counted factorFits]
  exact scaled_of_fits fits

private theorem read_of_power {exponent : Int}
    (shaped : Written (Text.trimBlank text.toList) amount (.power exponent))
    (fits : Fits amount) :
    ∃ numeral, numeral.value = exponent ∧ Quantity.read text =
      valueOf (String.ofList (Text.trimBlank text.toList)) amount (.exponent numeral) := by
  obtain ⟨scale, measured, same⟩ := read_of_written shaped fits
  cases scale with
  | exponent numeral => exact ⟨numeral, Measure.power.inj measured, same⟩
  | suffix letters => cases measured

theorem read_of_fails (fails : Fails (Text.trimBlank text.toList) failure) :
    Quantity.read text = .error failure := by
  cases fails with
  | shape unwritten =>
      rw [Quantity.read]
      simp only [shape?_eq_none_iff.mpr unwritten]
  | amountTooLarge shaped above =>
      obtain ⟨numeral, scale, read, rfl, _⟩ := shaped.shape?
      rw [read_of_shape read, within_of_gt (by omega)]
      rfl
  | amountTooSmall shaped below =>
      obtain ⟨numeral, scale, read, rfl, _⟩ := shaped.shape?
      rw [read_of_shape read, within_of_lt below (by decide)]
      rfl
  | exponentTooLarge shaped amountFits above =>
      obtain ⟨numeral, rfl, same⟩ := read_of_power shaped amountFits
      rw [same, valueOf, within_of_gt (by omega)]
      rfl
  | exponentTooSmall shaped amountFits below =>
      obtain ⟨numeral, rfl, same⟩ := read_of_power shaped amountFits
      rw [same, valueOf, within_of_lt below (by decide)]
      rfl
  | negativeExponent shaped amountFits within negative =>
      obtain ⟨numeral, rfl, same⟩ := read_of_power shaped amountFits
      rw [same, valueOf, within_of_mem within (by omega)]
      exact if_pos negative
  | unknownUnit shaped amountFits unknown =>
      obtain ⟨scale, measured, same⟩ := read_of_written shaped amountFits
      cases scale with
      | exponent numeral => cases measured
      | suffix letters =>
          obtain rfl := Measure.unit.inj measured
          rw [same, valueOf, Option.eq_none_iff_forall_ne_some.mpr fun factor known =>
            unknown factor (thousandths?_eq_some_iff.mp known)]
  | powerOutOfRange shaped amountFits within large =>
      obtain ⟨numeral, value, same⟩ := read_of_power shaped amountFits
      rw [same, valueOf_power value within, if_neg large]
  | outOfRange shaped amountFits counted factorFits large =>
      obtain ⟨scale, rfl, same⟩ := read_of_written shaped amountFits
      rw [same, valueOf_of_counts counted factorFits]
      exact scaled_of_not_fits large

theorem Written.fits_or_fails {written : List Char} (shaped : Written written amount measure) :
    Fits amount ∨ ∃ failure, Fails written failure := by
  by_cases above : 2 ^ 127 ≤ amount
  · exact .inr ⟨_, .amountTooLarge shaped above⟩
  · by_cases below : amount < -2 ^ 127
    · exact .inr ⟨_, .amountTooSmall shaped below⟩
    · exact .inl ⟨by omega, by omega⟩

theorem Written.counts_or_fails {written : List Char} (shaped : Written written amount measure)
    (amountFits : Fits amount) :
    (∃ factor, measure.Counts factor ∧ Fits factor) ∨ ∃ failure, Fails written failure := by
  cases measure with
  | power exponent =>
      by_cases above : 2 ^ 31 ≤ exponent
      · exact .inr ⟨_, .exponentTooLarge shaped amountFits above⟩
      · by_cases below : exponent < -2 ^ 31
        · exact .inr ⟨_, .exponentTooSmall shaped amountFits below⟩
        · by_cases negative : exponent < 0
          · exact .inr ⟨_, .negativeExponent shaped amountFits (by omega) negative⟩
          · obtain ⟨power, rfl⟩ := Int.eq_ofNat_of_zero_le (Int.not_lt.mp negative)
            by_cases factorFits : Fits (1000 * 10 ^ power)
            · exact .inl ⟨_, .power power, factorFits⟩
            · exact .inr ⟨_, .powerOutOfRange shaped amountFits (by omega) factorFits⟩
  | unit letters =>
      by_cases known : ∃ factor, (Measure.unit letters).Counts factor
      · obtain ⟨factor, counted⟩ := known
        refine .inl ⟨factor, counted, ?_⟩
        cases counted with
        | unit listed => exact fits_of_listed _ listed
      · exact .inr ⟨_, .unknownUnit shaped amountFits (not_exists.mp known)⟩

theorem denotes_or_fails (written : List Char) :
    (∃ value, Denotes written value) ∨ ∃ failure, Fails written failure := by
  by_cases shaped : ∃ amount measure, Written written amount measure
  · obtain ⟨amount, measure, shaped⟩ := shaped
    rcases shaped.fits_or_fails with amountFits | fails
    · rcases shaped.counts_or_fails amountFits with ⟨factor, counted, factorFits⟩ | fails
      · by_cases fits : Fits (amount * factor)
        · exact .inl ⟨_, .product shaped amountFits counted factorFits fits⟩
        · exact .inr ⟨_, .outOfRange shaped amountFits counted factorFits fits⟩
      · exact .inr fails
    · exact .inr fails
  · exact .inr ⟨_, .shape fun amount measure written => shaped ⟨amount, measure, written⟩⟩

theorem Denotes.fits {written : List Char} (denotes : Denotes written value) : Fits value := by
  cases denotes with
  | product _ _ _ _ fits => exact fits

theorem read_eq_ok_iff :
    Quantity.read text = .ok value ↔ Denotes (Text.trimBlank text.toList) value := by
  -- The text denotes something or fails, and either way that is what is read of it.
  refine ⟨fun read => ?_, read_of_denotes⟩
  rcases denotes_or_fails (Text.trimBlank text.toList) with ⟨other, denotes⟩ | ⟨failure, fails⟩
  · rw [read_of_denotes denotes] at read
    cases read
    exact denotes
  · rw [read_of_fails fails] at read
    cases read

theorem read_eq_error_iff :
    Quantity.read text = .error failure ↔ Fails (Text.trimBlank text.toList) failure := by
  refine ⟨fun read => ?_, read_of_fails⟩
  rcases denotes_or_fails (Text.trimBlank text.toList) with ⟨value, denotes⟩ | ⟨other, fails⟩
  · rw [read_of_denotes denotes] at read
    cases read
  · rw [read_of_fails fails] at read
    cases read
    exact fails

theorem fits_of_read (read : Quantity.read text = .ok value) : Fits value :=
  (read_eq_ok_iff.mp read).fits

/-- An amount is read exactly, and refused only for what is wrong with its text. An amount other
than zero is out of range only if its value is. -/
theorem read_exact (text : String) :
    let written := Text.trimBlank text.toList
    Text.Trims text.toList written ∧
      (∀ value, Quantity.read text = .ok value ↔ Denotes written value) ∧
      (∀ failure, Quantity.read text = .error failure ↔ Fails written failure) ∧
      ∀ amount measure factor, Written written amount measure → amount ≠ 0 →
        measure.Counts factor →
          (Quantity.read text = .ok (amount * factor) ↔ Fits (amount * factor)) := by
  intro written
  refine ⟨Text.trims_trimBlank text.toList, fun _ => read_eq_ok_iff, fun _ => read_eq_error_iff, ?_⟩
  intro amount measure factor shaped nonzero counted
  constructor
  · exact fits_of_read
  · intro fits
    obtain ⟨amountFits, factorFits⟩ := fits_of_fits_mul nonzero counted fits
    exact read_of_denotes (.product shaped amountFits counted factorFits fits)

/-- Blanks stand around an amount below zero, counted in thousands. -/
theorem read_exact_sample :
    Written "-12e+3".toList (-12) (.power 3) ∧ (Measure.power 3).Counts 1000000 ∧
      Quantity.read " -12e+3\n" = .ok (-12000000) := by
  have amount : Digits ['1', '2'] := ⟨by decide, List.all_eq_true.mp rfl⟩
  have exponent : Digits ['3'] := ⟨by decide, List.all_eq_true.mp rfl⟩
  have shaped : Written "-12e+3".toList (-12) (.power 3) :=
    @Written.power ['-', '1', '2'] ['+', '3'] 'e' _ _ (.minus amount) (.inl rfl) (.plus exponent)
  obtain ⟨_, _, _, exactly⟩ := read_exact " -12e+3\n"
  exact ⟨shaped, .power 3, (exactly _ _ _ shaped (by decide) (.power 3)).mpr (by decide)⟩

end Reading

end ShootKubeconfig.Quantity
