import Mathlib.Data.List.Induction
import ShootKubeconfig.Proofs.Except
import ShootKubeconfig.Proofs.Text.Run
import ShootKubeconfig.Version

/-!
Which texts are versions, and which of two versions comes first.

A number is written without zeros before it, and all else is kept as it is written. So a version has
one text only, and that text is the one it is read from.
-/

namespace ShootKubeconfig

namespace Version

section Grammar

/-- Letters, digits and hyphens. In a pre-release digits alone are a number and written as one. -/
structure Identifier (part : Part) (segment : List Char) : Prop where
  nonempty : segment ≠ []
  fits : ∀ c ∈ segment, c.isAlphanum = true ∨ c = '-'
  number : part = .preRelease → (∀ c ∈ segment, c.isDigit = true) →
    ∃ n, segment = Nat.toDigits 10 n

inductive Identifiers (part : Part) : List Char → Prop where
  | last {segment : List Char} (fits : Identifier part segment) : Identifiers part segment
  | more {segment rest : List Char} (fits : Identifier part segment)
      (others : Identifiers part rest) : Identifiers part (segment ++ '.' :: rest)

/-- Identifiers with a mark before them, or neither. -/
inductive Marked (mark : Char) (part : Part) : List Char → List Char → Prop where
  | missing : Marked mark part [] []
  | present {identifiers : List Char} (listed : Identifiers part identifiers) :
      Marked mark part (mark :: identifiers) identifiers

structure Counted (release : Release) : Prop where
  major : release.major < 2 ^ 64
  minor : release.minor < 2 ^ 64
  patch : release.patch < 2 ^ 64

/-- A semantic version. No dot, hyphen or plus is part of what stands before it. -/
inductive Written : List Char → Version → Prop where
  | parts {release : Release} {preRelease marked build marked' : List Char}
      (counted : Counted release) (early : Marked '-' .preRelease marked preRelease)
      (built : Marked '+' .build marked' build) :
      Written
        (Nat.toDigits 10 release.major ++ '.' :: (Nat.toDigits 10 release.minor ++
          '.' :: (Nat.toDigits 10 release.patch ++ (marked ++ marked'))))
        { release, preRelease, build }

end Grammar

section Numbers

variable {part : Part} {digits text rest : List Char} {n : Nat}

theorem natural_toDigits (n : Nat) : natural (Nat.toDigits 10 n) = n := by
  have counted := Nat.ofDigitChars_ten_toDigits (n := n)
  rw [Nat.ofDigitChars_eq_foldl] at counted
  simpa only [natural, Nat.mul_comm] using counted

private theorem natural_append (front : List Char) (c : Char) :
    natural (front ++ [c]) = natural front * 10 + (c.toNat - '0'.toNat) := by
  simp [natural]

/-- Digits with no zero before the others. -/
structure Numeral (digits : List Char) : Prop where
  nonempty : digits ≠ []
  all : ∀ c ∈ digits, c.isDigit = true
  leading : ∀ c rest, digits ≠ '0' :: c :: rest

private theorem head?_toDigits (positive : n ≠ 0) : (Nat.toDigits 10 n).head? ≠ some '0' := by
  induction n using Nat.strongRecOn with
  | ind n ih =>
      rw [Nat.toDigits_eq_if (by decide)]
      split
      next => simpa using positive
      next large =>
          rw [List.head?_append, List.head?_eq_some_head Nat.toDigits_ne_nil, Option.some_or,
            ← List.head?_eq_some_head]
          exact ih (n / 10) (by omega) (by omega)

theorem numeral_toDigits (n : Nat) : Numeral (Nat.toDigits 10 n) where
  nonempty := Nat.toDigits_ne_nil
  all := fun _ => Nat.isDigit_of_mem_toDigits (by decide) (by decide)
  leading := by
    intro c rest leading
    by_cases zero : n = 0
    · rw [zero, Nat.toDigits_zero] at leading
      cases leading
    · refine head?_toDigits zero ?_
      rw [leading]
      rfl

private theorem digitChar_toNat {c : Char} (digit : c.isDigit = true) :
    c.toNat - '0'.toNat < 10 ∧ (c.toNat - '0'.toNat).digitChar = c := by
  have least : '0'.toNat = 48 := rfl
  have bounds : 48 ≤ c.toNat ∧ c.toNat ≤ 57 := by
    simpa [Char.isDigit, UInt32.le_iff_toNat_le] using digit
  have small : c.toNat - '0'.toNat < 10 := by omega
  refine ⟨small, Char.toNat_inj.mp ?_⟩
  rw [Nat.toNat_digitChar_of_lt_ten small]
  omega

theorem Numeral.toDigits_natural (numeral : Numeral digits) :
    Nat.toDigits 10 (natural digits) = digits := by
  induction digits using List.reverseRecOn with
  | nil => exact absurd rfl numeral.nonempty
  | append_singleton front c ih =>
      obtain ⟨small, same⟩ := digitChar_toNat (numeral.all c (by simp))
      rw [natural_append]
      by_cases alone : front = []
      · subst alone
        have counted : natural [] * 10 + (c.toNat - '0'.toNat) = c.toNat - '0'.toNat :=
          Nat.zero_add _
        rw [counted, Nat.toDigits_of_lt_base small, same]
        rfl
      · have frontNumeral : Numeral front :=
          ⟨alone, fun c held => numeral.all c (List.mem_append_left _ held),
            fun d rest leading => numeral.leading d (rest ++ [c]) (by simp [leading])⟩
        have written := ih frontNumeral
        -- a front that counts nothing would be a zero before the last digit
        have positive : 0 < natural front := by
          refine Nat.pos_of_ne_zero fun zero => ?_
          rw [zero, Nat.toDigits_zero] at written
          exact numeral.leading c [] (by rw [← written]; rfl)
        rw [Nat.mul_comm, ← Nat.toDigits_append_toDigits (by decide) positive small, written,
          Nat.toDigits_of_lt_base small, same]

theorem numeral_iff : Numeral digits ↔ ∃ n, digits = Nat.toDigits 10 n := by
  constructor
  · exact fun numeral => ⟨_, numeral.toDigits_natural.symm⟩
  · rintro ⟨n, rfl⟩
    exact numeral_toDigits n

theorem written_of_readNumber (read : readNumber part text = .ok (n, rest)) :
    text = Nat.toDigits 10 n ++ rest ∧ n < 2 ^ 64 := by
  obtain ⟨whole, all, -⟩ := Text.run_append Char.isDigit text
  unfold readNumber at read
  dsimp only at read
  split at read
  next => split at read <;> cases read
  next => cases read
  next nonempty leading =>
      split at read
      next counted =>
          cases read
          have numeral : Numeral (text.takeWhile Char.isDigit) := ⟨nonempty, all, leading⟩
          rw [numeral.toDigits_natural]
          exact ⟨whole, counted⟩
      next => cases read

theorem readNumber_of_written (counted : n < 2 ^ 64)
    (stops : ∀ c, rest.head? = some c → c.isDigit = false) :
    readNumber part (Nat.toDigits 10 n ++ rest) = .ok (n, rest) := by
  have numeral := numeral_toDigits n
  obtain ⟨taken, left⟩ := Text.run_iff.mpr ⟨rfl, numeral.all, stops⟩
  unfold readNumber
  rw [taken, left]
  dsimp only
  split
  next none => exact absurd none numeral.nonempty
  next leading => exact absurd leading (numeral.leading _ _)
  next =>
      rw [natural_toDigits]
      exact if_pos counted

theorem readDot_eq_ok_iff : readDot part text = .ok rest ↔ text = '.' :: rest := by
  unfold readDot
  split
  next => simp [eq_comm]
  next different => simpa using fun same => absurd same different
  next => simp

end Numbers

section Identifiers

variable {part : Part} {text segment identifiers rest : List Char} {first : Bool} {fuel : Nat}

theorem hasLeadingZero_iff :
    hasLeadingZero segment = true ↔
      (∃ c rest, segment = '0' :: c :: rest) ∧ ∀ c ∈ segment, c.isDigit = true := by
  unfold hasLeadingZero
  split
  next c rest => rw [List.all_eq_true, and_iff_right ⟨c, rest, rfl⟩]
  next unled => simpa using fun c rest leading => absurd leading (unled c rest)

theorem identifier_iff :
    Identifier part segment ↔
      segment ≠ [] ∧ (∀ c ∈ segment, isIdentifierCharacter c = true) ∧
        ¬(part = .preRelease ∧ hasLeadingZero segment = true) := by
  have fits_iff : (∀ c ∈ segment, isIdentifierCharacter c = true) ↔
      ∀ c ∈ segment, c.isAlphanum = true ∨ c = '-' := by
    simp [isIdentifierCharacter]
  rw [fits_iff]
  constructor
  · rintro ⟨nonempty, fits, number⟩
    refine ⟨nonempty, fits, ?_⟩
    rintro ⟨early, zero⟩
    obtain ⟨⟨c, rest, leading⟩, all⟩ := hasLeadingZero_iff.mp zero
    exact (numeral_iff.mpr (number early all)).leading c rest leading
  · rintro ⟨nonempty, fits, unled⟩
    refine ⟨nonempty, fits, fun early all => numeral_iff.mp ⟨nonempty, all, ?_⟩⟩
    intro c rest leading
    exact unled ⟨early, hasLeadingZero_iff.mpr ⟨⟨c, rest, leading⟩, all⟩⟩

theorem written_of_readIdentifiers (enough : text.length < fuel)
    (read : readIdentifiers part first fuel text = .ok (identifiers, rest)) :
    text = identifiers ++ rest ∧
      (Identifiers part identifiers ∨ first = true ∧ identifiers = []) := by
  induction fuel generalizing text identifiers first with
  | zero => cases enough
  | succ fuel ih =>
      unfold readIdentifiers at read
      dsimp only at read
      generalize taken : text.takeWhile isIdentifierCharacter = segment at read
      generalize left : text.dropWhile isIdentifierCharacter = behind at read
      obtain ⟨rfl, all, -⟩ := Text.run_iff.mp ⟨taken, left⟩
      split at read
      next => cases read
      next =>
          split at read
          next started =>
              cases read
              exact ⟨rfl, .inr ⟨started, rfl⟩⟩
          next => cases read
      next nonempty _ =>
          split at read
          next => cases read
          next unled =>
              have fits : Identifier part segment := identifier_iff.mpr ⟨nonempty, all, unled⟩
              split at read
              next more _ =>
                  obtain ⟨⟨others, remaining⟩, readOthers, same⟩ := bind_eq_ok_iff.mp read
                  cases same
                  -- the dot alone makes the rest shorter: the fuel lasts as long as the text
                  have shorter : more.length < fuel := by
                    simp only [List.length_append, List.length_cons] at enough
                    omega
                  obtain ⟨rfl, listed | ⟨impossible, -⟩⟩ := ih shorter readOthers
                  · exact ⟨by simp, .inl (.more fits listed)⟩
                  · cases impossible
              next =>
                  cases read
                  exact ⟨rfl, .inl (.last fits)⟩

/-- Neither the last identifier goes on, nor does another one follow. -/
def Ended (rest : List Char) : Prop :=
  ∀ c, rest.head? = some c → isIdentifierCharacter c = false ∧ c ≠ '.'

private theorem readIdentifiers_append {behind : List Char} (fits : Identifier part segment) :
    (∀ c, behind.head? = some c → isIdentifierCharacter c = false) →
      readIdentifiers part first (fuel + 1) (segment ++ behind) =
        match behind with
        | '.' :: rest => do
            let (others, rest) ← readIdentifiers part false fuel rest
            return (segment ++ '.' :: others, rest)
        | rest => .ok (segment, rest) := by
  intro stops
  obtain ⟨nonempty, all, unled⟩ := identifier_iff.mp fits
  obtain ⟨taken, left⟩ := Text.run_iff.mpr ⟨rfl, all, stops⟩
  conv_lhs => unfold readIdentifiers
  rw [taken, left]
  dsimp only
  split
  next => exact absurd rfl nonempty
  next => exact absurd rfl nonempty
  next => exact if_neg unled

theorem readIdentifiers_of_written (listed : Identifiers part identifiers) (ended : Ended rest)
    (enough : (identifiers ++ rest).length < fuel) :
    readIdentifiers part first fuel (identifiers ++ rest) = .ok (identifiers, rest) := by
  induction listed generalizing first fuel with
  | @last segment fits =>
      cases fuel with
      | zero => cases enough
      | succ fuel =>
          rw [readIdentifiers_append fits fun c starts => (ended c starts).1]
          split
          next => exact absurd rfl (ended '.' rfl).2
          next => rfl
  | @more segment others fits listed ih =>
      cases fuel with
      | zero => cases enough
      | succ fuel =>
          have shorter : (others ++ rest).length < fuel := by
            simp only [List.length_append, List.length_cons] at enough ⊢
            omega
          have stops : ∀ c, ('.' :: (others ++ rest)).head? = some c →
              isIdentifierCharacter c = false := by
            rintro c ⟨⟩
            rfl
          rw [List.append_assoc, List.cons_append, readIdentifiers_append fits stops]
          simp only [ih shorter]
          rfl

end Identifiers

section Reading

variable {part : Part} {mark : Char} {text marked identifiers rest : List Char}
  {version : Version}

private theorem Identifiers.ne_nil (listed : Identifiers part identifiers) : identifiers ≠ [] := by
  cases listed with
  | last fits => exact fits.nonempty
  | more => simp

theorem marked_of_readMarked (read : readMarked mark part text = .ok (identifiers, rest)) :
    ∃ marked, text = marked ++ rest ∧ Marked mark part marked identifiers := by
  unfold readMarked at read
  split at read
  next =>
      cases read
      exact ⟨[], rfl, .missing⟩
  next c behind =>
      split at read
      next here =>
          obtain ⟨⟨listed, remaining⟩, readListed, read⟩ := bind_eq_ok_iff.mp read
          dsimp only at read
          split at read
          next => cases read
          next nonempty =>
              cases read
              obtain ⟨rfl, written | ⟨-, missing⟩⟩ :=
                written_of_readIdentifiers (Nat.lt_succ_self _) readListed
              · exact ⟨mark :: identifiers, by rw [here, List.cons_append], .present written⟩
              · exact absurd missing nonempty
      next =>
          cases read
          exact ⟨[], rfl, .missing⟩

theorem Marked.readMarked_append (written : Marked mark part marked identifiers)
    (ended : Ended rest) (unmarked : rest.head? ≠ some mark) :
    readMarked mark part (marked ++ rest) = .ok (identifiers, rest) := by
  cases written with
  | missing =>
      rw [List.nil_append]
      cases rest with
      | nil => rfl
      | cons c behind => exact if_neg fun here => unmarked (congrArg some here)
  | present listed =>
      have read : readIdentifiers part true ((identifiers ++ rest).length + 1)
          (identifiers ++ rest) = .ok (identifiers, rest) :=
        readIdentifiers_of_written listed ended (Nat.lt_succ_self _)
      simp only [readMarked, List.cons_append, if_pos, read]
      exact if_neg listed.ne_nil

private theorem Marked.head?_eq (written : Marked mark part marked identifiers) {c : Char}
    (starts : marked.head? = some c) : c = mark := by
  cases written with
  | missing => cases starts
  | present => exact (Option.some.inj starts).symm

theorem Marked.ended (built : Marked '+' part marked identifiers) : Ended marked := by
  intro c starts
  rw [built.head?_eq starts]
  decide

private theorem Marked.not_isDigit_head {part' : Part} {marked' identifiers' : List Char}
    (early : Marked '-' part marked identifiers) (built : Marked '+' part' marked' identifiers') :
    ∀ c, (marked ++ marked').head? = some c → c.isDigit = false := by
  intro c starts
  rw [List.head?_append, Option.or_eq_some_iff] at starts
  rcases starts with starts | ⟨-, starts⟩
  · rw [early.head?_eq starts]
    decide
  · rw [built.head?_eq starts]
    decide

theorem written_of_read (read : Version.read text = .ok version) : Written text version := by
  unfold Version.read at read
  split at read
  next => cases read
  next =>
      obtain ⟨⟨major, _⟩, readMajor, afterMajor⟩ := bind_eq_ok_iff.mp read
      obtain ⟨_, dot, afterDot⟩ := bind_eq_ok_iff.mp afterMajor
      obtain ⟨⟨minor, _⟩, readMinor, afterMinor⟩ := bind_eq_ok_iff.mp afterDot
      obtain ⟨_, dot', afterDot'⟩ := bind_eq_ok_iff.mp afterMinor
      obtain ⟨⟨patch, _⟩, readPatch, afterPatch⟩ := bind_eq_ok_iff.mp afterDot'
      obtain ⟨⟨preRelease, _⟩, readPreRelease, afterPreRelease⟩ := bind_eq_ok_iff.mp afterPatch
      obtain ⟨⟨build, ending⟩, readBuild, afterBuild⟩ := bind_eq_ok_iff.mp afterPreRelease
      obtain ⟨rfl, majorCounted⟩ := written_of_readNumber readMajor
      obtain rfl := readDot_eq_ok_iff.mp dot
      obtain ⟨rfl, minorCounted⟩ := written_of_readNumber readMinor
      obtain rfl := readDot_eq_ok_iff.mp dot'
      obtain ⟨rfl, patchCounted⟩ := written_of_readNumber readPatch
      obtain ⟨marked, rfl, early⟩ := marked_of_readMarked readPreRelease
      obtain ⟨marked', rfl, built⟩ := marked_of_readMarked readBuild
      cases ending with
      | nil =>
          cases afterBuild
          rw [List.append_nil]
          exact @Written.parts ⟨major, minor, patch⟩ _ _ _ _
            ⟨majorCounted, minorCounted, patchCounted⟩ early built
      | cons => cases afterBuild

theorem read_of_written (written : Written text version) : Version.read text = .ok version := by
  cases written with
  | @parts release preRelease marked build marked' counted early built =>
      have dotStops : ∀ {rest : List Char} c, ('.' :: rest).head? = some c → c.isDigit = false := by
        rintro rest c ⟨⟩
        rfl
      have notEarly : marked'.head? ≠ some '-' := fun starts =>
        absurd (built.head?_eq starts) (by decide)
      have readBuild : readMarked '+' .build (marked' ++ []) = .ok (build, []) :=
        built.readMarked_append (by simp [Ended]) (by simp)
      rw [List.append_nil] at readBuild
      unfold Version.read
      rw [if_neg (by simp), readNumber_of_written counted.major dotStops]
      simp only [bind, Except.bind, readDot, readNumber_of_written counted.minor dotStops,
        readNumber_of_written counted.patch (early.not_isDigit_head built),
        early.readMarked_append built.ended notEarly, readBuild]
      rfl

theorem read_eq_ok_iff : Version.read text = .ok version ↔ Written text version :=
  ⟨written_of_read, read_of_written⟩

end Reading

section Order

variable {version : Version} {build segment : List Char} {release : Release}

private theorem identifierOrder_nil : identifierOrder segment [] ≠ .lt := by
  unfold identifierOrder
  cases segment.all Char.isDigit with
  | false => simp
  | true => simp [Ordering.then_eq_lt, Nat.compare_eq_lt, natural]

private theorem identifiersOrder_nil : identifiersOrder build [] ≠ .lt := by
  unfold identifiersOrder
  rw [List.splitOn_nil]
  cases parts : build.splitOn '.' with
  | nil => exact absurd parts (List.splitOn_ne_nil _ _)
  | cons first others =>
      rw [List.compareLex_cons_cons, ne_eq, Ordering.then_eq_lt]
      rintro (before | ⟨-, before⟩)
      · exact identifierOrder_nil before
      · cases others <;> cases before

theorem order_eq_lt_iff_of_released (released : version.preRelease = []) :
    version.order { release } = .lt ↔ version.release.order release = .lt := by
  -- of equal releases neither the missing pre-release part nor any build metadata comes first
  simp [order, precedence, preReleaseOrder, released, Ordering.then_eq_lt, identifiersOrder_nil]

end Order

end Version

namespace Release

variable {release other : Release} {major minor : Nat}

/-- Before a minor release, whatever the patch. -/
def Below (release : Release) (major minor : Nat) : Prop :=
  release.major < major ∨ release.major = major ∧ release.minor < minor

instance : Decidable (release.Below major minor) :=
  inferInstanceAs (Decidable (_ ∨ _))

theorem order_eq_lt_iff_below :
    release.order ⟨major, minor, 0⟩ = .lt ↔ release.Below major minor := by
  simp only [order, Ordering.then_eq_lt, Nat.compare_eq_lt, Nat.compare_eq_eq, Nat.not_lt_zero,
    and_false, or_false, Below]

theorem Below.of_order (below : other.Below major minor) (ordered : release.order other ≠ .gt) :
    release.Below major minor := by
  simp only [order, ne_eq, Ordering.then_eq_gt, Nat.compare_eq_gt, Nat.compare_eq_eq] at ordered
  unfold Below at below ⊢
  omega

end Release

end ShootKubeconfig
