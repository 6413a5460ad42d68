import ShootKubeconfig.Proofs.Except
import ShootKubeconfig.Text.Base64

namespace ShootKubeconfig.Base64

theorem value?_symbol {value : Nat} (bounded : value < 64) :
    value? (symbol value) = some value := by
  revert value
  decide

private theorem symbol_of_value? {octet : UInt8} {value : Nat} (known : value? octet = some value) :
    value < 64 ∧ symbol value = octet := by
  have each : ∀ n : Nat, n < 256 →
      (value? (.ofNat n)).all fun m => m < 64 ∧ symbol m = .ofNat n := by
    decide +kernel
  simpa [known] using each octet.toNat octet.toNat_lt

private theorem symbol_ne_padding {value : Nat} (bounded : value < 64) : symbol value ≠ padding := by
  revert value
  decide

private theorem symbol_ascii {value : Nat} (bounded : value < 64) : symbol value < 0x80 := by
  revert value
  decide

/-- The written form of octets by the numbers that its symbols stand for. -/
inductive Written : Octets → Octets → Prop
  | nothing : Written [] []
  | one {a b : Nat} (first : a < 64) (second : b < 64) (unused : b % 16 = 0) :
      Written [.ofNat (a * 4 + b / 16)] [symbol a, symbol b, padding, padding]
  | two {a b c : Nat} (first : a < 64) (second : b < 64) (third : c < 64) (unused : c % 4 = 0) :
      Written [.ofNat (a * 4 + b / 16), .ofNat (b % 16 * 16 + c / 4)]
        [symbol a, symbol b, symbol c, padding]
  | three {a b c d : Nat} {octets written : Octets} (first : a < 64) (second : b < 64)
      (third : c < 64) (fourth : d < 64) (rest : Written octets written) :
      Written
        (.ofNat (a * 4 + b / 16) :: .ofNat (b % 16 * 16 + c / 4) :: .ofNat (c % 4 * 64 + d) ::
          octets)
        (symbol a :: symbol b :: symbol c :: symbol d :: written)

section Encode

variable {octets written : Octets}

theorem written_encode (octets : Octets) : Written octets (encode octets) := by
  induction octets using encode.induct with
  | case1 => exact .nothing
  | case2 a =>
      have bounded := a.toNat_lt
      have first : a.toNat / 4 * 4 + a.toNat % 4 * 16 / 16 = a.toNat := by omega
      have written : Written _ (encode [a]) :=
        .one (by omega) (by omega) (Nat.mul_mod_left _ _)
      rwa [first, UInt8.ofNat_toNat] at written
  | case3 a b =>
      have boundedFirst := a.toNat_lt
      have boundedSecond := b.toNat_lt
      have first : a.toNat / 4 * 4 + (a.toNat % 4 * 16 + b.toNat / 16) / 16 = a.toNat := by omega
      have second : (a.toNat % 4 * 16 + b.toNat / 16) % 16 * 16 + b.toNat % 16 * 4 / 4 =
          b.toNat := by omega
      have written : Written _ (encode [a, b]) :=
        .two (by omega) (by omega) (by omega) (Nat.mul_mod_left _ _)
      rwa [first, second, UInt8.ofNat_toNat, UInt8.ofNat_toNat] at written
  | case4 a b c rest ih =>
      have boundedFirst := a.toNat_lt
      have boundedSecond := b.toNat_lt
      have boundedThird := c.toNat_lt
      have first : a.toNat / 4 * 4 + (a.toNat % 4 * 16 + b.toNat / 16) / 16 = a.toNat := by omega
      have second : (a.toNat % 4 * 16 + b.toNat / 16) % 16 * 16 +
          (b.toNat % 16 * 4 + c.toNat / 64) / 4 = b.toNat := by omega
      have third : (b.toNat % 16 * 4 + c.toNat / 64) % 4 * 64 + c.toNat % 64 = c.toNat := by omega
      have written : Written _ (encode (a :: b :: c :: rest)) :=
        .three (by omega) (by omega) (by omega) (by omega) ih
      rwa [first, second, third, UInt8.ofNat_toNat, UInt8.ofNat_toNat, UInt8.ofNat_toNat]
        at written

theorem Written.eq_encode (spelled : Written octets written) : written = encode octets := by
  induction spelled with
  | nothing => rfl
  | @one a b first second unused =>
      have small : a * 4 + b / 16 < 256 := by omega
      have high : (a * 4 + b / 16) / 4 = a := by omega
      have low : (a * 4 + b / 16) % 4 * 16 = b := by omega
      rw [encode, UInt8.toNat_ofNat_of_lt' small, high, low]
  | @two a b c first second third unused =>
      have smallFirst : a * 4 + b / 16 < 256 := by omega
      have smallSecond : b % 16 * 16 + c / 4 < 256 := by omega
      have high : (a * 4 + b / 16) / 4 = a := by omega
      have middle : (a * 4 + b / 16) % 4 * 16 + (b % 16 * 16 + c / 4) / 16 = b := by omega
      have low : (b % 16 * 16 + c / 4) % 16 * 4 = c := by omega
      rw [encode, UInt8.toNat_ofNat_of_lt' smallFirst, UInt8.toNat_ofNat_of_lt' smallSecond, high,
        middle, low]
  | @three a b c d octets written first second third fourth rest ih =>
      have smallFirst : a * 4 + b / 16 < 256 := by omega
      have smallSecond : b % 16 * 16 + c / 4 < 256 := by omega
      have smallThird : c % 4 * 64 + d < 256 := by omega
      have high : (a * 4 + b / 16) / 4 = a := by omega
      have upper : (a * 4 + b / 16) % 4 * 16 + (b % 16 * 16 + c / 4) / 16 = b := by omega
      have lower : (b % 16 * 16 + c / 4) % 16 * 4 + (c % 4 * 64 + d) / 64 = c := by omega
      have low : (c % 4 * 64 + d) % 64 = d := by omega
      rw [encode, UInt8.toNat_ofNat_of_lt' smallFirst, UInt8.toNat_ofNat_of_lt' smallSecond,
        UInt8.toNat_ofNat_of_lt' smallThird, high, upper, lower, low, ih]

theorem written_iff : Written octets written ↔ written = encode octets := by
  constructor
  · exact Written.eq_encode
  · rintro rfl
    exact written_encode octets

theorem Written.length_mod_four (spelled : Written octets written) : written.length % 4 = 0 := by
  induction spelled with
  | nothing => rfl
  | one => simp
  | two => simp
  | three _ _ _ _ _ ih =>
      simp only [List.length_cons]
      omega

theorem Written.ascii (spelled : Written octets written) : ∀ octet ∈ written, octet < 0x80 := by
  have pad : padding < 0x80 := by decide
  induction spelled with
  | nothing => simp
  | one first second => simp [symbol_ascii first, symbol_ascii second, pad]
  | two first second third =>
      simp [symbol_ascii first, symbol_ascii second, symbol_ascii third, pad]
  | three first second third fourth _ ih =>
      simpa [symbol_ascii first, symbol_ascii second, symbol_ascii third, symbol_ascii fourth]
        using ih

end Encode

section Decode

variable {octets written : Octets}

theorem valueAt_eq_ok_iff {offset : Nat} {octet : UInt8} {value : Nat} :
    valueAt offset octet = .ok value ↔ value < 64 ∧ symbol value = octet := by
  unfold valueAt
  constructor
  · intro read
    apply symbol_of_value?
    cases known : value? octet with
    | none => simp [known] at read
    | some found => simpa [known] using read
  · rintro ⟨bounded, rfl⟩
    rw [value?_symbol bounded]

private theorem exists_values_of_lastSymbols {start index pads : Nat} {symbols : List (UInt8 × Nat)}
    (read : lastSymbols start index written = .ok (symbols, pads)) :
    ∃ values : List Nat, (∀ value ∈ values, value < 64) ∧
      symbols = values.map (fun value => (symbol value, value)) ∧
      written = values.map symbol ++ .replicate pads padding := by
  induction written generalizing index symbols pads with
  | nil =>
      cases read
      exact ⟨[], by simp, rfl, rfl⟩
  | cons octet rest ih =>
      unfold lastSymbols at read
      by_cases pad : octet = padding
      · rw [if_pos pad] at read
        by_cases early : index < 2
        · simp [early] at read
        · by_cases padded : rest.all (· == padding) = true
          · simp only [early, padded, if_true, if_false, Except.ok.injEq, Prod.mk.injEq] at read
            obtain ⟨rfl, rfl⟩ := read
            refine ⟨[], by simp, rfl, ?_⟩
            rw [List.map_nil, List.nil_append, List.eq_replicate_iff]
            exact ⟨rfl, by simpa [pad] using padded⟩
          · simp [early, padded] at read
      · rw [if_neg pad] at read
        simp only [bind_eq_ok_iff, pure_eq_ok_iff, valueAt_eq_ok_iff, Prod.exists,
          Prod.mk.injEq] at read
        obtain ⟨value, ⟨bounded, rfl⟩, others, padsRead, readRest, rfl, rfl⟩ := read
        obtain ⟨values, boundedRest, rfl, rfl⟩ := ih readRest
        exact ⟨value :: values, List.forall_mem_cons.mpr ⟨bounded, boundedRest⟩, rfl, rfl⟩

private theorem written_of_decodeLast {start : Nat} (short : written.length ≤ 4)
    (read : decodeLast start written = .ok octets) : Written octets written := by
  unfold decodeLast at read
  simp only [bind_eq_ok_iff, Prod.exists] at read
  obtain ⟨symbols, pads, readSymbols, decoded⟩ := read
  obtain ⟨values, bounded, rfl, rfl⟩ := exists_values_of_lastSymbols readSymbols
  rw [List.length_append, List.length_map, List.length_replicate] at short
  rw [List.length_map] at decoded
  by_cases few : values.length < 2
  · simp [few] at decoded
  · by_cases complete : (values.length + pads) % 4 = 0
    · rw [if_neg few, if_neg (not_not_intro complete)] at decoded
      have full : values.length + pads = 4 := by omega
      rcases values with _ | ⟨a, _ | ⟨b, _ | ⟨c, _ | ⟨d, _ | ⟨e, rest⟩⟩⟩⟩⟩
      · exact absurd Nat.two_pos few
      · exact absurd Nat.one_lt_two few
      · obtain rfl : pads = 2 := Nat.add_left_cancel full
        simp only [List.forall_mem_cons, List.map_cons, List.map_nil] at bounded decoded
        by_cases unused : b % 16 = 0
        · rw [if_pos unused] at decoded
          cases decoded
          exact .one bounded.1 bounded.2.1 unused
        · simp [unused] at decoded
      · obtain rfl : pads = 1 := Nat.add_left_cancel full
        simp only [List.forall_mem_cons, List.map_cons, List.map_nil] at bounded decoded
        by_cases unused : c % 4 = 0
        · rw [if_pos unused] at decoded
          cases decoded
          exact .two bounded.1 bounded.2.1 bounded.2.2.1 unused
        · simp [unused] at decoded
      · obtain rfl : pads = 0 := Nat.add_left_cancel full
        cases decoded
        simp only [List.forall_mem_cons] at bounded
        exact .three bounded.1 bounded.2.1 bounded.2.2.1 bounded.2.2.2.1 .nothing
      · simp only [List.length_cons] at full
        omega
    · simp [few, complete] at decoded

private theorem written_of_decodeGroups {start : Nat} (read : decodeGroups start written = .ok octets) :
    Written octets written := by
  induction start, written using decodeGroups.induct generalizing octets with
  | case1 start a b c d e rest ih =>
      simp only [decodeGroups, bind_eq_ok_iff, pure_eq_ok_iff, valueAt_eq_ok_iff] at read
      obtain ⟨p, ⟨boundedP, rfl⟩, q, ⟨boundedQ, rfl⟩, r, ⟨boundedR, rfl⟩, s, ⟨boundedS, rfl⟩,
        others, readRest, rfl⟩ := read
      exact .three boundedP boundedQ boundedR boundedS (ih readRest)
  | case2 start =>
      cases read
      exact .nothing
  | case3 start group notMany notNothing =>
      rw [decodeGroups.eq_3 start group notMany notNothing] at read
      apply written_of_decodeLast _ read
      rcases group with _ | ⟨a, _ | ⟨b, _ | ⟨c, _ | ⟨d, _ | ⟨e, rest⟩⟩⟩⟩⟩
      case cons.cons.cons.cons.cons => exact absurd rfl (notMany a b c d e rest)
      all_goals simp

theorem Written.decodeGroups {start : Nat} (spelled : Written octets written) :
    decodeGroups start written = .ok octets := by
  induction spelled generalizing start with
  | nothing => rfl
  | one first second unused =>
      simp [Base64.decodeGroups, decodeLast, lastSymbols, valueAt, value?_symbol,
        symbol_ne_padding, bind, Except.bind, pure, Except.pure, first, second, unused]
  | two first second third unused =>
      simp [Base64.decodeGroups, decodeLast, lastSymbols, valueAt, value?_symbol,
        symbol_ne_padding, bind, Except.bind, pure, Except.pure, first, second, third, unused]
  | @three a b c d octets written first second third fourth rest ih =>
      -- the last group goes another way than one with others after it
      cases written with
      | nil =>
          cases rest
          simp [Base64.decodeGroups, decodeLast, lastSymbols, valueAt, value?_symbol,
            symbol_ne_padding, bind, Except.bind, pure, Except.pure, first, second, third, fourth]
      | cons e written =>
          simp only [Base64.decodeGroups, valueAt_eq_ok_iff.mpr ⟨first, rfl⟩,
            valueAt_eq_ok_iff.mpr ⟨second, rfl⟩, valueAt_eq_ok_iff.mpr ⟨third, rfl⟩,
            valueAt_eq_ok_iff.mpr ⟨fourth, rfl⟩, ih]
          rfl

theorem decode_eq_ok_iff : decode written = .ok octets ↔ written = encode octets := by
  rw [← written_iff]
  constructor
  · intro read
    apply @written_of_decodeGroups _ _ 0
    unfold decode at read
    cases lone : loneOctet? written with
    | none => simpa [lone] using read
    | some octet =>
        by_cases foreign : octet ≠ padding ∧ value? octet = none
        · simp [lone, foreign] at read
        · simpa [lone, foreign] using read
  · intro spelled
    have noneAlone : loneOctet? written = none := by
      rw [loneOctet?, if_neg]
      have whole := spelled.length_mod_four
      omega
    rw [decode, noneAlone]
    exact spelled.decodeGroups

end Decode

section Text

variable {octets : Octets} {text : String}

theorem written_utf8_iff : Written octets (Utf8.encode text) ↔ text = encodeText octets := by
  rw [written_iff, Utf8.encode_eq_iff_of_ascii (written_encode octets).ascii]
  rfl

theorem decodeText_eq_ok_iff : decodeText text = .ok octets ↔ text = encodeText octets := by
  rw [decodeText, decode_eq_ok_iff, ← written_iff, written_utf8_iff]

end Text

end ShootKubeconfig.Base64
