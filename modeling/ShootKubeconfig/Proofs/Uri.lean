import ShootKubeconfig.Endpoints
import ShootKubeconfig.Proofs.Except
import ShootKubeconfig.Proofs.Text.Run

namespace ShootKubeconfig.Uri

/-- An authority is the whole text, or it stands after a scheme and ends where a path, a query or a
fragment begins. A path alone has none. -/
inductive Layout : Octets → Option Octets → Prop
  | path {octets : Octets} (starts : octets.head? = some 0x2F ∨ octets = [0x2A]) :
      Layout octets none
  | alone {authority : Octets} (notAsterisk : authority ≠ [0x2A])
      (whole : ∀ octet ∈ authority, endsAuthority octet = false) :
      Layout authority (some authority)
  | afterScheme {scheme authority rest : Octets}
      (fits : ∀ octet ∈ scheme, isSchemeOctet octet = true)
      (whole : ∀ octet ∈ authority, endsAuthority octet = false)
      (ended : ∀ octet, rest.head? = some octet → endsAuthority octet = true) :
      Layout (scheme ++ (slashes ++ (authority ++ rest))) (some authority)

/-- The host is the authority without what stands before its last `@`, and that mark. -/
inductive Hosted : Option Octets → Octets → Prop
  | none : Hosted none []
  | alone {host : Octets} (unmarked : 0x40 ∉ host) : Hosted (some host) host
  | afterUser {user host : Octets} (unmarked : 0x40 ∉ host) :
      Hosted (some (user ++ 0x40 :: host)) host

section Layout

variable {octets scheme rest host : Octets} {authority other : Option Octets}

/-- Where the slashes after a scheme stand, the scheme has ended. -/
private theorem scheme_ended (octet : UInt8) (starts : (slashes ++ rest).head? = some octet) :
    isSchemeOctet octet = false := by
  cases starts
  decide

private theorem not_path_of_alone (notAsterisk : octets ≠ [0x2A])
    (whole : ∀ octet ∈ octets, endsAuthority octet = false) :
    ¬(octets.head? = some 0x2F ∨ octets = [0x2A]) := by
  rintro (starts | asterisk)
  · have ends := whole 0x2F (List.mem_of_mem_head? starts)
    simp [endsAuthority] at ends
  · exact notAsterisk asterisk

theorem Layout.eq_none_of_path (layout : Layout octets authority)
    (starts : octets.head? = some 0x2F ∨ octets = [0x2A]) : authority = none := by
  cases layout with
  | path => rfl
  | alone notAsterisk whole => exact absurd starts (not_path_of_alone notAsterisk whole)
  | @afterScheme scheme _ _ fits =>
      cases scheme with
      | nil => simp [slashes] at starts
      | cons octet scheme =>
          have fit := fits octet List.mem_cons_self
          simp only [List.cons_append, List.head?_cons, Option.some.injEq, List.cons.injEq,
            List.append_eq_nil_iff, slashes, reduceCtorEq, and_false, or_false] at starts
          subst starts
          exact absurd fit (by decide)

/-- An authority that is the whole text has no slash, so that no scheme stands before it. -/
theorem Layout.eq_of_alone (layout : Layout octets authority) (notAsterisk : octets ≠ [0x2A])
    (whole : ∀ octet ∈ octets, endsAuthority octet = false) : authority = some octets := by
  cases layout with
  | path starts => exact absurd starts (not_path_of_alone notAsterisk whole)
  | alone => rfl
  | afterScheme =>
      have ends := whole 0x2F (by simp [slashes])
      simp [endsAuthority] at ends

theorem Layout.unique (layout : Layout octets authority) (layout' : Layout octets other) :
    authority = other := by
  cases layout with
  | path starts => exact (layout'.eq_none_of_path starts).symm
  | alone notAsterisk whole => exact (layout'.eq_of_alone notAsterisk whole).symm
  | @afterScheme scheme authority rest fits whole ended =>
      generalize read : scheme ++ (slashes ++ (authority ++ rest)) = octets at layout'
      cases layout' with
      | path starts =>
          subst read
          exact (Layout.afterScheme fits whole ended).eq_none_of_path starts
      | alone notAsterisk whole' =>
          subst read
          exact (Layout.afterScheme fits whole ended).eq_of_alone notAsterisk whole'
      | afterScheme fits' whole' ended' =>
          -- the scheme goes as far as its octets do, and the authority up to the first that ends it
          obtain ⟨rfl, sameRest⟩ := Text.run_unique read fits fits' scheme_ended scheme_ended
          obtain ⟨rfl, -⟩ := Text.run_unique (p := fun octet => !endsAuthority octet)
            (List.append_cancel_left sameRest) (by simpa using whole) (by simpa using whole')
            (by simpa using ended) (by simpa using ended')
          rfl

private theorem unlike_of_unmarked (unmarked : 0x40 ∉ host) :
    ∀ octet ∈ host.reverse, (octet != 0x40) = true := by
  intro octet held
  rw [bne_iff_ne]
  rintro rfl
  exact unmarked (List.mem_reverse.mp held)

private theorem afterLast_unmarked (unmarked : 0x40 ∉ host) : afterLast 0x40 host = host := by
  have kept : (host.reverse ++ []).takeWhile (· != 0x40) = host.reverse ++ [] :=
    List.takeWhile_append_of_pos (unlike_of_unmarked unmarked)
  rw [List.append_nil] at kept
  rw [afterLast, kept, List.reverse_reverse]

private theorem afterLast_append {user : Octets} (unmarked : 0x40 ∉ host) :
    afterLast 0x40 (user ++ 0x40 :: host) = host := by
  rw [afterLast, List.reverse_append, List.reverse_cons, List.append_assoc,
    List.takeWhile_append_of_pos (unlike_of_unmarked unmarked)]
  simp

theorem Hosted.host_eq (hosted : Hosted authority host) :
    host = (authority.map (afterLast 0x40)).getD [] := by
  cases hosted with
  | none => rfl
  | alone unmarked => exact (afterLast_unmarked unmarked).symm
  | afterUser unmarked => exact (afterLast_append unmarked).symm

theorem hosted_afterLast (authority : Octets) :
    Hosted (some authority) (afterLast 0x40 authority) := by
  by_cases marked : 0x40 ∈ authority
  -- the last mark is the first one from behind
  · obtain ⟨after, before, reversed, unmarked⟩ :=
      List.eq_append_cons_of_mem (List.mem_reverse.mpr marked)
    have split : authority = before.reverse ++ 0x40 :: after.reverse := by
      rw [← List.reverse_reverse authority, reversed]
      simp
    have unmarkedHost : 0x40 ∉ after.reverse := mt List.mem_reverse.mp unmarked
    rw [split, afterLast_append unmarkedHost]
    exact .afterUser unmarkedHost
  · rw [afterLast_unmarked marked]
    exact .alone marked

end Layout

private theorem ascii_of_isAuthorityOctet {octet : UInt8} (fits : isAuthorityOctet octet = true) :
    octet < 0x80 := by
  have each : ∀ n : Nat, n < 256 →
      isAuthorityOctet (.ofNat n) = true → UInt8.ofNat n < 0x80 := by decide +kernel
  simpa using each octet.toNat octet.toNat_lt (by simpa using fits)

private theorem ascii_of_next {seen further : Seen} {octet : UInt8}
    (read : seen.next octet = .ok further) : octet < 0x80 := by
  by_cases fits : isAuthorityOctet octet = true
  · exact ascii_of_isAuthorityOctet fits
  · by_cases percent : octet = 0x25
    · rw [percent]
      decide
    · have others : octet ≠ 0x3A ∧ octet ≠ 0x5B ∧ octet ≠ 0x5D ∧ octet ≠ 0x40 := by
        refine ⟨?_, ?_, ?_, ?_⟩ <;> rintro rfl <;> exact fits (by decide)
      simp [Seen.next, others, percent, fits] at read

theorem split_of_readAuthority {seen : Seen} {octets authority rest : Octets}
    (read : readAuthority seen octets = .ok (authority, rest)) :
    octets = authority ++ rest ∧ (∀ octet ∈ authority, endsAuthority octet = false) ∧
      (∀ octet ∈ authority, octet < 0x80) ∧
      ∀ octet, rest.head? = some octet → endsAuthority octet = true := by
  induction octets generalizing seen authority rest with
  | nil =>
      unfold readAuthority at read
      by_cases complete : seen.wellFormed = true
      · simp only [complete, if_true, Except.ok.injEq, Prod.mk.injEq] at read
        obtain ⟨rfl, rfl⟩ := read
        simp
      · simp [complete] at read
  | cons octet octets ih =>
      unfold readAuthority at read
      by_cases ends : endsAuthority octet = true
      · by_cases complete : seen.wellFormed = true
        · simp only [ends, complete, if_true, Except.ok.injEq, Prod.mk.injEq] at read
          obtain ⟨rfl, rfl⟩ := read
          simp [ends]
        · simp [ends, complete] at read
      · simp only [ends, if_false, bind_eq_ok_iff, pure_eq_ok_iff, Prod.exists, Prod.mk.injEq,
          Bool.false_eq_true] at read
        obtain ⟨further, next, others, left, readRest, rfl, rfl⟩ := read
        obtain ⟨rfl, whole, ascii, ended⟩ := ih readRest
        refine ⟨rfl, ?_, ?_, ended⟩
        · exact List.forall_mem_cons.mpr ⟨by simpa using ends, whole⟩
        · exact List.forall_mem_cons.mpr ⟨ascii_of_next next, ascii⟩

theorem layout_of_wholeAuthority {octets : Octets} {leftOver : Malformed}
    {authority : Option Octets} (notAsterisk : octets ≠ [0x2A]) (present : octets ≠ [])
    (read : wholeAuthority leftOver octets = .ok authority) :
    authority = some octets ∧ (∀ octet ∈ octets, endsAuthority octet = false) ∧
      ∀ octet ∈ octets, octet < 0x80 := by
  obtain ⟨⟨held, rest⟩, readHeld, given⟩ := bind_eq_ok_iff.mp read
  obtain ⟨rfl, whole, ascii, -⟩ := split_of_readAuthority readHeld
  cases rest with
  | nil =>
      rw [List.append_nil] at present ⊢
      simp only [pure_eq_ok_iff, Uri.present, present, if_false] at given
      exact ⟨given.symm, whole, ascii⟩
  | cons octet rest => cases given

private theorem isSchemeOctet_lowercase (octet : UInt8) :
    isSchemeOctet (lowercase octet) = isSchemeOctet octet := by
  have each : ∀ n : Nat, n < 256 →
      isSchemeOctet (lowercase (.ofNat n)) = isSchemeOctet (.ofNat n) := by decide +kernel
  simpa using each octet.toNat octet.toNat_lt

/-- Case is a matter of letters. -/
private theorem eq_of_map_lowercase {octets : Octets} (same : octets.map lowercase = slashes) :
    octets = slashes := by
  have each : ∀ n : Nat, n < 256 → lowercase (.ofNat n) ∈ slashes →
      lowercase (.ofNat n) = .ofNat n := by decide +kernel
  have fixed : ∀ octet ∈ octets, lowercase octet = octet := by
    intro octet held
    have among : lowercase octet ∈ slashes := same ▸ List.mem_map_of_mem held
    simpa using each octet.toNat octet.toNat_lt (by simpa using among)
  rw [← same, List.map_congr_left fixed, List.map_id']

private theorem split_of_start {octets name : Octets}
    (fits : ∀ octet ∈ name, isSchemeOctet octet = true)
    (starts : (name ++ slashes).isPrefixOf (octets.map lowercase) = true) :
    ∃ scheme, octets = scheme ++ (slashes ++ octets.drop (name ++ slashes).length) ∧
      ∀ octet ∈ scheme, isSchemeOctet octet = true := by
  obtain ⟨tail, split⟩ := List.isPrefixOf_iff_prefix.mp starts
  obtain ⟨start, rest, rfl, startLower, -⟩ := List.map_eq_append_iff.mp split.symm
  obtain ⟨scheme, marks, rfl, schemeLower, marksLower⟩ := List.map_eq_append_iff.mp startLower
  obtain rfl := eq_of_map_lowercase marksLower
  refine ⟨scheme, ?_, ?_⟩
  · have reach : (name ++ slashes).length = (scheme ++ slashes).length := by
      rw [← startLower, List.length_map]
    rw [reach, List.drop_left, List.append_assoc]
  · intro octet held
    rw [← isSchemeOctet_lowercase]
    exact fits _ (schemeLower ▸ List.mem_map_of_mem held)

private theorem split_of_afterScheme {octets rest : Octets} (read : afterScheme octets = .ok (some rest)) :
    ∃ scheme, octets = scheme ++ (slashes ++ rest) ∧
      ∀ octet ∈ scheme, isSchemeOctet octet = true := by
  unfold afterScheme at read
  cases known : afterKnownScheme? octets with
  | some left =>
      simp only [known, Except.ok.injEq, Option.some.injEq] at read
      subst read
      obtain ⟨start, among, starts⟩ := List.exists_of_findSome?_eq_some known
      split at starts
      · next isStart =>
          cases starts
          simp only [List.mem_cons, List.not_mem_nil, or_false] at among
          obtain rfl | rfl := among
          · exact split_of_start (by decide +kernel) isStart
          · exact split_of_start (by decide +kernel) isStart
      · cases starts
  | none =>
      simp only [known] at read
      split at read
      · next isScheme =>
          split at read
          · cases read
          · cases read
            have start := List.prefix_iff_eq_append.mp
              (List.takeWhile_prefix (l := octets) isSchemeOctet)
            have marks := List.prefix_iff_eq_append.mp (List.isPrefixOf_iff_prefix.mp isScheme.2)
            exact ⟨octets.takeWhile isSchemeOctet, by rw [marks, start],
              List.all_eq_true.mp List.all_takeWhile⟩
      · cases read

theorem layout_of_authorityWithin {octets : Octets} {authority : Option Octets}
    (read : authorityWithin octets = .ok authority) :
    Layout octets authority ∧
      ∀ held, authority = some held → ∀ octet ∈ held, octet < 0x80 := by
  match octets, read with
  | [], read => cases read
  | [octet], read =>
      by_cases lone : octet = 0x2F ∨ octet = 0x2A
      · simp only [authorityWithin, lone, if_true, Except.ok.injEq] at read
        subst read
        exact ⟨.path (by simpa using lone), by simp⟩
      · simp only [authorityWithin, lone, if_false] at read
        have notAsterisk : [octet] ≠ [0x2A] := by simpa using fun same => lone (.inr same)
        obtain ⟨rfl, whole, ascii⟩ := layout_of_wholeAuthority notAsterisk (by simp) read
        exact ⟨.alone notAsterisk whole, by simpa using ascii⟩
  | first :: second :: others, read =>
      by_cases isPath : first = 0x2F
      · subst isPath
        simp only [authorityWithin, if_true, bind_eq_ok_iff, pure_eq_ok_iff] at read
        obtain ⟨_, _, rfl⟩ := read
        exact ⟨.path (.inl rfl), by simp⟩
      · simp only [authorityWithin, isPath, if_false] at read
        obtain ⟨left, readScheme, readRest⟩ := bind_eq_ok_iff.mp read
        cases left with
        | none =>
            have notAsterisk : first :: second :: others ≠ [0x2A] := by simp
            obtain ⟨rfl, whole, ascii⟩ :=
              layout_of_wholeAuthority notAsterisk (by simp) readRest
            exact ⟨.alone notAsterisk whole, by simpa using ascii⟩
        | some left =>
            obtain ⟨scheme, split, fits⟩ := split_of_afterScheme readScheme
            obtain ⟨⟨held, rest⟩, readHeld, given⟩ := bind_eq_ok_iff.mp readRest
            obtain ⟨rfl, whole, ascii, ended⟩ := split_of_readAuthority readHeld
            by_cases empty : held = []
            · simp [empty] at given
            · simp only [empty, if_false, bind_eq_ok_iff, pure_eq_ok_iff] at given
              obtain ⟨_, _, rfl⟩ := given
              rw [split]
              exact ⟨.afterScheme fits whole ended, by simpa using ascii⟩

theorem layout_of_authority {text : String} {authority : Option Octets}
    (read : Uri.authority text = .ok authority) :
    Layout (Utf8.encode text) authority ∧
      ∀ held, authority = some held → ∀ octet ∈ held, octet < 0x80 := by
  unfold Uri.authority at read
  by_cases long : longest < (Utf8.encode text).length
  · simp [long] at read
  · simp only [long, if_false] at read
    exact layout_of_authorityWithin read

theorem hosted_hostOf {authority : Option Octets}
    (ascii : ∀ held, authority = some held → ∀ octet ∈ held, octet < 0x80) :
    Hosted authority (Utf8.encode (hostOf authority)) := by
  cases authority with
  | none => exact .none
  | some held =>
      have within : ∀ octet ∈ afterLast 0x40 held, octet ∈ held := by
        intro octet kept
        have sublist := List.takeWhile_sublist (l := held.reverse) (· != 0x40)
        exact List.mem_reverse.mp (sublist.subset (List.mem_reverse.mp kept))
      rw [hostOf, Utf8.encode_ascii fun octet kept => ascii held rfl octet (within octet kept)]
      exact hosted_afterLast held

theorem Hosted.unmarked {authority : Option Octets} {host : Octets}
    (hosted : Hosted authority host) : 0x40 ∉ host := by
  cases hosted with
  | none => exact List.not_mem_nil
  | alone unmarked => exact unmarked
  | afterUser unmarked => exact unmarked

theorem at_not_mem_toList {text : String} (unmarked : 0x40 ∉ Utf8.encode text) :
    '@' ∉ text.toList := by
  intro held
  exact unmarked (List.mem_flatMap.mpr ⟨'@', held, by decide⟩)

/-- The host that the text of a URI names is what its authority says after user information. -/
def Names (text : String) (host : Octets) : Prop :=
  ∃ authority, Layout (Utf8.encode text) authority ∧ Hosted authority host

theorem Names.unique {text : String} {host host' : Octets} (names : Names text host)
    (names' : Names text host') : host = host' := by
  obtain ⟨authority, layout, hosted⟩ := names
  obtain ⟨authority', layout', hosted'⟩ := names'
  obtain rfl := layout.unique layout'
  rw [hosted.host_eq, hosted'.host_eq]

theorem names_hostOf {text : String} {authority : Option Octets}
    (read : Uri.authority text = .ok authority) : Names text (Utf8.encode (hostOf authority)) := by
  obtain ⟨layout, ascii⟩ := layout_of_authority read
  exact ⟨authority, layout, hosted_hostOf ascii⟩

theorem hostOf_eq_of_names {text other : String} {authority authority' : Option Octets}
    {host : Octets} (read : Uri.authority text = .ok authority)
    (read' : Uri.authority other = .ok authority') (names : Names text host)
    (names' : Names other host) : hostOf authority = hostOf authority' := by
  have same := (names_hostOf read).unique names
  have same' := (names_hostOf read').unique names'
  exact Utf8.encode_injective (same.trans same'.symm)

end ShootKubeconfig.Uri
