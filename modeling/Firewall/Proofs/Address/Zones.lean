import Firewall.Proofs.Address.Trimming

/-!
# Addresses without their zones

A zone stands behind a percent sign, so the text in front of the sign writes the same address
without a zone (`read?_before_percent`).  This needs that no prefix length stands behind the zone,
since it would be cut off with it.
-/

namespace Firewall

namespace Text

theorem trim_append_left {inClass : Char → Bool} {front : List Char}
    (inside : ∀ character ∈ front, inClass character = true) (back : List Char) :
    trim inClass (front ++ back) = trim inClass back := by
  rw [trim, List.dropWhile_append_of_pos inside, ← trim]

/-- A text is what is left of it with the characters that are cut around it. -/
theorem exists_trim_between (inClass : Char → Bool) (text : List Char) :
    ∃ front back, text = front ++ trim inClass text ++ back ∧
      ∀ character ∈ front, inClass character = true := by
  obtain ⟨back, split⟩ := List.rdropWhile_prefix inClass (text.dropWhile inClass)
  refine ⟨text.takeWhile inClass, back, ?_, fun character => List.mem_takeWhile_imp⟩
  change text = text.takeWhile inClass ++ (text.dropWhile inClass).rdropWhile inClass ++ back
  rw [List.append_assoc, split, List.takeWhile_append_dropWhile]

end Text

namespace Address

open Text

section Value

variable {text : List Char} {value : BitVec 128}

/-- Without colons there is but one group, or an IPv4 address for two. -/
theorem length_of_groups? {groups : List Nat} (found : groups? lastGroups? text = some groups)
    (noColon : ':' ∉ text) : groups.length ≤ 2 := by
  rw [groups?] at found
  split at found
  · cases found
    exact Nat.zero_le 2
  · simp only [fields_of_notMem noColon, List.dropLast_singleton, List.getLast?_singleton,
      Option.getD_some, List.mapM_nil, lastGroups?] at found
    split at found
    · cases read : value4? text with
      | none => simp [read] at found
      | some value =>
          simp [read] at found
          simp [← found]
    · cases read : group? text with
      | none => simp [read] at found
      | some group =>
          simp [read] at found
          simp [← found]

theorem colon_mem_of_value6? (found : value6? text = some value) : ':' ∈ text := by
  by_contra noColon
  obtain ⟨groups, all, -⟩ := Option.map_eq_some_iff.mp found
  rw [allGroups?] at all
  split at all
  case h_1 =>
    obtain ⟨few, read, complete⟩ := Option.bind_eq_some_iff.mp all
    have short := length_of_groups? read noColon
    split at complete
    · omega
    · contradiction
  case h_2 high low split =>
    rw [eq_append_of_splitGap? split] at noColon
    exact noColon (by simp)

/-- Groups that nothing follows are an address without a zone. -/
theorem parse?_of_value6? (found : value6? text = some value) :
    parse? text = some (.v6 value none (Fin.last 128)) := by
  have inAddress := isIpChar_of_value6? found
  have noSlash : '/' ∉ text := notMem_of_isIpChar (by decide) inAddress
  have noPercent : '%' ∉ text := notMem_of_isIpChar (by decide) inAddress
  rw [parse?, fields_of_notMem noSlash]
  dsimp only
  rw [parse4?_eq_none_of_colon (colon_mem_of_value6? found), parse6?, zoned?,
    before_of_notMem noPercent, dropWhile_of_notMem noPercent, found]
  rfl

end Value

theorem withoutZone_of_parse {text : List Char} {mask : Option (List Char)} {address : Address}
    (noPercent : '%' ∉ text)
    (parsed : (parse4? text mask <|> parse6? text mask) = some address) :
    address.withoutZone = address := by
  rw [Option.orElse_eq_orElse, Option.orElse_eq_or, Option.or_eq_some_iff] at parsed
  cases parsed with
  | inl four =>
      obtain ⟨value, -, masked⟩ := Option.bind_eq_some_iff.mp four
      cases mask with
      | none =>
          cases masked
          rfl
      | some mask =>
          obtain ⟨length, -, same⟩ := Option.bind_eq_some_iff.mp masked
          cases same
          rfl
  | inr six =>
      obtain ⟨⟨value, zone⟩, zoned, masked⟩ := Option.bind_eq_some_iff.mp six.2
      rw [zoned?, dropWhile_of_notMem noPercent] at zoned
      obtain ⟨_, -, noZone⟩ := Option.bind_eq_some_iff.mp zoned
      cases noZone
      cases mask with
      | none =>
          cases masked
          rfl
      | some mask =>
          obtain ⟨length, -, same⟩ := Option.bind_eq_some_iff.mp masked
          cases same
          rfl

theorem withoutZone_of_parse? {text : List Char} {address : Address} (noPercent : '%' ∉ text)
    (parsed : parse? text = some address) : address.withoutZone = address := by
  have joined := joined_fields '/' text
  rw [parse?] at parsed
  split at parsed
  case h_1 whole isField =>
    rw [isField] at joined
    refine withoutZone_of_parse (fun percent => noPercent ?_) parsed
    rw [← joined]
    simpa using percent
  case h_2 front mask areFields =>
    rw [areFields] at joined
    refine withoutZone_of_parse (fun percent => noPercent ?_) parsed
    rw [← joined]
    simp [percent]
  case h_3 => contradiction

/-- What is read in front of a zone is the address without it. -/
theorem read?_before_zone {text front name : List Char} {value : BitVec 128} {blanks : List Char}
    (areBlank : ∀ character ∈ blanks, isBlank character = true)
    (split : text = blanks ++ front ++ '%' :: name) (found : value6? front = some value) :
    read? (String.ofList (before '%' text)) = some (.v6 value none (Fin.last 128)) := by
  have inAddress := isIpChar_of_value6? found
  have noPercent : '%' ∉ blanks ++ front := by
    rw [List.mem_append]
    rintro (inBlanks | inFront)
    · exact absurd (areBlank '%' inBlanks) (by decide)
    · exact notMem_of_isIpChar (by decide) inAddress inFront
  rw [split, before_append_cons noPercent, read?_eq_parse?_trim, String.toList_ofList,
    trim_append_left areBlank,
    trim_of_outside fun character member => isBlank_of_isIpChar (inAddress character member)]
  exact parse?_of_value6? found

theorem read?_before_percent {text : String} {address : Address}
    (isRead : read? text = some address) (one : '%' ∈ text.toList → '/' ∉ text.toList) :
    read? (String.ofList (before '%' text.toList)) = some address.withoutZone := by
  have parsed := isRead
  rw [read?_eq_parse?_trim] at parsed
  obtain ⟨blanks, behind, between, areBlank⟩ := exists_trim_between isBlank text.toList
  -- A percent sign is no blank, so it is in the trimmed text if it is anywhere.
  by_cases percent : '%' ∈ text.toList
  · have noSlash : '/' ∉ trim isBlank text.toList := by
      intro slash
      apply one percent
      rw [between]
      simp [slash]
    have inTrimmed : '%' ∈ trim isBlank text.toList := mem_trim_of_outside (by decide) percent
    have oneField := parsed
    rw [parse?, fields_of_notMem noSlash] at oneField
    rcases shape_of_parse oneField with
      plain | ⟨front, name, value, zone, split, found, isName, -⟩
    · exact absurd inTrimmed (notMem_of_isIpChar (by decide) plain)
    · rw [split, parse?_zoned found fun slash => noSlash (by simp [split, slash]), isName] at parsed
      cases parsed
      have whole : text.toList = blanks ++ front ++ '%' :: (name ++ behind) := by
        rw [between, split]
        simp
      exact read?_before_zone areBlank whole found
  · have noPercent : '%' ∉ trim isBlank text.toList := by
      intro inTrimmed
      apply percent
      rw [between]
      simp [inTrimmed]
    rw [before_of_notMem percent, String.ofList_toList, isRead,
      withoutZone_of_parse? noPercent parsed]

end Address

end Firewall
