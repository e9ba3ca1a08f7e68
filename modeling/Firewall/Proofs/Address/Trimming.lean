import Firewall.Proofs.Address.RoundTrip
import Mathlib.Data.List.DropRight

/-!
# Addresses with blanks around them

An address is read in two ways: from a text as it stands, and from a text without the blanks at its
two ends.  Where the first way finds an address, the second finds one of the same family, unless the
text without blanks ends in a percent sign (`map_family_read?`).  Only the name of a zone can hold
blanks, and of a zone that is made of nothing else the percent sign is left.
-/

namespace Firewall

namespace Text

/-- Nothing is cut from the end of what stands in front of a place where cutting stops. -/
theorem rdropWhile_append {inClass : Char → Bool} {front : List Char}
    (outside : ∀ character ∈ front, inClass character = false) (back : List Char) :
    (front ++ back).rdropWhile inClass = front ++ back.rdropWhile inClass := by
  induction back using List.reverseRecOn with
  | nil =>
      rw [List.append_nil, List.rdropWhile_nil, List.append_nil, List.rdropWhile_eq_self_iff]
      intro nonempty
      rw [outside _ (List.getLast_mem nonempty)]
      exact Bool.false_ne_true
  | append_singleton rest last ih =>
      rw [← List.append_assoc]
      by_cases inside : inClass last = true
      · rw [List.rdropWhile_concat_pos _ _ _ inside, List.rdropWhile_concat_pos _ _ _ inside, ih]
      · rw [List.rdropWhile_concat_neg _ _ _ inside, List.rdropWhile_concat_neg _ _ _ inside,
          List.append_assoc]

/-- Behind a character that is not cut, only the end is cut. -/
theorem trim_append {inClass : Char → Bool} {front : List Char} (nonempty : front ≠ [])
    (outside : ∀ character ∈ front, inClass character = false) (back : List Char) :
    trim inClass (front ++ back) = front ++ back.rdropWhile inClass := by
  have kept : (front ++ back).dropWhile inClass = front ++ back := by
    cases front with
    | nil => contradiction
    | cons first rest =>
        rw [List.cons_append, List.dropWhile_cons_of_neg]
        simp [outside first List.mem_cons_self]
  change ((front ++ back).dropWhile inClass).rdropWhile inClass = front ++ back.rdropWhile inClass
  rw [kept, rdropWhile_append outside]

/-- Nothing is cut between two characters that are not cut. -/
theorem trim_of_last {inClass : Char → Bool} {front back : List Char} (nonempty : front ≠ [])
    (outside : ∀ character ∈ front, inClass character = false)
    (last : ∀ character ∈ back.getLast?, inClass character = false) :
    trim inClass (front ++ back) = front ++ back := by
  have kept : back.rdropWhile inClass = back := by
    rw [List.rdropWhile_eq_self_iff]
    intro present
    rw [last _ (List.getLast?_eq_some_getLast present)]
    exact Bool.false_ne_true
  rw [trim_append nonempty outside, kept]

theorem trim_of_outside {inClass : Char → Bool} {text : List Char}
    (outside : ∀ character ∈ text, inClass character = false) : trim inClass text = text := by
  cases text with
  | nil => rfl
  | cons first rest =>
      have whole := @trim_of_last inClass (first :: rest) [] (List.cons_ne_nil first rest) outside
        nofun
      simpa using whole

end Text

namespace Address

open Text

/-! ## Characters of an address -/

section Characters

variable {text : List Char} {character : Char}

theorem isDigit_of_isIpChar_false (foreign : isIpChar character = false) :
    character.isDigit = false := by
  rw [Bool.eq_false_iff] at foreign ⊢
  exact fun digit => foreign (isIpChar_of_isDigit digit)

theorem group?_eq_none_of_mem (noDigit : hexDigitValue? character = none)
    (member : character ∈ text) : group? text = none := by
  rw [group?, mapM_eq_none_of_mem member noDigit]
  rfl

theorem lastGroups?_eq_none_of_mem (foreign : isIpChar character = false)
    (member : character ∈ text) : lastGroups? text = none := by
  have noDigit := isDigit_of_isIpChar_false foreign
  simp only [isIpChar, Bool.or_eq_false_iff, beq_eq_false_iff_ne, ne_eq] at foreign
  unfold lastGroups?
  split
  · rw [value4?_eq_none_of_mem foreign.1.2 noDigit member]
    rfl
  · rw [group?_eq_none_of_mem (by simpa using foreign.1.1) member]
    rfl

theorem groups?_eq_none_of_mem {last? : List Char → Option (List Nat)}
    (lastFails : ∀ last, character ∈ last → last? last = none)
    (foreign : isIpChar character = false) (member : character ∈ text) :
    groups? last? text = none := by
  simp only [isIpChar, Bool.or_eq_false_iff, beq_eq_false_iff_ne, ne_eq] at foreign
  obtain ⟨part, isPart, inside⟩ := List.mem_flatten.mp (mem_flatten_fields foreign.2 member)
  have nonempty := fields_ne_nil ':' text
  rw [groups?, if_neg (by simp [List.ne_nil_of_mem member])]
  rw [← List.dropLast_append_getLast nonempty, List.mem_append, List.mem_singleton] at isPart
  dsimp only
  rcases isPart with inFront | isLast
  · have partFails := group?_eq_none_of_mem (by simpa using foreign.1.1) inside
    rw [mapM_eq_none_of_mem inFront partFails]
    rfl
  · rw [List.getLast?_eq_some_getLast nonempty, Option.getD_some, ← isLast, lastFails part inside]
    cases (fields ':' text).dropLast.mapM group? <;> rfl

theorem eq_append_of_splitGap? {high low : List Char} (split : splitGap? text = some (high, low)) :
    text = high ++ ':' :: ':' :: low := by
  fun_induction splitGap? text generalizing high with
  | case1 rest =>
      cases split
      rfl
  | case2 first rest _ ih =>
      obtain ⟨⟨front, back⟩, found, same⟩ := Option.map_eq_some_iff.mp split
      cases same
      rw [ih found]
      rfl
  | case3 => contradiction

theorem allGroups?_eq_none_of_mem (foreign : isIpChar character = false)
    (member : character ∈ text) : allGroups? text = none := by
  have noColon : character ≠ ':' := by
    rintro rfl
    exact absurd foreign (by decide)
  have noDigit : hexDigitValue? character = none := by
    simp only [isIpChar, Bool.or_eq_false_iff] at foreign
    simpa using foreign.1.1
  unfold allGroups?
  split
  · rw [groups?_eq_none_of_mem (fun last => lastGroups?_eq_none_of_mem foreign) foreign member]
    rfl
  · rename_i high low split
    rw [eq_append_of_splitGap? split, List.mem_append] at member
    rcases member with inHigh | behind
    · rw [groups?_eq_none_of_mem (fun last inside => ?_) foreign inHigh]
      · rfl
      · rw [group?_eq_none_of_mem noDigit inside]
        rfl
    · have inLow : character ∈ low := by simpa [noColon] using behind
      rw [groups?_eq_none_of_mem (fun last => lastGroups?_eq_none_of_mem foreign) foreign inLow]
      cases groups? (fun last => (group? last).map ([·])) high <;> rfl

theorem value6?_eq_none_of_mem (foreign : isIpChar character = false) (member : character ∈ text) :
    value6? text = none := by
  rw [value6?, allGroups?_eq_none_of_mem foreign member]
  rfl

theorem isIpChar_of_value4? {value : BitVec 32} (found : value4? text = some value) :
    ∀ character ∈ text, isIpChar character = true := by
  intro character member
  by_contra other
  rw [Bool.not_eq_true] at other
  have noPoint : character ≠ '.' := by
    rintro rfl
    exact absurd other (by decide)
  rw [value4?_eq_none_of_mem noPoint (isDigit_of_isIpChar_false other) member] at found
  contradiction

theorem isIpChar_of_value6? {value : BitVec 128} (found : value6? text = some value) :
    ∀ character ∈ text, isIpChar character = true := by
  intro character member
  by_contra other
  rw [Bool.not_eq_true] at other
  rw [value6?_eq_none_of_mem other member] at found
  contradiction

theorem isBlank_of_isIpChar (inAddress : isIpChar character = true) :
    isBlank character = false := by
  have codes := toNat_of_isIpChar inAddress
  rw [Bool.eq_false_iff]
  intro blank
  simp only [isBlank, isSpace, Bool.or_eq_true, Bool.and_eq_true, decide_eq_true_eq,
    beq_iff_eq] at blank
  omega

theorem isBlank_of_mem_append {border : Char}
    (inAddress : ∀ character ∈ text, isIpChar character = true) (noBlank : isBlank border = false) :
    ∀ character ∈ text ++ [border], isBlank character = false := by
  intro character member
  rcases List.mem_append.mp member with inText | isBorder
  · exact isBlank_of_isIpChar (inAddress character inText)
  · rw [List.mem_singleton.mp isBorder, noBlank]

end Characters

/-! ## The parts of an address -/

section Parts

variable {text : List Char} {address : Address}

theorem notMem_of_isIpChar {character : Char} (foreign : isIpChar character = false)
    (inAddress : ∀ character ∈ text, isIpChar character = true) : character ∉ text := by
  intro member
  exact Bool.eq_false_iff.mp foreign (inAddress character member)

/-- The zone of an IPv6 address stands behind a percent sign. -/
theorem shape_of_zoned? {value : BitVec 128} {zone : Option Zone}
    (found : zoned? text = some (value, zone)) :
    (∀ character ∈ text, isIpChar character = true) ∨
      ∃ front name, text = front ++ '%' :: name ∧ value6? front = some value ∧
        Zone.ofName? (String.ofList name) = zone ∧ zone.isSome := by
  unfold zoned? at found
  by_cases percent : '%' ∈ text
  · obtain ⟨front, name, rfl, absent⟩ := List.eq_append_cons_of_mem percent
    rw [before_append_cons absent, dropWhile_append_cons absent] at found
    obtain ⟨_, atFront, behind⟩ := Option.bind_eq_some_iff.mp found
    obtain ⟨_, isName, same⟩ := Option.bind_eq_some_iff.mp behind
    cases same
    exact .inr ⟨front, name, rfl, atFront, isName, rfl⟩
  · rw [before_of_notMem percent] at found
    obtain ⟨_, atFront, -⟩ := Option.bind_eq_some_iff.mp found
    exact .inl (isIpChar_of_value6? atFront)

/-- In front of a mask stand characters of an address only, or a zone behind them. -/
theorem shape_of_parse {mask : Option (List Char)}
    (parsed : (parse4? text mask <|> parse6? text mask) = some address) :
    (∀ character ∈ text, isIpChar character = true) ∨
      ∃ front name value zone, text = front ++ '%' :: name ∧ value6? front = some value ∧
        Zone.ofName? (String.ofList name) = some zone ∧ address.family = .inet6 := by
  rw [Option.orElse_eq_orElse, Option.orElse_eq_or, Option.or_eq_some_iff] at parsed
  rcases parsed with four | ⟨-, six⟩
  · obtain ⟨_, found, -⟩ := Option.bind_eq_some_iff.mp four
    exact .inl (isIpChar_of_value4? found)
  · obtain ⟨⟨value, zone⟩, found, masked⟩ := Option.bind_eq_some_iff.mp six
    have isSix : address.family = .inet6 := by
      cases mask with
      | none =>
          cases masked
          rfl
      | some mask =>
          obtain ⟨length, -, same⟩ := Option.bind_eq_some_iff.mp masked
          cases same
          rfl
    rcases shape_of_zoned? found with plain | ⟨front, name, split, atFront, isName, given⟩
    · exact .inl plain
    · obtain ⟨zone, rfl⟩ := Option.isSome_iff_exists.mp given
      exact .inr ⟨front, name, value, zone, split, atFront, isName, isSix⟩

theorem isIpChar_of_natural? {number : Nat} (found : natural? text = some number) :
    text ≠ [] ∧ ∀ character ∈ text, isIpChar character = true := by
  constructor
  · rintro rfl
    contradiction
  · intro character member
    by_contra other
    have noDigit := isDigit_of_isIpChar_false (by simpa using other)
    rw [natural?_eq_none_of_mem noDigit member] at found
    contradiction

theorem shape_of_prefixLength? {limit : Nat} {length : Fin (limit + 1)}
    (found : prefixLength? limit text = some length) :
    text ≠ [] ∧ ∀ character ∈ text, isIpChar character = true := by
  obtain ⟨_, digits, -⟩ := Option.bind_eq_some_iff.mp found
  exact isIpChar_of_natural? digits

theorem shape_of_mask {mask : List Char}
    (parsed : (parse4? text (some mask) <|> parse6? text (some mask)) = some address) :
    mask ≠ [] ∧ ∀ character ∈ mask, isIpChar character = true := by
  rw [Option.orElse_eq_orElse, Option.orElse_eq_or, Option.or_eq_some_iff] at parsed
  rcases parsed with four | ⟨-, six⟩
  · obtain ⟨_, -, masked⟩ := Option.bind_eq_some_iff.mp four
    obtain ⟨_, found, -⟩ := Option.bind_eq_some_iff.mp masked
    rw [Option.orElse_eq_orElse, Option.orElse_eq_or, Option.or_eq_some_iff] at found
    rcases found with asLength | ⟨-, asMask⟩
    · exact shape_of_prefixLength? asLength
    · obtain ⟨_, found, -⟩ := Option.bind_eq_some_iff.mp asMask
      refine ⟨?_, isIpChar_of_value4? found⟩
      rintro rfl
      contradiction
  · obtain ⟨_, -, masked⟩ := Option.bind_eq_some_iff.mp six
    obtain ⟨_, found, -⟩ := Option.bind_eq_some_iff.mp masked
    exact shape_of_prefixLength? found

end Parts

/-! ## Two readers -/

/-- What stands behind an IPv6 address is read as the name of a zone. -/
theorem parse?_zoned {front name : List Char} {value : BitVec 128}
    (found : value6? front = some value) (noSlash : '/' ∉ name) :
    parse? (front ++ '%' :: name) =
      (Zone.ofName? (String.ofList name)).map fun zone =>
        .v6 value (some zone) (Fin.last 128) := by
  have inAddress := isIpChar_of_value6? found
  have noPercent : '%' ∉ front := notMem_of_isIpChar (by decide) inAddress
  have oneField : Text.fields '/' (front ++ '%' :: name) = [front ++ '%' :: name] := by
    apply fields_of_notMem
    simp [notMem_of_isIpChar (by decide : isIpChar '/' = false) inAddress, noSlash]
  have noFour : parse4? (front ++ '%' :: name) none = none := by
    rw [parse4?, value4?_eq_none_of_mem (by decide : '%' ≠ '.') (by decide) (by simp)]
    rfl
  rw [parse?, oneField]
  dsimp only
  rw [noFour, parse6?, zoned?, before_append_cons noPercent, dropWhile_append_cons noPercent, found]
  cases isName : Zone.ofName? (String.ofList name) <;> simp [isName]

theorem read?_eq_parse?_trim (text : String) :
    read? text = parse? (trim isBlank text.toList) := by
  rw [read?, read]
  cases parse? (trim isBlank text.toList) <;> rfl

theorem isName_ofList_iff {name : List Char} :
    Zone.isName (String.ofList name) = true ↔ name ≠ [] ∧ '%' ∉ name ∧ '/' ∉ name := by
  simp [Zone.isName, and_assoc]

theorem ofName?_isSome_iff {name : List Char} :
    (Zone.ofName? (String.ofList name)).isSome ↔ name ≠ [] ∧ '%' ∉ name ∧ '/' ∉ name := by
  rw [← isName_ofList_iff, Zone.ofName?]
  split
  case isTrue valid => exact ⟨fun _ => valid, fun _ => rfl⟩
  case isFalse invalid => exact ⟨nofun, fun valid => absurd valid invalid⟩

/-- Where nothing is cut, both readers do the same. -/
theorem map_family_read?_of_trim {text : String} {address : Address}
    (parsed : parse? text.toList = some address) (whole : trim isBlank text.toList = text.toList)
    (last : text.toList.getLast? ≠ some '%') :
    (read? text).map family =
      if (trim isBlank text.toList).getLast? = some '%' then none else some address.family := by
  rw [read?_eq_parse?_trim, whole, parsed, if_neg last]
  rfl

/-- What is left of the name of a zone names a zone, if anything is left. -/
theorem map_family_read?_of_zone {text : String} {front name : List Char} {value : BitVec 128}
    (split : text.toList = front ++ '%' :: name) (found : value6? front = some value)
    (isName : (Zone.ofName? (String.ofList name)).isSome) :
    (read? text).map family =
      if (trim isBlank text.toList).getLast? = some '%' then none else some .inet6 := by
  have inAddress := isIpChar_of_value6? found
  obtain ⟨-, noPercent, noSlash⟩ := ofName?_isSome_iff.mp isName
  have inName : ∀ character ∈ name.rdropWhile isBlank, character ∈ name := by
    intro character member
    exact (List.rdropWhile_prefix isBlank name).subset member
  have cut : trim isBlank text.toList = front ++ '%' :: name.rdropWhile isBlank := by
    have behind := trim_append (by simp)
      (isBlank_of_mem_append inAddress (by decide : isBlank '%' = false)) name
    rwa [← List.append_cons, ← List.append_cons, ← split] at behind
  rw [read?_eq_parse?_trim, cut, parse?_zoned found fun slash => noSlash (inName _ slash)]
  by_cases left : name.rdropWhile isBlank = []
  · rw [left, if_pos (by simp)]
    rfl
  · have stillName : (Zone.ofName? (String.ofList (name.rdropWhile isBlank))).isSome := by
      rw [ofName?_isSome_iff]
      exact ⟨left, fun percent => noPercent (inName _ percent),
        fun slash => noSlash (inName _ slash)⟩
    have last : (front ++ '%' :: name.rdropWhile isBlank).getLast? ≠ some '%' := by
      intro isLast
      rw [List.append_cons, List.getLast?_append_of_ne_nil _ left] at isLast
      exact noPercent (inName '%' (List.mem_of_getLast? isLast))
    obtain ⟨zone, isZone⟩ := Option.isSome_iff_exists.mp stillName
    rw [isZone, if_neg last]
    rfl

/-- The reader that cuts blanks finds an address of the family of the one that stands in the text,
unless nothing but a percent sign is left of a zone; then it finds none. -/
theorem map_family_read? {text : String} {address : Address}
    (parsed : parse? text.toList = some address) :
    (read? text).map family =
      if (trim isBlank text.toList).getLast? = some '%' then none else some address.family := by
  have joined := joined_fields '/' text.toList
  have asFields := parsed
  unfold parse? at asFields
  split at asFields
  case h_1 whole isField =>
    have same : text.toList = whole := by
      rw [← joined, isField]
      simp [List.intercalate]
    rcases shape_of_parse asFields with
      plain | ⟨front, name, value, zone, split, found, isName, six⟩
    · rw [← same] at plain
      refine map_family_read?_of_trim parsed ?_ ?_
      · exact trim_of_outside fun character member => isBlank_of_isIpChar (plain character member)
      · intro percent
        exact notMem_of_isIpChar (by decide) plain (List.mem_of_getLast? percent)
    · rw [six]
      exact map_family_read?_of_zone (same.trans split) found (by rw [isName]; rfl)
  case h_2 front mask areFields =>
    have same : text.toList = front ++ '/' :: mask := by
      rw [← joined, areFields]
      simp [List.intercalate]
    obtain ⟨present, inMask⟩ := shape_of_mask asFields
    have last : ∀ character ∈ mask.getLast?, isBlank character = false :=
      fun character isLast => isBlank_of_isIpChar (inMask character (List.mem_of_getLast? isLast))
    refine map_family_read?_of_trim parsed ?_ ?_
    · rw [same]
      rcases shape_of_parse asFields with plain | ⟨head, name, _, _, rfl, found, -, -⟩
      · rw [List.append_cons]
        exact trim_of_last (by simp) (isBlank_of_mem_append plain (by decide)) last
      · rw [List.append_cons head, List.append_assoc]
        refine trim_of_last (by simp)
          (isBlank_of_mem_append (isIpChar_of_value6? found) (by decide)) ?_
        rwa [List.append_cons, List.getLast?_append_of_ne_nil _ present]
    · rw [same, List.append_cons, List.getLast?_append_of_ne_nil _ present]
      intro percent
      exact notMem_of_isIpChar (by decide) inMask (List.mem_of_getLast? percent)
  case h_3 => contradiction

end Address

end Firewall
