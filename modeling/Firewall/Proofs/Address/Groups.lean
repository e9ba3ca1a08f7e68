import Firewall.Address.Parser
import Firewall.Address.Printer
import Firewall.Proofs.Number.Digits
import Firewall.Proofs.Text.Cutting

/-!
# Octets and groups

The octets of an IPv4 address and the groups of an IPv6 address are read back from the text that
they are written with.  A double colon is written at one place at most, and the zeros that it
stands for are those that are missing (`allGroups?_compressed`).
-/

namespace Firewall.Address

open Text

/-- Every item is read back from what it is written with, so all of them are. -/
theorem mapM_map_eq_some {α β : Type} {write : α → β} {read : β → Option α} {items : List α}
    (readsBack : ∀ item ∈ items, read (write item) = some item) :
    (items.map write).mapM read = some items := by
  induction items with
  | nil => rfl
  | cons item rest ih =>
      rw [List.map_cons, List.mapM_cons, readsBack item List.mem_cons_self,
        ih fun other member => readsBack other (List.mem_cons_of_mem item member)]
      rfl

theorem mapM_eq_none_of_mem {α β : Type} {read : α → Option β} {items : List α} {item : α}
    (member : item ∈ items) (fails : read item = none) : items.mapM read = none := by
  induction items with
  | nil => contradiction
  | cons first rest ih =>
      rw [List.mapM_cons]
      rcases List.mem_cons.mp member with rfl | inRest
      · rw [fails]
        rfl
      · rw [ih inRest]
        cases read first <;> rfl

theorem joinWith_cons_cons (separator : Char) (part next : List Char) (rest : List (List Char)) :
    joinWith separator (part :: next :: rest) =
      part ++ separator :: joinWith separator (next :: rest) := by
  simp [joinWith]

theorem mem_joinWith {separator character : Char} {parts : List (List Char)}
    (member : character ∈ joinWith separator parts) :
    character = separator ∨ ∃ part ∈ parts, character ∈ part := by
  induction parts with
  | nil => contradiction
  | cons part rest ih =>
      cases rest with
      | nil => exact .inr ⟨part, List.mem_cons_self, by simpa [joinWith] using member⟩
      | cons next others =>
          rw [joinWith_cons_cons, List.mem_append, List.mem_cons] at member
          rcases member with inPart | isSeparator | later
          · exact .inr ⟨part, List.mem_cons_self, inPart⟩
          · exact .inl isSeparator
          · rcases ih later with isSeparator | ⟨other, isPart, inside⟩
            · exact .inl isSeparator
            · exact .inr ⟨other, List.mem_cons_of_mem part isPart, inside⟩

/-! ## Octets -/

theorem octet?_toDigits {number : Nat} (small : number < 256) :
    octet? (Nat.toDigits 10 number) = some number := by
  have short : (Nat.toDigits 10 number).length ≤ 3 :=
    (Nat.length_toDigits_le_iff (by decide) (by decide)).mpr (by omega)
  have noZero : (Nat.toDigits 10 number).length = 1 ∨
      (Nat.toDigits 10 number).head? ≠ some '0' := by
    by_cases zero : number = 0
    · subst zero
      exact .inl rfl
    · exact .inr (head?_toDigits_ne_zero (by decide) (Nat.pos_of_ne_zero zero))
  rw [octet?, natural?_toDigits]
  exact if_pos ⟨short, noZero, Nat.le_of_lt_succ small⟩

theorem isDigit_of_mem_octet {number : Nat} {character : Char}
    (member : character ∈ Nat.toDigits 10 number) : character.isDigit = true :=
  Nat.isDigit_of_mem_toDigits (by decide) (by decide) member

theorem mem_chars4 {value : BitVec 32} {character : Char} (member : character ∈ chars4 value) :
    character = '.' ∨ character.isDigit = true := by
  rcases mem_joinWith member with point | ⟨part, isPart, inside⟩
  · exact .inl point
  · obtain ⟨octet, _, rfl⟩ := List.mem_map.mp isPart
    exact .inr (isDigit_of_mem_octet inside)

theorem value4?_chars4 (value : BitVec 32) : value4? (chars4 value) = some value := by
  have fields : Text.fields '.' (chars4 value) =
      (digitsOf 256 4 value.toNat).map (Nat.toDigits 10) := by
    refine fields_joined (by simp [digitsOf]) ?_
    intro part isPart point
    obtain ⟨octet, _, rfl⟩ := List.mem_map.mp isPart
    exact absurd (isDigit_of_mem_octet point) (by decide)
  have octets : ((digitsOf 256 4 value.toNat).map (Nat.toDigits 10)).mapM octet? =
      some (digitsOf 256 4 value.toNat) :=
    mapM_map_eq_some fun octet member =>
      octet?_toDigits (lt_of_mem_digitsOf (by decide) member)
  have number : numberOf 256 (digitsOf 256 4 value.toNat) = value.toNat :=
    numberOf_digitsOf value.isLt
  simp [value4?, fields, octets, number]

/-- What holds anything but digits and points is no IPv4 address. -/
theorem value4?_eq_none_of_mem {text : List Char} {character : Char} (noPoint : character ≠ '.')
    (noDigit : character.isDigit = false) (member : character ∈ text) : value4? text = none := by
  obtain ⟨field, isField, inside⟩ := List.mem_flatten.mp (mem_flatten_fields noPoint member)
  have noOctet : octet? field = none := by
    rw [octet?, natural?_eq_none_of_mem noDigit inside]
    rfl
  rw [value4?, mapM_eq_none_of_mem isField noOctet]
  rfl

/-! ## Groups -/

theorem group?_toDigits {number : Nat} (small : number < 65536) :
    group? (Nat.toDigits 16 number) = some number := by
  obtain ⟨digits, read, length, value⟩ := mapM_hexDigitValue?_toDigits number
  have short : (Nat.toDigits 16 number).length ≤ 4 :=
    (Nat.length_toDigits_le_iff (by decide) (by decide)).mpr (by omega)
  have some : 1 ≤ (Nat.toDigits 16 number).length := Nat.length_toDigits_pos
  rw [group?, read]
  simp [length, value, short, some]

theorem notMem_group {number : Nat} {character : Char}
    (other : hexDigitValue? character = none) : character ∉ Nat.toDigits 16 number := by
  intro member
  have digit := hexDigitValue?_isSome_of_mem_toDigits member
  rw [other] at digit
  contradiction

theorem lastGroups?_toDigits {number : Nat} (small : number < 65536) :
    lastGroups? (Nat.toDigits 16 number) = some [number] := by
  have noPoint : ¬ (Nat.toDigits 16 number).contains '.' = true := by
    rw [List.contains_iff_mem]
    exact notMem_group (by decide)
  rw [lastGroups?, if_neg noPoint, group?_toDigits small]
  rfl

theorem joinGroups_cons_cons (group next : Nat) (rest : List Nat) :
    joinGroups (group :: next :: rest) =
      Nat.toDigits 16 group ++ ':' :: joinGroups (next :: rest) := by
  simp [joinGroups, joinWith_cons_cons]

theorem joinGroups_ne_nil {groups : List Nat} (nonempty : groups ≠ []) :
    joinGroups groups ≠ [] := by
  cases groups with
  | nil => contradiction
  | cons group rest =>
      cases rest with
      | nil => simp [joinGroups, joinWith, Nat.toDigits_ne_nil]
      | cons next others => simp [joinGroups_cons_cons]

/-- Joined groups are read back, however their last one is read. -/
theorem groups?_joinGroups {last? : List Char → Option (List Nat)}
    (readsLast : ∀ number < 65536, last? (Nat.toDigits 16 number) = some [number])
    {groups : List Nat} (small : ∀ group ∈ groups, group < 65536) :
    groups? last? (joinGroups groups) = some groups := by
  rcases List.eq_nil_or_concat groups with rfl | ⟨front, last, rfl⟩
  · rfl
  · have nonempty : joinGroups (front ++ [last]) ≠ [] := joinGroups_ne_nil (by simp)
    have parts : Text.fields ':' (joinGroups (front ++ [last])) =
        front.map (Nat.toDigits 16) ++ [Nat.toDigits 16 last] := by
      rw [joinGroups, joinWith, fields_joined]
      · simp
      · simp
      · intro part isPart
        obtain ⟨group, _, rfl⟩ := List.mem_map.mp isPart
        exact notMem_group (by decide)
    have frontRead : (front.map (Nat.toDigits 16)).mapM group? = some front :=
      mapM_map_eq_some fun group member => group?_toDigits (small group (by simp [member]))
    have lastRead := readsLast last (small last (by simp))
    simp [groups?, nonempty, parts, frontRead, lastRead]

/-! ## The double colon -/

theorem splitGap?_cons_of_ne {character : Char} (other : character ≠ ':') (rest : List Char) :
    splitGap? (character :: rest) =
      (splitGap? rest).map fun (high, low) => (character :: high, low) := by
  rw [splitGap?]
  rintro tail rfl
  exact absurd rfl other

/-- In front of a text that starts without a colon, a single colon opens no gap. -/
theorem splitGap?_colon_cons {rest : List Char} (single : rest.head? ≠ some ':') :
    splitGap? (':' :: rest) = (splitGap? rest).map fun (high, low) => (':' :: high, low) := by
  rw [splitGap?]
  rintro tail _ rfl
  exact absurd rfl single

theorem splitGap?_append {front : List Char} (absent : ':' ∉ front) (rest : List Char) :
    splitGap? (front ++ rest) =
      (splitGap? rest).map fun (high, low) => (front ++ high, low) := by
  induction front with
  | nil => simp
  | cons character others ih =>
      rw [List.mem_cons, not_or] at absent
      rw [List.cons_append, splitGap?_cons_of_ne (Ne.symm absent.1), ih absent.2, Option.map_map]
      rfl

theorem head?_joinGroups_ne_colon (groups : List Nat) (rest : List Char) (nonempty : groups ≠ []) :
    (joinGroups groups ++ rest).head? ≠ some ':' := by
  have starts : ∀ group : Nat, ∀ others : List Char,
      (Nat.toDigits 16 group ++ others).head? ≠ some ':' := by
    intro group others colon
    cases digits : Nat.toDigits 16 group with
    | nil => exact Nat.toDigits_ne_nil digits
    | cons first later =>
        rw [digits] at colon
        have isFirst : first = ':' := Option.some.inj colon
        have inside : ':' ∈ Nat.toDigits 16 group := by simp [digits, isFirst]
        exact notMem_group (by decide) inside
  cases groups with
  | nil => contradiction
  | cons group others =>
      cases others with
      | nil => simpa [joinGroups, joinWith] using starts group rest
      | cons next later =>
          rw [joinGroups_cons_cons, List.append_assoc]
          exact starts group _

theorem splitGap?_joinGroups_append {groups : List Nat} (nonempty : groups ≠ [])
    (rest : List Char) :
    splitGap? (joinGroups groups ++ rest) =
      (splitGap? rest).map fun (high, low) => (joinGroups groups ++ high, low) := by
  induction groups with
  | nil => contradiction
  | cons group others ih =>
      have noColon : ':' ∉ Nat.toDigits 16 group := notMem_group (by decide)
      cases others with
      | nil => simpa [joinGroups, joinWith] using splitGap?_append noColon rest
      | cons next later =>
          have single := head?_joinGroups_ne_colon (next :: later) rest (by simp)
          rw [joinGroups_cons_cons, List.append_assoc, splitGap?_append noColon, List.cons_append,
            splitGap?_colon_cons single, ih (by simp), Option.map_map, Option.map_map]
          simp [Function.comp_def]

theorem splitGap?_joinGroups (groups : List Nat) : splitGap? (joinGroups groups) = none := by
  by_cases empty : groups = []
  · subst empty
    rfl
  · have noGap := splitGap?_joinGroups_append empty []
    rw [List.append_nil] at noGap
    rw [noGap]
    rfl

/-- A double colon behind joined groups is the gap. -/
theorem splitGap?_joinGroups_gap (groups : List Nat) (low : List Char) :
    splitGap? (joinGroups groups ++ ':' :: ':' :: low) = some (joinGroups groups, low) := by
  by_cases empty : groups = []
  · subst empty
    rfl
  · rw [splitGap?_joinGroups_append empty]
    simp [splitGap?]

/-! ## The run of zeros -/

theorem take_leadingZeros (groups : List Nat) :
    groups = List.replicate (leadingZeros groups) 0 ++ groups.drop (leadingZeros groups) := by
  induction groups with
  | nil => rfl
  | cons group rest ih =>
      by_cases zero : group = 0
      · have more : leadingZeros (group :: rest) = leadingZeros rest + 1 := by
          simp [leadingZeros, zero]
        rw [more, List.replicate_succ, List.drop_succ_cons, List.cons_append, ← ih, zero]
      · simp [leadingZeros, zero]

theorem longestZeros_replicate (groups : List Nat) :
    groups = groups.take (longestZeros groups).1 ++ List.replicate (longestZeros groups).2 0 ++
      groups.drop ((longestZeros groups).1 + (longestZeros groups).2) := by
  induction groups with
  | nil => rfl
  | cons group rest ih =>
      rw [longestZeros]
      dsimp only
      split
      case isTrue =>
        simpa using take_leadingZeros (group :: rest)
      case isFalse =>
        rw [List.take_succ_cons, Nat.add_right_comm, List.drop_succ_cons, List.cons_append,
          List.cons_append, ← ih]

/-- A gap between joined groups is filled up with zeros. -/
theorem allGroups?_gap {high low : List Nat} (highSmall : ∀ group ∈ high, group < 65536)
    (lowSmall : ∀ group ∈ low, group < 65536) (few : high.length + low.length < 8) :
    allGroups? (joinGroups high ++ ':' :: ':' :: joinGroups low) =
      some (high ++ List.replicate (8 - high.length - low.length) 0 ++ low) := by
  have plain : ∀ number < 65536,
      (group? (Nat.toDigits 16 number)).map ([·]) = some [number] := by
    intro number bound
    rw [group?_toDigits bound]
    rfl
  rw [allGroups?, splitGap?_joinGroups_gap]
  dsimp only
  rw [groups?_joinGroups plain highSmall,
    groups?_joinGroups (fun _ => lastGroups?_toDigits) lowSmall]
  exact if_pos few

/-- The groups of an address are read back from the text that they are written with. -/
theorem allGroups?_compressed {groups : List Nat} (eight : groups.length = 8)
    (small : ∀ group ∈ groups, group < 65536) : allGroups? (compressed groups) = some groups := by
  have whole := longestZeros_replicate groups
  rw [compressed]
  generalize longestZeros groups = zeros at whole ⊢
  obtain ⟨start, length⟩ := zeros
  dsimp only at whole ⊢
  by_cases long : 2 ≤ length
  · have lengths := congrArg List.length whole
    simp only [List.length_append, List.length_replicate, eight] at lengths
    have missing : 8 - (groups.take start).length - (groups.drop (start + length)).length =
        length := by omega
    rw [if_pos long, allGroups?_gap, missing, ← whole]
    · exact fun group member => small group (List.mem_of_mem_take member)
    · exact fun group member => small group (List.mem_of_mem_drop member)
    · omega
  · rw [if_neg long, allGroups?, splitGap?_joinGroups]
    dsimp only
    rw [groups?_joinGroups (fun _ => lastGroups?_toDigits) small]
    simp [eight]

end Firewall.Address
