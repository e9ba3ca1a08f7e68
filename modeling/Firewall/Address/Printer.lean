import Firewall.Address.Basic

/-!
# Printed addresses

An IPv4 address is four decimal octets.  An IPv6 address is eight hexadecimal groups; the longest
run of two or more zero groups, the first of several, is written as a double colon.
`Address.interfaceText` gives the whole address, `Address.text` leaves out the zone, and the prefix
length of a single host.
-/

namespace Firewall.Address

/-- Some digits of a number in a base, most significant first. -/
def digitsOf (base : Nat) : (count : Nat) → (number : Nat) → List Nat
  | 0, _ => []
  | count + 1, number => digitsOf base count (number / base) ++ [number % base]

/-- The texts of some parts with a separator between them. -/
def joinWith (separator : Char) (parts : List (List Char)) : List Char :=
  [separator].intercalate parts

/-- The text of an IPv4 address. -/
def chars4 (value : BitVec 32) : List Char :=
  joinWith '.' ((digitsOf 256 4 value.toNat).map (Nat.toDigits 10))

/-- The number of zeros at the front. -/
def leadingZeros (groups : List Nat) : Nat :=
  (groups.takeWhile (· == 0)).length

/-- Where the longest run of zeros starts, the first of several, and its length. -/
def longestZeros : List Nat → Nat × Nat
  | [] => (0, 0)
  | group :: rest =>
      let (start, length) := longestZeros rest
      if length ≤ leadingZeros (group :: rest) then (0, leadingZeros (group :: rest))
      else (start + 1, length)

/-- The groups in hexadecimal digits with colons between them. -/
def joinGroups (groups : List Nat) : List Char :=
  joinWith ':' (groups.map (Nat.toDigits 16))

/-- The text of the groups of an IPv6 address. -/
def compressed (groups : List Nat) : List Char :=
  let (start, length) := longestZeros groups
  if 2 ≤ length then
    joinGroups (groups.take start) ++ ':' :: ':' :: joinGroups (groups.drop (start + length))
  else joinGroups groups

/-- The text of an IPv6 address. -/
def chars6 (value : BitVec 128) : List Char :=
  compressed (digitsOf 65536 8 value.toNat)

/-- The address alone, without zone and prefix length. -/
def ipChars : Address → List Char
  | .v4 value _ => chars4 value
  | .v6 value _ _ => chars6 value

/-- The zone as it follows an address. -/
def zoneChars : Address → List Char
  | .v6 _ (some zone) _ => '%' :: zone.name.toList
  | _ => []

/-- The prefix length as it follows an address. -/
def prefixChars (address : Address) : List Char :=
  '/' :: Nat.toDigits 10 address.prefixLength

/-- The text of the address alone. -/
def ipText (address : Address) : String :=
  String.ofList address.ipChars

/-- The text of the address with its prefix length. -/
def prefixedText (address : Address) : String :=
  String.ofList (address.ipChars ++ address.prefixChars)

/-- The text of the whole address: zone and prefix length follow it. -/
def interfaceText (address : Address) : String :=
  String.ofList (address.ipChars ++ address.zoneChars ++ address.prefixChars)

/-- The text of the address in a rule.  A single host has no prefix length. -/
def text (address : Address) : String :=
  if address.isHost then address.ipText else address.prefixedText

end Firewall.Address
