import Firewall.Address.Basic
import Firewall.Number.Integer
import Firewall.Text.Blank
import Firewall.Text.Line
import Firewall.Text.Quoted

/-!
# Reading addresses

The grammar of addresses: `a.b.c.d` or IPv6 groups, a zone after a percent sign, a prefix length
or, for IPv4, a netmask or hostmask after a slash.  `Address.parse?` reads a text as it stands,
`Address.read` cuts the blanks from its ends first.
-/

namespace Firewall.Address

/-- An octet: at most three digits, no zero in front of others, at most 255. -/
def octet? (text : List Char) : Option Nat := do
  let number ← Text.natural? text
  if text.length ≤ 3 ∧ (text.length = 1 ∨ text.head? ≠ some '0') ∧ number ≤ 255 then
    return number
  else none

/-- The value of four octets with points between them. -/
def value4? (text : List Char) : Option (BitVec 32) := do
  let octets ← (Text.fields '.' text).mapM octet?
  if octets.length = 4 then return .ofNat 32 (Text.numberOf 256 octets) else none

/-- The mask whose first bits, as many as the prefix length says, are ones. -/
def netmask (length : Nat) : BitVec 32 := BitVec.allOnes 32 <<< (32 - length)

/-- The mask whose first bits, as many as the prefix length says, are zeros. -/
def hostmask (length : Nat) : BitVec 32 := BitVec.allOnes 32 >>> length

/-- A prefix length in digits, up to a limit. -/
def prefixLength? (limit : Nat) (text : List Char) : Option (Fin (limit + 1)) := do
  let number ← Text.natural? text
  if small : number < limit + 1 ∧ text.length ≤ Integer.digitLimit then
    return ⟨number, small.1⟩
  else none

/-- A prefix length given by a mask: a netmask if it is one, else a hostmask. -/
def maskLength? (text : List Char) : Option (Fin 33) := do
  let mask ← value4? text
  let lengths := List.finRange 33
  lengths.find? (fun (length : Fin 33) => netmask length == mask)
    <|> lengths.find? (fun (length : Fin 33) => hostmask length == mask)

/-- A group: one to four hexadecimal digits. -/
def group? (text : List Char) : Option Nat := do
  let digits ← text.mapM Text.hexDigitValue?
  if 1 ≤ digits.length ∧ digits.length ≤ 4 then return Text.numberOf 16 digits else none

/-- The last part of an IPv6 address: a group, or an IPv4 address for two of them. -/
def lastGroups? (text : List Char) : Option (List Nat) :=
  if text.contains '.' then
    (value4? text).map fun value => [value.toNat / 65536, value.toNat % 65536]
  else (group? text).map ([·])

/-- Groups with colons between them; an empty text has none. -/
def groups? (last? : List Char → Option (List Nat)) (text : List Char) : Option (List Nat) :=
  if text.isEmpty then some []
  else do
    let parts := Text.fields ':' text
    let front ← parts.dropLast.mapM group?
    let last ← last? (parts.getLast?.getD [])
    return front ++ last

/-- The texts before and after the first double colon. -/
def splitGap? : List Char → Option (List Char × List Char)
  | ':' :: ':' :: rest => some ([], rest)
  | character :: rest => (splitGap? rest).map fun (high, low) => (character :: high, low)
  | [] => none

/-- The eight groups of an IPv6 address.  A double colon stands for one or more zero groups. -/
def allGroups? (text : List Char) : Option (List Nat) :=
  match splitGap? text with
  | none => do
      let groups ← groups? lastGroups? text
      if groups.length = 8 then return groups else none
  | some (high, low) => do
      let high ← groups? (fun last => (group? last).map ([·])) high
      let low ← groups? lastGroups? low
      if high.length + low.length < 8 then
        return high ++ List.replicate (8 - high.length - low.length) 0 ++ low
      else none

/-- The value of an IPv6 address. -/
def value6? (text : List Char) : Option (BitVec 128) :=
  (allGroups? text).map fun groups => .ofNat 128 (Text.numberOf 65536 groups)

/-- The value of an IPv6 address and the zone behind it. -/
def zoned? (text : List Char) : Option (BitVec 128 × Option Zone) := do
  let value ← value6? (Text.before '%' text)
  match text.dropWhile (· ≠ '%') with
  | [] => return (value, none)
  | _ :: name => return (value, some (← Zone.ofName? (String.ofList name)))

/-- An IPv4 address; a mask may follow. -/
def parse4? (address : List Char) (mask : Option (List Char)) : Option Address := do
  let value ← value4? address
  let length ← match mask with
    | none => some (Fin.last 32)
    | some mask => prefixLength? 32 mask <|> maskLength? mask
  return .v4 value length

/-- An IPv6 address; a prefix length may follow. -/
def parse6? (address : List Char) (mask : Option (List Char)) : Option Address := do
  let (value, zone) ← zoned? address
  let length ← match mask with
    | none => some (Fin.last 128)
    | some mask => prefixLength? 128 mask
  return .v6 value zone length

/-- The address that a text writes. -/
def parse? (text : List Char) : Option Address :=
  match Text.fields '/' text with
  | [address] => parse4? address none <|> parse6? address none
  | [address, mask] => parse4? address (some mask) <|> parse6? address (some mask)
  | _ => none

/-- A text that is no address. -/
structure Malformed where
  text : String
  deriving DecidableEq, Repr

def Malformed.message (malformed : Malformed) : String :=
  Text.quote malformed.text ++ " does not appear to be an IPv4 or IPv6 interface"

/-- Reads an address with blanks around it. -/
def read (text : String) : Except Malformed Address :=
  let trimmed := Text.trim Text.isBlank text.toList
  match parse? trimmed with
  | some address => .ok address
  | none => .error ⟨String.ofList trimmed⟩

/-- Reads an address with blanks around it, if the text is one. -/
def read? (text : String) : Option Address :=
  (read text).toOption

end Firewall.Address
