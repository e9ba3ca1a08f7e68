import Firewall.Family

/-!
# Addresses

An address is an IP address together with the length of its network prefix; a single host has the
full length.  An IPv6 address may carry a zone.  The host bits below the prefix are kept.
-/

namespace Firewall

/-- A name of a zone is not empty, and has neither a percent sign nor a slash in it. -/
def Zone.isName (text : String) : Bool :=
  !text.isEmpty && !text.toList.contains '%' && !text.toList.contains '/'

/-- The zone of an IPv6 address. -/
structure Zone where
  name : String
  valid : Zone.isName name = true
  deriving DecidableEq

def Zone.ofName? (text : String) : Option Zone :=
  if valid : Zone.isName text = true then some ⟨text, valid⟩ else none

/-- An address with the length of its network prefix. -/
inductive Address where
  | v4 (value : BitVec 32) (prefixLength : Fin 33)
  | v6 (value : BitVec 128) (zone : Option Zone) (prefixLength : Fin 129)
  deriving DecidableEq

namespace Address

def family : Address → Family
  | .v4 .. => .inet
  | .v6 .. => .inet6

/-- The number of bits of an address. -/
def width : Address → Nat
  | .v4 .. => 32
  | .v6 .. => 128

/-- The number of bits of the network prefix. -/
def prefixLength : Address → Nat
  | .v4 _ length => length
  | .v6 _ _ length => length

/-- Whether an address stands for one host only. -/
def isHost (address : Address) : Bool := address.prefixLength == address.width

/-- The loopback addresses: 127.0.0.0/8 and ::1. -/
def isLoopback : Address → Bool
  | .v4 value _ => value >>> 24 == 127#32
  | .v6 value _ _ => value == 1#128

def withoutZone : Address → Address
  | .v4 value length => .v4 value length
  | .v6 value _ length => .v6 value none length

/-- The network of an address: the host bits are zero.  An address that is its own network keeps
its zone. -/
def network : Address → Address
  | .v4 value length => .v4 (value >>> (32 - length.val) <<< (32 - length.val)) length
  | .v6 value zone length =>
      let masked := value >>> (128 - length.val) <<< (128 - length.val)
      .v6 masked (if masked = value then zone else none) length

/-- The single host that a number stands for: an IPv4 address if 32 bits hold it. -/
def ofInt? (number : Int) : Option Address :=
  let short := BitVec.ofInt 32 number
  let long := BitVec.ofInt 128 number
  if short.toNat = number then some (.v4 short ⟨32, by decide⟩)
  else if long.toNat = number then some (.v6 long none ⟨128, by decide⟩)
  else none

end Address

end Firewall
