import Firewall.Text.CodePoint

/-!
# UTF-8

Bytes to characters.  `Utf8.step` reads one character or says how many bytes the fault spans;
the strict reader `Utf8.decode` stops there, the lenient readers put something in the place of the
span and go on: `Utf8.decodeReplacing` one replacement character, `Utf8.decodeEscaping` a half of a
pair for each byte.  From the latter, `Utf8.encode` finds the bytes again.
-/

namespace Firewall.Text.Utf8

/-- What is wrong with a sequence of bytes. -/
inductive Reason where
  /-- No sequence starts with this byte. -/
  | invalidStart
  /-- A byte of the sequence is out of its limits. -/
  | invalidContinuation
  /-- The bytes end inside the sequence. -/
  | unexpectedEnd
  deriving DecidableEq, Repr

def Reason.message : Reason → String
  | .invalidStart => "invalid start byte"
  | .invalidContinuation => "invalid continuation byte"
  | .unexpectedEnd => "unexpected end of data"

/-- The first fault of some bytes: its place, its first byte, how many bytes it spans. -/
structure Fault where
  position : Nat
  byte : UInt8
  width : Nat
  reason : Reason
  deriving DecidableEq, Repr

/-- The text of a fault.  A fault of one byte names the byte, a longer one its span. -/
def Fault.message (fault : Fault) : String :=
  let place :=
    if fault.width = 1 then
      "byte 0x" ++ String.ofList (hexPadded 2 fault.byte.toNat) ++ " in position "
        ++ toString fault.position
    else
      "bytes in position " ++ toString fault.position ++ "-"
        ++ toString (fault.position + fault.width - 1)
  "'utf-8' codec can't decode " ++ place ++ ": " ++ fault.reason.message

/-- What a first byte says of its sequence: the bits it contributes, how many bytes follow, and
the limits of the next one. -/
structure Lead where
  payload : Nat
  following : Nat
  low : Nat
  high : Nat

/-- The limits of the second byte rule out overlong sequences, surrogates and code points above
U+10FFFF. -/
def lead? (byte : Nat) : Option Lead :=
  if byte < 0x80 then some ⟨byte, 0, 0x80, 0xBF⟩
  else if byte < 0xC2 then none
  else if byte < 0xE0 then some ⟨byte - 0xC0, 1, 0x80, 0xBF⟩
  else if byte = 0xE0 then some ⟨0, 2, 0xA0, 0xBF⟩
  else if byte = 0xED then some ⟨0xD, 2, 0x80, 0x9F⟩
  else if byte < 0xF0 then some ⟨byte - 0xE0, 2, 0x80, 0xBF⟩
  else if byte = 0xF0 then some ⟨0, 3, 0x90, 0xBF⟩
  else if byte < 0xF4 then some ⟨byte - 0xF0, 3, 0x80, 0xBF⟩
  else if byte = 0xF4 then some ⟨4, 3, 0x80, 0x8F⟩
  else none

/-- Reads the bytes after the first one.  An error tells how many bytes of the sequence were
good. -/
def follow (code seen low high : Nat) : Nat → List UInt8 → Except (Nat × Reason) Nat
  | 0, _ => .ok code
  | _ + 1, [] => .error (seen, .unexpectedEnd)
  | count + 1, byte :: rest =>
      if low ≤ byte.toNat ∧ byte.toNat ≤ high then
        follow (code * 64 + (byte.toNat - 0x80)) (seen + 1) 0x80 0xBF count rest
      else .error (seen, .invalidContinuation)

/-- Reads one character: its code and how many bytes follow its first one, or the width and the
reason of a fault. -/
def step (byte : UInt8) (rest : List UInt8) : Except (Nat × Reason) (Nat × Nat) :=
  match lead? byte.toNat with
  | none => .error (1, .invalidStart)
  | some lead =>
      (follow lead.payload 1 lead.low lead.high lead.following rest).map (·, lead.following)

/-- Decodes bytes that start at a position of a longer sequence. -/
def decodeFrom (position : Nat) : List UInt8 → Except Fault (List Char)
  | [] => .ok []
  | byte :: rest =>
      match step byte rest with
      | .ok (code, following) =>
          (decodeFrom (position + 1 + following) (rest.drop following)).map (Char.ofNat code :: ·)
      | .error (width, reason) => .error ⟨position, byte, width, reason⟩
termination_by bytes => bytes.length
decreasing_by simp only [List.length_cons, List.length_drop]; omega

/-- The characters of some bytes, or their first fault. -/
def decode (bytes : List UInt8) : Except Fault (List Char) :=
  decodeFrom 0 bytes

/-- The code points of some bytes, with others in the place of each fault. -/
def codePointsWith (instead : List UInt8 → List Nat) : List UInt8 → List Nat
  | [] => []
  | byte :: rest =>
      match step byte rest with
      | .ok (code, following) => code :: codePointsWith instead (rest.drop following)
      | .error (width, _) =>
          instead ((byte :: rest).take width) ++ codePointsWith instead (rest.drop (width - 1))
termination_by bytes => bytes.length
decreasing_by
  all_goals simp only [List.length_cons, List.length_drop]
  all_goals omega

/-- The text of some bytes, each fault replaced by U+FFFD. -/
def decodeReplacing (bytes : List UInt8) : String :=
  ofCodePoints (codePointsWith (fun _ => [0xFFFD]) bytes)

/-- The text of some bytes, with a half of a pair for each byte of a fault. -/
def decodeEscaping (bytes : List UInt8) : String :=
  ofCodePoints (codePointsWith (·.map halfOfByte) bytes)

/-- The bytes of a text; a half stands for its last byte. -/
def encode (text : String) : List UInt8 :=
  (codePoints text).flatMap fun code =>
    if isHalf code then [UInt8.ofNat code] else String.utf8EncodeChar (Char.ofNat code)

end Firewall.Text.Utf8
