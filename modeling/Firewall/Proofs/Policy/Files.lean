import Firewall.Policy.File
import Firewall.Proofs.Policy.Names
import Firewall.Proofs.Text.Utf8

/-!
# Contents of a policy file

Whatever a policy file holds, it is loaded or there is an error about its content, never about a
file that is missing.  The message of the error names the file, but for three kinds of content
(`Policy.IsUntold`): bytes that are no text, an integer with too many digits, and names whose fault
has no UTF-8 form.  The errors about those are the same whatever the file is called.
-/

namespace Firewall.Policy

/-- A policy is loaded from a file, or there is an error and its message names the file. -/
def LoadsOrNames (path : String) (bytes : List UInt8) : Prop :=
  (∃ policy, load path (some bytes) = .ok policy) ∨
    ∃ error front back, load path (some bytes) = .error error ∧
      error.message = front ++ path ++ back

/-- The first fault of the names of a document has no UTF-8 form. -/
def HasUntoldNames (document : Value) : Prop :=
  ∃ names, document.member? "names" = some (valueOfNames names) ∧
    ∃ fault : NameFault, fault.IsFirst names ∧ Text.isWhole fault.message = false

/-- Content about which no message names the file. -/
inductive IsUntold (bytes : List UInt8) : Prop
  | notText : (∀ text : List Char, bytes ≠ text.flatMap String.utf8EncodeChar) → IsUntold bytes
  | badNumber {text : List Char} {digits : Nat} :
      bytes = text.flatMap String.utf8EncodeChar →
      Json.read (Text.unixNewlines text) = .error (.integerTooLong digits) → IsUntold bytes
  | notEncoded {text : List Char} {document : Value} :
      bytes = text.flatMap String.utf8EncodeChar →
      Json.read (Text.unixNewlines text) = .ok document → HasUntoldNames document → IsUntold bytes

/-- What comes of a file with some content: a policy or an error about the content, which names the
file unless the content is untold; in that case it is the same for all files. -/
structure TellsFile (bytes : List UInt8) : Prop where
  content : ∀ path missing, load path (some bytes) ≠ .error (.missing missing)
  names : (∀ path, LoadsOrNames path bytes) ↔ ¬ IsUntold bytes
  untold : IsUntold bytes → ∃ error, ∀ path, load path (some bytes) = .error error

/-! ## Documents -/

theorem unencodable?_isSome_iff {document : Value} :
    (unencodable? document).isSome ↔ HasUntoldNames document := by
  constructor
  · intro found
    rw [unencodable?] at found
    split at found
    case h_1 names written =>
      obtain ⟨value, isValue, valid⟩ := Option.map_eq_some_iff.mp written
      obtain ⟨unencodable, isUnencodable⟩ := Option.isSome_iff_exists.mp found
      obtain ⟨fault, isFault, noForm⟩ := Option.bind_eq_some_iff.mp isUnencodable
      refine ⟨names, ?_, fault, namesFault?_eq_some_iff.mp isFault, ?_⟩
      · rw [isValue, listsOf_eq_valid_iff.mp valid]
      · rw [← Bool.not_eq_true, ← Text.unencodable?_eq_none_iff, noForm]
        exact Option.some_ne_none unencodable
    case h_2 => contradiction
  · rintro ⟨names, written, fault, first, notWhole⟩
    rw [unencodable?, written, Option.map_some, listsOf_eq_valid_iff.mpr rfl]
    dsimp only
    rw [namesFault?_eq_some_iff.mpr first, Option.bind_some, ← Option.ne_none_iff_isSome, ne_eq,
      Text.unencodable?_eq_none_iff, notWhole]
    exact Bool.false_ne_true

/-- The message about a document cannot be told exactly when it is about such names. -/
theorem read_eq_notEncoded_iff {document : Value} :
    (∃ found, read document = .error (.notEncoded found)) ↔ HasUntoldNames document := by
  rw [← unencodable?_isSome_iff, read]
  cases unencodable? document with
  | some found => simp
  | none =>
      cases (ofValue document).toExcept "PolicyConfig" <;> simp [Except.mapError]

/-! ## Contents -/

variable {bytes : List UInt8}

theorem load_of_isText {text : List Char} (isText : bytes = text.flatMap String.utf8EncodeChar)
    (path : String) : load path (some bytes) = ofText path (Text.unixNewlines text) := by
  rw [load, ofBytes, Text.Utf8.decode_eq_ok_iff.mpr isText]

theorem loadsOrNames_of_told (told : ¬ IsUntold bytes) (path : String) :
    LoadsOrNames path bytes := by
  cases decoded : Text.Utf8.decode bytes with
  | error fault =>
      refine absurd (.notText fun text isText => ?_) told
      rw [Text.Utf8.decode_eq_ok_iff.mpr isText] at decoded
      contradiction
  | ok text =>
      have isText := Text.Utf8.decode_eq_ok_iff.mp decoded
      have loaded := load_of_isText isText path
      rw [ofText] at loaded
      cases isRead : Json.read (Text.unixNewlines text) with
      | error error =>
          rw [isRead] at loaded
          cases error with
          | malformed fault =>
              exact .inr ⟨_, "Invalid JSON in ", _, loaded, String.append_assoc ..⟩
          | integerTooLong digits => exact absurd (.badNumber isText isRead) told
      | ok document =>
          rw [isRead] at loaded
          dsimp only at loaded
          cases outcome : read document with
          | ok policy =>
              rw [outcome] at loaded
              exact .inl ⟨policy, loaded⟩
          | error fault =>
              rw [outcome] at loaded
              cases fault with
              | invalid issues =>
                  exact .inr ⟨_, "Validation error in ", _, loaded, String.append_assoc ..⟩
              | notEncoded found =>
                  have untold := read_eq_notEncoded_iff.mp ⟨found, outcome⟩
                  exact absurd (.notEncoded isText isRead untold) told

theorem load_of_untold (untold : IsUntold bytes) :
    ∃ error, ∀ path, load path (some bytes) = .error error := by
  cases untold with
  | notText noText =>
      cases decoded : Text.Utf8.decode bytes with
      | ok text => exact absurd (Text.Utf8.decode_eq_ok_iff.mp decoded) (noText text)
      | error fault =>
          refine ⟨.notText fault, fun path => ?_⟩
          rw [load, ofBytes, decoded]
  | @badNumber text digits isText isRead =>
      refine ⟨.badNumber (.tooLong digits), fun path => ?_⟩
      rw [load_of_isText isText, ofText, isRead]
  | notEncoded isText isRead names =>
      obtain ⟨found, isFound⟩ := read_eq_notEncoded_iff.mpr names
      refine ⟨.notEncoded found, fun path => ?_⟩
      rw [load_of_isText isText, ofText, isRead]
      dsimp only
      rw [isFound]
      rfl

/-- An error that is the same for all files does not name one whose path is longer than it. -/
theorem not_loadsOrNames_all {error : PolicyError}
    (same : ∀ path, load path (some bytes) = .error error) :
    ¬ ∀ path, LoadsOrNames path bytes := by
  intro named
  rcases named (error.message ++ "x") with ⟨policy, loaded⟩ | ⟨other, front, back, failed, message⟩
  · rw [same] at loaded
    contradiction
  · rw [same] at failed
    obtain rfl := Except.error.inj failed
    have lengths := congrArg String.length message
    simp only [String.length_append] at lengths
    have one : "x".length = 1 := rfl
    omega

theorem load_ne_missing (path missing : String) :
    load path (some bytes) ≠ .error (.missing missing) := by
  intro failed
  rw [load, ofBytes] at failed
  cases decoded : Text.Utf8.decode bytes with
  | error fault =>
      rw [decoded] at failed
      cases failed
  | ok text =>
      rw [decoded] at failed
      dsimp only at failed
      rw [ofText] at failed
      cases isRead : Json.read (Text.unixNewlines text) with
      | error error =>
          rw [isRead] at failed
          cases error <;> cases failed
      | ok document =>
          rw [isRead] at failed
          dsimp only at failed
          cases outcome : read document with
          | ok policy =>
              rw [outcome] at failed
              cases failed
          | error fault =>
              rw [outcome] at failed
              cases fault <;> cases failed

/-- Whatever a file holds, it is loaded, or there is an error about its content, and the message
names the file unless the content is untold. -/
theorem load_tellsFile (bytes : List UInt8) : TellsFile bytes where
  content := load_ne_missing
  names := by
    constructor
    · intro named untold
      obtain ⟨error, same⟩ := load_of_untold untold
      exact not_loadsOrNames_all same named
    · exact loadsOrNames_of_told
  untold := load_of_untold

/-- A byte that begins no character is told without the name of the file. -/
theorem load_of_stray_byte : ¬ LoadsOrNames "policy.json" [0xFF] := by
  have decoded : Text.Utf8.decode [0xFF] = .error ⟨0, 0xFF, 1, .invalidStart⟩ := by
    rw [Text.Utf8.decode, Text.Utf8.decodeFrom]
    rfl
  have stray : load "policy.json" (some [0xFF]) =
      .error (.notText ⟨0, 0xFF, 1, .invalidStart⟩) := by
    rw [load, ofBytes, decoded]
  rintro (⟨policy, loaded⟩ | ⟨error, front, back, failed, message⟩)
  · rw [stray] at loaded
    contradiction
  · rw [stray] at failed
    obtain rfl := Except.error.inj failed
    -- The path has a dot, the message has none.
    have dot : '.' ∈ (front ++ "policy.json" ++ back).toList := by simp
    rw [← message] at dot
    exact absurd dot (by decide +kernel)

end Firewall.Policy
