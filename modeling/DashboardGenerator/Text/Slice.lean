import DashboardGenerator.Text.Utf8

/-!
# Slices at byte offsets

A text that is held as its bytes is searched and cut at byte offsets. A cut is safe if its ends are
in order, lie within the bytes and do not part the bytes of a character; no other cut is made. A
search reads the bytes from the left and answers with the offset of the first hit.
-/

namespace DashboardGenerator.Text

/-- The bytes of characters in a row. -/
def bytesOf (characters : List Char) : List UInt8 :=
  characters.flatMap String.utf8EncodeChar

/-- The byte is the first one of a character; the others are `0x80` to `0xBF`. -/
def startsCharacter (byte : UInt8) : Bool :=
  byte < 0x80 || 0xC0 ≤ byte

/-- The offset is the start or the end of the bytes, or a character starts there. -/
def isBoundary (bytes : List UInt8) (offset : Nat) : Bool :=
  match bytes[offset]? with
  | some byte => offset == 0 || startsCharacter byte
  | none => offset == bytes.length

/-- A part of some bytes, from one offset to another. -/
structure Cut where
  bytes : List UInt8
  start : Nat
  stop : Nat
deriving Repr, DecidableEq

namespace Cut

/-- The part behind an offset. -/
def behind (bytes : List UInt8) (offset : Nat) : Cut := ⟨bytes, offset, bytes.length⟩

/-- The part in front of an offset. -/
def before (bytes : List UInt8) (offset : Nat) : Cut := ⟨bytes, 0, offset⟩

/-- The ends are in order, within the bytes, and between characters. -/
def IsSafe (cut : Cut) : Prop :=
  cut.start ≤ cut.stop ∧ cut.stop ≤ cut.bytes.length ∧
    isBoundary cut.bytes cut.start ∧ isBoundary cut.bytes cut.stop

instance (cut : Cut) : Decidable cut.IsSafe := inferInstanceAs (Decidable (_ ∧ _))

/-- The bytes of the part. A cut that is not safe is the fault. -/
def take (cut : Cut) : Except Cut (List UInt8) :=
  if cut.IsSafe then .ok (cut.bytes.extract cut.start cut.stop) else .error cut

/-- What is taken is the part of a safe cut. -/
theorem take_eq_ok_iff {cut : Cut} {part : List UInt8} :
    cut.take = .ok part ↔ cut.IsSafe ∧ cut.bytes.extract cut.start cut.stop = part := by
  unfold take
  split
  · next hsafe => simp [hsafe]
  · next hsafe => simp [hsafe]

/-- The part behind an offset is what is left when the bytes in front of it are dropped. -/
theorem eq_drop_of_take_behind {bytes part : List UInt8} {offset : Nat}
    (htake : (behind bytes offset).take = .ok part) : part = bytes.drop offset := by
  rw [← (take_eq_ok_iff.mp htake).2]
  exact List.take_of_length_le (by simp [behind])

end Cut

/-- The offset of the first character that passes the test. -/
def findCharacter (test : Char → Bool) : List UInt8 → Option Nat
  | [] => none
  | lead :: bytes =>
    if (firstUnit lead bytes).1.any test then some 0
    else (findCharacter test (firstUnit lead bytes).2).map
      (· + (bytes.length + 1 - (firstUnit lead bytes).2.length))
termination_by bytes => bytes.length
decreasing_by
  have := length_firstUnit_le lead bytes
  simp only [List.length_cons]
  omega

/-- The offset of the first place of a mark. -/
def findMark (mark : List UInt8) : List UInt8 → Option Nat
  | [] => if mark.isEmpty then some 0 else none
  | byte :: bytes =>
    if mark.isPrefixOf (byte :: bytes) then some 0 else (findMark mark bytes).map (· + 1)

/-- The second byte of a character is no place to cut. -/
example : ¬ (Cut.behind (bytesOf ['[', 'é', ']']) 2).IsSafe := by
  decide

end DashboardGenerator.Text
