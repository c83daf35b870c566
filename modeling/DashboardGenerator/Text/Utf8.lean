/-!
# UTF-8

Bytes are read as a list of units: each is a character, or a stretch of bytes that is no character
and that no longer stretch could complete. A strict reading refuses the second kind and a lenient
one shows it as the replacement character.
-/

namespace DashboardGenerator.Text

/-- What may follow a leading byte: the number of further bytes, and the least and the greatest
value of the first of them. -/
def following? (lead : UInt8) : Option (Nat × UInt8 × UInt8) :=
  if lead < 0xC2 then none
  else if lead < 0xE0 then some (1, 0x80, 0xBF)
  else if lead = 0xE0 then some (2, 0xA0, 0xBF)
  else if lead = 0xED then some (2, 0x80, 0x9F)
  else if lead < 0xF0 then some (2, 0x80, 0xBF)
  else if lead = 0xF0 then some (3, 0x90, 0xBF)
  else if lead < 0xF4 then some (3, 0x80, 0xBF)
  else if lead = 0xF4 then some (3, 0x80, 0x8F)
  else none

/-- Take up to `count` further bytes, the first of them within bounds. -/
def takeFollowing : Nat → UInt8 → UInt8 → List UInt8 → List UInt8 × List UInt8
  | count + 1, least, greatest, byte :: rest =>
    if least ≤ byte ∧ byte ≤ greatest then
      let (taken, after) := takeFollowing count 0x80 0xBF rest
      (byte :: taken, after)
    else ([], byte :: rest)
  | _, _, _, bytes => ([], bytes)

/-- Taking bytes leaves no more than there were. -/
theorem length_takeFollowing_le (count : Nat) (least greatest : UInt8) (bytes : List UInt8) :
    (takeFollowing count least greatest bytes).2.length ≤ bytes.length := by
  fun_induction takeFollowing count least greatest bytes with
  | case1 count least greatest byte rest inRange taken after taking ih =>
    simp only [taking, List.length_cons] at ih ⊢
    omega
  | case2 => simp
  | case3 => simp

/-- The code point that a leading byte and its further bytes spell. -/
def codePoint (lead : UInt8) (further : List UInt8) : Nat :=
  further.foldl (fun code byte => code * 64 + byte.toNat % 64)
    (lead.toNat % Nat.pow 2 (6 - further.length))

/-- The first unit of a text that starts with `lead`, and the bytes after it. -/
def firstUnit (lead : UInt8) (bytes : List UInt8) : Option Char × List UInt8 :=
  if lead < 0x80 then (some (Char.ofNat lead.toNat), bytes)
  else
    match following? lead with
    | none => (none, bytes)
    | some (count, least, greatest) =>
      let (taken, after) := takeFollowing count least greatest bytes
      if taken.length = count then (some (Char.ofNat (codePoint lead taken)), after)
      else (none, after)

/-- The bytes after the first unit are no more than those after the leading byte. -/
theorem length_firstUnit_le (lead : UInt8) (bytes : List UInt8) :
    (firstUnit lead bytes).2.length ≤ bytes.length := by
  unfold firstUnit
  split
  · simp
  · split
    · simp
    · rename_i count least greatest _
      have := length_takeFollowing_le count least greatest bytes
      split
      simp_all
      split <;> simpa using this

/-- The units of a list of bytes: characters, and `none` for what is no character. -/
def units : List UInt8 → List (Option Char)
  | [] => []
  | lead :: bytes => (firstUnit lead bytes).1 :: units (firstUnit lead bytes).2
termination_by bytes => bytes.length
decreasing_by
  have := length_firstUnit_le lead bytes
  simp only [List.length_cons]
  omega

/-- The text that the bytes spell, if they spell one. -/
def decodeUtf8? (bytes : List UInt8) : Option String :=
  ((units bytes).mapM id).map String.ofList

/-- The text that the bytes spell, with the replacement character for what is none. -/
def decodeUtf8Lossy (bytes : List UInt8) : String :=
  String.ofList ((units bytes).map fun unit => unit.getD '\uFFFD')

/-- The bytes of a text. -/
def encodeUtf8 (text : String) : List UInt8 :=
  text.toList.flatMap String.utf8EncodeChar

end DashboardGenerator.Text
