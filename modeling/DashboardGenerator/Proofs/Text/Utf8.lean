import DashboardGenerator.Text.Slice
import Mathlib.Data.List.Basic

/-!
# Reading characters back from their bytes

`IsEncoding` gives the bytes of a code point by its range, as numbers. The first unit of a text is
read from them whatever stands behind the character (`first_unit_encoding`), so different texts have
different bytes (`bytes_of_injective`), and the bytes of a text start with those of another one only
if the text does (`bytes_of_append_eq_iff`). Only the first byte of a character looks like one, so the
boundaries within the bytes are the places between characters: `is_boundary_iff`.
-/

namespace DashboardGenerator.Text

variable {code : Nat} {lead second third fourth : UInt8}

/-! ## The bytes of a character -/

/-- The bytes of a code point: one, two, three or four of them. -/
inductive IsEncoding (code : Nat) : List UInt8 → Prop where
  | one {lead : UInt8} (hgreatest : code < 0x80) (hlead : lead.toNat = code) :
      IsEncoding code [lead]
  | two {lead second : UInt8} (hleast : 0x80 ≤ code) (hgreatest : code < 0x800)
      (hlead : lead.toNat = code / 64 + 0xC0) (hsecond : second.toNat = code % 64 + 0x80) :
      IsEncoding code [lead, second]
  | three {lead second third : UInt8} (hleast : 0x800 ≤ code) (hgreatest : code < 0x10000)
      (hsurrogate : code < 0xD800 ∨ 0xDFFF < code) (hlead : lead.toNat = code / 4096 + 0xE0)
      (hsecond : second.toNat = code / 64 % 64 + 0x80) (hthird : third.toNat = code % 64 + 0x80) :
      IsEncoding code [lead, second, third]
  | four {lead second third fourth : UInt8} (hleast : 0x10000 ≤ code) (hgreatest : code < 0x110000)
      (hlead : lead.toNat = code / 262144 + 0xF0) (hsecond : second.toNat = code / 4096 % 64 + 0x80)
      (hthird : third.toNat = code / 64 % 64 + 0x80) (hfourth : fourth.toNat = code % 64 + 0x80) :
      IsEncoding code [lead, second, third, fourth]

/-- Digits below a base with a mark above them fit a byte. -/
theorem toNat_digit_mark {number base mark : Nat} (hbase : 0 < base) (hfits : base + mark ≤ 256) :
    (UInt8.ofNat (number % base + mark)).toNat = number % base + mark := by
  have hlt : number % base < base := Nat.mod_lt number hbase
  exact UInt8.toNat_ofNat_of_lt' (show number % base + mark < 256 by omega)

/-- A character is encoded by the bytes of its code point. -/
theorem is_encoding_encode (character : Char) :
    IsEncoding character.toNat (String.utf8EncodeChar character) := by
  have hvalid : character.toNat < 0xD800 ∨
      0xDFFF < character.toNat ∧ character.toNat < 0x110000 := character.valid
  have hval : character.val.toNat = character.toNat := rfl
  unfold String.utf8EncodeChar
  dsimp only
  rw [hval]
  split_ifs with hone htwo hthree
  · exact .one (by omega) (UInt8.toNat_ofNat_of_lt' (show character.toNat < 256 by omega))
  · refine .two (by omega) (by omega) ?_ (toNat_digit_mark (by omega) (by omega))
    rw [toNat_digit_mark (by omega) (by omega)]
    omega
  · refine .three (by omega) (by omega) (by omega) ?_ (toNat_digit_mark (by omega) (by omega))
      (toNat_digit_mark (by omega) (by omega))
    rw [toNat_digit_mark (by omega) (by omega)]
    omega
  · refine .four (by omega) (by omega) ?_ (toNat_digit_mark (by omega) (by omega))
      (toNat_digit_mark (by omega) (by omega)) (toNat_digit_mark (by omega) (by omega))
    rw [toNat_digit_mark (by omega) (by omega)]
    omega

/-- Bytes below `0x80` and from `0xC0` on start characters. -/
theorem starts_character_iff (byte : UInt8) :
    startsCharacter byte = true ↔ byte.toNat < 0x80 ∨ 0xC0 ≤ byte.toNat := by
  simp [startsCharacter, UInt8.lt_iff_toNat_lt, UInt8.le_iff_toNat_le]

/-- Of the bytes of a character just the first one starts a character. -/
theorem IsEncoding.starts {bytes : List UInt8} (hencoding : IsEncoding code bytes) :
    ∃ lead further, bytes = lead :: further ∧ startsCharacter lead = true ∧
      ∀ byte ∈ further, startsCharacter byte = false := by
  have hmark (byte : UInt8) (number : Nat) (hbyte : byte.toNat = number % 64 + 0x80) :
      startsCharacter byte = false := by
    rw [← Bool.not_eq_true, starts_character_iff]
    omega
  cases hencoding with
  | one => exact ⟨_, _, rfl, (starts_character_iff _).mpr (by omega), by simp⟩
  | two _ _ _ hsecond =>
      exact ⟨_, _, rfl, (starts_character_iff _).mpr (by omega), by simp [hmark _ _ hsecond]⟩
  | three _ _ _ _ hsecond hthird =>
      exact ⟨_, _, rfl, (starts_character_iff _).mpr (by omega),
        by simp [hmark _ _ hsecond, hmark _ _ hthird]⟩
  | four _ _ _ hsecond hthird hfourth =>
      exact ⟨_, _, rfl, (starts_character_iff _).mpr (by omega),
        by simp [hmark _ _ hsecond, hmark _ _ hthird, hmark _ _ hfourth]⟩

/-! ## The first unit -/

/-- A leading byte below `0xE0` asks for one more byte. -/
theorem following_two (hleast : 0xC2 ≤ lead.toNat) (hgreatest : lead.toNat < 0xE0) :
    following? lead = some (1, 0x80, 0xBF) := by
  simp only [following?, UInt8.lt_iff_toNat_lt, UInt8.reduceToNat]
  rw [if_neg (by omega), if_pos hgreatest]

/-- A leading byte below `0xF0` asks for two more bytes, and bounds the first of them so that no
shorter encoding and no surrogate is accepted. -/
theorem following_three (hleast : 0xE0 ≤ lead.toNat) (hgreatest : lead.toNat < 0xF0) :
    following? lead =
      some (2, if lead = 0xE0 then 0xA0 else 0x80, if lead = 0xED then 0x9F else 0xBF) := by
  by_cases hshort : lead = 0xE0
  · subst hshort
    rfl
  by_cases hsurrogate : lead = 0xED
  · subst hsurrogate
    rfl
  simp only [following?, UInt8.lt_iff_toNat_lt, UInt8.reduceToNat, if_neg hshort,
    if_neg hsurrogate]
  rw [if_neg (by omega), if_neg (by omega), if_pos hgreatest]

/-- A leading byte up to `0xF4` asks for three more bytes, and bounds the first of them so that no
shorter encoding and no greater code point is accepted. -/
theorem following_four (hleast : 0xF0 ≤ lead.toNat) (hgreatest : lead.toNat ≤ 0xF4) :
    following? lead =
      some (3, if lead = 0xF0 then 0x90 else 0x80, if lead = 0xF4 then 0x8F else 0xBF) := by
  by_cases hshort : lead = 0xF0
  · subst hshort
    rfl
  by_cases hlast : lead = 0xF4
  · subst hlast
    rfl
  have hother : lead ≠ 0xE0 ∧ lead ≠ 0xED ∧ lead.toNat ≠ 0xF4 := by
    simp only [ne_eq, ← UInt8.toNat_inj, UInt8.reduceToNat] at hlast ⊢
    omega
  simp only [following?, UInt8.lt_iff_toNat_lt, UInt8.reduceToNat, if_neg hshort, if_neg hlast,
    if_neg hother.1, if_neg hother.2.1]
  rw [if_neg (by omega), if_neg (by omega), if_neg (by omega), if_pos (by omega)]

/-- Bytes within their bounds are taken, and nothing behind them is. -/
theorem take_following_append {further : List UInt8} {least greatest : UInt8}
    (hfirst : ∀ byte ∈ further.head?, least ≤ byte ∧ byte ≤ greatest)
    (hlater : ∀ byte ∈ further.tail, 0x80 ≤ byte ∧ byte ≤ 0xBF) (rest : List UInt8) :
    takeFollowing further.length least greatest (further ++ rest) = (further, rest) := by
  -- From the second byte on the bounds are the same, so they vary in the induction.
  induction further generalizing least greatest with
  | nil => rfl
  | cons byte further ih =>
      have htail : takeFollowing further.length 0x80 0xBF (further ++ rest) = (further, rest) :=
        ih (fun next hnext => hlater next (List.mem_of_mem_head? hnext))
          (fun next hnext => hlater next (List.mem_of_mem_tail hnext))
      rw [List.cons_append, List.length_cons, takeFollowing, if_pos (hfirst byte rfl), htail]

/-- A leading byte with the bytes that it asks for is one unit. -/
theorem first_unit_of_following {further : List UInt8} {least greatest : UInt8}
    (hlead : 0x80 ≤ lead.toNat)
    (hfollowing : following? lead = some (further.length, least, greatest))
    (hfirst : ∀ byte ∈ further.head?, least.toNat ≤ byte.toNat ∧ byte.toNat ≤ greatest.toNat)
    (hlater : ∀ byte ∈ further.tail, 0x80 ≤ byte.toNat ∧ byte.toNat ≤ 0xBF)
    (rest : List UInt8) :
    firstUnit lead (further ++ rest) = (some (Char.ofNat (codePoint lead further)), rest) := by
  have hlong : ¬ lead < 0x80 := by
    rw [UInt8.lt_iff_toNat_lt]
    exact Nat.not_lt.mpr hlead
  unfold firstUnit
  rw [if_neg hlong, hfollowing]
  simp only [take_following_append hfirst hlater, if_pos]

/-- A character is the first unit of its bytes, whatever stands behind it. -/
theorem first_unit_encoding {further : List UInt8} (hencoding : IsEncoding code (lead :: further))
    (rest : List UInt8) :
    firstUnit lead (further ++ rest) = (some (Char.ofNat code), rest) := by
  cases hencoding with
  | one hgreatest hlead =>
      have hshort : lead < 0x80 := by
        rw [UInt8.lt_iff_toNat_lt, hlead]
        exact hgreatest
      unfold firstUnit
      rw [if_pos hshort, hlead, List.nil_append]
  | @two _ second hleast hgreatest hlead hsecond =>
      have hcode : codePoint lead [second] = code := by
        show lead.toNat % 32 * 64 + second.toNat % 64 = code
        omega
      rw [← hcode]
      refine first_unit_of_following (by omega) (following_two (by omega) (by omega)) ?_ (by simp) _
      rintro _ ⟨⟩
      simp only [UInt8.reduceToNat]
      omega
  | @three _ second third hleast hgreatest hsurrogate hlead hsecond hthird =>
      have hcode : codePoint lead [second, third] = code := by
        show (lead.toNat % 16 * 64 + second.toNat % 64) * 64 + third.toNat % 64 = code
        omega
      rw [← hcode]
      refine first_unit_of_following (by omega) (following_three (by omega) (by omega)) ?_ ?_ _
      · rintro _ ⟨⟩
        simp only [← UInt8.toNat_inj, UInt8.reduceToNat]
        constructor
        · split_ifs <;> simp only [UInt8.reduceToNat] <;> omega
        · split_ifs <;> simp only [UInt8.reduceToNat] <;> omega
      · simp only [List.tail_cons, List.forall_mem_singleton]
        omega
  | @four _ second third fourth hleast hgreatest hlead hsecond hthird hfourth =>
      have hcode : codePoint lead [second, third, fourth] = code := by
        show ((lead.toNat % 8 * 64 + second.toNat % 64) * 64 + third.toNat % 64) * 64 +
          fourth.toNat % 64 = code
        omega
      rw [← hcode]
      refine first_unit_of_following (by omega) (following_four (by omega) (by omega)) ?_ ?_ _
      · rintro _ ⟨⟩
        simp only [← UInt8.toNat_inj, UInt8.reduceToNat]
        constructor
        · split_ifs <;> simp only [UInt8.reduceToNat] <;> omega
        · split_ifs <;> simp only [UInt8.reduceToNat] <;> omega
      · simp only [List.tail_cons, List.mem_cons, List.not_mem_nil, or_false]
        rintro byte (rfl | rfl) <;> omega

/-- A character stands in front of other bytes as the first unit of them. -/
theorem exists_first_unit (character : Char) (rest : List UInt8) :
    ∃ lead bytes, String.utf8EncodeChar character ++ rest = lead :: bytes ∧
      firstUnit lead bytes = (some character, rest) := by
  have hencoding := is_encoding_encode character
  obtain ⟨lead, further, hbytes, -⟩ := hencoding.starts
  rw [hbytes] at hencoding ⊢
  refine ⟨lead, further ++ rest, rfl, ?_⟩
  rw [first_unit_encoding hencoding, Char.ofNat_toNat]

/-! ## Texts as bytes -/

@[simp] theorem bytes_of_nil : bytesOf [] = [] := rfl

@[simp] theorem bytes_of_cons (character : Char) (rest : List Char) :
    bytesOf (character :: rest) = String.utf8EncodeChar character ++ bytesOf rest := rfl

@[simp] theorem bytes_of_append (text rest : List Char) :
    bytesOf (text ++ rest) = bytesOf text ++ bytesOf rest :=
  List.flatMap_append

/-- A text in front of other bytes is read character by character. -/
theorem units_bytes_of_append (text : List Char) (rest : List UInt8) :
    units (bytesOf text ++ rest) = text.map some ++ units rest := by
  induction text with
  | nil => rfl
  | cons character text ih =>
      obtain ⟨lead, bytes, hbytes, hunit⟩ := exists_first_unit character (bytesOf text ++ rest)
      rw [bytes_of_cons, List.append_assoc, hbytes, units, hunit, ih]
      rfl

/-- The bytes of a text are read as the text. -/
theorem units_bytes_of (text : List Char) : units (bytesOf text) = text.map some := by
  have hunits := units_bytes_of_append text []
  rwa [List.append_nil, units, List.append_nil] at hunits

/-- Different texts have different bytes. -/
theorem bytes_of_injective : Function.Injective bytesOf := by
  intro text other heq
  have hunits : text.map some = other.map some := by
    rw [← units_bytes_of, ← units_bytes_of, heq]
  exact List.map_injective_iff.mpr (fun _ _ => Option.some.inj) hunits

/-- A text starts with another one if its bytes do. -/
theorem bytes_of_append_eq_iff {mark text : List Char} {rest : List UInt8} :
    bytesOf mark ++ rest = bytesOf text ↔
      ∃ after, text = mark ++ after ∧ rest = bytesOf after := by
  constructor
  · intro heq
    induction mark generalizing text with
    | nil => exact ⟨text, rfl, heq⟩
    | cons character mark ih =>
        -- Both sides have one first unit, so the text starts with the same character.
        obtain ⟨lead, bytes, hbytes, hunit⟩ := exists_first_unit character (bytesOf mark ++ rest)
        rw [bytes_of_cons, List.append_assoc, hbytes] at heq
        cases text with
        | nil => cases heq
        | cons other text =>
            obtain ⟨first, others, hothers, hother⟩ := exists_first_unit other (bytesOf text)
            rw [bytes_of_cons, hothers] at heq
            cases heq
            rw [hunit] at hother
            obtain ⟨hcharacter, hrest⟩ := Prod.mk.inj hother
            obtain ⟨after, rfl, hafter⟩ := ih hrest
            exact ⟨after, by rw [Option.some.inj hcharacter, List.cons_append], hafter⟩
  · rintro ⟨after, rfl, rfl⟩
    exact (bytes_of_append mark after).symm

/-- The bytes of one text start those of another if the one text starts the other. -/
theorem bytes_of_prefix_iff {mark text : List Char} :
    bytesOf mark <+: bytesOf text ↔ mark <+: text := by
  constructor
  · rintro ⟨rest, hrest⟩
    obtain ⟨after, rfl, -⟩ := bytes_of_append_eq_iff.mp hrest
    exact List.prefix_append mark after
  · rintro ⟨after, rfl⟩
    exact ⟨bytesOf after, (bytes_of_append mark after).symm⟩

/-! ## Boundaries -/

/-- The bytes of a text may be cut behind any of its characters. -/
theorem is_boundary_between (before after : List Char) :
    isBoundary (bytesOf (before ++ after)) (bytesOf before).length = true := by
  unfold isBoundary
  rw [bytes_of_append, List.getElem?_append_right (Nat.le_refl _), Nat.sub_self]
  cases after with
  | nil => simp
  | cons character after =>
      obtain ⟨lead, further, hbytes, hlead, -⟩ := (is_encoding_encode character).starts
      simp [hbytes, hlead]

/-- Behind the bytes of its first character a text is cut where the others may be cut. -/
theorem is_boundary_behind {front bytes : List UInt8} {offset : Nat} (hfront : front ≠ [])
    (hboundary : isBoundary (front ++ bytes) (front.length + offset) = true) :
    isBoundary bytes offset = true := by
  have hpos : front.length ≠ 0 := by simpa using hfront
  unfold isBoundary at hboundary ⊢
  rw [List.getElem?_append_right (Nat.le_add_right _ _), Nat.add_sub_cancel_left] at hboundary
  cases hbyte : bytes[offset]? with
  | none => simpa [hbyte] using hboundary
  | some byte =>
      simp only [hbyte, Bool.or_eq_true, beq_iff_eq] at hboundary ⊢
      exact hboundary.imp (fun hzero => by omega) id

/-- The bytes of a text may be cut between two of its characters and nowhere else. -/
theorem is_boundary_iff {text : List Char} {offset : Nat} :
    isBoundary (bytesOf text) offset = true ↔
      ∃ before after, text = before ++ after ∧ offset = (bytesOf before).length := by
  constructor
  · intro hboundary
    induction text generalizing offset with
    | nil =>
        refine ⟨[], [], rfl, ?_⟩
        simpa [isBoundary] using hboundary
    | cons character text ih =>
        obtain ⟨lead, further, hbytes, -, hfurther⟩ := (is_encoding_encode character).starts
        rw [bytes_of_cons, hbytes] at hboundary
        by_cases hbehind : (lead :: further).length ≤ offset
        · obtain ⟨distance, rfl⟩ := Nat.exists_eq_add_of_le hbehind
          obtain ⟨before, after, rfl, hdistance⟩ :=
            ih (is_boundary_behind (List.cons_ne_nil _ _) hboundary)
          refine ⟨character :: before, after, rfl, ?_⟩
          rw [bytes_of_cons, hbytes, List.length_append, hdistance]
        cases offset with
        | zero => exact ⟨[], character :: text, rfl, rfl⟩
        | succ place =>
            -- The offset lies behind the first byte of the character and in front of the next one.
            have hplace : place < further.length := by simpa using hbehind
            have hbyte := hfurther further[place] (List.getElem_mem hplace)
            simp [isBoundary, List.getElem?_append_left hplace, List.getElem?_eq_getElem hplace,
              hbyte] at hboundary
  · rintro ⟨before, after, rfl, rfl⟩
    exact is_boundary_between before after

end DashboardGenerator.Text
