import DashboardGenerator.Proofs.Text.Utf8
import Mathlib.Data.List.Infix

/-!
# Cutting and searching the bytes of a text

In the bytes of a text the cuts behind and in front of some characters are safe and give the bytes
of those characters (`take_behind`, `take_before`). A search for a character finds it behind the
bytes of those in front of it (`find_character_found`). A mark is found byte by byte, and since none
of its bytes can be taken for another part of a character, it stands in the bytes of a text just
where it stands in the text (`mark_prefix_drop_iff`).
-/

namespace DashboardGenerator.Text

/-! ## Cuts -/

/-- The part behind some characters is the bytes of the others. -/
theorem take_behind (before after : List Char) :
    (Cut.behind (bytesOf (before ++ after)) (bytesOf before).length).take =
      .ok (bytesOf after) := by
  have hend := is_boundary_between (before ++ after) []
  rw [List.append_nil] at hend
  have hle : (bytesOf before).length ≤ (bytesOf (before ++ after)).length := by simp
  refine Cut.take_eq_ok_iff.mpr
    ⟨⟨hle, Nat.le_refl _, is_boundary_between before after, hend⟩, ?_⟩
  simp [Cut.behind]

/-- The part in front of some characters is the bytes of the others. -/
theorem take_before (before after : List Char) :
    (Cut.before (bytesOf (before ++ after)) (bytesOf before).length).take =
      .ok (bytesOf before) := by
  have hle : (bytesOf before).length ≤ (bytesOf (before ++ after)).length := by simp
  refine Cut.take_eq_ok_iff.mpr ⟨⟨Nat.zero_le _, hle, is_boundary_between [] (before ++ after),
    is_boundary_between before after⟩, ?_⟩
  simp [Cut.before]

/-! ## Characters -/

section FindCharacter

variable {test : Char → Bool} {before : List Char}

/-- A search passes over characters that fail the test. -/
theorem find_character_append (hbefore : ∀ character ∈ before, test character = false)
    (rest : List UInt8) :
    findCharacter test (bytesOf before ++ rest) =
      (findCharacter test rest).map (· + (bytesOf before).length) := by
  induction before with
  | nil => simp
  | cons character before ih =>
      obtain ⟨hcharacter, hbefore⟩ := List.forall_mem_cons.mp hbefore
      obtain ⟨lead, bytes, hbytes, hunit⟩ := exists_first_unit character (bytesOf before ++ rest)
      have hlength : bytes.length + 1 - (bytesOf before ++ rest).length =
          (String.utf8EncodeChar character).length := by
        have hall := congrArg List.length hbytes
        rw [List.length_append, List.length_cons] at hall
        omega
      rw [bytes_of_cons, List.append_assoc, hbytes, findCharacter, hunit, hlength, ih hbefore,
        if_neg (by simp [hcharacter]), Option.map_map]
      refine congrArg (Option.map · _) (funext fun offset => ?_)
      simp only [Function.comp_apply, List.length_append]
      omega

/-- The first character that passes the test is found behind the bytes of those in front of it. -/
theorem find_character_found (hbefore : ∀ character ∈ before, test character = false)
    {character : Char} (hcharacter : test character = true) (after : List Char) :
    findCharacter test (bytesOf (before ++ character :: after)) =
      some (bytesOf before).length := by
  obtain ⟨lead, bytes, hbytes, hunit⟩ := exists_first_unit character (bytesOf after)
  rw [bytes_of_append, find_character_append hbefore, bytes_of_cons, hbytes, findCharacter, hunit,
    if_pos (by simp [hcharacter])]
  simp

/-- In a text without a character that passes the test, none is found. -/
theorem find_character_missed (hbefore : ∀ character ∈ before, test character = false) :
    findCharacter test (bytesOf before) = none := by
  have happend := find_character_append hbefore []
  rwa [List.append_nil, findCharacter] at happend

end FindCharacter

/-! ## Marks -/

section FindMark

variable {mark : List UInt8}

/-- The offset that a search gives is the first place of the mark. -/
theorem find_mark_eq_some {bytes : List UInt8} {offset : Nat} (hplace : mark <+: bytes.drop offset)
    (hfirst : ∀ earlier < offset, ¬ mark <+: bytes.drop earlier) (hmark : mark ≠ []) :
    findMark mark bytes = some offset := by
  induction bytes generalizing offset with
  | nil => exact absurd (by simpa using hplace) hmark
  | cons byte bytes ih =>
      rw [findMark]
      cases offset with
      | zero => exact if_pos (List.isPrefixOf_iff_prefix.mpr hplace)
      | succ offset =>
          have hhere : ¬ mark <+: byte :: bytes := hfirst 0 (Nat.succ_pos _)
          rw [if_neg fun hprefix => hhere (List.isPrefixOf_iff_prefix.mp hprefix),
            ih hplace fun earlier hearlier => hfirst (earlier + 1) (Nat.succ_lt_succ hearlier)]
          rfl

/-- A mark that stands nowhere is not found. -/
theorem find_mark_eq_none {bytes : List UInt8} (hnowhere : ∀ offset, ¬ mark <+: bytes.drop offset) :
    findMark mark bytes = none := by
  induction bytes with
  | nil =>
      have hmark : mark ≠ [] := fun hnil => hnowhere 0 (by simp [hnil])
      simp [findMark, hmark]
  | cons byte bytes ih =>
      have hhere : ¬ mark <+: byte :: bytes := hnowhere 0
      rw [findMark, if_neg fun hprefix => hhere (List.isPrefixOf_iff_prefix.mp hprefix),
        ih fun offset => hnowhere (offset + 1)]
      rfl

end FindMark

/-- A mark is taken off the bytes of a text that starts with it. -/
theorem strip_found (mark after : List Char) :
    (bytesOf mark).isPrefixOf? (bytesOf (mark ++ after)) = some (bytesOf after) :=
  List.isPrefixOf?_eq_some_iff_append_eq.mpr (bytes_of_append mark after).symm

/-- A mark is not taken off the bytes of a text that does not start with it. -/
theorem strip_missed {mark text : List Char} (hmark : ¬ mark <+: text) :
    (bytesOf mark).isPrefixOf? (bytesOf text) = none := by
  refine Option.eq_none_iff_forall_ne_some.mpr fun rest hrest => hmark ?_
  obtain ⟨after, rfl, -⟩ :=
    bytes_of_append_eq_iff.mp (List.isPrefixOf?_eq_some_iff_append_eq.mp hrest)
  exact List.prefix_append mark after

/-- A mark stands in the bytes of a text just where it stands in the text. -/
theorem mark_prefix_drop_iff {mark text : List Char} (hmark : mark ≠ []) {offset : Nat} :
    bytesOf mark <+: (bytesOf text).drop offset ↔
      ∃ before after, text = before ++ mark ++ after ∧ offset = (bytesOf before).length := by
  constructor
  · rintro ⟨rest, hrest⟩
    -- The first byte of the mark starts a character, so the mark starts at a boundary of the text.
    obtain ⟨first, others, rfl⟩ := List.exists_cons_of_ne_nil hmark
    obtain ⟨lead, further, hbytes, hlead, -⟩ := (is_encoding_encode first).starts
    have hbyte : (bytesOf text)[offset]? = some lead := by
      rw [← List.head?_drop, ← hrest, bytes_of_cons, hbytes]
      rfl
    have hboundary : isBoundary (bytesOf text) offset = true := by
      simp [isBoundary, hbyte, hlead]
    obtain ⟨before, behind, rfl, rfl⟩ := is_boundary_iff.mp hboundary
    rw [bytes_of_append, List.drop_left] at hrest
    obtain ⟨after, rfl, -⟩ := bytes_of_append_eq_iff.mp hrest
    exact ⟨before, after, (List.append_assoc ..).symm, rfl⟩
  · rintro ⟨before, after, rfl, rfl⟩
    rw [List.append_assoc, bytes_of_append, List.drop_left, bytes_of_append]
    exact List.prefix_append _ _

end DashboardGenerator.Text
