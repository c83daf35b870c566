import DashboardGenerator.Json.Printer
import DashboardGenerator.Json.Region
import DashboardGenerator.Proofs.Json.Lexing

/-!
# The two layouts of a document

The indented layout of a document is its compact one with white space between the tokens:
`laid_out_indented`. The relation `LaidOut` holds of whole pieces of a text, each of which starts
and ends outside of string literals, so pieces are put together one behind the other
(`LaidOut.append`). A literal is laid out as itself, whatever it holds (`laid_out_quote`).
-/

namespace DashboardGenerator.Json

/-! ## Walking through a text -/

theorem regions_append (region : Region) (text rest : List Char) :
    regions region (text ++ rest) = regions region text ++ regions (region.behind text) rest := by
  induction text generalizing region with
  | nil => rfl
  | cons character text ih => exact congrArg ((region, character) :: ·) (ih _)

theorem map_snd_regions (region : Region) (text : List Char) :
    (regions region text).map Prod.snd = text := by
  induction text generalizing region with
  | nil => rfl
  | cons character text ih => exact congrArg (character :: ·) (ih _)

theorem Region.behind_append (region : Region) (text rest : List Char) :
    region.behind (text ++ rest) = (region.behind text).behind rest :=
  List.foldl_append

/-- The text is the other one with white space between its tokens. It starts and ends outside of
string literals, and the only control characters in it are line breaks outside of them. -/
structure LaidOut (text compact : List Char) : Prop where
  closed : Region.behind .outside text = .outside
  stripped : withoutLayout text = compact
  breaks : ∀ entry ∈ regions .outside text, entry.2.toNat < 0x20 → entry = (.outside, '\n')

namespace LaidOut

variable {text compact rest compactRest : List Char}

theorem nil : LaidOut [] [] := ⟨rfl, rfl, nofun⟩

/-- Pieces are laid out one behind the other. -/
theorem append (hfirst : LaidOut text compact) (hrest : LaidOut rest compactRest) :
    LaidOut (text ++ rest) (compact ++ compactRest) where
  closed := by rw [Region.behind_append, hfirst.closed, hrest.closed]
  stripped := by
    rw [withoutLayout, regions_append, hfirst.closed, List.filter_append, List.map_append,
      ← hfirst.stripped, ← hrest.stripped]
    rfl
  breaks := by
    rw [regions_append, hfirst.closed]
    intro entry hmem
    rcases List.mem_append.mp hmem with hmem | hmem
    · exact hfirst.breaks entry hmem
    · exact hrest.breaks entry hmem

/-- No control character stands in a text without layout. -/
theorem printable (hlaid : LaidOut text compact) :
    ∀ character ∈ compact, 0x20 ≤ character.toNat := by
  rw [← hlaid.stripped]
  intro character hmem
  obtain ⟨entry, hentry, rfl⟩ := List.mem_map.mp hmem
  obtain ⟨hregion, hkept⟩ := List.mem_filter.mp hentry
  by_contra hcontrol
  -- The control characters of the text are line breaks, and those have been left out.
  rw [hlaid.breaks entry hregion (Nat.lt_of_not_le hcontrol)] at hkept
  exact absurd hkept (by decide)

/-- A character other than a quote, white space and control characters is laid out as itself. -/
theorem mark {character : Char} (hprintable : 0x20 < character.toNat) (hquote : character ≠ '"') :
    LaidOut [character] [character] := by
  have hwhite : isWhite character = false := by
    simp only [isWhite, Bool.or_eq_false_iff, beq_eq_false_iff_ne, ne_eq]
    refine ⟨⟨⟨?_, ?_⟩, ?_⟩, ?_⟩ <;> (rintro rfl; exact absurd hprintable (by decide))
  refine ⟨if_neg hquote, by simp [withoutLayout, regions, isLayout, hwhite], ?_⟩
  intro entry hmem hcontrol
  obtain rfl := List.mem_singleton.mp hmem
  exact absurd hcontrol (Nat.not_lt.mpr (Nat.le_of_lt hprintable))

/-- So is a text of such characters. -/
theorem plain (hplain : ∀ character ∈ text, 0x20 < character.toNat ∧ character ≠ '"') :
    LaidOut text text := by
  induction text with
  | nil => exact .nil
  | cons character text ih =>
      obtain ⟨⟨hprintable, hquote⟩, hplain⟩ := List.forall_mem_cons.mp hplain
      exact (mark hprintable hquote).append (ih hplain)

/-- A space is layout. -/
theorem space : LaidOut [' '] [] where
  closed := rfl
  stripped := rfl
  breaks := by decide

/-- So is a line break. -/
theorem newline : LaidOut ['\n'] [] where
  closed := rfl
  stripped := rfl
  breaks := by decide

end LaidOut

/-- A line break and its indentation are layout. -/
theorem laid_out_line_break (depth : Nat) : LaidOut (lineBreak depth) [] := by
  have hspaces : ∀ count, LaidOut (List.replicate count ' ') [] := by
    intro count
    induction count with
    | zero => exact .nil
    | succ count ih => exact LaidOut.space.append ih
  exact LaidOut.newline.append (hspaces _)

/-! ## Literals -/

/-- The text belongs to a literal from its start to its end, and no control character is in it. -/
structure StaysInside (text : List Char) : Prop where
  closed : Region.behind .inside text = .inside
  inside : ∀ entry ∈ regions .inside text, entry.1 ≠ .outside
  printable : ∀ entry ∈ regions .inside text, 0x20 ≤ entry.2.toNat

theorem StaysInside.append {text rest : List Char} (hfirst : StaysInside text)
    (hrest : StaysInside rest) : StaysInside (text ++ rest) := by
  have hregions : regions .inside (text ++ rest) = regions .inside text ++ regions .inside rest := by
    rw [regions_append, hfirst.closed]
  refine ⟨by rw [Region.behind_append, hfirst.closed, hrest.closed], ?_, ?_⟩
  · rw [hregions]
    exact List.forall_mem_append.mpr ⟨hfirst.inside, hrest.inside⟩
  · rw [hregions]
    exact List.forall_mem_append.mpr ⟨hfirst.printable, hrest.printable⟩

/-- A backslash and one more character stay inside. -/
theorem stays_inside_pair {character : Char} (hprintable : 0x20 ≤ character.toNat) :
    StaysInside ['\\', character] where
  closed := rfl
  inside := by
    show ∀ entry ∈ [(Region.inside, '\\'), (Region.escaped, character)], entry.1 ≠ .outside
    simp
  printable := by
    show ∀ entry ∈ [(Region.inside, '\\'), (Region.escaped, character)], 0x20 ≤ entry.2.toNat
    simpa using hprintable

/-- A character that is no quote, no backslash and no control character stays inside. -/
theorem stays_inside_raw {character : Char} (hquote : character ≠ '"') (hbackslash : character ≠ '\\')
    (hprintable : 0x20 ≤ character.toNat) : StaysInside [character] where
  closed := by
    show Region.next .inside character = .inside
    rw [Region.next, if_neg hquote, if_neg hbackslash]
  inside := by simp [regions]
  printable := by simpa [regions] using hprintable

/-- A hexadecimal digit is no quote, no backslash and no control character. -/
theorem stays_inside_hex_digit {value : Nat} (hvalue : value < 16) :
    StaysInside [Number.hexDigit value] := by
  have hall : ∀ value < 16, Number.hexDigit value ≠ '"' ∧ Number.hexDigit value ≠ '\\' ∧
      0x20 ≤ (Number.hexDigit value).toNat := by decide
  obtain ⟨hquote, hbackslash, hprintable⟩ := hall value hvalue
  exact stays_inside_raw hquote hbackslash hprintable

/-- Whatever a character is, its spelling in a literal stays inside. -/
theorem stays_inside_escape (character : Char) : StaysInside (escape character) := by
  unfold escape
  -- The seven characters with a short escape come first.
  iterate 7
    split
    · exact stays_inside_pair (by decide)
  split
  · next hcontrol =>
      have hzero : StaysInside ['0'] := stays_inside_raw (by decide) (by decide) (by decide)
      have hfirst : StaysInside [Number.hexDigit (character.toNat / 16)] :=
        stays_inside_hex_digit (by omega)
      have hsecond : StaysInside [Number.hexDigit (character.toNat % 16)] :=
        stays_inside_hex_digit (by omega)
      exact (stays_inside_pair (by decide)).append
        (hzero.append (hzero.append (hfirst.append hsecond)))
  · next hquote hbackslash _ _ _ _ _ hprintable =>
      exact stays_inside_raw hquote hbackslash (Nat.le_of_not_lt hprintable)

/-- The spelling of a text in a literal stays inside. -/
theorem stays_inside_escapes (text : List Char) : StaysInside (text.flatMap escape) := by
  induction text with
  | nil => exact ⟨rfl, nofun, nofun⟩
  | cons character text ih => exact (stays_inside_escape character).append ih

/-- A literal is laid out as itself, whatever it holds. -/
theorem laid_out_quote (text : List Char) : LaidOut (quote text) (quote text) := by
  have hbody := stays_inside_escapes text
  have hregions : regions .outside (quote text) =
      (.outside, '"') :: (regions .inside (text.flatMap escape) ++ [(.inside, '"')]) := by
    show (Region.outside, '"') :: regions .inside (text.flatMap escape ++ ['"']) = _
    rw [regions_append, hbody.closed]
    rfl
  have hcontent : ∀ entry ∈ regions .outside (quote text),
      isLayout entry = false ∧ 0x20 ≤ entry.2.toNat := by
    rw [hregions, List.forall_mem_cons, List.forall_mem_append, List.forall_mem_singleton]
    refine ⟨by decide, fun entry hmem => ⟨?_, hbody.printable entry hmem⟩, by decide⟩
    simp [isLayout, hbody.inside entry hmem]
  refine ⟨?_, ?_, fun entry hmem hcontrol => ?_⟩
  · show Region.behind .inside (text.flatMap escape ++ ['"']) = .outside
    rw [Region.behind_append, hbody.closed]
    rfl
  · rw [withoutLayout, List.filter_eq_self.mpr, map_snd_regions]
    intro entry hmem
    rw [(hcontent entry hmem).1]
    rfl
  · exact absurd hcontrol (Nat.not_lt.mpr (hcontent entry hmem).2)

/-! ## Documents -/

/-- A value without parts is laid out as itself. -/
theorem laid_out_scalar (value : Json) : LaidOut value.scalarText value.scalarText := by
  cases value with
  | string value => exact laid_out_quote _
  | number value =>
      refine .plain fun character hmem => ?_
      have hdigit : character.isDigit = true :=
        Nat.isDigit_of_mem_toDigits (by decide) (by decide) hmem
      refine ⟨?_, fun heq => absurd hdigit (heq ▸ by decide)⟩
      simp only [Char.isDigit, ge_iff_le, Bool.and_eq_true, decide_eq_true_eq] at hdigit
      exact Nat.lt_of_lt_of_le (by decide) (UInt32.le_iff_toNat_le.mp hdigit.1)
  | bool value => cases value <;> exact .plain (by simp [scalarText])
  | null | array | object => exact .plain (by simp [scalarText])

theorem laid_out_comma : LaidOut [','] [','] := .mark (by decide) (by decide)

mutual

/-- The indented layout of a value is its compact one with white space between the tokens. -/
theorem laid_out_indented : ∀ (depth : Nat) (value : Json),
    LaidOut (value.indented depth) value.compact
  | _, .null => laid_out_scalar .null
  | _, .bool value => laid_out_scalar (.bool value)
  | _, .number value => laid_out_scalar (.number value)
  | _, .string value => laid_out_scalar (.string value)
  | _, .array [] => @LaidOut.plain ['[', ']'] (by simp)
  | _, .object [] => @LaidOut.plain ['\x7b', '\x7d'] (by simp)
  | depth, .array (item :: items) => by
      have hopen : LaidOut ['['] ['['] := .mark (by decide) (by decide)
      have hclose : LaidOut [']'] [']'] := .mark (by decide) (by decide)
      have hitems := laid_out_items (depth + 1) (item :: items)
      simpa [indented, compact] using
        ((hopen.append hitems).append (laid_out_line_break depth)).append hclose
  | depth, .object (field :: fields) => by
      have hopen : LaidOut ['\x7b'] ['\x7b'] := .mark (by decide) (by decide)
      have hclose : LaidOut ['\x7d'] ['\x7d'] := .mark (by decide) (by decide)
      have hfields := laid_out_fields (depth + 1) (field :: fields)
      simpa [indented, compact] using
        ((hopen.append hfields).append (laid_out_line_break depth)).append hclose

/-- The indented layout of elements is their compact one with white space between the tokens. -/
theorem laid_out_items : ∀ (depth : Nat) (items : List Json),
    LaidOut (indentedItems depth items) (compactItems items)
  | _, [] => .nil
  | depth, [item] => (laid_out_line_break depth).append (laid_out_indented depth item)
  | depth, item :: next :: items => by
      have hfirst := (laid_out_line_break depth).append (laid_out_indented depth item)
      have hothers := laid_out_comma.append (laid_out_items depth (next :: items))
      simpa [indentedItems, compactItems] using hfirst.append hothers

/-- The indented layout of fields is their compact one with white space between the tokens. -/
theorem laid_out_fields : ∀ (depth : Nat) (fields : List (String × Json)),
    LaidOut (indentedFields depth fields) (compactFields fields)
  | _, [] => .nil
  | depth, [(key, value)] => by
      have hcolon : LaidOut [':'] [':'] := .mark (by decide) (by decide)
      have hkey := (laid_out_line_break depth).append (laid_out_quote key.toList)
      have hvalue := hcolon.append (LaidOut.space.append (laid_out_indented depth value))
      simpa [indentedFields, compactFields] using hkey.append hvalue
  | depth, (key, value) :: next :: fields => by
      have hcolon : LaidOut [':'] [':'] := .mark (by decide) (by decide)
      have hkey := (laid_out_line_break depth).append (laid_out_quote key.toList)
      have hvalue := hcolon.append (LaidOut.space.append (laid_out_indented depth value))
      have hothers := laid_out_comma.append (laid_out_fields depth (next :: fields))
      simpa [indentedFields, compactFields] using (hkey.append hvalue).append hothers

end

end DashboardGenerator.Json
