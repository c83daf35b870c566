import DashboardGenerator.Proofs.Generator.DefinitionSchema
import DashboardGenerator.Proofs.Toml.Encoding

/-!
# Definitions of one line

A title is all that a definition needs. Its line is read as the definition with that title and
nothing else, whatever scalar the title is: `parse_of_title`. A string is the same title in each of
the ways to write it: `every_encoding_is_read`.
-/

namespace DashboardGenerator

open Config Number

namespace Toml

/-- A key of its own line is split off its value. -/
theorem tokens_key {key : String} (hkey : IsBareKey key) {first : Char}
    (hfirst : Text.isBlank first = false) (rest : List Char) :
    tokens? (key.toList ++ ' ' :: '=' :: ' ' :: first :: rest) =
      (tokens? (first :: rest)).map (keyTokens key ++ ·) := by
  have hequals : tokenFrom? ' ' ('=' :: ' ' :: first :: rest) =
      some (.blank [' '], '=' :: ' ' :: first :: rest) := rfl
  have hvalue : tokenFrom? ' ' (first :: rest) = some (.blank [' '], first :: rest) := by
    show some (Token.blank (' ' :: (first :: rest).takeWhile Text.isBlank),
      (first :: rest).dropWhile Text.isBlank) = _
    simp [hfirst]
  rw [tokens_word (is_word_of_bare_key hkey) (by rintro next ⟨⟩; rfl), tokens_cons hequals,
    tokens_cons rfl, tokens_cons hvalue]
  cases tokens? (first :: rest) <;> rfl

/-- A quoted text is one token, however it is written. -/
theorem tokens_of_encodes {text encoding : List Char} (hencodes : Encodes text encoding) :
    tokens? ('"' :: (encoding ++ ['"'])) = some [.string false text] := by
  have hstring : tokenFrom? '"' (encoding ++ ['"']) = some (.string false text, []) :=
    basic_token_of_encodes hencodes nofun
  rw [tokens_cons hstring, tokens?]
  rfl

end Toml

namespace DashboardDefinition

open Toml hiding Value

/-- A document with a title alone is a definition with the text of that title. -/
theorem parse_of_title (host : Host) {text : String} {scalar : Toml.Scalar} {value : Config.Scalar}
    (hdocument : document? text = some [("title", .scalar scalar)])
    (hvalue : ofTomlScalar scalar = .ok value) : parse host text = .ok ⟨value.text, [], []⟩ := by
  have hsource : ofToml .memory text = .ok [("title", .scalar .memory value)] := by
    rw [ofToml, hdocument]
    show (settle [("title", (ofTomlScalar scalar).map (Value.scalar .memory))]).mapError _ = _
    rw [hvalue]
    rfl
  have hread : readEntries host.order [("title", .scalar .memory value)] =
      .ok ⟨value.text, [], []⟩ := by
    refine bind_eq_ok_iff.mpr ⟨(), visit_eq_ok_iff.mpr ?_, rfl⟩
    simp only [List.forall_mem_cons]
    exact ⟨rfl, rfl, rfl, List.forall_mem_nil _⟩
  rw [parse_of_plain_source hsource (by simp only [List.forall_mem_singleton]; decide), hread]
  rfl

/-- A quoted title is read back from every way to write it, on every host: each of its characters as
itself, by a short escape or by its code point, the ways mixed at will. -/
theorem every_encoding_is_read (host : Host) {text : String} {encoding : List Char}
    (hencodes : Encodes text.toList encoding) :
    parse host ("title = \"" ++ String.ofList encoding ++ "\"") = .ok ⟨text, [], []⟩ := by
  have hshape : ("title = \"" ++ String.ofList encoding ++ "\"").toList =
      "title".toList ++ ' ' :: '=' :: ' ' :: '"' :: (encoding ++ ['"']) := by
    simp
  have htokens :
      tokens? (skipByteOrderMark ("title = \"" ++ String.ofList encoding ++ "\"").toList) =
        some (keyTokens "title" ++ [.string false text.toList]) := by
    rw [hshape]
    show tokens? ("title".toList ++ _) = _
    rw [tokens_key (by decide) rfl, tokens_of_encodes hencodes]
    rfl
  have hdocument : document? ("title = \"" ++ String.ofList encoding ++ "\"") =
      some [("title", .scalar (.string text.toList))] := by
    rw [document?, htokens]
    rfl
  have hvalue : ofTomlScalar (.string text.toList) = .ok (.string text) := by
    rw [ofTomlScalar, String.ofList_toList]
  exact parse_of_title host hdocument hvalue

/-- A title written in all the ways, digits behind a code point and a backslash behind a digit. -/
theorem every_encoding_is_read_mixed :
    Encodes "éf\\Ω\tA😀b".toList "\\xE9f\\\\\\u03a9\\t\\x41\\U0001F600b".toList ∧
    parse .listed ("title = \"" ++ String.ofList "\\xE9f\\\\\\u03a9\\t\\x41\\U0001F600b".toList ++ "\"") =
      .ok ⟨"éf\\Ω\tA😀b", [], []⟩ := by
  have haccented : Spells 16 "E9".toList 'é'.toNat :=
    @Spells.append 16 [] 0 .nil _ [14, 9] (by decide)
  have homega : Spells 16 "03a9".toList 'Ω'.toNat :=
    @Spells.append 16 [] 0 .nil _ [0, 3, 10, 9] (by decide)
  have hletter : Spells 16 "41".toList 'A'.toNat :=
    @Spells.append 16 [] 0 .nil _ [4, 1] (by decide)
  have hface : Spells 16 "0001F600".toList '😀'.toNat :=
    @Spells.append 16 [] 0 .nil _ [0, 0, 0, 1, 15, 6, 0, 0] (by decide)
  have hencodes : Encodes "éf\\Ω\tA😀b".toList "\\xE9f\\\\\\u03a9\\t\\x41\\U0001F600b".toList :=
    .cons (.code (show ('x', 2) ∈ codeMarks by decide) haccented) <|
    .cons (.raw (by decide) (by decide) (by decide)) <|
    .cons (.short (show ('\\', '\\') ∈ shortEscapes by decide)) <|
    .cons (.code (show ('u', 4) ∈ codeMarks by decide) homega) <|
    .cons (.short (show ('t', '\t') ∈ shortEscapes by decide)) <|
    .cons (.code (show ('x', 2) ∈ codeMarks by decide) hletter) <|
    .cons (.code (show ('U', 8) ∈ codeMarks by decide) hface) <|
    .cons (.raw (by decide) (by decide) (by decide)) .nil
  exact ⟨hencodes, every_encoding_is_read .listed hencodes⟩

end DashboardDefinition

end DashboardGenerator
