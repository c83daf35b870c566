import DashboardGenerator.Proofs.Config.Numbers
import DashboardGenerator.Proofs.Generator.DefinitionRoundTrip
import DashboardGenerator.Proofs.Generator.DefinitionSchema
import DashboardGenerator.Proofs.Toml.Integer
import DashboardGenerator.Proofs.Toml.Replaced

/-!
# Integers in definitions

An integer does for a text in a definition, and it is the text of its decimal digits. Whatever way
the integer is written in and wherever it stands, the definition is the same as with its digits in
quotes; and if it does not fit into sixty-four bits, there is no definition at all:
`integers_are_read_exactly`.
-/

namespace DashboardGenerator

open Config Number Toml

namespace DashboardDefinition

/-! ## Reading what stands for something else -/

theorem carries_target : Carries DescribesTarget := fun _ _ _ hvalue hother =>
  { record := hvalue.is_record hother.record
    expression := hother.expression.carried carries_text hvalue
    legendFormat := hother.legendFormat.carried carries_text hvalue }

theorem carries_panel : Carries DescribesPanel := fun _ _ _ hvalue hother =>
  { record := hvalue.is_record hother.record
    title := hother.title.carried carries_text hvalue
    dataSource := hother.dataSource.carried carries_text hvalue
    transparent := hother.transparent.carried carries_truth hvalue
    targets := hother.targets.carried (carries_list carries_target) hvalue }

theorem carries_row : Carries DescribesRow := fun _ _ _ hvalue hother =>
  { record := hvalue.is_record hother.record
    panels := hother.panels.carried (carries_list carries_panel) hvalue }

theorem carries_template : Carries DescribesTemplate := fun _ _ _ hvalue hother =>
  { record := hvalue.is_record hother.record
    name := hother.name.carried carries_text hvalue
    dataSource := hother.dataSource.carried carries_text hvalue
    query := hother.query.carried carries_text hvalue
    regex := hother.regex.carried (carries_optional carries_text) hvalue
    default := hother.default.carried carries_text hvalue }

/-- A value describes what the value that it stands for describes. -/
theorem carries_definition : Carries DescribesDefinition := fun _ _ _ hvalue hother =>
  { title := hother.title.carried carries_text hvalue
    templating := hother.templating.carried (carries_list carries_template) hvalue
    rows := hother.rows.carried (carries_list carries_row) hvalue }

/-- A text gives the definition of another one if its tables stand for the other one's. -/
theorem parse_of_stands_for {host : Host} {text other : String}
    (hdocuments : Option.Rel Entries.StandsFor (document? text) (document? other))
    {definition : DashboardDefinition} (hother : parse host other = .ok definition) :
    parse host text = .ok definition := by
  obtain ⟨otherSource, hotherSource, -⟩ := bind_eq_ok_iff.mp hother
  have hotherSource := mapError_eq_ok_iff.mp hotherSource
  obtain ⟨otherConfig, hotherConfig, hdescribes⟩ := (parse_eq_ok_iff hotherSource).mp hother
  rw [ofToml] at hotherSource
  generalize hotherTables : document? other = otherFound at hdocuments hotherSource
  generalize htables : document? text = found at hdocuments
  cases hdocuments with
  | none => cases hotherSource
  | some hstands =>
      obtain ⟨source, hsettle, hsource⟩ :=
        settle_stands_for hstands (mapError_eq_ok_iff.mp hotherSource)
      have hofToml : ofToml .memory text = .ok source := by
        rw [ofToml, htables]
        exact mapError_eq_ok_iff.mpr hsettle
      obtain ⟨config, hconfig, hconfigStands⟩ := stands_for_set hsource (.table .nil) hotherConfig
      exact (parse_eq_ok_iff hofToml).mpr
        ⟨config, hconfig, carries_definition _ _ _ (.table hconfigStands.entries) hdescribes⟩

/-! ## Integers at a place -/

variable {host : Host} {text other : String} {left right : List Token} {word : List Char}
  {number : Int}

/-- An integer that fits is read as its digits in quotes are. -/
theorem parse_of_integer (hspells : SpellsInteger word number) (hfits : FitsWord number)
    (htext : HasValueAt text left (.word word) right)
    (hother : HasValueAt other left (.string false (integerText number).toList) right)
    {definition : DashboardDefinition} (hparse : parse host other = .ok definition) :
    parse host text = .ok definition := by
  have hscalar : scalar? word = some (.integer number) := by
    rw [scalar_of_spells_integer hspells, integerScalar, if_pos hfits]
  obtain ⟨reader, hleft, -⟩ := htext.reaches
  refine parse_of_stands_for ?_ hparse
  rw [htext.document_word hleft hscalar, hother.document_string hleft]
  exact rel_bind ((Reader.stands_for_self hleft).deliver (.scalar (.integer number)))
    fun _ _ hstands => hstands.read right

/-- A written definition is read back with an integer in place of its digits. -/
theorem parse_write_integer (hspells : SpellsInteger word number) (hfits : FitsWord number)
    {definition : DashboardDefinition} {style : DefinitionStyle} {front : List Token} {key : String}
    (hdocument : (definition.document style).tokens [] =
      front ++ keyTokens key ++ .string false (integerText number).toList :: right) :
    parse host (String.ofList ((front ++ keyTokens key).flatMap Token.text ++ word ++
      right.flatMap Token.text)) = .ok definition := by
  have hdefinition := definition.document_fits style
  have hmark : '\uFEFF' ∉ word := fun hmem =>
    (inner_of_spells_integer hspells _ hmem).2 (by decide)
  exact parse_of_integer hspells hfits
    (has_value_replaced hdefinition hdocument (is_word_of_spells_integer hspells) hmark)
    (has_value_written hdefinition hdocument) (parse_write host definition style)

/-- An integer that does not fit leaves no definition, under whatever key it stands. -/
theorem parse_of_unfit (hspells : SpellsInteger word number) (hunfit : ¬FitsWord number)
    (htext : HasValueAt text left (.word word) right) :
    ∃ fault, parse host text = .error (.parse fault .memory) := by
  obtain ⟨fault, hscalar⟩ : ∃ fault, scalar? word = some (.unfit fault) :=
    ⟨_, by rw [scalar_of_spells_integer hspells, integerScalar, if_neg hunfit]⟩
  obtain ⟨reader, hleft, -⟩ := htext.reaches
  have hdocument := htext.document_word hleft hscalar
  -- What follows may break the form; if it does not, the number is still there at the end.
  have hfault : ∃ fault, ofToml .memory text = .error fault := by
    rw [ofToml]
    cases htables : document? text with
    | none => exact ⟨.form, rfl⟩
    | some tables =>
        obtain ⟨after, hafter, hread⟩ := Option.bind_eq_some_iff.mp (hdocument.symm.trans htables)
        have hfaulty := (Reader.is_faulty_deliver (.inl (.unfit fault)) hafter).read hread
        obtain ⟨fault, hsettle⟩ := settle_faulty .memory hfaulty
        exact ⟨.number fault, by simp only [hsettle]; rfl⟩
  obtain ⟨fault, hfault⟩ := hfault
  exact ⟨fault, by rw [parse, hfault]; rfl⟩

/-- An integer is read exactly, whatever way it is written in, on every host. If it fits into
sixty-four bits, it does for any string of a written definition that has its decimal digits, and in
any text it is read as these digits in quotes are. If it does not fit, there is no definition, and the
fault is one of the text's form, whether its key is read or not. -/
theorem integers_are_read_exactly (hspells : SpellsInteger word number) :
    (FitsWord number →
      (∀ (host : Host) (definition : DashboardDefinition) (style : DefinitionStyle)
        (front right : List Token) (key : String),
        (definition.document style).tokens [] =
          front ++ keyTokens key ++ .string false (integerText number).toList :: right →
        parse host (String.ofList ((front ++ keyTokens key).flatMap Token.text ++ word ++
          right.flatMap Token.text)) = .ok definition) ∧
      ∀ (host : Host) (text other : String) (left right : List Token)
        (definition : DashboardDefinition),
        HasValueAt text left (.word word) right →
        HasValueAt other left (.string false (integerText number).toList) right →
        parse host other = .ok definition → parse host text = .ok definition) ∧
    (¬FitsWord number → ∀ (host : Host) (text : String) (left right : List Token),
      HasValueAt text left (.word word) right →
      ∃ fault, parse host text = .error (.parse fault .memory)) :=
  ⟨fun hfits => ⟨fun _ _ _ _ _ _ => parse_write_integer hspells hfits,
    fun _ _ _ _ _ _ htext hother => parse_of_integer hspells hfits htext hother⟩,
    fun hunfit _ _ _ _ => parse_of_unfit hspells hunfit⟩

/-- Thirty-one with zeros in front, an underscore and a letter as the title, also next to a comment;
and the first number that does not fit, in an array under a key that nobody reads. -/
theorem integers_are_read_exactly_marked :
    SpellsInteger "0x00_1F".toList 31 ∧ FitsWord 31 ∧
    parse .listed "title = 0x00_1F\n" = .ok ⟨"31", [], []⟩ ∧
    parse .listed "title =\t0x00_1F # hex" = .ok ⟨"31", [], []⟩ ∧
    SpellsInteger "0x8000000000000000".toList 9223372036854775808 ∧
    ¬FitsWord 9223372036854775808 ∧
    ∃ fault, parse .listed "title = \"a\"\n[extra]\nsizes = [1, 0x8000000000000000]" =
      .error (.parse fault .memory) := by
  have hsmall : SpellsInteger "0x00_1F".toList 31 :=
    .marked (show ('x', 16) ∈ baseMarks by decide)
      (@Spells.append 16 [] 0 .nil "001F".toList [0, 0, 1, 15] (by decide))
      (.next '0' (.separated '0' (.next '1' (.single 'F'))))
  have hlarge : SpellsInteger "0x8000000000000000".toList 9223372036854775808 :=
    .marked (show ('x', 16) ∈ baseMarks by decide)
      (@Spells.append 16 [] 0 .nil "8000000000000000".toList
        [8, 0, 0, 0, 0, 0, 0, 0, 0, 0, 0, 0, 0, 0, 0, 0] (by decide))
      (underscored_self (by decide))
  have hfits : FitsWord 31 := by decide
  have hunfit : ¬FitsWord 9223372036854775808 := by decide
  obtain ⟨hwritten, hplace⟩ := (integers_are_read_exactly hsmall).1 hfits
  have htitle := hwritten .listed ⟨"31", [], []⟩ .sections [] [.newline] "title" (by decide)
  have hcomment := hplace .listed "title =\t0x00_1F # hex" "title =\t\"31\" # hex"
    [.word "title".toList, .blank [' '], .equals, .blank ['\t']] [.blank [' '], .comment]
    ⟨"31", [], []⟩ ⟨by decide +kernel, ⟨_, rfl, .inl rfl⟩, rfl⟩
    ⟨by decide +kernel, ⟨_, rfl, .inl rfl⟩, rfl⟩ (by decide +kernel)
  have hunread := (integers_are_read_exactly hlarge).2 hunfit .listed
    "title = \"a\"\n[extra]\nsizes = [1, 0x8000000000000000]"
    [.word "title".toList, .blank [' '], .equals, .blank [' '], .string false ['a'], .newline,
      .leftBracket, .word "extra".toList, .rightBracket, .newline, .word "sizes".toList,
      .blank [' '], .equals, .blank [' '], .leftBracket, .word ['1'], .comma, .blank [' ']]
    [.rightBracket] ⟨by decide +kernel, ⟨_, rfl, .inr rfl⟩, rfl⟩
  exact ⟨hsmall, hfits, htitle, hcomment, hlarge, hunfit, hunread⟩

end DashboardDefinition

end DashboardGenerator
