import DashboardGenerator.Proofs.Config.Written

/-!
# Reading quoted keys

A key between quotes may be any text and is taken as it is. Lines of distinct quoted keys are read as
the table of their values: `of_toml_quoted_text`.
-/

namespace DashboardGenerator.Toml

/-- Lines of quoted keys are legible if their values are. -/
theorem legible_quoted_lines {lines : List (String × Literal)}
    (hvalues : ∀ line ∈ lines, line.2.IsLegible) : Legible (lines.flatMap quotedLineTokens) := by
  induction lines with
  | nil => trivial
  | cons line lines ih =>
      obtain ⟨hvalue, hvalues⟩ := List.forall_mem_cons.mp hvalues
      have hliteral := hvalue .newline _ rfl (legible_mark rfl (ih hvalues))
      simp only [List.flatMap_cons, quotedLineTokens, List.append_assoc, List.cons_append,
        List.nil_append]
      refine legible_text rfl rfl (fun next hmem => ?_) (legible_space (fun next hmem => ?_) ?_)
      · cases hmem
        rfl
      · cases hmem
        rfl
      · exact legible_mark rfl (legible_space (line.2.head_tokens _) hliteral)

namespace Reader

/-- A line with a quoted key gives the key its value at the top of the document. -/
theorem run_quoted_line {line : String × Literal} (hvalue : line.2.Fits nestingLimit)
    {tables : Entries} (hnew : line.1 ∉ tables.map Prod.fst) (old : List String)
    (rest : List Token) :
    run? ⟨tables, [], old, [], .line⟩ (quotedLineTokens line ++ rest) =
      run? ⟨tables ++ [(line.1, line.2.value)], [], [line.1], [], .line⟩ rest := by
  have hkey : step? ⟨tables, [], old, [], .line⟩ (.string false line.1.toList) =
      some ⟨tables, [], old, [], .keyEnd .pair [line.1]⟩ := by
    show addPart? ⟨tables, [], old, [], .line⟩ .pair [] (String.ofList line.1.toList) = _
    rw [String.ofList_toList]
    rfl
  simp only [quotedLineTokens, List.append_assoc, List.cons_append, List.nil_append]
  rw [run_step hkey]
  exact run_value_line (delivers_of_fits hvalue) (open_at_root.assign_line hnew line.2.value) rest

/-- Lines with distinct quoted keys give the keys their values. -/
theorem run_quoted_lines {lines : List (String × Literal)}
    (hvalues : ∀ line ∈ lines, line.2.Fits nestingLimit) (before : Entries)
    (hkeys : (before.map Prod.fst ++ lines.map Prod.fst).Nodup) (old : List String) :
    ∃ key, run? ⟨before, [], old, [], .line⟩ (lines.flatMap quotedLineTokens) =
      some ⟨before ++ Literal.entryValues lines, [], key, [], .line⟩ := by
  induction lines generalizing before old with
  | nil => exact ⟨old, by rw [Literal.entryValues, List.append_nil]; rfl⟩
  | cons line lines ih =>
      obtain ⟨hvalue, hvalues⟩ := List.forall_mem_cons.mp hvalues
      have hnew : line.1 ∉ before.map Prod.fst := Entries.not_mem_of_nodup hkeys
      obtain ⟨key, hrun⟩ := ih hvalues (before ++ [(line.1, line.2.value)]) (by simpa using hkeys)
        [line.1]
      refine ⟨key, ?_⟩
      rw [List.flatMap_cons, run_quoted_line hvalue hnew, hrun, Literal.entryValues,
        List.append_assoc, List.singleton_append]

end Reader

/-- Distinct quoted keys with values that fit are read back from their text. -/
theorem document_quoted_text {lines : List (String × Literal)} (hkeys : (lines.map Prod.fst).Nodup)
    (hvalues : ∀ line ∈ lines, line.2.Fits nestingLimit) :
    document? (quotedText lines) = some (Literal.entryValues lines) := by
  have hlegible : Legible (lines.flatMap quotedLineTokens) :=
    legible_quoted_lines fun line hmem => (hvalues line hmem).is_legible
  obtain ⟨key, hrun⟩ := Reader.run_quoted_lines hvalues [] hkeys []
  rw [document?, quotedText, String.toList_ofList, tokens_skip_mark hlegible]
  show (Reader.run? ⟨[], [], [], [], .line⟩ (lines.flatMap quotedLineTokens)).bind _ = _
  rw [hrun]
  rfl

/-- Distinct quoted keys give the configurations of their values. -/
theorem of_toml_quoted_text {lines : List (String × Literal)} (hkeys : (lines.map Prod.fst).Nodup)
    (hvalues : ∀ line ∈ lines, line.2.Fits nestingLimit) (origin : Config.Origin) :
    Config.ofToml origin (quotedText lines) = .ok (Literal.entryConfigs origin lines) := by
  rw [Config.ofToml, document_quoted_text hkeys hvalues]
  show (Config.settle (Config.ofTomlEntries origin (Literal.entryValues lines))).mapError _ = _
  rw [Config.of_toml_entry_values, Config.settle_valued]
  rfl

end DashboardGenerator.Toml
