import DashboardGenerator.Proofs.Toml.Literal

/-!
# Reading sections

A header names the whole path to its table, and the reader enters every array of tables on the way at
its last element. So what a table on the path may become is a hole in the tables read so far
(`OpenAt`): changing the table at the path is changing what fills the hole. The tokens of a section
fill the hole with its entries (`fills_of_fits`), and the whole document is read back:
`document_text`.
-/

namespace DashboardGenerator.Toml

namespace Entries

variable {made : TableOrigin} {enters : TableOrigin → Bool}

/-- Changing the table at a path in two parts is changing it at the second part of the table at the
first. -/
theorem change_at_append (change : Entries → Option Entries) (front back : List String)
    (entries : Entries) :
    changeAt? made enters change (front ++ back) entries =
      changeAt? made enters (changeAt? made enters change back) front entries := by
  induction front generalizing entries with
  | nil => rfl
  | cons key front ih => simp only [List.cons_append, changeAt?, ih]

/-- A new key comes behind the entries that a table has. -/
theorem lookup_append_new {entries : Entries} {key : String} (hnew : key ∉ entries.map Prod.fst)
    (value : Value) : (entries ++ [(key, value)]).lookup key = some value := by
  rw [List.lookup_append, lookup_of_not_mem hnew]
  simp

/-- The last entry is replaced alone if its key is no other's. -/
theorem replace_append_new {entries : Entries} {key : String} (hnew : key ∉ entries.map Prod.fst)
    (value other : Value) :
    Entries.replace (entries ++ [(key, value)]) key other = entries ++ [(key, other)] := by
  have hkept :=
    calc entries.map (fun entry => if entry.1 = key then (key, other) else entry)
      _ = entries.map id := by
          refine List.map_congr_left fun entry hmem => if_neg ?_
          rintro rfl
          exact hnew (List.mem_map_of_mem hmem)
      _ = entries := List.map_id entries
  rw [replace, List.map_append, hkept]
  simp

end Entries

/-- The keys of an inline table are those that were written. -/
theorem Literal.map_fst_entry_values (entries : List (String × Literal)) :
    (entryValues entries).map Prod.fst = entries.map Prod.fst := by
  induction entries with
  | nil => rfl
  | cons entry entries ih => rw [entryValues, List.map_cons, List.map_cons, ih]

/-- `fill` puts the entries of the table at a path into the tables read so far: a change of the table
at the path is a change of what is put in. -/
structure OpenAt (path : List String) (fill : Entries → Entries) : Prop where
  bare : ∀ step ∈ path, IsBareKey step
  change : ∀ (change : Entries → Option Entries) (inner : Entries),
    Entries.changeAt? .passage Entries.headerEnters change path (fill inner) =
      (change inner).map fill

/-- The whole document is open at the empty path. -/
theorem open_at_root : OpenAt [] id :=
  ⟨nofun, fun _ _ => Option.map_id_apply.symm⟩

section

variable {path : List String} {fill : Entries → Entries} {before : Entries} {key : String}

/-- The last element of an array of tables is open below the table that holds the array. -/
theorem OpenAt.element (hopen : OpenAt path fill) (hkey : IsBareKey key)
    (hnew : key ∉ before.map Prod.fst) (items : List Value) :
    OpenAt (path ++ [key]) fun inner =>
      fill (before ++ [(key, .array true (items ++ [.table .header inner]))]) where
  bare step hmem := by
    rcases List.mem_append.mp hmem with hway | hlast
    · exact hopen.bare step hway
    · rwa [List.mem_singleton.mp hlast]
  change change inner := by
    -- The header enters the array at its last element, which is the one that was just opened.
    have hlast : Entries.changeAt? .passage Entries.headerEnters change [key]
        (before ++ [(key, .array true (items ++ [.table .header inner]))]) =
        (change inner).map fun inner =>
          before ++ [(key, .array true (items ++ [.table .header inner]))] := by
      rw [Entries.changeAt?, Entries.lookup_append_new hnew]
      simp only [List.getLast?_append, List.getLast?_singleton, Option.some_or, List.dropLast_concat,
        Entries.headerEnters, if_true, Entries.changeAt?, Entries.replace_append_new hnew]
      cases change inner <;> rfl
    rw [Entries.change_at_append, hopen.change, hlast, Option.map_map]
    rfl

/-- A header of an array of tables opens one more element of it, the first one in an array of its
own. -/
theorem OpenAt.open_element (hopen : OpenAt path fill) (hnew : key ∉ before.map Prod.fst)
    (items : List Value) :
    Entries.openElement? (fill (before ++ arrayEntry key items)) (path ++ [key]) =
      some (fill (before ++ [(key, .array true (items ++ [.table .header []]))])) := by
  have hsplit : Entries.splitPath? (path ++ [key]) = some (path, key) := by
    simp [Entries.splitPath?]
  rw [Entries.openElement?, hsplit]
  show Entries.changeAt? .passage Entries.headerEnters _ path _ = _
  rw [hopen.change]
  cases items with
  | nil =>
      have hnone : arrayEntry key [] = [] := rfl
      rw [hnone, List.append_nil, Entries.lookup_of_not_mem hnew]
      rfl
  | cons item items =>
      have hsome : arrayEntry key (item :: items) = [(key, .array true (item :: items))] := rfl
      rw [hsome, Entries.lookup_append_new hnew]
      show some (fill (Entries.replace _ _ _)) = _
      rw [Entries.replace_append_new hnew]

/-- A line gives the table at a path one more key. -/
theorem OpenAt.assign_line (hopen : OpenAt path fill) (hnew : key ∉ before.map Prod.fst)
    (value : Value) :
    Entries.assignIn? (fill before) path [key] value = some (fill (before ++ [(key, value)])) := by
  have hassign : Entries.assign? before [key] value = some (before ++ [(key, value)]) := by
    show Entries.insertNew? before key value = _
    rw [Entries.insertNew?, Entries.lookup_of_not_mem hnew]
  rw [Entries.assignIn?, hopen.change, hassign]
  rfl

end

namespace Reader

/-! ## Lines -/

/-- A key at the start of a line is read up to where its value comes. -/
theorem run_key_line {key : String} (hkey : IsBareKey key) (tables : Entries)
    (header old : List String) (rest : List Token) :
    run? ⟨tables, header, old, [], .line⟩ (keyTokens key ++ rest) =
      run? ⟨tables, header, [key], [], .value⟩ rest := by
  have hword : step? ⟨tables, header, old, [], .line⟩ (.word key.toList) =
      some ⟨tables, header, old, [], .keyEnd .pair [key]⟩ :=
    key_part_word hkey (Nat.zero_lt_succ _)
  exact run_step hword _

/-- The rest of a line gives its key a value in the table that the last header opened. -/
theorem run_value_line {key : String} {literal : Literal} (hvalue : Delivers nestingLimit literal)
    {tables after : Entries} {header : List String}
    (hassign : tables.assignIn? header [key] literal.value = some after) (rest : List Token) :
    run? ⟨tables, header, [key], [], .value⟩ (literal.tokens ++ .newline :: rest) =
      run? ⟨after, header, [key], [], .line⟩ rest := by
  have hdeliver : deliver? ⟨tables, header, [key], [], .value⟩ literal.value =
      some ⟨after, header, [key], [], .lineEnd⟩ := by
    show (tables.assignIn? header [key] literal.value).bind _ = _
    rw [hassign]
    rfl
  rw [hvalue _ _ _ (.inl rfl) (Nat.le_of_eq (Nat.zero_add _)) rfl, hdeliver]
  rfl

/-- A line gives its key a value in the table that the last header opened. -/
theorem run_line {line : String × Literal} (hkey : IsBareKey line.1)
    (hvalue : Delivers nestingLimit line.2) {tables after : Entries} {header : List String}
    (hassign : tables.assignIn? header [line.1] line.2.value = some after) (old : List String)
    (rest : List Token) :
    run? ⟨tables, header, old, [], .line⟩ (lineTokens line ++ rest) =
      run? ⟨after, header, [line.1], [], .line⟩ rest := by
  simp only [lineTokens, List.append_assoc, List.cons_append, List.nil_append]
  rw [run_key_line hkey, run_value_line hvalue hassign]

/-- Lines add their keys to the table that is open. -/
theorem run_lines {path : List String} {fill : Entries → Entries} (hopen : OpenAt path fill)
    {lines : List (String × Literal)} (hbare : ∀ line ∈ lines, IsBareKey line.1)
    (hvalues : ∀ line ∈ lines, line.2.Fits nestingLimit) (before : Entries)
    (hkeys : (before.map Prod.fst ++ lines.map Prod.fst).Nodup) (old : List String) :
    ∃ key, run? ⟨fill before, path, old, [], .line⟩ (lines.flatMap lineTokens) =
      some ⟨fill (before ++ Literal.entryValues lines), path, key, [], .line⟩ := by
  induction lines generalizing before old with
  | nil => exact ⟨old, by rw [Literal.entryValues, List.append_nil]; rfl⟩
  | cons line lines ih =>
      obtain ⟨hkey, hbare⟩ := List.forall_mem_cons.mp hbare
      obtain ⟨hvalue, hvalues⟩ := List.forall_mem_cons.mp hvalues
      have hnew : line.1 ∉ before.map Prod.fst := Entries.not_mem_of_nodup hkeys
      obtain ⟨key, hrun⟩ := ih hbare hvalues (before ++ [(line.1, line.2.value)])
        (by simpa using hkeys) [line.1]
      refine ⟨key, ?_⟩
      rw [List.flatMap_cons, run_line hkey (delivers_of_fits hvalue)
        (hopen.assign_line hnew line.2.value), hrun, Literal.entryValues, List.append_assoc,
        List.singleton_append]

/-! ## Headers -/

/-- The way to a key is read one part after the other. -/
theorem run_way {path : List String} (hpath : ∀ step ∈ path, IsBareKey step) (tables : Entries)
    (header old parts : List String) (hparts : parts.length + path.length ≤ nestingLimit)
    (rest : List Token) :
    run? ⟨tables, header, old, [], .keyPart .element parts⟩
        (path.flatMap (fun step => [.word step.toList, .dot]) ++ rest) =
      run? ⟨tables, header, old, [], .keyPart .element (parts ++ path)⟩ rest := by
  induction path generalizing parts with
  | nil => rw [List.append_nil]; rfl
  | cons step path ih =>
      rw [List.length_cons] at hparts
      obtain ⟨hstep, hpath⟩ := List.forall_mem_cons.mp hpath
      have hword : step? ⟨tables, header, old, [], .keyPart .element parts⟩ (.word step.toList) =
          some ⟨tables, header, old, [], .keyEnd .element (parts ++ [step])⟩ :=
        key_part_word hstep (by omega)
      have hothers := ih hpath (parts ++ [step])
        (by rw [List.length_append, List.length_singleton]; omega)
      rw [List.append_assoc, List.singleton_append] at hothers
      rw [List.flatMap_cons, List.append_assoc, List.cons_append, run_step hword]
      exact hothers

/-- A header opens a new element of the array of tables that it names. -/
theorem run_header {path : List String} (hpath : ∀ step ∈ path, IsBareKey step) {key : String}
    (hkey : IsBareKey key) (hroom : path.length < nestingLimit) {tables after : Entries}
    (helement : tables.openElement? (path ++ [key]) = some after) (header old : List String)
    (rest : List Token) :
    run? ⟨tables, header, old, [], .line⟩ (headerTokens path key ++ rest) =
      run? ⟨after, path ++ [key], old, [], .line⟩ rest := by
  have hword : step? ⟨tables, header, old, [], .keyPart .element path⟩ (.word key.toList) =
      some ⟨tables, header, old, [], .keyEnd .element (path ++ [key])⟩ :=
    key_part_word hkey hroom
  have hclose : step? ⟨tables, header, old, [], .headerEnd (path ++ [key])⟩ .rightBracket =
      some ⟨after, path ++ [key], old, [], .lineEnd⟩ := by
    show (tables.openElement? (path ++ [key])).bind _ = _
    rw [helement]
    rfl
  simp only [headerTokens, List.append_assoc, List.cons_append, List.nil_append]
  show run? ⟨tables, header, old, [], .keyPart .element []⟩ _ = _
  rw [run_way hpath tables header old [] (by simpa using Nat.le_of_lt hroom), List.nil_append,
    run_step hword]
  show run? ⟨tables, header, old, [], .headerEnd (path ++ [key])⟩ _ = _
  rw [run_step hclose]
  rfl

/-! ## Sections -/

/-- The tokens of a section are read as filling the table that is open with its entries, when `room`
more parts fit into a header. -/
def Fills (room : Nat) (element : Section) : Prop :=
  ∀ (path : List String) (fill : Entries → Entries) (old : List String), OpenAt path fill →
    path.length + room ≤ nestingLimit →
    ∃ header key, run? ⟨fill [], path, old, [], .line⟩ (element.tokens path) =
      some ⟨fill element.entries, header, key, [], .line⟩

/-- The elements of an array of tables are added behind those read so far, whatever table was open
last. -/
theorem run_elements {path : List String} {fill : Entries → Entries} (hopen : OpenAt path fill)
    {before : Entries} {key : String} (hkey : IsBareKey key) (hnew : key ∉ before.map Prod.fst)
    {room : Nat} (hroom : path.length + (room + 1) ≤ nestingLimit) {elements : List Section}
    (helements : ∀ element ∈ elements, Fills room element) (items : List Value)
    (header old : List String) :
    ∃ last lastKey, run? ⟨fill (before ++ arrayEntry key items), header, old, [], .line⟩
        (Section.elementTokens path key elements) =
      some ⟨fill (before ++ arrayEntry key (items ++ Section.elementValues elements)), last, lastKey,
        [], .line⟩ := by
  induction elements generalizing items header old with
  | nil => exact ⟨header, old, by rw [Section.elementValues, List.append_nil]; rfl⟩
  | cons element elements ih =>
      have hinner : (path ++ [key]).length + room ≤ nestingLimit := by
        rw [List.length_append, List.length_singleton]
        omega
      obtain ⟨helement, helements⟩ := List.forall_mem_cons.mp helements
      -- The sections below the element leave the reader at a deeper header. The next header names
      -- the whole path again, so the rest is read from there all the same.
      obtain ⟨middle, middleKey, hfilled⟩ := helement (path ++ [key]) _ old
        (hopen.element hkey hnew items) hinner
      obtain ⟨last, lastKey, hothers⟩ := ih helements (items ++ [.table .header element.entries])
        middle middleKey
      refine ⟨last, lastKey, ?_⟩
      rw [Section.elementTokens, List.append_assoc, run_header hopen.bare hkey (by omega)
        (hopen.open_element hnew items), run_append, hfilled]
      have hentry : arrayEntry key (items ++ [.table .header element.entries]) =
          [(key, .array true (items ++ [.table .header element.entries]))] := by
        simp [arrayEntry]
      rw [hentry] at hothers
      rw [Section.elementValues]
      simpa using hothers

/-- The arrays of tables of a section are added to the table that holds them. -/
theorem run_groups {path : List String} {fill : Entries → Entries} (hopen : OpenAt path fill)
    {room : Nat} (hroom : path.length + (room + 1) ≤ nestingLimit)
    {groups : List (String × List Section)} (hbare : ∀ group ∈ groups, IsBareKey group.1)
    (helements : ∀ group ∈ groups, ∀ element ∈ group.2, Fills room element) (before : Entries)
    (hkeys : (before.map Prod.fst ++ groups.map Prod.fst).Nodup) (header old : List String) :
    ∃ last lastKey, run? ⟨fill before, header, old, [], .line⟩ (Section.groupTokens path groups) =
      some ⟨fill (before ++ Section.groupEntries groups), last, lastKey, [], .line⟩ := by
  induction groups generalizing before header old with
  | nil => exact ⟨header, old, by rw [Section.groupEntries, List.append_nil]; rfl⟩
  | cons group groups ih =>
      obtain ⟨key, elements⟩ := group
      obtain ⟨hkey, hbare⟩ := List.forall_mem_cons.mp hbare
      obtain ⟨helement, helements⟩ := List.forall_mem_cons.mp helements
      have hnew : key ∉ before.map Prod.fst := Entries.not_mem_of_nodup hkeys
      obtain ⟨middle, middleKey, hgroup⟩ := run_elements hopen hkey hnew hroom helement []
        header old
      have hsublist : List.Sublist
          ((arrayEntry key (Section.elementValues elements)).map Prod.fst) [key] := by
        rw [arrayEntry]
        split
        · exact List.nil_sublist _
        · exact List.Sublist.refl _
      -- An array without elements leaves no key behind, so the keys may only become fewer.
      have hrest : ((before ++ arrayEntry key (Section.elementValues elements)).map Prod.fst ++
          groups.map Prod.fst).Nodup := by
        refine List.Nodup.sublist ?_ hkeys
        rw [List.map_append, List.append_assoc]
        exact (List.Sublist.refl _).append (hsublist.append (List.Sublist.refl _))
      obtain ⟨last, lastKey, hothers⟩ := ih hbare helements _ hrest middle middleKey
      refine ⟨last, lastKey, ?_⟩
      have hempty : arrayEntry key [] = [] := rfl
      rw [hempty, List.append_nil, List.nil_append] at hgroup
      rw [Section.groupTokens, run_append, hgroup, Section.groupEntries, ← List.append_assoc]
      exact hothers

/-- The tokens of a section that fits fill the table that is open with its entries. -/
theorem fills_of_fits {room : Nat} {element : Section} (hfits : element.Fits room) :
    Fills room element := by
  induction hfits with
  | mk room lines groups hkeys hlines _ ih =>
      intro path fill old hopen hroom
      have hline : ∀ line ∈ lines, IsBareKey line.1 := fun line hmem =>
        hkeys.bare line.1 (List.mem_append_left _ (List.mem_map_of_mem hmem))
      have hgroup : ∀ group ∈ groups, IsBareKey group.1 := fun group hmem =>
        hkeys.bare group.1 (List.mem_append_right _ (List.mem_map_of_mem hmem))
      have hvalues : (Literal.entryValues lines).map Prod.fst = lines.map Prod.fst :=
        Literal.map_fst_entry_values lines
      obtain ⟨key, hrun⟩ := run_lines hopen hline hlines []
        (List.nodup_append.mp hkeys.distinct).1 old
      obtain ⟨last, lastKey, hrest⟩ := run_groups hopen hroom hgroup ih
        (Literal.entryValues lines) (by rw [hvalues]; exact hkeys.distinct) path key
      refine ⟨last, lastKey, ?_⟩
      rw [Section.tokens, run_append, hrun, Section.entries]
      exact hrest

end Reader

/-- A document that fits is read back from its text. -/
theorem document_text {document : Section} (hfits : document.Fits nestingLimit) :
    document? document.text = some document.entries := by
  obtain ⟨header, key, hrun⟩ := Reader.fills_of_fits hfits [] id [] open_at_root
    (Nat.le_of_eq (Nat.zero_add _))
  rw [document?, tokens_text hfits]
  show (Reader.run? ⟨[], [], [], [], .line⟩ (document.tokens [])).bind _ = _
  rw [show Reader.run? ⟨[], [], [], [], .line⟩ (document.tokens []) = _ from hrun]
  rfl

end DashboardGenerator.Toml
