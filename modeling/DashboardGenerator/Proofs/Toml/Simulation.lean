import DashboardGenerator.Proofs.Toml.Place

/-!
# Relations that tokens keep

A relation between readers is kept by every run if it is kept by the few things that a token may do
to tables, keys and open arrays and inline tables. `Simulation` lists them. From them it follows for
a token (`Simulation.step`), for tokens in a row (`Simulation.run`) and for the rest of a document
(`Simulation.read`). Two documents may be read side by side in this way; a property of one reader is
the relation of `Holding`.
-/

namespace DashboardGenerator.Toml

/-- Two steps in a row keep a relation if each of them does. -/
theorem rel_bind {α α' β β' : Type} {S : α → α' → Prop} {T : β → β' → Prop} {first : Option α}
    {other : Option α'} (hfirst : Option.Rel S first other) {next : α → Option β}
    {otherNext : α' → Option β'}
    (hnext : ∀ middle otherMiddle, S middle otherMiddle →
      Option.Rel T (next middle) (otherNext otherMiddle)) :
    Option.Rel T (first.bind next) (other.bind otherNext) := by
  cases hfirst with
  | none => exact .none
  | some hmiddle => exact hnext _ _ hmiddle

/-- A place at which no array and no inline table can be open. -/
def Position.isTop : Position → Bool
  | .line | .header | .headerEnd _ | .lineEnd => true
  | .keyPart use _ | .keyEnd use _ => use != .pair
  | .value | .item | .itemEnd | .entry | .entryEnd | .bare _ | .bareGap _ => false

namespace Reader

/-- Begin the value of a key. -/
def giveKey? (reader : Reader) (parts : List String) : Option Reader :=
  match reader.frames with
  | [] => some { reader with key := parts, position := .value }
  | .inlineTable entries _ :: outer =>
    some { reader with frames := .inlineTable entries parts :: outer, position := .value }
  | .array _ :: _ => none

/-- The sign behind a key begins its value. -/
theorem key_end_equals (reader : Reader) (parts : List String) :
    reader.keyEnd? .pair parts .equals = reader.giveKey? parts := by
  obtain ⟨tables, header, key, frames, position⟩ := reader
  cases frames with
  | nil => rfl
  | cons frame outer => cases frame <;> rfl

/-- Open the table of a header. -/
def openTable? (reader : Reader) (path : List String) : Option Reader := do
  let tables ← reader.tables.openTable? path
  some { reader with tables, header := path, position := .lineEnd }

/-- Open the element of an array of tables of a header. -/
def openElement? (reader : Reader) (path : List String) : Option Reader := do
  let tables ← reader.tables.openElement? path
  some { reader with tables, header := path, position := .lineEnd }

/-- The relation is kept by all that a token may do, and says that the readers are at the same
place. -/
structure Simulation (S : Reader → Reader → Prop) : Prop where
  position_eq {reader other : Reader} : S reader other → reader.position = other.position
  move {reader other : Reader} (position : Position) : S reader other →
    (position.isTop = true → reader.position.isTop = true) →
    S (reader.moveTo position) (other.moveTo position)
  deliver {reader other : Reader} (scalar : Scalar) : S reader other →
    Option.Rel S (reader.deliver? (.scalar scalar)) (other.deliver? (.scalar scalar))
  push_array {reader other : Reader} : S reader other →
    Option.Rel S (reader.push? (.array []) .item) (other.push? (.array []) .item)
  push_table {reader other : Reader} : S reader other →
    Option.Rel S (reader.push? (.inlineTable [] []) .entry)
      (other.push? (.inlineTable [] []) .entry)
  close_array {reader other : Reader} : S reader other →
    Option.Rel S reader.closeArray? other.closeArray?
  close_table {reader other : Reader} : S reader other →
    Option.Rel S reader.closeTable? other.closeTable?
  give_key {reader other : Reader} (parts : List String) : S reader other →
    Option.Rel S (reader.giveKey? parts) (other.giveKey? parts)
  open_table {reader other : Reader} (path : List String) : S reader other →
    reader.position.isTop = true →
    Option.Rel S (reader.openTable? path) (other.openTable? path)
  open_element {reader other : Reader} (path : List String) : S reader other →
    reader.position.isTop = true →
    Option.Rel S (reader.openElement? path) (other.openElement? path)

/-- The tables are those of related readers at the end of a line. -/
def EndWith (S : Reader → Reader → Prop) (tables otherTables : Entries) : Prop :=
  ∃ last otherLast : Reader, S last otherLast ∧ last.position.isTop = true ∧
    last.tables = tables ∧ otherLast.tables = otherTables

/-- The relation of a reader with itself if it has a property. -/
def Holding (P : Reader → Prop) (reader other : Reader) : Prop :=
  reader = other ∧ P reader

/-- A step that only leads to readers with a property keeps it. -/
theorem rel_holding {P : Reader → Prop} {result : Option Reader}
    (hresult : ∀ after, result = some after → P after) :
    Option.Rel (Holding P) result result := by
  cases result with
  | none => exact .none
  | some after => exact .some ⟨rfl, hresult after rfl⟩

namespace Simulation

variable {S : Reader → Reader → Prop} (hsim : Simulation S) {reader other : Reader}
  (hrel : S reader other)

include hsim hrel

/-- A reader that goes on to a place may do so from where it is. -/
theorem move_from {position next : Position} (hposition : reader.position = position)
    (htop : next.isTop = true → position.isTop = true) :
    Option.Rel S (some (reader.moveTo next)) (some (other.moveTo next)) :=
  .some (hsim.move next hrel fun h => hposition ▸ htop h)

theorem key_part {use : KeyUse} {parts : List String} {position : Position}
    (hposition : reader.position = position)
    (htop : (use != .pair) = true → position.isTop = true) (token : Token) :
    Option.Rel S (reader.keyPart? use parts token) (other.keyPart? use parts token) := by
  have hadd : ∀ part, Option.Rel S (reader.addPart? use parts part)
      (other.addPart? use parts part) := by
    intro part
    rw [addPart?, addPart?]
    split
    · exact hsim.move_from hrel hposition htop
    · exact .none
  cases token with
  | word text =>
      show Option.Rel S ((bareKey? text).bind _) ((bareKey? text).bind _)
      cases bareKey? text with
      | none => exact .none
      | some part => exact hadd part
  | string multiline value =>
      cases multiline with
      | false => exact hadd _
      | true => exact .none
  | _ => exact .none

theorem value (token : Token) :
    Option.Rel S (reader.value? token) (other.value? token) := by
  have hbare : ∀ text, Option.Rel S (some (reader.moveTo (.bare text)))
      (some (other.moveTo (.bare text))) := fun text => hsim.move_from hrel rfl nofun
  cases token with
  | string multiline value => exact hsim.deliver _ hrel
  | leftBracket => exact hsim.push_array hrel
  | leftBrace => exact hsim.push_table hrel
  | word text => exact hbare text
  | dot => exact hbare ['.']
  | _ => exact .none

theorem key_end {use : KeyUse} {parts : List String}
    (hposition : reader.position = .keyEnd use parts) (token : Token) :
    Option.Rel S (reader.keyEnd? use parts token) (other.keyEnd? use parts token) := by
  cases token with
  | blank text => exact .some hrel
  | dot => exact hsim.move_from hrel hposition id
  | equals =>
      cases use with
      | pair =>
          rw [key_end_equals, key_end_equals]
          exact hsim.give_key parts hrel
      | table | element => exact .none
  | rightBracket =>
      cases use with
      | pair => exact .none
      | table => exact hsim.open_table parts hrel (by rw [hposition]; rfl)
      | element => exact hsim.move_from hrel hposition fun _ => rfl
  | _ => exact .none

/-- A token outside of values without quotes keeps the relation. -/
theorem settled_step (token : Token) :
    Option.Rel S (reader.settledStep? token) (other.settledStep? token) := by
  unfold settledStep?
  -- Both readers are at the same place, so they take the same branch; `hposition` tells whether the
  -- next place may be one at which nothing is open.
  rw [← hsim.position_eq hrel]
  cases hposition : reader.position with
  | bare | bareGap => exact .none
  | keyEnd use parts => exact hsim.key_end hrel hposition token
  | line =>
      cases token with
      | blank | newline | comment => exact .some hrel
      | leftBracket => exact hsim.move_from hrel hposition fun _ => rfl
      | _ => exact hsim.key_part hrel hposition (fun h => absurd h (by decide)) _
  | header =>
      cases token with
      | blank | leftBracket => exact hsim.move_from hrel hposition fun _ => rfl
      | _ => exact hsim.key_part hrel hposition (fun _ => rfl) _
  | keyPart use parts =>
      cases token with
      | blank => exact .some hrel
      | _ => exact hsim.key_part hrel hposition id _
  | headerEnd path =>
      cases token with
      | rightBracket => exact hsim.open_element path hrel (by rw [hposition]; rfl)
      | _ => exact .none
  | lineEnd =>
      cases token with
      | blank | comment => exact .some hrel
      | newline => exact hsim.move_from hrel hposition fun _ => rfl
      | _ => exact .none
  | value =>
      cases token with
      | blank => exact .some hrel
      | _ => exact hsim.value hrel _
  | item =>
      cases token with
      | blank | newline | comment => exact .some hrel
      | rightBracket => exact hsim.close_array hrel
      | _ => exact hsim.value hrel _
  | itemEnd =>
      cases token with
      | blank | newline | comment => exact .some hrel
      | comma => exact hsim.move_from hrel hposition nofun
      | rightBracket => exact hsim.close_array hrel
      | _ => exact .none
  | entry =>
      cases token with
      | blank | newline | comment => exact .some hrel
      | rightBrace => exact hsim.close_table hrel
      | _ => exact hsim.key_part hrel hposition (fun h => absurd h (by decide)) _
  | entryEnd =>
      cases token with
      | blank | newline | comment => exact .some hrel
      | comma => exact hsim.move_from hrel hposition nofun
      | rightBrace => exact hsim.close_table hrel
      | _ => exact .none

theorem finish_bare (text : List Char) :
    Option.Rel S (reader.finishBare? text) (other.finishBare? text) := by
  show Option.Rel S ((scalar? text).bind _) ((scalar? text).bind _)
  cases scalar? text with
  | none => exact .none
  | some scalar => exact hsim.deliver scalar hrel

/-- A token keeps the relation. -/
theorem step (token : Token) : Option.Rel S (reader.step? token) (other.step? token) := by
  have hfinish : ∀ text, Option.Rel S ((reader.finishBare? text).bind (·.settledStep? token))
      ((other.finishBare? text).bind (·.settledStep? token)) := fun text =>
    rel_bind (hsim.finish_bare hrel text) fun _ _ hmiddle => hsim.settled_step hmiddle token
  have hmove : ∀ position : Position, position.isTop = false →
      Option.Rel S (some (reader.moveTo position)) (some (other.moveTo position)) :=
    fun position hinside =>
      hsim.move_from hrel rfl fun htop => absurd (hinside.symm.trans htop) Bool.false_ne_true
  unfold step?
  rw [← hsim.position_eq hrel]
  split
  · split
    · exact hmove _ rfl
    · exact hmove _ rfl
    · exact hmove _ rfl
    · exact hfinish _
  · split
    · exact hmove _ rfl
    · exact hfinish _
  · exact hsim.settled_step hrel token

/-- Tokens in a row keep the relation. -/
theorem run (tokens : List Token) : Option.Rel S (reader.run? tokens) (other.run? tokens) := by
  induction tokens generalizing reader other with
  | nil => exact .some hrel
  | cons token tokens ih =>
      rw [run_cons, run_cons]
      exact rel_bind (hsim.step hrel token) fun _ _ hmiddle => ih hmiddle

/-- Where the document may end, the relation holds of the readers that have its tables. -/
theorem finish : Option.Rel (EndWith S) reader.finish? other.finish? := by
  have hend : ∀ {last otherLast : Reader}, S last otherLast →
      Option.Rel (EndWith S) last.ended? otherLast.ended? := by
    intro last otherLast hlast
    rw [ended?, ended?, ← hsim.position_eq hlast]
    cases hposition : last.position with
    | line | lineEnd => exact .some ⟨last, otherLast, hlast, by rw [hposition]; rfl, rfl, rfl⟩
    | _ => exact .none
  unfold finish?
  dsimp only
  rw [← hsim.position_eq hrel]
  split
  · exact rel_bind (hsim.finish_bare hrel _) fun _ _ => hend
  · exact rel_bind (hsim.finish_bare hrel _) fun _ _ => hend
  · exact rel_bind (.some hrel) fun _ _ => hend

/-- The rest of a document keeps the relation. -/
theorem read (tokens : List Token) :
    Option.Rel (EndWith S) (reader.read? tokens) (other.read? tokens) :=
  rel_bind (hsim.run hrel tokens) fun _ _ hlast => hsim.finish hlast

end Simulation

end Reader

end DashboardGenerator.Toml
