import DashboardGenerator.Dashboard.Placeholder
import DashboardGenerator.Proofs.Result
import DashboardGenerator.Text.Slice

/-!
# Placeholders at byte offsets

The scan for placeholders as a loop over the bytes of an expression. In every turn the rest of the
expression is cut where a placeholder may start, the name is cut out of what stands there, and the
loop goes on behind as many bytes as were read. All offsets are sums of an offset that a search gave
and of the lengths of marks. A cut that would leave the bytes or part a character stops the scan.
-/

namespace DashboardGenerator.Placeholder

open Text

/-- The character may start a placeholder. -/
def isOpening (character : Char) : Bool :=
  character == '[' || character == '$'

/-- What the bytes from an opening character on are read as: the cut that the candidate for a name
was found in, the candidate itself, and the number of bytes read. -/
structure Proposal where
  inside : Option Cut
  candidate : Option (List UInt8)
  consumed : Nat
deriving Repr, DecidableEq

namespace Proposal

/-- Some bytes that propose no name. -/
def nothing (consumed : Nat) : Proposal := ⟨none, none, consumed⟩

/-- The name that is picked from the bytes in front of an offset. -/
def name (pick : List UInt8 → List UInt8) (inner : List UInt8) (stop consumed : Nat) :
    Except Cut Proposal := do
  let cut := Cut.before inner stop
  let body ← cut.take
  return ⟨some cut, some (pick body), consumed⟩

end Proposal

/-- The bytes in front of the first colon, or all of them if there is none. -/
def beforeColon (body : List UInt8) : List UInt8 :=
  ((findCharacter (· == ':') body).map body.take).getD body

/-- Read the bytes behind `[[`: a name in front of the first `]]`. -/
def proposeBracketed (inner : List UInt8) : Except Cut Proposal :=
  match findMark (bytesOf [']', ']']) inner with
  | some stop => Proposal.name id inner stop (stop + 4)
  | none => .ok (.nothing 2)

/-- Read the bytes behind a dollar sign and a brace: a name and perhaps a format in front of the
first closing brace. -/
def proposeBraced (inner : List UInt8) : Except Cut Proposal :=
  match findCharacter (· == '}') inner with
  | some stop => Proposal.name beforeColon inner stop (stop + 3)
  | none => .ok (.nothing 2)

/-- Read the bytes behind a dollar sign: all the name characters that follow it. -/
def proposeRun (inner : List UInt8) : Except Cut Proposal :=
  let length :=
    (findCharacter (fun character => !isNameCharacter character) inner).getD inner.length
  Proposal.name id inner length (length + 1)

/-- Read what stands at the start of the bytes. -/
def propose (tail : List UInt8) : Except Cut Proposal :=
  match (bytesOf ['[', '[']).isPrefixOf? tail with
  | some inner => proposeBracketed inner
  | none =>
    match (bytesOf ['$', '{']).isPrefixOf? tail with
    | some inner => proposeBraced inner
    | none =>
      match (bytesOf ['$']).isPrefixOf? tail with
      | some inner => proposeRun inner
      | none => .ok (.nothing 1)

/-- One turn of the loop: where the rest of the expression was cut, what was read there, and what is
left behind it. -/
structure Turn where
  position : Nat
  tail : List UInt8
  proposal : Proposal
  rest : List UInt8
deriving Repr, DecidableEq

/-- The next turn, if there is one. -/
def turn? (rest : List UInt8) : Except Cut (Option Turn) :=
  match findCharacter isOpening rest with
  | none => .ok none
  | some position => do
    let tail ← (Cut.behind rest position).take
    let proposal ← propose tail
    let left ← (Cut.behind tail proposal.consumed).take
    return some ⟨position, tail, proposal, left⟩

/-- So many turns in a row lead from one rest of an expression to another. -/
inductive Turns : Nat → List UInt8 → List UInt8 → Prop where
  | none (rest : List UInt8) : Turns 0 rest rest
  | turn {count : Nat} {rest last : List UInt8} {turn : Turn}
      (hturn : turn? rest = .ok (some turn)) (hturns : Turns count turn.rest last) :
      Turns (count + 1) rest last

/-- The cuts of a turn in the order in which they are made. -/
def Turn.cuts (turn : Turn) (rest : List UInt8) : List Cut :=
  Cut.behind rest turn.position :: turn.proposal.inside.toList ++
    [Cut.behind turn.tail turn.proposal.consumed]

/-- The bytes are those of a variable name. -/
def isVariableBytes (name : List UInt8) : Bool :=
  !name.isEmpty && !(bytesOf ['_', '_']).isPrefixOf name &&
    (units name).all fun unit => unit.any isNameCharacter

/-- Note a candidate if it is a variable name that was not noted before. -/
def note (names : List (List UInt8)) (candidate : Option (List UInt8)) : List (List UInt8) :=
  match candidate.filter isVariableBytes with
  | some name => if name ∈ names then names else names ++ [name]
  | none => names

/-- The proposal passes over some bytes, and it was cut out of them safely. -/
structure Proposal.IsSound (proposal : Proposal) : Prop where
  consumed_pos : 0 < proposal.consumed
  inside_safe : ∀ cut ∈ proposal.inside, cut.IsSafe

namespace Proposal

/-- To pass over some bytes without a name is sound. -/
theorem nothing_sound {length : Nat} {proposal : Proposal}
    (hnothing : (.ok (nothing (length + 1)) : Except Cut Proposal) = .ok proposal) :
    proposal.IsSound := by
  cases hnothing
  exact ⟨Nat.succ_pos _, fun _ hcut => by cases hcut⟩

/-- A name that was cut out is sound. -/
theorem name_sound {pick : List UInt8 → List UInt8} {inner : List UInt8} {stop length : Nat}
    {proposal : Proposal} (hname : name pick inner stop (stop + (length + 1)) = .ok proposal) :
    proposal.IsSound := by
  obtain ⟨body, htake, hproposal⟩ := bind_eq_ok_iff.mp hname
  cases hproposal
  refine ⟨Nat.succ_pos _, ?_⟩
  rintro _ ⟨⟩
  exact (Cut.take_eq_ok_iff.mp htake).1

end Proposal

/-- Whatever stands at the start of some bytes, what is proposed there is sound. -/
theorem propose_sound {tail : List UInt8} {proposal : Proposal}
    (hpropose : propose tail = .ok proposal) : proposal.IsSound := by
  -- Every branch adds the length of a mark to its offset.
  unfold propose proposeBracketed proposeBraced proposeRun at hpropose
  split at hpropose
  · split at hpropose
    · exact Proposal.name_sound hpropose
    · exact Proposal.nothing_sound hpropose
  split at hpropose
  · split at hpropose
    · exact Proposal.name_sound hpropose
    · exact Proposal.nothing_sound hpropose
  split at hpropose
  · exact Proposal.name_sound hpropose
  · exact Proposal.nothing_sound hpropose

/-- What a turn is made of. -/
theorem turn_eq_some {rest : List UInt8} {turn : Turn} (hturn : turn? rest = .ok (some turn)) :
    (Cut.behind rest turn.position).take = .ok turn.tail ∧ propose turn.tail = .ok turn.proposal ∧
      (Cut.behind turn.tail turn.proposal.consumed).take = .ok turn.rest := by
  unfold turn? at hturn
  split at hturn
  · cases hturn
  · obtain ⟨tail, htail, hturn⟩ := bind_eq_ok_iff.mp hturn
    obtain ⟨proposal, hpropose, hturn⟩ := bind_eq_ok_iff.mp hturn
    obtain ⟨left, hleft, hturn⟩ := bind_eq_ok_iff.mp hturn
    cases hturn
    exact ⟨htail, hpropose, hleft⟩

/-- Every turn leaves less than there was. -/
theorem length_rest_lt {rest : List UInt8} {turn : Turn} (hturn : turn? rest = .ok (some turn)) :
    turn.rest.length < rest.length := by
  obtain ⟨htail, hpropose, hleft⟩ := turn_eq_some hturn
  have hpos := (propose_sound hpropose).consumed_pos
  have hwithin : turn.proposal.consumed ≤ turn.tail.length := (Cut.take_eq_ok_iff.mp hleft).1.1
  have htail := congrArg List.length (Cut.eq_drop_of_take_behind htail)
  have hleft := congrArg List.length (Cut.eq_drop_of_take_behind hleft)
  rw [List.length_drop] at htail hleft
  omega

/-- Take turns until there is none left, and note their candidates. -/
def collect (names : List (List UInt8)) (rest : List UInt8) :
    Except Cut (List (List UInt8)) :=
  match _found : turn? rest with
  | .error cut => .error cut
  | .ok none => .ok names
  | .ok (some turn) => collect (note names turn.proposal.candidate) turn.rest
termination_by rest.length
decreasing_by exact length_rest_lt _found

/-- Where no turn is left, the names are those noted so far. -/
theorem collect_of_stop {names : List (List UInt8)} {rest : List UInt8}
    (hturn : turn? rest = .ok none) : collect names rest = .ok names := by
  rw [collect]
  split
  · next heq => cases hturn.symm.trans heq
  · rfl
  · next heq => cases hturn.symm.trans heq

/-- After a turn the loop goes on with what is left. -/
theorem collect_of_turn {names : List (List UInt8)} {rest : List UInt8} {turn : Turn}
    (hturn : turn? rest = .ok (some turn)) :
    collect names rest = collect (note names turn.proposal.candidate) turn.rest := by
  rw [collect]
  split
  · next heq => cases hturn.symm.trans heq
  · next heq => cases hturn.symm.trans heq
  · next heq => cases hturn.symm.trans heq; rfl

/-- The variables that the bytes of an expression reference, each as its bytes. -/
def referencedBytes (expression : List UInt8) : Except Cut (List (List UInt8)) :=
  collect [] expression

end DashboardGenerator.Placeholder
