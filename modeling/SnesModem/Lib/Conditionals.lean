import Mathlib.Tactic

/-!
# Conditional text

A text whose lines open, turn and close conditionals. A `Block` is a well-bracketed text as a tree, with the proof of
what each of its lines is. `Block.placed` gives every line the branches it stands in; `wellBracketed` is the scan that
tells the texts that are blocks: `exists_block_iff`.
-/

namespace SnesModem.Lib.Conditionals

/-- What a line is to the conditionals of its text. -/
inductive Directive (C : Type*) where
  | opening (condition : C)
  | otherwise
  | closing
  | plain

/-- A branch of a conditional. -/
structure Branch (C : Type*) where
  condition : C
  isElse : Bool

/-- The branch is the one that its condition selects. -/
def Branch.selected {C : Type*} (holds : C → Bool) (branch : Branch C) : Bool :=
  if branch.isElse then !holds branch.condition else holds branch.condition

variable {L C : Type*}

/-- A text with all its conditionals closed, each with one `otherwise` at most. -/
inductive Block (directive : L → Directive C) where
  | nil
  | plain (line : L) (hline : directive line = .plain) (rest : Block directive)
  | single (condition : C) (first last : L) (hfirst : directive first = .opening condition)
      (hlast : directive last = .closing) (body rest : Block directive)
  | double (condition : C) (first middle last : L) (hfirst : directive first = .opening condition)
      (hmiddle : directive middle = .otherwise) (hlast : directive last = .closing)
      (body alternative rest : Block directive)

namespace Block

variable {directive : L → Directive C}

def lines : Block directive → List L
  | nil => []
  | plain line _ rest => line :: rest.lines
  | single _ first last _ _ body rest => first :: (body.lines ++ last :: rest.lines)
  | double _ first middle last _ _ _ body alternative rest =>
    first :: (body.lines ++ middle :: (alternative.lines ++ last :: rest.lines))

/-- The lines, each with the branches around it, the innermost first; nothing with a line of a conditional itself. -/
def placed : Block directive → List (Branch C) → List (L × Option (List (Branch C)))
  | nil, _ => []
  | plain line _ rest, outer => (line, some outer) :: rest.placed outer
  | single condition first last _ _ body rest, outer =>
    (first, none) :: (body.placed (⟨condition, false⟩ :: outer) ++ (last, none) :: rest.placed outer)
  | double condition first middle last _ _ _ body alternative rest, outer =>
    (first, none) :: (body.placed (⟨condition, false⟩ :: outer) ++
      (middle, none) :: (alternative.placed (⟨condition, true⟩ :: outer) ++ (last, none) :: rest.placed outer))

theorem lines_eq (block : Block directive) (outer : List (Branch C)) :
    (block.placed outer).map (·.1) = block.lines := by
  induction block generalizing outer with
  | nil => rfl
  | plain line hline rest ih => simp [placed, lines, ih]
  | single condition first last hfirst hlast body rest ihBody ih => simp [placed, lines, ihBody, ih]
  | double condition first middle last hfirst hmiddle hlast body alternative rest ihBody ihAlternative ih =>
    simp [placed, lines, ihBody, ihAlternative, ih]

end Block

/-! ### The scan -/

/-- The text closes the open conditionals, the innermost first: of each it is known whether its `otherwise` has
stood. -/
def wellBracketed (directive : L → Directive C) : List Bool → List L → Bool
  | turned, [] => turned.isEmpty
  | turned, line :: lines =>
    match directive line, turned with
    | .plain, turned => wellBracketed directive turned lines
    | .opening _, turned => wellBracketed directive (false :: turned) lines
    | .otherwise, false :: turned => wellBracketed directive (true :: turned) lines
    | .otherwise, _ => false
    | .closing, _ :: turned => wellBracketed directive turned lines
    | .closing, [] => false

section Scan

variable {directive : L → Directive C}

/-- A block leaves the scan where it was. -/
theorem wellBracketed_lines (block : Block directive) (turned : List Bool) (rest : List L) :
    wellBracketed directive turned (block.lines ++ rest) = wellBracketed directive turned rest := by
  induction block generalizing turned rest with
  | nil => rfl
  | plain line hline tail ih => simp [Block.lines, wellBracketed, hline, ih]
  | single condition first last hfirst hlast body tail ihBody ih =>
    simp [Block.lines, wellBracketed, hfirst, hlast, ihBody, ih]
  | double condition first middle last hfirst hmiddle hlast body alternative tail ihBody ihAlternative ih =>
    simp [Block.lines, wellBracketed, hfirst, hmiddle, hlast, ihBody, ihAlternative, ih]

/-- Where a block in a well-bracketed text stops: at the end of the text, or at the line that ends or turns the
innermost open conditional. -/
inductive Stops (directive : L → Directive C) : List Bool → List L → Prop
  | done : Stops directive [] []
  | closing {line : L} {lines : List L} {isTurned : Bool} {turned : List Bool} (hline : directive line = .closing)
      (hlines : wellBracketed directive turned lines) : Stops directive (isTurned :: turned) (line :: lines)
  | otherwise {line : L} {lines : List L} {turned : List Bool} (hline : directive line = .otherwise)
      (hlines : wellBracketed directive (true :: turned) lines) : Stops directive (false :: turned) (line :: lines)

/-- A well-bracketed text begins with a block up to where that stops. -/
theorem exists_stops {turned : List Bool} {text : List L} (htext : wellBracketed directive turned text) :
    ∃ (block : Block directive) (rest : List L), text = block.lines ++ rest ∧ Stops directive turned rest := by
  induction hn : text.length using Nat.strong_induction_on generalizing turned text with
  | _ n ih =>
    subst hn
    match text, turned with
    | [], [] => exact ⟨.nil, [], rfl, .done⟩
    | [], _ :: _ => simp [wellBracketed] at htext
    | line :: lines, turned =>
      have next (turned : List Bool) (rest : List L) (hlength : rest.length ≤ lines.length)
          (hrest : wellBracketed directive turned rest) := ih rest.length (by simp; omega) hrest rfl
      cases hline : directive line with
      | plain =>
        simp only [wellBracketed, hline] at htext
        obtain ⟨block, rest, hlines, hstops⟩ := next _ _ le_rfl htext
        exact ⟨.plain line hline block, rest, by simp [Block.lines, hlines], hstops⟩
      | opening condition =>
        simp only [wellBracketed, hline] at htext
        obtain ⟨body, rest, hlines, hstops⟩ := next _ _ le_rfl htext
        have hlength := congrArg List.length hlines
        simp only [List.length_append] at hlength
        cases hstops with
        | @closing last behind _ _ hlast hbehind =>
          simp only [List.length_cons] at hlength
          obtain ⟨tail, rest, rfl, hstops⟩ := next _ _ (by omega) hbehind
          exact ⟨.single condition line last hline hlast body tail, rest, by simp [Block.lines, hlines], hstops⟩
        | @otherwise middle behind _ hmiddle hbehind =>
          simp only [List.length_cons] at hlength
          obtain ⟨alternative, rest, hbehind, hstops⟩ := next _ _ (by omega) hbehind
          have hlength' := congrArg List.length hbehind
          simp only [List.length_append] at hlength'
          cases hstops with
          | @closing last behind' _ _ hlast hbehind' =>
            simp only [List.length_cons] at hlength'
            obtain ⟨tail, rest, rfl, hstops⟩ := next _ _ (by omega) hbehind'
            refine ⟨.double condition line middle last hline hmiddle hlast body alternative tail, rest, ?_, hstops⟩
            simp [Block.lines, hlines, hbehind]
      | otherwise =>
        match turned with
        | [] | true :: _ => simp [wellBracketed, hline] at htext
        | false :: turned =>
          simp only [wellBracketed, hline] at htext
          exact ⟨.nil, line :: lines, rfl, .otherwise hline htext⟩
      | closing =>
        match turned with
        | [] => simp [wellBracketed, hline] at htext
        | _ :: turned =>
          simp only [wellBracketed, hline] at htext
          exact ⟨.nil, line :: lines, rfl, .closing hline htext⟩

/-- **The texts that the scan passes are the blocks.** -/
theorem exists_block_iff (text : List L) :
    wellBracketed directive [] text ↔ ∃ block : Block directive, block.lines = text := by
  constructor
  · intro htext
    obtain ⟨block, rest, rfl, hstops⟩ := exists_stops htext
    cases hstops
    exact ⟨block, (List.append_nil _).symm⟩
  · rintro ⟨block, rfl⟩
    have h := wellBracketed_lines block [] []
    rw [List.append_nil] at h
    rw [h]
    rfl

end Scan

end SnesModem.Lib.Conditionals
