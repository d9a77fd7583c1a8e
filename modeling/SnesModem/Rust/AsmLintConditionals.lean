import SnesModem.Lib.Conditionals
import SnesModem.Rust.AsmLintParse

/-!
# The lines that a profile assembles

`active_lines` against the nesting of the conditionals: the code keeps one flag and a stack, and a line is kept where
every conditional around it selects the branch the line stands in.

* `directive`: what a line is to the conditionals;
* `activeFrom_block`: the run over one block, from any stack;
* `activeLines_block`: the run over a source.
-/

namespace SnesModem.Rust.AsmLint

open SnesModem.Rust.SourceText SnesModem.Lib.Conditionals

/-- `.ifdef` and `.ifndef`. -/
inductive Condition where
  | defined (symbol : String)
  | undefined (symbol : String)

def Condition.holds (defines : List String) : Condition → Bool
  | defined symbol => defines.contains symbol
  | undefined symbol => !defines.contains symbol

/-- What a line is to the conditionals, by its code. -/
def directive (line : Text) : Directive Condition :=
  match stripStart ".ifdef " (codeOf line) with
  | some symbol => .opening (.defined (String.ofList (trim symbol)))
  | none =>
    match stripStart ".ifndef " (codeOf line) with
    | some symbol => .opening (.undefined (String.ofList (trim symbol)))
    | none =>
      if codeOf line = ".else".toList then .otherwise
      else if codeOf line = ".endif".toList then .closing
      else .plain

/-- Whether the profile assembles a line that stands in these branches; it assembles no line of a conditional. -/
def assembled (defines : List String) : Option (List (Branch Condition)) → Bool
  | none => false
  | some branches => branches.all (Branch.selected (Condition.holds defines))

/-! ### One line -/

section Line

variable {line : Text} (defines : List String)

/-- What the code does with a line depends on its directive alone. -/
lemma line_eq (s : Assembly) (line : Text) :
    s.line defines line = match directive line with
      | .opening condition => (s.open (condition.holds defines), false)
      | .otherwise => match s.stack with
        | [] => (s, false)
        | top :: stack => (⟨{ top with inElse := true } :: stack, top.parentActive && !top.condition⟩, false)
      | .closing => match s.stack with
        | [] => (s, false)
        | top :: stack => (⟨stack, top.parentActive⟩, false)
      | .plain => (s, s.active) := by
  dsimp only [Assembly.line, directive]
  cases stripStart ".ifdef " (codeOf line) with
  | some symbol => rfl
  | none =>
    cases stripStart ".ifndef " (codeOf line) with
    | some symbol => rfl
    | none =>
      dsimp only
      by_cases helse : codeOf line = ".else".toList
      · cases s.stack with
        | nil => simp only [if_pos helse]
        | cons top stack => simp only [if_pos helse]
      by_cases hendif : codeOf line = ".endif".toList
      · cases s.stack with
        | nil => simp only [if_neg helse, if_pos hendif]
        | cons top stack => simp only [if_neg helse, if_pos hendif]
      · simp only [if_neg helse, if_neg hendif]

lemma line_of_plain (hline : directive line = .plain) (s : Assembly) : s.line defines line = (s, s.active) := by
  rw [line_eq, hline]

lemma line_of_opening {condition : Condition} (hline : directive line = .opening condition) (s : Assembly) :
    s.line defines line = (s.open (condition.holds defines), false) := by
  rw [line_eq, hline]

lemma line_of_otherwise (hline : directive line = .otherwise) (top : Conditional) (stack : List Conditional)
    (active : Bool) :
    Assembly.line defines ⟨top :: stack, active⟩ line =
      (⟨{ top with inElse := true } :: stack, top.parentActive && !top.condition⟩, false) := by
  rw [line_eq, hline]

lemma line_of_closing (hline : directive line = .closing) (top : Conditional) (stack : List Conditional)
    (active : Bool) :
    Assembly.line defines ⟨top :: stack, active⟩ line = (⟨stack, top.parentActive⟩, false) := by
  rw [line_eq, hline]

end Line

/-! ### Runs -/

section Runs

variable (defines : List String)

/-- A block leaves the state as it was, and each of its lines is kept by the branches around it. -/
theorem activeFrom_block (block : Block directive) (s : Assembly) (outer : List (Branch Condition))
    (hactive : s.active = assembled defines (some outer)) (rest : List Text) :
    activeFrom defines s (block.lines ++ rest) =
      (block.placed outer).map (fun line => assembled defines line.2) ++ activeFrom defines s rest := by
  induction block generalizing s outer rest with
  | nil => rfl
  | plain line hline tail ih =>
    rw [Block.lines, Block.placed, List.cons_append, activeFrom, line_of_plain defines hline, ih s outer hactive rest,
      hactive]
    rfl
  | single condition first last hfirst hlast body tail ihBody ih =>
    have hopen : (s.open (condition.holds defines)).active = assembled defines (some (⟨condition, false⟩ :: outer)) := by
      simp [Assembly.open, hactive, assembled, Branch.selected, Bool.and_comm]
    rw [Block.lines, Block.placed, List.cons_append, activeFrom, line_of_opening defines hfirst, List.append_assoc,
      ihBody _ _ hopen, List.cons_append, activeFrom, Assembly.open, line_of_closing defines hlast, ih s outer hactive]
    simp [assembled]
  | double condition first middle last hfirst hmiddle hlast body alternative tail ihBody ihAlternative ih =>
    have hopen : (s.open (condition.holds defines)).active = assembled defines (some (⟨condition, false⟩ :: outer)) := by
      simp [Assembly.open, hactive, assembled, Branch.selected, Bool.and_comm]
    have hturned : (s.active && !condition.holds defines) = assembled defines (some (⟨condition, true⟩ :: outer)) := by
      simp [hactive, assembled, Branch.selected, Bool.and_comm]
    rw [Block.lines, Block.placed, List.cons_append, activeFrom, line_of_opening defines hfirst, List.append_assoc,
      ihBody _ _ hopen, List.cons_append, activeFrom, Assembly.open, line_of_otherwise defines hmiddle,
      List.append_assoc, ihAlternative _ _ hturned, List.cons_append, activeFrom, line_of_closing defines hlast,
      ih s outer hactive]
    simp [assembled]

/-- **The lines that are kept.** A source whose conditionals are bracketed is a block, and of a block the lines that
are kept are those for which every conditional around them selects the branch they are in, in the order of the
source. -/
theorem activeLines_block :
    (∀ source : List Text, wellBracketed directive [] source ↔ ∃ block : Block directive, block.lines = source) ∧
      ∀ block : Block directive,
        activeFrom defines ⟨[], true⟩ block.lines = (block.placed []).map (fun line => assembled defines line.2) ∧
          ((block.lines.zip (activeFrom defines ⟨[], true⟩ block.lines)).filter (·.2)).map (·.1) =
            ((block.placed []).filter fun line => assembled defines line.2).map (·.1) := by
  refine ⟨exists_block_iff, fun block => ?_⟩
  have hactive : activeFrom defines ⟨[], true⟩ block.lines =
      (block.placed []).map fun line => assembled defines line.2 := by
    have h := activeFrom_block defines block ⟨[], true⟩ [] rfl []
    simpa [activeFrom] using h
  refine ⟨hactive, ?_⟩
  rw [hactive, ← block.lines_eq [], List.zip_map', List.filter_map, List.map_map]
  rfl

/-- An `.else` behind a condition that fails stays dead under a conditional that is not selected. -/
example :
    activeFrom ["A"] ⟨[], true⟩ ([".ifndef A", ".ifdef B", " nop", ".else ; no B", " inx", ".endif", " iny", ".else",
      " dey", ".endif", " rts"].map String.toList) =
      [false, false, false, false, false, false, false, false, true, false, true] := by
  decide

end Runs

end SnesModem.Rust.AsmLint
