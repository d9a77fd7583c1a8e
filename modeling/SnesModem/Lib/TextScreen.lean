import Mathlib.Data.Fin.Basic
import Mathlib.Logic.Equiv.Fin.Basic
import Mathlib.Tactic

/-!
# Text screens

A screen of rows and columns with a cursor, which goes on in the first row after the last one.

* `Screen`: a row and a column by their types, so that the cursor is always on the screen;
* `home`, `newline`, `back`, `put`: what a character does;
* `Screen.cursor`: the number of the cell under the cursor, row by row, and what each operation makes of it.
-/

namespace SnesModem.Lib.TextScreen

variable {rows columns : ℕ} {α : Type*}

structure Screen (rows columns : ℕ) (α : Type*) where
  row : Fin rows
  column : Fin columns
  cells : Fin rows → Fin columns → α

/-- The number of a cell, row by row. -/
def cell (row : Fin rows) (column : Fin columns) : ℕ := columns * row + column

lemma cell_lt (row : Fin rows) (column : Fin columns) : cell row column < rows * columns := by
  have h := (finProdFinEquiv (row, column)).isLt
  simpa [cell, Nat.add_comm] using h

lemma cell_inj {row row' : Fin rows} {column column' : Fin columns} :
    cell row column = cell row' column' ↔ row = row' ∧ column = column' := by
  have h := finProdFinEquiv.injective.eq_iff (a := (row, column)) (b := (row', column'))
  rw [Prod.mk.injEq, ← Fin.val_inj] at h
  simpa [cell, Nat.add_comm] using h

/-- One more, on the rows or on the columns. -/
lemma val_succ {n : ℕ} [NeZero n] (i : Fin n) : ((i + 1 : Fin n) : ℕ) = (i + 1) % n := by
  rw [Fin.val_add, Fin.val_one', Nat.add_mod_mod]

/-- The first cell of the next row. -/
lemma next_row [NeZero rows] (columns : ℕ) (row : Fin rows) :
    columns * ((row + 1 : Fin rows) : ℕ) = (columns * row + columns) % (rows * columns) := by
  rw [val_succ, ← Nat.mul_add_one, Nat.mul_comm rows, Nat.mul_mod_mul_left]

namespace Screen

section Operations

variable [NeZero rows] [NeZero columns]

/-- To the start of the row. -/
def home (s : Screen rows columns α) : Screen rows columns α := { s with column := 0 }

/-- To the start of the next row. -/
def newline (s : Screen rows columns α) : Screen rows columns α := { s with row := s.row + 1, column := 0 }

/-- To the cell before. -/
def back (s : Screen rows columns α) : Screen rows columns α :=
  if s.column = 0 then { s with row := s.row - 1, column := s.column - 1 } else { s with column := s.column - 1 }

/-- To the cell behind. -/
def forth (s : Screen rows columns α) : Screen rows columns α :=
  if s.column + 1 = 0 then { s with row := s.row + 1, column := 0 } else { s with column := s.column + 1 }

/-- A character under the cursor, which goes on. -/
def put (a : α) (s : Screen rows columns α) : Screen rows columns α :=
  forth { s with cells := Function.update s.cells s.row (Function.update (s.cells s.row) s.column a) }

end Operations

/-- The number of the cell under the cursor. -/
def cursor (s : Screen rows columns α) : ℕ := cell s.row s.column

section Cursor

variable (s : Screen rows columns α)

lemma cursor_lt : s.cursor < rows * columns := cell_lt _ _

lemma cursor_div : s.cursor / columns = s.row := by
  rw [cursor, cell, Nat.mul_add_div (Nat.zero_lt_of_lt s.column.isLt), Nat.div_eq_of_lt s.column.isLt, Nat.add_zero]

variable [NeZero columns]

lemma cursor_home : s.home.cursor = s.cursor / columns * columns := by
  rw [cursor_div, home, cursor, cell, Fin.val_zero, Nat.add_zero, Nat.mul_comm]

variable [NeZero rows]

lemma cursor_newline : s.newline.cursor = (s.cursor / columns * columns + columns) % (rows * columns) := by
  have hnext := next_row columns s.row
  rw [Nat.mul_comm columns s.row] at hnext
  rw [cursor_div, ← hnext]
  rfl

lemma cursor_forth : s.forth.cursor = (s.cursor + 1) % (rows * columns) := by
  have hcolumn := s.column.isLt
  have hlt := s.cursor_lt
  rw [forth]
  split_ifs with hlast
  · -- the last column, from which the cursor goes to the next row
    have hwraps := congrArg Fin.val hlast
    rw [val_succ, Fin.val_zero] at hwraps
    have hend : (s.column : ℕ) + 1 = columns := by
      have hdvd := Nat.le_of_dvd (Nat.succ_pos _) (Nat.dvd_of_mod_eq_zero hwraps)
      omega
    have hnext := next_row columns s.row
    have hbehind : s.cursor + 1 = columns * s.row + columns := by
      rw [cursor, cell]
      omega
    rw [hbehind, ← hnext]
    rfl
  · have hinside : (s.column : ℕ) + 1 < columns := by
      by_contra hge
      refine hlast (Fin.ext ?_)
      have hend : (s.column : ℕ) + 1 = columns := by omega
      rw [val_succ, hend, Nat.mod_self, Fin.val_zero]
    have hrow : columns * s.row + columns ≤ rows * columns := by
      rw [← Nat.mul_add_one, Nat.mul_comm rows]
      exact Nat.mul_le_mul_left _ s.row.isLt
    rw [cursor, cell, cursor, cell, val_succ, Nat.mod_eq_of_lt hinside, Nat.mod_eq_of_lt (by omega)]
    rfl

/-- The cell behind the one before is where the cursor was. -/
lemma cursor_forth_back : s.back.forth.cursor = s.cursor := by
  rw [back]
  split_ifs with hfirst
  · rw [forth, if_pos (by simp [hfirst]), cursor, cursor, hfirst]
    simp
  · rw [forth, if_neg (by simpa using hfirst), cursor, cursor]
    simp

lemma cursor_back : s.back.cursor = (s.cursor + rows * columns - 1) % (rows * columns) := by
  have hback := s.back.cursor_lt
  have hforth := s.back.cursor_forth
  rw [cursor_forth_back] at hforth
  rw [hforth]
  generalize rows * columns = cells at hback hforth ⊢
  rcases Nat.lt_or_ge (s.back.cursor + 1) cells with hinside | hlast
  · rw [Nat.mod_eq_of_lt hinside, show s.back.cursor + 1 + cells - 1 = s.back.cursor + cells by omega,
      Nat.add_mod_right, Nat.mod_eq_of_lt hback]
  · rw [show s.back.cursor + 1 = cells by omega, Nat.mod_self, Nat.zero_add, Nat.mod_eq_of_lt (by omega)]
    omega

end Cursor

end Screen

end SnesModem.Lib.TextScreen
