import SnesModem.Rust.AsmLintParse

/-!
# Labels in parsed sources

A statement whose text is a label has no instruction of its own and no operand (`parseProcedures_labels`), and a
source that passes the linter has passed each of its analyses (`analyses_of_lint`).
-/

namespace SnesModem.Rust.AsmLint

open SnesModem.Rust.SourceText

/-! ### Text that ends with a colon -/

section Text

variable {s : Text}

lemma endsWith_colon : endsWith ":" s = true ↔ ∃ front, s = front ++ [':'] := by
  unfold endsWith
  rw [List.isSuffixOf_iff_suffix]
  constructor
  · rintro ⟨front, hfront⟩
    exact ⟨front, hfront.symm⟩
  · rintro ⟨front, hfront⟩
    exact ⟨front, hfront.symm⟩

lemma dropWhile_colon (front : Text) : ∃ front', (front ++ [':']).dropWhile isWhitespace = front' ++ [':'] := by
  have hcolon : isWhitespace ':' = false := by decide
  rw [List.dropWhile_append]
  split
  · exact ⟨[], by simp [hcolon]⟩
  · exact ⟨front.dropWhile isWhitespace, rfl⟩

lemma endsWith_trim (h : endsWith ":" s = true) : endsWith ":" (trim s) = true := by
  obtain ⟨front, rfl⟩ := endsWith_colon.mp h
  obtain ⟨front', hfront'⟩ := dropWhile_colon front
  have hcolon : isWhitespace ':' = false := by decide
  rw [endsWith_colon]
  refine ⟨front', ?_⟩
  simp [trim, trimStart, trimEnd, hfront', hcolon]

lemma endsWith_lowercase (h : endsWith ":" s = true) : endsWith ":" (toAsciiLowercase s) = true := by
  obtain ⟨front, rfl⟩ := endsWith_colon.mp h
  rw [endsWith_colon]
  refine ⟨front.map Char.toLower, ?_⟩
  have hcolon : Char.toLower ':' = ':' := by decide
  simp [toAsciiLowercase, hcolon]

/-- No mnemonic that the analysis knows ends like a label. -/
lemma decode_label {mnemonic : String} (h : endsWith ":" mnemonic.toList = true) : decode mnemonic = .other := by
  unfold decode
  split <;> first | rfl | exact absurd h (by decide)

end Text

/-! ### Parsed statements -/

/-- A label is nothing else. -/
def LabelOnly (statement : Statement) : Prop :=
  isLabel statement.text = true → statement.instruction = .other ∧ statement.isImmediate = false

section Parse

variable {profile : Profile} {options : Options} {s : Parser} {location : Location} {code : Text} {lower : String}
  {procedure : Procedure}

/-- All statements that a parser has met. -/
def AllLabelOnly (s : Parser) : Prop :=
  (∀ procedure ∈ s.procedures, ∀ statement ∈ procedure.statements, LabelOnly statement) ∧
    ∀ procedure ∈ s.current, ∀ statement ∈ procedure.statements, LabelOnly statement

variable (profile options s location code lower procedure) in
/-- Declarations leave the statements. -/
lemma declare_keeps : (s.declare profile options location code lower procedure).1.procedures = s.procedures ∧
    (s.declare profile options location code lower procedure).2.statements = procedure.statements := by
  unfold Parser.declare
  split
  · exact ⟨by dsimp only; split <;> rfl, rfl⟩
  · split
    · dsimp only
      split
      · exact ⟨rfl, rfl⟩
      · split <;> exact ⟨rfl, rfl⟩
    · split
      · dsimp only
        split
        · exact ⟨rfl, rfl⟩
        · split <;> exact ⟨rfl, rfl⟩
      · exact ⟨by dsimp only; split <;> rfl, rfl⟩

lemma labelOnly_split (location : Location) (asmA asmI : Option Width) :
    LabelOnly ⟨location, code, String.ofList (toAsciiLowercase (splitStatement code).1), (splitStatement code).2,
      asmA, asmI⟩ := by
  intro hlabel
  have htrim := endsWith_trim hlabel
  have hsplit : splitStatement code = (trim code, []) := by
    unfold splitStatement
    exact if_pos htrim
  rw [hsplit]
  refine ⟨decode_label ?_, (by decide : startsWith "#" (trimStart []) = false)⟩
  rw [String.toList_ofList]
  exact endsWith_lowercase htrim

lemma statement_labels {inUtility : Bool} (h : AllLabelOnly s) (hcurrent : s.current = some procedure) :
    AllLabelOnly (s.statement profile options inUtility location code procedure) := by
  obtain ⟨hprocedures, hstatements⟩ :=
    declare_keeps profile options s location code (String.ofList (toAsciiLowercase (splitStatement code).1)) procedure
  unfold Parser.statement
  dsimp only
  generalize s.declare profile options location code (String.ofList (toAsciiLowercase (splitStatement code).1)) procedure = declared
    at hprocedures hstatements
  refine ⟨?_, ?_⟩
  · intro other hother
    refine h.1 other ?_
    rw [← hprocedures]
    dsimp only at hother
    split at hother
    · exact hother
    · exact hother
  · intro other hother statement hstatement
    cases hother
    obtain hstatement | hstatement := List.mem_append.mp hstatement
    · rw [hstatements] at hstatement
      exact h.2 procedure hcurrent statement hstatement
    · rw [List.mem_singleton] at hstatement
      subst hstatement
      exact labelOnly_split location _ _

lemma report_labels {message : String} (h : AllLabelOnly s) : AllLabelOnly (s.report location profile message) := h

lemma finish_labels (h : AllLabelOnly s) (hcurrent : s.current = some procedure) :
    AllLabelOnly (s.finish profile procedure) := by
  have hfinished : ∀ abi, ∀ other ∈ s.procedures ++ [{ procedure with abi := abi }],
      ∀ statement ∈ other.statements, LabelOnly statement := by
    intro abi other hother
    obtain hother | hother := List.mem_append.mp hother
    · exact h.1 other hother
    · rw [List.mem_singleton] at hother
      rw [hother]
      exact h.2 procedure hcurrent
  unfold Parser.finish
  split
  · exact ⟨hfinished procedure.abi, by simp⟩
  · split
    · exact ⟨hfinished _, by simp⟩
    · exact report_labels ⟨hfinished none, by simp⟩

lemma line_labels {path : List String} {number : ℕ} {line : Text} (h : AllLabelOnly s) :
    AllLabelOnly (s.line profile options path number line) := by
  unfold Parser.line
  dsimp only
  split
  · exact h
  · split
    · split
      · exact report_labels h
      · exact ⟨h.1, by simp [Parser.begin]⟩
    · split
      · exact h
      case _ procedure hcurrent =>
        split
        · exact finish_labels h hcurrent
        · exact statement_labels h hcurrent

/-- **Parsed statements**: a label is nothing else. -/
theorem parseProcedures_labels (path : List String) (source : List Text) :
    ∀ procedure ∈ (parseProcedures path source profile options).1, ∀ statement ∈ procedure.statements,
      LabelOnly statement := by
  have hlines : ∀ (lines : List ((Text × Bool) × ℕ)) (s : Parser), AllLabelOnly s →
      AllLabelOnly (lines.foldl (fun s line => s.line profile options path (line.2 + 1) line.1.1) s) := by
    intro lines
    induction lines with
    | nil => exact fun s h => h
    | cons line lines ih =>
      intro s h
      rw [List.foldl_cons]
      exact ih _ (line_labels h)
  have hstart : AllLabelOnly ⟨[], none, none, none, none, none, false, []⟩ := ⟨by simp, by simp⟩
  exact (hlines _ _ hstart).1

end Parse

/-! ### Sources that pass -/

/-- The procedures of a workspace in one profile. -/
def program (files : List (List String × List Text)) (options : Options) (profile : Profile) : List Procedure :=
  files.flatMap fun file => (parseProcedures file.1 file.2 profile options).1

section Lint

variable {files : List (List String × List Text)} {options : Options} {profile : Profile} {fuel : ℕ}

lemma program_labels : ∀ procedure ∈ program files options profile, ∀ statement ∈ procedure.statements,
    LabelOnly statement := by
  intro procedure hprocedure
  obtain ⟨file, -, hprocedure⟩ := List.mem_flatMap.mp hprocedure
  exact parseProcedures_labels file.1 file.2 procedure hprocedure

/-- A sequence of analyses is silent only if each of them is. -/
lemma mapM_flatten_nil {α β : Type} (f : α → Option (List β)) (xs : List α)
    (h : (xs.mapM f).map List.flatten = some []) : ∀ x ∈ xs, f x = some [] := by
  induction xs with
  | nil => simp
  | cons x xs ih =>
    rw [List.mapM_cons] at h
    cases hx : f x with
    | none => simp [hx] at h
    | some ys =>
      cases hxs : xs.mapM f with
      | none => simp [hx, hxs] at h
      | some yss =>
        simp only [hx, hxs, Option.pure_def, Option.bind_eq_bind, Option.bind_some, Option.map_some, List.flatten_cons,
          Option.some.injEq, List.append_eq_nil_iff] at h
        intro x' hx'
        obtain rfl | hx' := List.mem_cons.mp hx'
        · rw [hx, h.1]
        · exact ih (by rw [hxs, Option.map_some, h.2]) x' hx'

/-- **A source that passes**: every analysis of every profile ends without a diagnostic. -/
theorem analyses_of_lint (h : lintWorkspace files options fuel = some []) :
    ∀ procedure ∈ program files options profile,
      ∀ c ∈ contexts profile (collectAllocations files) (declaredAbis (program files options profile)) procedure,
        analyzeProcedure c fuel = some [] := by
  have hprofile : profile ∈ Profile.all := by cases profile <;> decide
  have hlint := mapM_flatten_nil _ _ h profile hprofile
  unfold lintProfile at hlint
  dsimp only at hlint
  have hprogram : ((files.map fun file => parseProcedures file.1 file.2 profile options).flatMap (·.1)) =
      program files options profile := by
    rw [List.flatMap_map]
    rfl
  rw [hprogram] at hlint
  obtain ⟨diagnostics, hanalysis, hnone⟩ := Option.map_eq_some_iff.mp hlint
  rw [List.append_eq_nil_iff] at hnone
  rw [hnone.2] at hanalysis
  intro procedure hprocedure c hc
  exact mapM_flatten_nil _ _ hanalysis c (List.mem_flatMap.mpr ⟨procedure, hprocedure, hc⟩)

end Lint

end SnesModem.Rust.AsmLint
