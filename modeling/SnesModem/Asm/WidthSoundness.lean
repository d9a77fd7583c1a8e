import SnesModem.Asm.WidthMachine
import SnesModem.Rust.AsmLintLabels
import SnesModem.Rust.AsmLintTermination

/-!
# What the width linter proves

* `Certified`: the nodes of an analysis that ends without a diagnostic; `certified_of_analysis`;
* `Stands`: the stack of the machine by procedures, local calls and the items that the analyses know;
* `Tracked`: each state of a run belongs to a node; `tracked_step`: a step keeps this;
* `widths_sound`: where the linter has no diagnostic, every supported run agrees with the declarations.
-/

namespace SnesModem.Asm.WidthSoundness

open SnesModem.Rust SnesModem.Rust.AsmLint SnesModem.Asm.WidthMachine
open SnesModem.Lib.Worklist (search search_closed start_mem_seen)

/-! ### Analyses without a diagnostic -/

/-- The nodes that such an analysis has seen. -/
structure Certified (c : Context) (nodes : Set Node) : Prop where
  start : c.procedure.statements ≠ [] → (0, initial c) ∈ nodes
  closed : ∀ x ∈ nodes, ∀ y ∈ next c x, y ∈ nodes
  passes : ∀ x ∈ nodes, Passes c x

theorem certified_of_analysis {c : Context} {fuel : ℕ} (h : analyzeProcedure c fuel = some []) :
    ∃ nodes, Certified c nodes := by
  unfold analyzeProcedure at h
  split at h
  case isTrue hempty => exact ⟨∅, fun hne => absurd hempty hne, by simp, by simp⟩
  case isFalse hne =>
    obtain ⟨w, hloop, hdiagnostics⟩ := Option.map_eq_some_iff.mp h
    obtain ⟨n, htracks, hpending⟩ := loop_tracks 0 start_tracks hloop
    refine ⟨{x | x ∈ (search key (next c) (0, initial c) n).seen}, fun _ => start_mem_seen n, ?_, ?_⟩
    · intro x hx y hy
      obtain ⟨z, hz, -, heq⟩ := search_closed hpending x hx y hy
      rw [← heq (htracks.clashed hdiagnostics)]
      exact hz
    · intro x hx
      obtain hwaits | hpasses := htracks.passes hdiagnostics x hx
      · rw [hpending] at hwaits
        cases hwaits
      · exact hpasses

/-! ### States and the width macros ahead -/

/-- The state of the analysis at a statement is the actual one, or what the width macro ahead makes of it. -/
def Shows (c : Context) (index : ℕ) (s actual : RuntimeState) : Prop :=
  s = actual ∨ s = normalizeAtEntry (normalizer c.procedure.statements index) actual

section Shows

variable {c : Context} {i : ℕ} {statement : Statement} {s actual : RuntimeState}

lemma normalizeAtEntry_idem (mnemonic : String) (state : RuntimeState) :
    normalizeAtEntry mnemonic (normalizeAtEntry mnemonic state) = normalizeAtEntry mnemonic state := by
  unfold normalizeAtEntry
  generalize decode mnemonic = instruction
  cases instruction with
  | width a w => cases a <;> cases w <;> rfl
  | _ => rfl

lemma normalizeAtEntry_of_ne {mnemonic : String} (h : ∀ a w, decode mnemonic ≠ .width a w) (state : RuntimeState) :
    normalizeAtEntry mnemonic state = state := by
  unfold normalizeAtEntry
  split
  case _ a w hdecode => exact absurd hdecode (h a w)
  case _ => rfl

lemma drop_eq_cons (hstatement : c.procedure.statements[i]? = some statement) :
    c.procedure.statements.drop i = statement :: c.procedure.statements.drop (i + 1) := by
  obtain ⟨hlen, rfl⟩ := List.getElem?_eq_some_iff.mp hstatement
  exact List.drop_eq_getElem_cons hlen

lemma normalizer_of_not_label (hstatement : c.procedure.statements[i]? = some statement)
    (hlabel : isLabel statement.text = false) :
    normalizer c.procedure.statements i = statement.mnemonic := by
  unfold normalizer
  rw [drop_eq_cons hstatement, List.find?_cons_of_pos (by simp [hlabel])]
  rfl

/-- A label looks ahead to where the next statement looks, or at nothing. -/
lemma normalizer_of_label (hstatement : c.procedure.statements[i]? = some statement)
    (hlabel : isLabel statement.text = true) :
    normalizer c.procedure.statements i = normalizer c.procedure.statements (i + 1) ∨
      normalizer c.procedure.statements i = statement.mnemonic := by
  unfold normalizer
  rw [drop_eq_cons hstatement, List.find?_cons_of_neg (by simp [hlabel]), hstatement]
  cases hfind : (c.procedure.statements.drop (i + 1)).find? fun statement => !isLabel statement.text with
  | none => exact Or.inr rfl
  | some ahead => exact Or.inl rfl

/-- At a statement that is no label and no width macro the analysis has the actual state. -/
lemma Shows.exact (h : Shows c i s actual) (hstatement : c.procedure.statements[i]? = some statement)
    (hlabel : isLabel statement.text = false) (hwidth : ∀ a w, statement.instruction ≠ .width a w) : s = actual := by
  obtain rfl | h := h
  · rfl
  · rw [h, normalizer_of_not_label hstatement hlabel]
    exact normalizeAtEntry_of_ne hwidth actual

/-- Behind a label the state shows the same. -/
lemma Shows.past_label (h : Shows c i s actual) (hstatement : c.procedure.statements[i]? = some statement)
    (hlabel : isLabel statement.text = true) (honly : LabelOnly statement) :
    Shows c (i + 1) (normalizeAtEntry (normalizer c.procedure.statements (i + 1)) s) actual := by
  obtain rfl | rfl := h
  · exact Or.inr rfl
  · obtain hsame | hself := normalizer_of_label hstatement hlabel
    · rw [hsame, normalizeAtEntry_idem]
      exact Or.inr rfl
    · have hother : ∀ a w, decode statement.mnemonic ≠ .width a w := by
        intro a w hdecode
        have := (honly hlabel).1
        rw [Statement.instruction, hdecode] at this
        cases this
      rw [hself, normalizeAtEntry_of_ne hother]
      exact Or.inr rfl

end Shows

/-! ### The stack -/

/-- The octets of an item. -/
def cellsOf : StackItem → List Cell
  | .A width | .X width | .Y width => dataCells (octets width)
  | .status a i => [.status a i]
  | .bank | .rawByte => dataCells 1
  | .directPage | .rawWord => dataCells 2

/-- What every analysis of the program has left, and what its statements are. -/
structure Checked (program : List Procedure) (profile : Profile) (allocations : List (SourceText.Text × ℕ))
    (nodes : Context → Set Node) : Prop where
  certified : ∀ procedure ∈ program, ∀ c ∈ contexts profile allocations (declaredAbis program) procedure,
    Certified c (nodes c)
  labels : ∀ procedure ∈ program, ∀ statement ∈ procedure.statements, LabelOnly statement

/-- An analysis of the procedure at this number. -/
def IsContext (program : List Procedure) (profile : Profile) (allocations : List (SourceText.Text × ℕ)) (p : ℕ) (c : Context) :
    Prop :=
  ∃ procedure, program[p]? = some procedure ∧ c ∈ contexts profile allocations (declaredAbis program) procedure

section Stack

variable (program : List Procedure) (profile : Profile) (allocations : List (SourceText.Text × ℕ))
  (nodes : Context → Set Node) (entry : List Cell)

/-- The stack and the frames of the machine, in a procedure with the items and the local calls that its analysis
knows: the entry, one more item, a local call, and a procedure that another one called by its contract. -/
inductive Stands : ℕ → Context → List StackItem → List CallFrame → List Cell → List Frame → Prop
  | entry {p : ℕ} {c : Context} : IsContext program profile allocations p c → Stands p c [] [] entry []
  | item {p : ℕ} {c : Context} {items : List StackItem} {calls : List CallFrame} {cells : List Cell}
      {frames : List Frame} (item : StackItem) : Stands p c items calls cells frames →
      Stands p c (item :: items) calls (cellsOf item ++ cells) frames
  | call {p : ℕ} {c : Context} {items : List StackItem} {calls : List CallFrame} {cells : List Cell}
      {frames : List Frame} (index : ℕ) {size : ℕ} : 0 < size → Stands p c items calls cells frames →
      Stands p c items (⟨index, items⟩ :: calls) (returnCells (p, index) size ++ cells)
        (⟨(p, index), size, cells, none⟩ :: frames)
  | contract {p : ℕ} {c : Context} {items : List StackItem} {calls : List CallFrame} {cells : List Cell}
      {frames : List Frame} (index : ℕ) {size : ℕ} {q : ℕ} {callee : Context} {abi : Abi} : 0 < size →
      Stands p c items calls cells frames → IsContext program profile allocations q callee →
      callee.returnAbi = some abi → (∀ y ∈ arrival c index ⟨abi.a, abi.i, items, calls⟩, y ∈ nodes c) →
      Stands q callee [] [] (returnCells (p, index) size ++ cells) (⟨(p, index), size, cells, some abi⟩ :: frames)

end Stack

section Stands

variable {program : List Procedure} {profile : Profile} {allocations : List (SourceText.Text × ℕ)}
  {nodes : Context → Set Node} {entry : List Cell} {p : ℕ} {c : Context} {items : List StackItem} {item : StackItem}
  {calls : List CallFrame} {cells : List Cell} {frames : List Frame} {n : ℕ}

lemma Stands.isContext (h : Stands program profile allocations nodes entry p c items calls cells frames) :
    IsContext program profile allocations p c := by
  induction h with
  | entry hcontext => exact hcontext
  | item _ _ ih => exact ih
  | call _ _ _ ih => exact ih
  | contract _ _ _ hcontext _ _ _ => exact hcontext

/-- **A pull** that takes no octet of a return address takes an item that the analysis knows. -/
lemma Stands.pull (h : Stands program profile allocations nodes entry p c (item :: items) calls cells frames)
    (hn : 0 < n) (hpull : ∀ cell ∈ cells.take n, cell.isReturn = false) :
    ∃ below, cells = cellsOf item ++ below ∧
      Stands program profile allocations nodes entry p c items calls below frames := by
  cases h with
  | item _ h => exact ⟨_, rfl, h⟩
  | @call _ _ _ _ below _ index size hsize h =>
    exfalso
    have hmem : Cell.ret (p, index) 0 ∈ (returnCells (p, index) size ++ below).take n := by
      obtain ⟨n, rfl⟩ := Nat.exists_eq_succ_of_ne_zero (by omega : n ≠ 0)
      obtain ⟨size, rfl⟩ := Nat.exists_eq_succ_of_ne_zero (by omega : size ≠ 0)
      simp [returnCells, List.range_succ_eq_map]
    have := hpull _ hmem
    cases this

/-- The items of a local call end with those that it found. -/
lemma Stands.length_le {frame : CallFrame}
    (h : Stands program profile allocations nodes entry p c items (frame :: calls) cells frames) :
    frame.stack.length ≤ items.length := by
  generalize hcalls : frame :: calls = all at h
  induction h with
  | entry => cases hcalls
  | item _ _ ih =>
    have := ih hcalls
    rw [List.length_cons]
    omega
  | call =>
    cases hcalls
    exact le_refl _
  | contract => cases hcalls

/-- **A local return** with the items that its call left finds the return address on top. -/
lemma Stands.returns {frame : CallFrame}
    (h : Stands program profile allocations nodes entry p c items (frame :: calls) cells frames)
    (hstack : items = frame.stack) :
    ∃ size below frames', cells = returnCells (p, frame.returnIndex) size ++ below ∧
      frames = ⟨(p, frame.returnIndex), size, below, none⟩ :: frames' ∧ 0 < size ∧
      Stands program profile allocations nodes entry p c items calls below frames' := by
  cases h with
  | item item h =>
    have hlength := h.length_le
    rw [← hstack, List.length_cons] at hlength
    omega
  | call index hsize h => exact ⟨_, _, _, rfl, rfl, hsize, h⟩

end Stands

/-! ### One statement -/

section Transfer

variable {program : List Procedure} {profile : Profile} {allocations : List (SourceText.Text × ℕ)}
  {nodes : Context → Set Node} {entry : List Cell} {c : Context} {items : List StackItem} {calls : List CallFrame}
  {image : Image} {m m' : Machine} {statement : Statement}

/-- The actual state, with the items and the calls that the analysis knows. -/
def actual (m : Machine) (items : List StackItem) (calls : List CallFrame) : RuntimeState := ⟨m.a, m.i, items, calls⟩

/-- The machine and the analysis go over the statement together. -/
def Simulates (program : List Procedure) (profile : Profile) (allocations : List (SourceText.Text × ℕ))
    (nodes : Context → Set Node) (entry : List Cell) (p : ℕ) (c : Context) (calls : List CallFrame)
    (output : Option RuntimeState) (m' : Machine) : Prop :=
  ∃ items, output = some (actual m' items calls) ∧
    Stands program profile allocations nodes entry p c items calls m'.stack m'.frames

lemma octets_pos (width : Width) : 0 < octets width := by cases width <;> decide

lemma length_dataCells (n : ℕ) : (dataCells n).length = n := List.length_replicate

/-- A statement that pulls an item of as many octets. -/
lemma simulates_pull {item : StackItem} {n : ℕ} (hn : 0 < n) (hlength : (cellsOf item).length = n)
    (h : Stands program profile allocations nodes entry m.place.1 c (item :: items) calls m.stack m.frames)
    (hpull : ∀ cell ∈ m.stack.take n, cell.isReturn = false) :
    Stands program profile allocations nodes entry m.place.1 c items calls (m.pull n).stack m.frames := by
  obtain ⟨below, hcells, hbelow⟩ := h.pull hn hpull
  have hdrop : (m.pull n).stack = below := by
    simp [Machine.pull, hcells, ← hlength]
  rw [hdrop]
  exact hbelow

/-- `pla` without a diagnostic takes an item of the accumulator's width. -/
lemma popAccumulator_silent {state : RuntimeState} {width : Width}
    (h : (popAccumulator profile statement state width).2 = []) :
    ∃ item items, state.stack = item :: items ∧ (cellsOf item).length = octets width ∧
      (popAccumulator profile statement state width).1 = { state with stack := items } := by
  unfold popAccumulator at h ⊢
  dsimp only [RuntimeState.pop] at h ⊢
  split at h
  case isTrue hvalid =>
    rw [if_pos hvalid]
    cases hstack : state.stack with
    | nil => simp [hstack] at hvalid
    | cons item items =>
      refine ⟨item, items, rfl, ?_, rfl⟩
      rw [hstack] at hvalid
      simp only [List.head?_cons, Option.some.injEq] at hvalid
      obtain rfl | ⟨rfl, rfl⟩ | ⟨rfl, rfl⟩ := hvalid
      · exact length_dataCells _
      · rfl
      · rfl
  case isFalse => cases h

lemma popExpected_silent {state : RuntimeState} {expected : StackItem}
    (h : (popExpected profile statement state expected).2 = []) :
    ∃ items, state.stack = expected :: items ∧
      (popExpected profile statement state expected).1 = { state with stack := items } := by
  unfold popExpected at h ⊢
  dsimp only [RuntimeState.pop] at h ⊢
  split at h
  case isTrue => cases h
  case isFalse hvalid =>
    rw [if_neg hvalid]
    rw [ne_eq, not_not, List.head?_eq_some_iff] at hvalid
    obtain ⟨items, hstack⟩ := hvalid
    exact ⟨items, hstack, by rw [hstack]; rfl⟩

lemma popDirectPage_silent {state : RuntimeState} (h : (popDirectPage profile statement state).2 = []) :
    ∃ item items, state.stack = item :: items ∧ (cellsOf item).length = 2 ∧
      (popDirectPage profile statement state).1 = { state with stack := items } := by
  unfold popDirectPage at h ⊢
  dsimp only [RuntimeState.pop] at h ⊢
  cases hstack : state.stack with
  | nil =>
    rw [hstack] at h
    cases h
  | cons item items =>
    rw [hstack] at h
    cases item <;> first | exact ⟨_, items, rfl, rfl, rfl⟩ | cases h

/-- `plb` takes an octet, and of a word it leaves one. -/
lemma popBank_silent {state : RuntimeState} (h : (popBank profile statement state).2 = []) :
    ∃ item items, state.stack = item :: items ∧
      ((cellsOf item).length = 1 ∧ (popBank profile statement state).1 = { state with stack := items } ∨
        item = .rawWord ∧ (popBank profile statement state).1 = { state with stack := .rawByte :: items }) := by
  unfold popBank at h ⊢
  dsimp only [RuntimeState.pop] at h ⊢
  cases hstack : state.stack with
  | nil =>
    rw [hstack] at h
    cases h
  | cons item items =>
    rw [hstack] at h
    cases item with
    | bank => exact ⟨_, items, rfl, Or.inl ⟨rfl, rfl⟩⟩
    | rawByte => exact ⟨_, items, rfl, Or.inl ⟨rfl, rfl⟩⟩
    | rawWord => exact ⟨_, items, rfl, Or.inr ⟨rfl, rfl⟩⟩
    | _ => cases h

lemma plp_silent {state : RuntimeState} (h : (plp profile statement state).2 = []) :
    ∃ a i items, state.stack = .status a i :: items ∧
      (plp profile statement state).1 = { state with a, i, stack := items } := by
  unfold plp at h ⊢
  dsimp only [RuntimeState.pop] at h ⊢
  cases hstack : state.stack with
  | nil =>
    rw [hstack] at h
    cases h
  | cons item items =>
    rw [hstack] at h
    cases item with
    | status a i => exact ⟨a, i, items, rfl, rfl⟩
    | _ => cases h

lemma restoreStatus_silent {state : RuntimeState} {expected : Abi}
    (h : (restoreStatus profile statement state expected).2 = []) :
    ∃ items, state.stack = .status expected.a expected.i :: items ∧
      (restoreStatus profile statement state expected).1 =
        { state with a := expected.a, i := expected.i, stack := items } := by
  unfold restoreStatus at h ⊢
  dsimp only [RuntimeState.pop] at h ⊢
  split at h
  case isTrue hvalid =>
    rw [if_pos hvalid]
    obtain ⟨items, hstack⟩ := List.head?_eq_some_iff.mp hvalid
    exact ⟨items, hstack, by rw [hstack]; rfl⟩
  case isFalse => cases h

/-- `plp` pulls the widths that the top item holds. -/
lemma simulates_restore {a i : Width} (hm' : m' ∈ (pulledWidths image (m.stack.headD .data)).map
      fun (a, i) => ((m.pull 1).setWidths (some a) (some i)).next)
    (h : Stands program profile allocations nodes entry m.place.1 c (.status a i :: items) calls m.stack m.frames)
    (hpull : ∀ cell ∈ m.stack.take 1, cell.isReturn = false) :
    m'.a = a ∧ m'.i = i ∧
      Stands program profile allocations nodes entry m.place.1 c items calls m'.stack m'.frames := by
  obtain ⟨below, hcells, hbelow⟩ := h.pull (by omega) hpull
  rw [hcells] at hm'
  simp only [cellsOf, List.cons_append, List.headD_cons, pulledWidths, List.map_cons, List.map_nil,
    List.mem_singleton] at hm'
  subst hm'
  have hdrop : (m.pull 1).stack = below := by simp [Machine.pull, hcells, cellsOf]
  refine ⟨rfl, rfl, ?_⟩
  change Stands program profile allocations nodes entry m.place.1 c items calls (m.pull 1).stack m.frames
  rw [hdrop]
  exact hbelow

/-- A status mask of the assembler is the one that the linter reads. -/
lemma applyStatusImmediate_eq {set : Bool} {operand : SourceText.Text} {mask : ℕ} (h : parseImmediate operand = some mask) :
    applyStatusImmediate set operand (actual m items calls) = actual (m.applyMask set mask) items calls := by
  unfold applyStatusImmediate
  rw [h]
  rfl

lemma mem_stepsOver {statement : Statement} (hstatement : statementAt program m.place = some statement)
    (hstep : m' ∈ steps program image m) : m' ∈ stepsOver program image m statement := by
  unfold steps at hstep
  rwa [hstatement, Option.elim_some] at hstep

/-- A macro whose part in the widths and the stack the linter sees goes on as any other statement does. -/
lemma macro_next (hseen : Seen program m) (hstatement : statementAt program m.place = some statement)
    (hstep : m' ∈ stepsOverMacro m statement) : m' = m.next := by
  obtain ⟨hwide, hnmi⟩ := hseen statement hstatement
  unfold stepsOverMacro at hstep
  split at hstep
  case _ hincrement =>
    obtain rfl := List.mem_singleton.mp hstep
    have hsame : m.setWidths (some .sixteen) none = m := by
      unfold Machine.setWidths
      rw [Option.getD_some, ← hwide hincrement]
      rfl
    rw [hsame]
  case _ hsuspend => exact absurd (by simp [hsuspend]) hnmi
  case _ hrestore => exact absurd (by simp [hrestore]) hnmi
  case _ => cases hstep

/-- The statement is none that the flow turns or ends at. -/
def IsPlain (statement : Statement) : Prop :=
  statement.instruction ∉ [.call, .ret, .rti, .stp, .jump, .branch, .terminalMacro]

/-- **One statement**: the machine and the analysis go on together. -/
theorem transfer_simulates (hstatement : statementAt program m.place = some statement) (hplain : IsPlain statement)
    (h : Stands program profile allocations nodes entry m.place.1 c items calls m.stack m.frames)
    (hsilent : (transfer c.profile statement (actual m items calls)).2 = [])
    (hsupported : Supported program image m statement) (hseen : Seen program m) (hstep : m' ∈ steps program image m) :
    m'.place = (m.place.1, m.place.2 + 1) ∧
      Simulates program profile allocations nodes entry m.place.1 c calls
        (transfer c.profile statement (actual m items calls)).1 m' := by
  have hpull := hsupported.pulls
  have himmediate := hsupported.immediate
  replace hstep := mem_stepsOver hstatement hstep
  unfold stepsOver at hstep
  unfold IsPlain at hplain
  unfold transfer at hsilent ⊢
  unfold WidthMachine.pulls at hpull
  cases hinstruction : statement.instruction <;>
    rw [hinstruction] at hstep hsilent hpull himmediate hplain <;> dsimp only at hstep hsilent hpull ⊢
  case width a i =>
    obtain rfl := List.mem_singleton.mp hstep
    exact ⟨rfl, items, rfl, h⟩
  case assertWidths expected =>
    obtain rfl := List.mem_singleton.mp hstep
    exact ⟨rfl, items, rfl, h⟩
  case rep =>
    obtain rfl := List.mem_singleton.mp hstep
    exact ⟨rfl, items, by rw [applyStatusImmediate_eq (himmediate (Or.inl rfl))]; rfl, h⟩
  case sep =>
    obtain rfl := List.mem_singleton.mp hstep
    exact ⟨rfl, items, by rw [applyStatusImmediate_eq (himmediate (Or.inr rfl))]; rfl, h⟩
  case pha =>
    obtain rfl := List.mem_singleton.mp hstep
    exact ⟨rfl, .A m.a :: items, rfl, h.item _⟩
  case phx =>
    obtain rfl := List.mem_singleton.mp hstep
    exact ⟨rfl, .X m.i :: items, rfl, h.item _⟩
  case phy =>
    obtain rfl := List.mem_singleton.mp hstep
    exact ⟨rfl, .Y m.i :: items, rfl, h.item _⟩
  case php =>
    obtain rfl := List.mem_singleton.mp hstep
    exact ⟨rfl, .status m.a m.i :: items, rfl, h.item _⟩
  case phb =>
    obtain rfl := List.mem_singleton.mp hstep
    exact ⟨rfl, .bank :: items, rfl, h.item _⟩
  case phd =>
    obtain rfl := List.mem_singleton.mp hstep
    exact ⟨rfl, .directPage :: items, rfl, h.item _⟩
  case pushWord =>
    obtain rfl := List.mem_singleton.mp hstep
    exact ⟨rfl, .rawWord :: items, rfl, h.item _⟩
  case pla =>
    obtain rfl := List.mem_singleton.mp hstep
    obtain ⟨item, rest, hstack, hlength, houtput⟩ := popAccumulator_silent hsilent
    change items = item :: rest at hstack
    subst hstack
    refine ⟨rfl, rest, congrArg some houtput, ?_⟩
    exact simulates_pull (octets_pos m.a) hlength h hpull
  case plx =>
    obtain rfl := List.mem_singleton.mp hstep
    obtain ⟨rest, hstack, houtput⟩ := popExpected_silent hsilent
    change items = .X m.i :: rest at hstack
    subst hstack
    have hlength : (cellsOf (.X m.i)).length = octets m.i := length_dataCells _
    refine ⟨rfl, rest, congrArg some houtput, ?_⟩
    exact simulates_pull (octets_pos m.i) hlength h hpull
  case ply =>
    obtain rfl := List.mem_singleton.mp hstep
    obtain ⟨rest, hstack, houtput⟩ := popExpected_silent hsilent
    change items = .Y m.i :: rest at hstack
    subst hstack
    have hlength : (cellsOf (.Y m.i)).length = octets m.i := length_dataCells _
    refine ⟨rfl, rest, congrArg some houtput, ?_⟩
    exact simulates_pull (octets_pos m.i) hlength h hpull
  case plb =>
    obtain rfl := List.mem_singleton.mp hstep
    obtain ⟨item, rest, hstack, ⟨hlength, houtput⟩ | ⟨rfl, houtput⟩⟩ := popBank_silent hsilent
    · change items = item :: rest at hstack
      subst hstack
      refine ⟨rfl, rest, congrArg some houtput, ?_⟩
      exact simulates_pull (by omega) hlength h hpull
    · change items = .rawWord :: rest at hstack
      subst hstack
      obtain ⟨below, hcells, hbelow⟩ := h.pull (by omega) hpull
      refine ⟨rfl, .rawByte :: rest, congrArg some houtput, ?_⟩
      change Stands program profile allocations nodes entry m.place.1 c _ calls (m.stack.drop 1) m.frames
      rw [hcells]
      exact hbelow.item .rawByte
  case pld =>
    obtain rfl := List.mem_singleton.mp hstep
    obtain ⟨item, rest, hstack, hlength, houtput⟩ := popDirectPage_silent hsilent
    change items = item :: rest at hstack
    subst hstack
    refine ⟨rfl, rest, congrArg some houtput, ?_⟩
    exact simulates_pull (by omega) hlength h hpull
  case plp =>
    obtain ⟨a, i, rest, hstack, houtput⟩ := plp_silent hsilent
    change items = .status a i :: rest at hstack
    subst hstack
    obtain ⟨rfl, rfl, hstands⟩ := simulates_restore hstep h hpull
    refine ⟨?_, rest, congrArg some houtput, hstands⟩
    obtain ⟨widths, -, rfl⟩ := List.mem_map.mp hstep
    rfl
  case plpWidths expected =>
    obtain ⟨rest, hstack, houtput⟩ := restoreStatus_silent hsilent
    change items = .status expected.a expected.i :: rest at hstack
    subst hstack
    obtain ⟨ha, hi, hstands⟩ := simulates_restore hstep h hpull
    refine ⟨?_, rest, ?_, hstands⟩
    · obtain ⟨widths, -, rfl⟩ := List.mem_map.mp hstep
      rfl
    · unfold actual
      rw [ha, hi]
      exact congrArg some houtput
  case other =>
    have hnext : m' = m.next := by
      split at hstep
      · exact List.mem_singleton.mp hstep
      · exact macro_next hseen hstatement hstep
    subst hnext
    exact ⟨rfl, items, rfl, h⟩
  all_goals simp at hplain

end Transfer

/-! ### Runs -/

section Runs

variable {program : List Procedure} {profile : Profile} {allocations : List (SourceText.Text × ℕ)}
  {nodes : Context → Set Node} {entry : List Cell} {c : Context} {items : List StackItem} {calls : List CallFrame}
  {image : Image} {m m' : Machine} {statement : Statement} {p i : ℕ} {s : RuntimeState}

variable (program profile allocations nodes entry) in
/-- The state of the machine belongs to a node of an analysis of its procedure. -/
def Tracked (m : Machine) : Prop :=
  ∃ c items calls s, Stands program profile allocations nodes entry m.place.1 c items calls m.stack m.frames ∧
    (m.place.2, s) ∈ nodes c ∧ Shows c m.place.2 s (actual m items calls)

lemma mem_contexts {abis : List (SourceText.Text × Abi)} {procedure : Procedure}
    (h : c ∈ contexts profile allocations abis procedure) :
    c.procedure = procedure ∧ c.abis = abis ∧
      (c.returnAbi = procedure.abi ∧ procedure.kind = .ordinary ∧ c.returnAbi = some c.entry ∨
        c.returnAbi = none ∧ procedure.kind = .interrupt) := by
  unfold contexts at h
  split at h
  case _ hkind =>
    obtain ⟨abi, habi, rfl⟩ := List.mem_map.mp h
    exact ⟨rfl, rfl, Or.inl ⟨(Option.mem_toList.mp habi).symm, hkind, rfl⟩⟩
  case _ hkind =>
    simp only [List.mem_flatMap, List.mem_map] at h
    obtain ⟨a, -, i, -, rfl⟩ := h
    exact ⟨rfl, rfl, Or.inr ⟨rfl, hkind⟩⟩

/-- An analysis of the procedure, with the statements that the machine runs. -/
lemma IsContext.statements (h : IsContext program profile allocations p c) (i : ℕ) :
    c.procedure.statements[i]? = statementAt program (p, i) ∧
      c.procedure.statements = statementsAt program (p, i) := by
  obtain ⟨procedure, hprocedure, hc⟩ := h
  obtain ⟨hsame, -⟩ := mem_contexts hc
  simp [statementAt, statementsAt, hprocedure, hsame]

lemma Checked.of_context (hchecked : Checked program profile allocations nodes)
    (h : IsContext program profile allocations p c) : Certified c (nodes c) := by
  obtain ⟨procedure, hprocedure, hc⟩ := h
  exact hchecked.certified procedure (List.mem_of_getElem? hprocedure) c hc

lemma Checked.labelOnly (hchecked : Checked program profile allocations nodes)
    (h : statementAt program (p, i) = some statement) : LabelOnly statement := by
  obtain ⟨procedure, hprocedure, hstatement⟩ := Option.bind_eq_some_iff.mp h
  exact hchecked.labels procedure (List.mem_of_getElem? hprocedure) statement (List.mem_of_getElem? hstatement)

/-- What a node merges, the analysis has seen. -/
lemma Certified.merged {nodes : Set Node} (h : Certified c nodes) (hs : (i, s) ∈ nodes)
    (hstatement : c.procedure.statements[i]? = some statement) {z : Node} (hz : z ∈ merges c i statement s)
    (hlen : z.1 < c.procedure.statements.length) :
    (z.1, normalizeAtEntry (normalizer c.procedure.statements z.1) z.2) ∈ nodes := by
  refine h.closed (i, s) hs _ ?_
  unfold next
  rw [hstatement]
  exact List.mem_filterMap.mpr ⟨z, hz, if_pos hlen⟩

/-- What a statement other than a return merges. -/
lemma merges_of_output {output : RuntimeState} (hrti : statement.instruction ≠ .rti)
    (hret : statement.instruction ≠ .ret) (houtput : (transfer c.profile statement s).1 = some output) :
    merges c i statement s = flow c i statement output := by
  unfold merges
  split
  case _ h => exact absurd h hrti
  case _ h => exact absurd h hret
  case _ => rw [houtput, Option.elim_some]

lemma complaints_of_plain (hrti : statement.instruction ≠ .rti) (hret : statement.instruction ≠ .ret) :
    complaints c statement s = validateStatementWidth c statement s ++ (transfer c.profile statement s).2 := by
  unfold complaints
  split
  case _ h => exact absurd h hrti
  case _ h => exact absurd h hret
  case _ => rfl

/-- A label has no other instruction. -/
lemma not_label (honly : LabelOnly statement) (h : statement.instruction ≠ .other) :
    isLabel statement.text = false := by
  by_contra hlabel
  rw [Bool.not_eq_false] at hlabel
  exact h (honly hlabel).1

/-- The next statement is one that the flow goes on to. -/
lemma mem_successors_next (h : statement.instruction ∉ [.ret, .rti, .stp, .jump])
    (hlen : i + 1 < c.procedure.statements.length) : i + 1 ∈ successors c.procedure.statements i statement := by
  unfold successors
  simp only [List.mem_cons, List.not_mem_nil, or_false, not_or] at h
  cases hinstruction : statement.instruction <;> simp_all

lemma mem_successors_target {j : ℕ} (h : statement.instruction = .jump ∨ statement.instruction = .branch)
    (hj : resolveTarget c.procedure.statements i statement.operand = some j) :
    j ∈ successors c.procedure.statements i statement := by
  unfold successors
  obtain h | h := h
  · simp [h, hj]
  · rw [h, hj]
    dsimp only [Option.toList_some]
    rw [List.mem_append, List.mem_filter]
    by_cases hnext : j ∈ (if i + 1 < c.procedure.statements.length then [i + 1] else [])
    · exact Or.inl hnext
    · refine Or.inr ⟨List.mem_singleton_self j, ?_⟩
      rw [Bool.not_eq_true', ← Bool.not_eq_true, List.contains_iff_mem]
      exact hnext

lemma callTarget_of_ne (h : statement.instruction ≠ .call) : callTarget c i statement = none := if_neg h

/-- Immediate operands belong to instructions without a part in the analysis. -/
lemma instruction_of_immediate (h : accumulatorImmediate statement = true ∨ indexImmediate statement = true) :
    statement.instruction = .other ∧ statement.isImmediate = true := by
  have hmnemonic : ∀ mnemonic ∈ ["adc", "and", "bit", "cmp", "eor", "lda", "ora", "sbc", "cpx", "cpy", "ldx", "ldy"],
      decode mnemonic = .other := by decide
  unfold accumulatorImmediate indexImmediate at h
  simp only [Bool.and_eq_true, List.contains_iff_mem] at h
  obtain ⟨himmediate, hmem⟩ | ⟨himmediate, hmem⟩ := h
  · exact ⟨hmnemonic _ (List.mem_append_left ["cpx", "cpy", "ldx", "ldy"] hmem), himmediate⟩
  · exact ⟨hmnemonic _ (List.mem_append_right ["adc", "and", "bit", "cmp", "eor", "lda", "ora", "sbc"] hmem),
      himmediate⟩

/-- At a statement that is no label and no width macro the node has the actual state. -/
lemma shows_exact (hstatement : c.procedure.statements[i]? = some statement) (honly : LabelOnly statement)
    (hother : statement.instruction ≠ .other) (hwidth : ∀ a w, statement.instruction ≠ .width a w)
    (h : Shows c i s (actual m items calls)) : s = actual m items calls :=
  h.exact hstatement (not_label honly hother) hwidth

lemma shows_immediate (hstatement : c.procedure.statements[i]? = some statement) (honly : LabelOnly statement)
    (himmediate : accumulatorImmediate statement = true ∨ indexImmediate statement = true)
    (h : Shows c i s (actual m items calls)) : s = actual m items calls := by
  obtain ⟨hother, hoperand⟩ := instruction_of_immediate himmediate
  refine h.exact hstatement ?_ (by rw [hother]; simp)
  by_contra hlabel
  rw [Bool.not_eq_false] at hlabel
  rw [(honly hlabel).2] at hoperand
  cases hoperand

lemma validateAccumulator_silent (h : validateAccumulator c statement s = []) (himmediate : accumulatorImmediate statement) :
    statement.asmA = some s.a := by
  unfold validateAccumulator at h
  split at h
  case isTrue => cases h
  case isFalse hsame =>
    by_contra hne
    exact hsame ⟨himmediate, hne⟩

lemma validateIndex_silent (h : validateIndex c statement s = []) (himmediate : indexImmediate statement) :
    statement.asmI = some s.i := by
  unfold validateIndex at h
  split at h
  case isTrue => cases h
  case isFalse hsame =>
    by_contra hne
    exact hsame ⟨himmediate, hne⟩

lemma validateCall_silent {abi : Abi} (h : validateCall c statement s = []) (hcall : statement.instruction = .call)
    (hcallee : declaredCallee c.abis statement = some abi) : s.a = abi.a ∧ s.i = abi.i := by
  unfold validateCall at h
  rw [if_pos hcall, hcallee] at h
  dsimp only at h
  split at h
  case isTrue => cases h
  case isFalse hsame =>
    simp only [ne_eq, not_or, not_not] at hsame
    exact ⟨hsame.1.symm, hsame.2.symm⟩

lemma validate_silent (h : validateStatementWidth c statement s = []) :
    validateAccumulator c statement s = [] ∧ validateIndex c statement s = [] ∧ validateCall c statement s = [] := by
  unfold validateStatementWidth at h
  simp only [List.append_eq_nil_iff] at h
  exact ⟨h.1.1.1, h.1.1.2, h.1.2⟩

lemma complaints_silent (h : complaints c statement s = []) : validateStatementWidth c statement s = [] := by
  unfold complaints at h
  exact (List.append_eq_nil_iff.mp h).1

/-- A procedure that returns without a diagnostic has its widths and no items. -/
lemma procedureReturn_silent (h : procedureReturn c statement s = []) :
    ∃ abi, c.returnAbi = some abi ∧ s.stack = [] ∧ s.a = abi.a ∧ s.i = abi.i := by
  unfold procedureReturn at h
  split at h
  · cases h
  case _ abi habi =>
    obtain ⟨hstack, hwidths⟩ := List.append_eq_nil_iff.mp h
    refine ⟨abi, habi, ?_, ?_⟩
    · by_contra hne
      simp [hne] at hstack
    · by_contra hne
      rw [if_pos (by tauto)] at hwidths
      cases hwidths

lemma handleInterruptReturn_silent (h : handleInterruptReturn c statement s = []) :
    c.procedure.kind = .interrupt ∧ s.calls = [] ∧ s.stack = [] := by
  unfold handleInterruptReturn at h
  split at h
  · cases h
  case _ hkind =>
    obtain ⟨hcalls, hstack⟩ := List.append_eq_nil_iff.mp h
    refine ⟨not_not.mp hkind, ?_, ?_⟩
    · by_contra hne
      simp [hne] at hcalls
    · by_contra hne
      simp [hne] at hstack

lemma unbalancedReturn_silent {frame : CallFrame} (h : unbalancedReturn c statement s frame = []) :
    s.stack = frame.stack := by
  unfold unbalancedReturn at h
  split at h
  · cases h
  case _ hsame => exact not_not.mp hsame

/-- The contract of a call that is supported is the one that the linter checks. -/
lemma contract_declared {abi : Abi} (hcall : statement.instruction = .call)
    (hsupported : Supported program image m statement)
    (hcontract : contract program image m.place statement = some abi) :
    resolveTarget (statementsAt program m.place) m.place.2 statement.operand = none ∧
      ∃ target callee, image.target m.place = some target ∧ target.2 = 0 ∧ program[target.1]? = some callee ∧
        callee.kind = .ordinary ∧ callee.abi = some abi ∧
        declaredCallee (declaredAbis program) statement = some abi := by
  unfold contract at hcontract
  split at hcontract
  · cases hcontract
  case _ hresolved =>
    obtain ⟨target, htarget, hcallee⟩ := Option.bind_eq_some_iff.mp hcontract
    obtain ⟨callee, hprocedure, habi⟩ := Option.bind_eq_some_iff.mp hcallee
    refine ⟨hresolved, target, callee, htarget, ?_⟩
    have hnames := hsupported.names target htarget
    have hcallee := hnames.2 hcall
    rw [hresolved] at hcallee
    obtain ⟨hsome, -⟩ | ⟨-, hzero, callee', hcallee', hkind, -, hdeclared⟩ := hcallee
    · cases hsome
    · have hsame : callee' = callee := Option.some.inj (hcallee'.symm.trans hprocedure)
      subst hsame
      exact ⟨hzero, hprocedure, hkind, habi, hdeclared.trans habi⟩

/-- **Agreement**: a state that belongs to a node agrees with the declarations. -/
theorem tracked_agrees (hchecked : Checked program profile allocations nodes)
    (h : Tracked program profile allocations nodes entry m) (hstatement : statementAt program m.place = some statement)
    (hsupported : Supported program image m statement) : Agrees program image entry m statement := by
  obtain ⟨c, items, calls, s, hstands, hnode, hshows⟩ := h
  have hcontext := hstands.isContext
  have hat : c.procedure.statements[m.place.2]? = some statement :=
    (hcontext.statements m.place.2).1.trans hstatement
  have honly := hchecked.labelOnly hstatement
  have hpasses := (hchecked.of_context hcontext).passes _ hnode statement hat
  obtain ⟨haccumulator, hindex, hcall⟩ := validate_silent (complaints_silent hpasses)
  obtain ⟨procedure, hprocedure, hmem⟩ := hcontext
  obtain ⟨hsame, habis, hkind⟩ := mem_contexts hmem
  have hreturn : statement.instruction = .ret →
      (m.frames = [] → m.stack = entry ∧ ∀ abi ∈ program[m.place.1]?.bind (·.abi), m.a = abi.a ∧ m.i = abi.i) ∧
      ∀ frame frames, m.frames = frame :: frames →
        m.stack = returnCells frame.returnTo (returnSize statement) ++ frame.below ∧
          ∀ abi ∈ frame.contract, m.a = abi.a ∧ m.i = abi.i := by
    intro hret
    have hexact := shows_exact hat honly (by rw [hret]; simp) (by rw [hret]; simp) hshows
    subst hexact
    have hsize := hsupported.size hret
    unfold complaints at hpasses
    rw [hret] at hpasses
    replace hpasses := (List.append_eq_nil_iff.mp hpasses).2
    cases calls with
    | cons frame calls =>
      obtain ⟨size, below, frames, hstack, hframes, -, -⟩ := hstands.returns (unbalancedReturn_silent hpasses)
      rw [hframes] at hsize ⊢
      constructor
      · intro hnil
        cases hnil
      · intro frame frames hcons
        cases hcons
        exact ⟨by rw [hstack, hsize _ rfl], by simp⟩
    | nil =>
      obtain ⟨abi, habi, hempty, ha, hi⟩ := procedureReturn_silent hpasses
      change items = [] at hempty
      subst hempty
      generalize hcells : m.stack = cells at hstands ⊢
      generalize hframes : m.frames = frames at hstands hsize ⊢
      cases hstands with
      | entry _ =>
        constructor
        · intro _
          refine ⟨rfl, ?_⟩
          intro abi' habi'
          obtain ⟨hdeclared, -, -⟩ | ⟨hnone, -⟩ := hkind
          · rw [hprocedure, Option.bind_some, ← hdeclared, habi] at habi'
            cases habi'
            exact ⟨ha, hi⟩
          · rw [hnone] at habi
            cases habi
        · intro frame frames hcons
          cases hcons
      | contract index _ _ _ hcallee _ =>
        constructor
        · intro hnil
          cases hnil
        · intro frame frames hcons
          cases hcons
          refine ⟨by rw [hsize _ rfl], ?_⟩
          intro abi' habi'
          rw [habi] at hcallee
          cases habi'
          cases hcallee
          exact ⟨ha, hi⟩
  refine ⟨?_, ?_, ?_, fun hret => ?_, fun hret => ?_, ?_⟩
  · intro himmediate
    have hexact := shows_immediate hat honly (Or.inl himmediate) hshows
    rw [← hsupported.asmA himmediate, validateAccumulator_silent haccumulator himmediate, hexact]
    rfl
  · intro himmediate
    have hexact := shows_immediate hat honly (Or.inr himmediate) hshows
    rw [← hsupported.asmI himmediate, validateIndex_silent hindex himmediate, hexact]
    rfl
  · intro hinstruction abi hcontract
    have hexact := shows_exact hat honly (by rw [hinstruction]; simp) (by rw [hinstruction]; simp) hshows
    obtain ⟨-, -, -, -, -, -, -, -, hdeclared⟩ := contract_declared hinstruction hsupported hcontract
    rw [← habis] at hdeclared
    have hwidths := validateCall_silent hcall hinstruction hdeclared
    rw [hexact] at hwidths
    exact hwidths
  · cases hframes : m.frames with
    | nil => exact ((hreturn hret).1 hframes).1
    | cons frame frames => exact ((hreturn hret).2 frame frames hframes).1
  · cases hframes : m.frames with
    | nil => exact ((hreturn hret).1 hframes).2
    | cons frame frames => exact ((hreturn hret).2 frame frames hframes).2
  · intro hrti
    have hexact := shows_exact hat honly (by rw [hrti]; simp) (by rw [hrti]; simp) hshows
    subst hexact
    unfold complaints at hpasses
    rw [hrti] at hpasses
    obtain ⟨hinterrupt, hcalls, hempty⟩ := handleInterruptReturn_silent (List.append_eq_nil_iff.mp hpasses).2
    change calls = [] at hcalls
    change items = [] at hempty
    subst hcalls hempty
    generalize m.stack = cells at hstands ⊢
    generalize m.frames = frames at hstands ⊢
    cases hstands with
    | entry _ => exact ⟨rfl, rfl⟩
    | contract index _ _ _ hcallee _ =>
      obtain ⟨-, hordinary, -⟩ | ⟨hnone, -⟩ := hkind
      · rw [hsame, hordinary] at hinterrupt
        cases hinterrupt
      · rw [hnone] at hcallee
        cases hcallee

/-! ### One step of a run -/

lemma tracked_of_node (hstands : Stands program profile allocations nodes entry m.place.1 c items calls m.stack m.frames)
    (hnode : (m.place.2, normalizeAtEntry (normalizer c.procedure.statements m.place.2) (actual m items calls)) ∈
      nodes c) : Tracked program profile allocations nodes entry m :=
  ⟨c, items, calls, _, hstands, hnode, Or.inr rfl⟩

lemma IsContext.lt (h : IsContext program profile allocations p c) (hat : (statementAt program (p, i)).isSome) :
    i < c.procedure.statements.length := by
  rw [← (h.statements i).1] at hat
  by_contra hle
  rw [List.getElem?_eq_none (by omega)] at hat
  cases hat

/-- A node of a statement other than a return and a local call leads to where the flow goes on. -/
lemma Certified.goes {nodes : Set Node} {j : ℕ} {output : RuntimeState} (h : Certified c nodes) (hs : (i, s) ∈ nodes)
    (hstatement : c.procedure.statements[i]? = some statement) (hrti : statement.instruction ≠ .rti)
    (hret : statement.instruction ≠ .ret) (htarget : callTarget c i statement = none)
    (houtput : (transfer c.profile statement s).1 = some output)
    (hj : j ∈ successors c.procedure.statements i statement) (hlen : j < c.procedure.statements.length) :
    (j, normalizeAtEntry (normalizer c.procedure.statements j) output) ∈ nodes := by
  have hmerge : (j, output) ∈ merges c i statement s := by
    rw [merges_of_output hrti hret houtput, flow, htarget]
    exact List.mem_map_of_mem hj
  exact h.merged hs hstatement hmerge hlen

/-- Width macros and statements that are no labels go on from the actual state. -/
lemma transfer_shows (hstatement : c.procedure.statements[i]? = some statement)
    (hlabel : isLabel statement.text = false) (h : Shows c i s (actual m items calls)) :
    transfer c.profile statement s = transfer c.profile statement (actual m items calls) := by
  by_cases hwidth : ∀ a w, statement.instruction ≠ .width a w
  · rw [h.exact hstatement hlabel hwidth]
  · push Not at hwidth
    obtain ⟨a, w, hinstruction⟩ := hwidth
    obtain rfl | rfl := h
    · rfl
    · rw [normalizer_of_not_label hstatement hlabel]
      have hdecode : decode statement.mnemonic = .width a w := hinstruction
      have hnormal : normalizeAtEntry statement.mnemonic (actual m items calls) =
          (actual m items calls).setWidths a w := by
        unfold normalizeAtEntry
        rw [hdecode]
      rw [hnormal]
      unfold transfer
      rw [hinstruction]
      cases a <;> cases w <;> rfl

lemma callSize_pos (statement : Statement) : 0 < callSize statement := by
  unfold callSize
  split <;> omega

lemma return_eq {place : Place} {size : ℕ} {below : List Cell} (hstack : m.stack = returnCells place size ++ below)
    (hsize : 0 < size) : m.return size = [{ m with place, stack := below, frames := m.frames.tail }] := by
  have hhead : m.stack.head? = some (.ret place 0) := by
    obtain ⟨size, rfl⟩ := Nat.exists_eq_succ_of_ne_zero (by omega : size ≠ 0)
    simp [hstack, returnCells, List.range_succ_eq_map]
  have hlength : (returnCells place size).length = size := by simp [returnCells]
  have htake : m.stack.take size = returnCells place size := by
    rw [hstack, List.take_left' hlength]
  have hdrop : m.stack.drop size = below := by
    rw [hstack, List.drop_left' hlength]
  unfold Machine.return
  rw [hhead]
  dsimp only
  rw [if_pos htake, hdrop]

section Node

variable (hchecked : Checked program profile allocations nodes)
  (hstatement : statementAt program m.place = some statement)
  (hstands : Stands program profile allocations nodes entry m.place.1 c items calls m.stack m.frames)
  (hnode : (m.place.2, s) ∈ nodes c) (hshows : Shows c m.place.2 s (actual m items calls))
  (hsupported : Supported program image m statement) (hstep : m' ∈ steps program image m)
  (hnext : (statementAt program m'.place).isSome)
include hchecked hstatement hstands hnode hshows hsupported hstep hnext

/-- **A plain statement**: the node leads to the next one. -/
lemma tracked_plain (hvisible : Seen program m) (hplain : IsPlain statement) :
    Tracked program profile allocations nodes entry m' := by
  have hcontext := hstands.isContext
  have hcert := hchecked.of_context hcontext
  have hat : c.procedure.statements[m.place.2]? = some statement :=
    (hcontext.statements m.place.2).1.trans hstatement
  have honly := hchecked.labelOnly hstatement
  have hkinds := hplain
  unfold IsPlain at hkinds
  simp only [List.mem_cons, List.not_mem_nil, or_false, not_or] at hkinds
  obtain ⟨hcall, hret, hrti, hstp, hjump, hbranch, hterminal⟩ := hkinds
  have hsuccessor : m.place.2 + 1 < c.procedure.statements.length →
      m.place.2 + 1 ∈ successors c.procedure.statements m.place.2 statement :=
    mem_successors_next (by simp [hret, hrti, hstp, hjump])
  by_cases hlabel : isLabel statement.text = true
  · have hother := (honly hlabel).1
    have hmoves : m' = m.next := by
      replace hstep := mem_stepsOver hstatement hstep
      unfold stepsOver at hstep
      rw [hother] at hstep
      have hneutral : isNeutral statement = true := by simp [isNeutral, hlabel]
      rw [hneutral] at hstep
      exact List.mem_singleton.mp hstep
    subst hmoves
    have hlen := hcontext.lt (i := m.place.2 + 1) hnext
    have houtput : (transfer c.profile statement s).1 = some s := by
      unfold transfer
      rw [hother]
    have hseen := hcert.goes hnode hat hrti hret (callTarget_of_ne hcall) houtput (hsuccessor hlen) hlen
    exact ⟨c, items, calls, _, hstands, hseen, hshows.past_label hat hlabel honly⟩
  · rw [Bool.not_eq_true] at hlabel
    have hsame := transfer_shows hat hlabel hshows
    have hpasses := hcert.passes _ hnode statement hat
    rw [complaints_of_plain hrti hret, List.append_eq_nil_iff] at hpasses
    have hsilent : (transfer c.profile statement (actual m items calls)).2 = [] := by
      rw [← hsame]
      exact hpasses.2
    obtain ⟨hplace, items', houtput, hstands'⟩ :=
      transfer_simulates hstatement hplain hstands hsilent hsupported hvisible hstep
    rw [← hsame] at houtput
    rw [hplace] at hnext
    have hlen := hcontext.lt hnext
    have hseen := hcert.goes hnode hat hrti hret (callTarget_of_ne hcall) houtput (hsuccessor hlen) hlen
    have hfirst : m'.place.1 = m.place.1 := by rw [hplace]
    have hsecond : m'.place.2 = m.place.2 + 1 := by rw [hplace]
    rw [← hfirst] at hstands'
    rw [← hsecond] at hseen
    exact tracked_of_node hstands' hseen

/-- **A jump or a branch**: the node leads to the target, which the linter finds. -/
lemma tracked_jump (hjump : statement.instruction = .jump ∨ statement.instruction = .branch) :
    Tracked program profile allocations nodes entry m' := by
  have hcontext := hstands.isContext
  have hcert := hchecked.of_context hcontext
  obtain ⟨hstatements, hall⟩ := hcontext.statements m.place.2
  have hat : c.procedure.statements[m.place.2]? = some statement := hstatements.trans hstatement
  have honly := hchecked.labelOnly hstatement
  have hrti : statement.instruction ≠ .rti := by obtain h | h := hjump <;> simp [h]
  have hret : statement.instruction ≠ .ret := by obtain h | h := hjump <;> simp [h]
  have hcall : statement.instruction ≠ .call := by obtain h | h := hjump <;> simp [h]
  have hexact : s = actual m items calls := by
    refine shows_exact hat honly ?_ ?_ hshows
    · obtain h | h := hjump <;> simp [h]
    · obtain h | h := hjump <;> simp [h]
  have houtput : (transfer c.profile statement s).1 = some (actual m items calls) := by
    rw [hexact]
    unfold transfer
    obtain h | h := hjump <;> rw [h]
  have hgoes : ∀ j, j ∈ successors c.procedure.statements m.place.2 statement →
      m' = m.goto (m.place.1, j) → Tracked program profile allocations nodes entry m' := by
    intro j hj hm'
    subst hm'
    have hlen := hcontext.lt hnext
    exact tracked_of_node (m := m.goto (m.place.1, j)) hstands
      (hcert.goes hnode hat hrti hret (callTarget_of_ne hcall) houtput hj hlen)
  have htarget : ∀ target ∈ image.target m.place, m' = m.goto target →
      Tracked program profile allocations nodes entry m' := by
    intro target hsome hm'
    have hnames := hsupported.names target hsome
    have hresolved : resolveTarget c.procedure.statements m.place.2 statement.operand = some target.2 ∧
        target.1 = m.place.1 := by
      rw [hall]
      exact hnames.1 hjump
    refine hgoes target.2 (mem_successors_target hjump hresolved.1) ?_
    rw [hm', ← hresolved.2]
  replace hstep := mem_stepsOver hstatement hstep
  unfold stepsOver at hstep
  obtain h | h := hjump
  · rw [h] at hstep
    obtain ⟨target, hsome, rfl⟩ := List.mem_map.mp hstep
    exact htarget target (Option.mem_toList.mp hsome) rfl
  · rw [h] at hstep
    obtain rfl | hstep := List.mem_cons.mp hstep
    · have hlen := hcontext.lt (i := m.place.2 + 1) hnext
      exact hgoes (m.place.2 + 1) (mem_successors_next (by simp [h]) hlen) rfl
    · obtain ⟨target, hsome, rfl⟩ := List.mem_map.mp hstep
      exact htarget target (Option.mem_toList.mp hsome) rfl

/-- **A call**: the node leads to the label, or the procedure has an analysis of its own. -/
lemma tracked_call (hcall : statement.instruction = .call) :
    Tracked program profile allocations nodes entry m' := by
  have hcontext := hstands.isContext
  have hcert := hchecked.of_context hcontext
  obtain ⟨hstatements, hall⟩ := hcontext.statements m.place.2
  have hat : c.procedure.statements[m.place.2]? = some statement := hstatements.trans hstatement
  have honly := hchecked.labelOnly hstatement
  have hexact := shows_exact hat honly (by rw [hcall]; simp) (by rw [hcall]; simp) hshows
  have hrti : statement.instruction ≠ .rti := by simp [hcall]
  have hret : statement.instruction ≠ .ret := by simp [hcall]
  have houtput : (transfer c.profile statement s).1 = some (actual m items calls) := by
    rw [transfer_call hcall, hexact]
  replace hstep := mem_stepsOver hstatement hstep
  unfold stepsOver at hstep
  rw [hcall] at hstep
  obtain ⟨target, htarget, rfl⟩ := List.mem_map.mp hstep
  rw [Option.mem_toList] at htarget
  have hnames := (hsupported.names target htarget).2 hcall
  obtain ⟨hresolved, hfirst⟩ | ⟨hresolved, hzero, callee, hcallee, hkind, habi, hdeclared⟩ := hnames
  · -- A label of the procedure.
    obtain ⟨q, j⟩ := target
    change q = m.place.1 at hfirst
    subst hfirst
    have hlen := hcontext.lt (i := j) hnext
    have hcallTarget : callTarget c m.place.2 statement = some j := by
      rw [callTarget, if_pos hcall, hall]
      exact hresolved
    have hmerge : (j, { actual m items calls with calls := ⟨m.place.2 + 1, items⟩ :: calls }) ∈
        merges c m.place.2 statement s := by
      rw [merges_of_output hrti hret houtput, flow, hcallTarget]
      exact List.mem_singleton_self _
    have hcontract : contract program image m.place statement = none := by
      unfold contract
      rw [hresolved]
    rw [hcontract]
    exact tracked_of_node (m := m.call (callSize statement) none (m.place.1, j))
      (hstands.call (m.place.2 + 1) (callSize_pos statement)) (hcert.merged hnode hat hmerge hlen)
  · -- Another procedure, by its contract.
    obtain ⟨q, j⟩ := target
    change j = 0 at hzero
    subst hzero
    obtain ⟨abi, habi⟩ := Option.isSome_iff_exists.mp habi
    have hcontract : contract program image m.place statement = some abi := by
      unfold contract
      rw [hresolved, htarget, Option.bind_some, hcallee, Option.bind_some, habi]
    let analysis : Context := ⟨profile, callee, some abi, abi, declaredAbis program, allocations⟩
    have hanalysis : IsContext program profile allocations q analysis := by
      refine ⟨callee, hcallee, ?_⟩
      unfold contexts
      rw [hkind, habi]
      exact List.mem_singleton_self _
    obtain ⟨ha, hi⟩ := (tracked_agrees hchecked ⟨c, items, calls, s, hstands, hnode, hshows⟩ hstatement
      hsupported).call hcall abi hcontract
    have hresumes : ∀ y ∈ arrival c (m.place.2 + 1) ⟨abi.a, abi.i, items, calls⟩, y ∈ nodes c := by
      intro y hy
      unfold arrival at hy
      split at hy
      case isFalse => cases hy
      case isTrue hlen =>
        cases hy
        rw [← ha, ← hi]
        have hnone : callTarget c m.place.2 statement = none := by
          rw [callTarget, if_pos hcall, hall]
          exact hresolved
        exact hcert.goes hnode hat hrti hret hnone houtput (mem_successors_next (by simp [hcall]) hlen) hlen
    rw [hcontract]
    have hstands' := hstands.contract (m.place.2 + 1) (callSize_pos statement) hanalysis rfl hresumes
    have hlen := hanalysis.lt (i := 0) hnext
    have hstart : (0, initial analysis) ∈ nodes analysis := by
      refine (hchecked.of_context hanalysis).start ?_
      intro hempty
      rw [hempty] at hlen
      exact absurd hlen (by simp)
    refine ⟨analysis, [], [], initial analysis, hstands', hstart, Or.inl ?_⟩
    unfold initial actual
    change RuntimeState.mk abi.a abi.i [] [] = ⟨m.a, m.i, [], []⟩
    rw [ha, hi]

/-- **A return**: the analysis of the procedure that is returned to goes on. -/
lemma tracked_return (hentry : ∀ cell ∈ entry, cell.isReturn = false) (hret : statement.instruction = .ret) :
    Tracked program profile allocations nodes entry m' := by
  have hcontext := hstands.isContext
  have hcert := hchecked.of_context hcontext
  have hat : c.procedure.statements[m.place.2]? = some statement :=
    (hcontext.statements m.place.2).1.trans hstatement
  have honly := hchecked.labelOnly hstatement
  have hexact := shows_exact hat honly (by rw [hret]; simp) (by rw [hret]; simp) hshows
  subst hexact
  have hsize := hsupported.size hret
  have hpasses := hcert.passes _ hnode statement hat
  unfold complaints at hpasses
  rw [hret] at hpasses
  replace hpasses := (List.append_eq_nil_iff.mp hpasses).2
  replace hstep := mem_stepsOver hstatement hstep
  unfold stepsOver at hstep
  rw [hret] at hstep
  dsimp only at hstep
  cases calls with
  | cons frame calls =>
    have hstack : items = frame.stack := unbalancedReturn_silent hpasses
    obtain ⟨size, below, frames, hcells, hframes, hpos, hbelow⟩ := hstands.returns hstack
    rw [hframes] at hsize
    rw [hsize _ rfl, return_eq hcells hpos, hframes] at hstep
    obtain rfl := List.mem_singleton.mp hstep
    have hlen := hcontext.lt (i := frame.returnIndex) hnext
    have hmerge : (frame.returnIndex, actual m items calls) ∈
        merges c m.place.2 statement (actual m items (frame :: calls)) := by
      simp [merges, hret, actual, hstack]
    exact tracked_of_node hbelow (hcert.merged hnode hat hmerge hlen)
  | nil =>
    obtain ⟨abi, habi, hempty, ha, hi⟩ := procedureReturn_silent hpasses
    change items = [] at hempty
    subst hempty
    generalize hcells : m.stack = cells at hstands
    generalize hframes : m.frames = frames at hstands hsize
    cases hstands with
    | entry _ =>
      exfalso
      unfold Machine.return at hstep
      rw [hcells] at hstep
      split at hstep
      case _ place octet hhead =>
        have := hentry _ (List.mem_of_head? hhead)
        cases this
      case _ => cases hstep
    | @contract p c₀ items₀ calls₀ below frames₀ index size q callee abi' hpos hcaller _ hcallee hresumes =>
      rw [habi] at hcallee
      cases hcallee
      rw [hsize _ rfl, return_eq hcells hpos, hframes] at hstep
      obtain rfl := List.mem_singleton.mp hstep
      have hlen := hcaller.isContext.lt (i := index) hnext
      refine tracked_of_node hcaller (hresumes _ ?_)
      unfold arrival actual
      rw [if_pos hlen, Option.mem_some_iff]
      change _ = (index, normalizeAtEntry _ (RuntimeState.mk m.a m.i items₀ calls₀))
      have ha' : m.a = abi.a := ha
      have hi' : m.i = abi.i := hi
      rw [ha', hi']

end Node

/-- **One step**: its state belongs to a node again. -/
theorem tracked_step (hchecked : Checked program profile allocations nodes)
    (hentry : ∀ cell ∈ entry, cell.isReturn = false)
    (h : Tracked program profile allocations nodes entry m) (hstatement : statementAt program m.place = some statement)
    (hsupported : Supported program image m statement) (hvisible : Seen program m)
    (hstep : m' ∈ steps program image m) (hnext : (statementAt program m'.place).isSome) : Tracked program profile allocations nodes entry m' := by
  obtain ⟨c, items, calls, s, hstands, hnode, hshows⟩ := h
  by_cases hplain : IsPlain statement
  · exact tracked_plain hchecked hstatement hstands hnode hshows hsupported hstep hnext hvisible hplain
  · unfold IsPlain at hplain
    simp only [not_not, List.mem_cons, List.not_mem_nil, or_false] at hplain
    have hends : statement.instruction ∉ [.rti, .stp, .terminalMacro] := by
      intro hend
      replace hstep := mem_stepsOver hstatement hstep
      unfold stepsOver at hstep
      simp only [List.mem_cons, List.not_mem_nil, or_false] at hend
      obtain hend | hend | hend := hend <;> rw [hend] at hstep <;> cases hstep
    simp only [List.mem_cons, List.not_mem_nil, or_false, not_or] at hends
    obtain hcall | hret | hrti | hstp | hjump | hbranch | hterminal := hplain
    · exact tracked_call hchecked hstatement hstands hnode hshows hsupported hstep hnext hcall
    · exact tracked_return hchecked hstatement hstands hnode hshows hsupported hstep hnext hentry hret
    · exact absurd hrti hends.1
    · exact absurd hstp hends.2.1
    · exact tracked_jump hchecked hstatement hstands hnode hshows hsupported hstep hnext (Or.inl hjump)
    · exact tracked_jump hchecked hstatement hstands hnode hshows hsupported hstep hnext (Or.inr hbranch)
    · exact absurd hterminal hends.2.2

/-- The entry of a procedure belongs to the first node of an analysis. -/
lemma tracked_enters (hchecked : Checked program profile allocations nodes) (h : Enters program m)
    (hstatement : statementAt program m.place = some statement) :
    Tracked program profile allocations nodes m.stack m := by
  obtain ⟨procedure, hprocedure, hwidths⟩ := h.widths
  have hanalysis : ∃ c ∈ contexts profile allocations (declaredAbis program) procedure, c.entry = ⟨m.a, m.i⟩ := by
    unfold contexts
    cases hkind : procedure.kind with
    | ordinary =>
      rw [hwidths hkind]
      exact ⟨_, List.mem_singleton_self _, rfl⟩
    | interrupt =>
      refine ⟨_, List.mem_flatMap.mpr ⟨m.a, ?_, List.mem_map.mpr ⟨m.i, ?_, rfl⟩⟩, rfl⟩
      · cases m.a <;> decide
      · cases m.i <;> decide
  obtain ⟨c, hc, hwidths⟩ := hanalysis
  have hcontext : IsContext program profile allocations m.place.1 c := ⟨procedure, hprocedure, hc⟩
  have hat : c.procedure.statements[m.place.2]? = some statement :=
    (hcontext.statements m.place.2).1.trans hstatement
  have hstart : (0, initial c) ∈ nodes c := by
    refine (hchecked.of_context hcontext).start ?_
    intro hempty
    rw [hempty] at hat
    cases hat
  refine ⟨c, [], [], initial c, ?_, by rw [h.index]; exact hstart, Or.inl ?_⟩
  · rw [h.frames]
    exact Stands.entry hcontext
  · unfold initial actual
    rw [hwidths]

/-- **A run**: every state belongs to a node. -/
theorem reaches_tracked (hchecked : Checked program profile allocations nodes) {m₀ : Machine}
    (henters : Enters program m₀) (hreaches : Reaches program image m₀ m) :
    Tracked program profile allocations nodes m₀.stack m ∧ Proceeds program image m := by
  induction hreaches with
  | start hproceeds =>
    have ⟨statement, hstatement, _⟩ := hproceeds
    exact ⟨tracked_enters hchecked henters hstatement, hproceeds⟩
  | @step _ m' _ hvisible hstep hproceeds ih =>
    obtain ⟨htracked, statement, hstatement, hsupported⟩ := ih
    have ⟨ahead, hahead, _⟩ := hproceeds
    have hnext : (statementAt program m'.place).isSome := by
      rw [hahead]
      rfl
    exact ⟨tracked_step hchecked henters.stack htracked hstatement hsupported hvisible hstep hnext, hproceeds⟩

end Runs

/-! ### Sources that pass -/

section Sources

variable {files : List (List String × List SourceText.Text)} {options : Options} {fuel : ℕ}

lemma checked_of_lint (h : lintWorkspace files options fuel = some []) (profile : Profile) :
    ∃ nodes, Checked (program files options profile) profile (collectAllocations files) nodes := by
  have hcertified : ∀ c : Context, ∃ nodes : Set Node, ∀ procedure ∈ program files options profile,
      c ∈ contexts profile (collectAllocations files) (declaredAbis (program files options profile)) procedure →
        Certified c nodes := by
    intro c
    by_cases hc : analyzeProcedure c fuel = some []
    · obtain ⟨nodes, hnodes⟩ := certified_of_analysis hc
      exact ⟨nodes, fun _ _ _ => hnodes⟩
    · exact ⟨∅, fun procedure hprocedure hmem => absurd (analyses_of_lint h procedure hprocedure c hmem) hc⟩
  choose nodes hnodes using hcertified
  exact ⟨nodes, fun procedure hprocedure c hc => hnodes c procedure hprocedure hc, program_labels⟩

/-- **Widths and stacks**: where the linter ends without a diagnostic, a run from the entry of a procedure agrees
with the declarations at every statement, as long as the linter sees its steps. -/
theorem widths_sound (h : lintWorkspace files options fuel = some []) (profile : Profile) (image : Image)
    {m₀ m : Machine} (henters : Enters (program files options profile) m₀)
    (hreaches : Reaches (program files options profile) image m₀ m) :
    ∃ statement ∈ statementAt (program files options profile) m.place,
      Agrees (program files options profile) image m₀.stack m statement := by
  obtain ⟨nodes, hchecked⟩ := checked_of_lint h profile
  obtain ⟨htracked, statement, hstatement, hsupported⟩ := reaches_tracked hchecked henters hreaches
  exact ⟨statement, hstatement, tracked_agrees hchecked htracked hstatement hsupported⟩

end Sources

/-! ### A run through a local call and another procedure -/

def served : List (List String × List SourceText.Text) :=
  [(["src", "served.asm"], [".proc caller", "  .a8", "  .i16", "  php", "  m16", "  jsr helper", "  lda #$1234",
    "  plp_m8_i16", "  jsr @local", "  rts", "@local:", "  m8", "  lda #$12", "  rts", ".endproc",
    ".proc helper", "  .a16", "  .i16", "  pha", "  pla", "  rts", ".endproc"].map String.toList)]

/-- The calls of `caller` at its statements 4 and 7. -/
def servedImage : Image where
  target place := if place = (0, 4) then some (1, 0) else if place = (0, 7) then some (0, 9) else none
  address place := if place = (0, 5) then 0x8005 else 0x800c
  immediate _ := 0

def servedEntry : Machine := ⟨(0, 0), .eight, .sixteen, [.data, .data], []⟩

/-- At the return of `caller`. -/
def servedReturn : Machine := { servedEntry with place := (0, 8) }

/-- The return of `caller` finds the widths and the stack of its entry. -/
theorem widths_sound_served :
    ∃ statement ∈ statementAt (program served ⟨true⟩ .normal) servedReturn.place,
      Agrees (program served ⟨true⟩ .normal) servedImage servedEntry.stack servedReturn statement := by
  have hlint : lintWorkspace served ⟨true⟩ 40 = some [] := by decide +kernel
  have henters : Enters (program served ⟨true⟩ .normal) servedEntry :=
    ⟨rfl, rfl, by decide, by decide +kernel⟩
  have hreaches : Reaches (program served ⟨true⟩ .normal) servedImage servedEntry servedReturn :=
    reaches_of_after (n := 17) (by decide +kernel) (by decide +kernel)
  exact widths_sound hlint .normal servedImage henters hreaches

/-! ### A local subroutine that pulls what its caller saved -/

def borrow : List (List String × List SourceText.Text) :=
  [(["src", "borrow.asm"], [".proc borrow", "  .a16", "  .i16", "  php", "  jsr @restore", "  plp_m16_i16", "  rts",
    "@restore:", "  plp_m16_i16", "  lda #$1234", "  php", "  rts", ".endproc"].map String.toList)]

/-- The procedure is assembled at `$8020`, so its call at `$8021` pushes `$8023`. -/
def borrowImage : Image where
  target place := if place = (0, 3) then some (0, 6) else none
  address _ := 0x8023
  immediate _ := 0

def borrowEntry : Machine := ⟨(0, 0), .sixteen, .sixteen, [.data, .data], []⟩

/-- At `lda #$1234`: the status is the low octet of the return address, with the bit M. -/
def borrowed : Machine :=
  ⟨(0, 8), .eight, .sixteen, [.ret (0, 4) 1, .status .sixteen .sixteen, .data, .data],
    [⟨(0, 4), 2, [.status .sixteen .sixteen, .data, .data], none⟩]⟩

/-- The linter has no diagnostic, and the immediate operand of sixteen bits is met with an accumulator of eight. -/
theorem borrowed_status :
    lintWorkspace borrow ⟨true⟩ 40 = some [] ∧ Enters (program borrow ⟨true⟩ .normal) borrowEntry ∧
      Relation.ReflTransGen (fun m m' => m' ∈ steps (program borrow ⟨true⟩ .normal) borrowImage m)
        borrowEntry borrowed ∧
      ∃ statement ∈ statementAt (program borrow ⟨true⟩ .normal) borrowed.place,
        ¬ Agrees (program borrow ⟨true⟩ .normal) borrowImage borrowEntry.stack borrowed statement := by
  refine ⟨by decide +kernel, ⟨rfl, rfl, by decide, by decide +kernel⟩, runs_of_after (n := 6) (by decide +kernel), ?_⟩
  have hstatement : ∃ statement ∈ statementAt (program borrow ⟨true⟩ .normal) borrowed.place,
      accumulatorImmediate statement = true := by decide +kernel
  obtain ⟨statement, hmem, himmediate⟩ := hstatement
  refine ⟨statement, hmem, ?_⟩
  intro hagrees
  have hdeclared : (declaredAt (program borrow ⟨true⟩ .normal) borrowed.place).1 = some .sixteen := by decide +kernel
  have hwidth := hagrees.accumulator himmediate
  rw [hdeclared] at hwidth
  cases hwidth

/-! ### A restore macro that no path reaches -/

def skipped : List (List String × List SourceText.Text) :=
  [(["src", "skipped.asm"], [".proc skipped", "  .a16", "  .i16", "  bra @after", "  plp_m8_i8", "@after:",
    "  lda #$12", "  rts", ".endproc"].map String.toList)]

/-- The linter has no diagnostic, although the assembler takes the widths of the macro to be declared behind it and
the parser does not: the operand has eight bits there, and the accumulator has sixteen. -/
theorem skipped_restore :
    lintWorkspace skipped ⟨true⟩ 40 = some [] ∧
      (declaredAt (program skipped ⟨true⟩ .normal) (0, 5)).1 = some .eight ∧
      ∀ statement ∈ statementAt (program skipped ⟨true⟩ .normal) (0, 5),
        accumulatorImmediate statement = true ∧ statement.asmA = some .sixteen := by
  refine ⟨by decide +kernel, by decide +kernel, by decide +kernel⟩

end SnesModem.Asm.WidthSoundness
