import SnesModem.Lib.WorklistWays
import SnesModem.Rust.AsmLintSearch
import SnesModem.Rust.AsmLintParse
import Mathlib.Algebra.BigOperators.Group.Finset.Basic
import Mathlib.Algebra.Order.BigOperators.Group.Finset
import Mathlib.Algebra.Order.BigOperators.Group.List
import Mathlib.Algebra.Order.Group.Nat
import Mathlib.Data.Fintype.Card
import Mathlib.Data.Set.Finite.List
import Mathlib.Logic.Relation

/-!
# When the width linter ends

* `Recursive`: on the ways that the analysis follows, a local call is active more and more often;
* `returns_unless_recursive`: the analysis ends for all other procedures, and for no such one;
* `Flows`, `CallsTo`, `Level`: the control flow, over local calls that return;
* `calledAgain_of_recursive`: a call that recurs is reached again from its own target.
-/

namespace SnesModem.Rust.AsmLint

open Relation (TransGen ReflTransGen)
open SnesModem.Lib.Worklist (init search search_zero search_succ search_ends search_closed search_starts search_stays
  keys_nodup start_mem_seen seen_invariant along Followed mem_seen_iff)

/-- The analysis of the procedure ends. -/
def Returns (c : Context) : Prop := ∃ fuel, (analyzeProcedure c fuel).isSome

/-- How often the local call is active. -/
def active (x : Node) (call : ℕ) : ℕ := (x.2.calls.map (·.returnIndex)).count (call + 1)

/-- The local call is active more and more often on the ways from the entry: through statements and branches, into the
targets of local calls, and behind a call from an `rts` or `rtl` that finds the stack as the call left it.  Where ways
meet at one statement with the same active calls, only the first goes on. -/
def Recurs (c : Context) (call : ℕ) : Prop :=
  ∀ n, ∃ way x, Followed key (next c) (0, initial c) way ∧ along (next c) (0, initial c) way = some x ∧
    n ≤ active x call

def Recursive (c : Context) : Prop := ∃ call, Recurs c call

/-! ### Control flow -/

/-- Past the statement the flow goes on within the call level. -/
def Flows (c : Context) (i j : ℕ) : Prop :=
  ∃ statement, c.procedure.statements[i]? = some statement ∧
    statement.instruction ∉ [.ret, .rti, .stp, .terminalMacro] ∧ callTarget c i statement = none ∧
    j ∈ successors c.procedure.statements i statement ∧ j < c.procedure.statements.length

/-- The statement is a local call. -/
def CallsTo (c : Context) (i t : ℕ) : Prop :=
  ∃ statement, c.procedure.statements[i]? = some statement ∧ callTarget c i statement = some t ∧
    t < c.procedure.statements.length

def IsReturn (c : Context) (i : ℕ) : Prop :=
  ∃ statement, c.procedure.statements[i]? = some statement ∧ statement.instruction = .ret

/-- Within one call level the second statement is reached, over local calls that can return. -/
inductive Level (c : Context) : ℕ → ℕ → Prop
  | refl (start : ℕ) : Level c start start
  | flow {start i j : ℕ} : Level c start i → Flows c i j → Level c start j
  | past {start i t j : ℕ} : Level c start i → CallsTo c i t → Level c t j → IsReturn c j → Level c start (i + 1)

/-- From the target of one local call another one is reached. -/
def CallsAgain (c : Context) (i i' : ℕ) : Prop := ∃ t, CallsTo c i t ∧ Level c t i' ∧ ∃ t', CallsTo c i' t'

/-- A local call that the procedure reaches. -/
def Called (c : Context) (i : ℕ) : Prop :=
  ∃ first, Level c 0 first ∧ (∃ t, CallsTo c first t) ∧ ReflTransGen (CallsAgain c) first i

/-- A local call is reached, and reached again from its own target. -/
def CalledAgain (c : Context) : Prop := ∃ i, Called c i ∧ TransGen (CallsAgain c) i i

/-! ### One node and the next -/

section Next

variable {c : Context} {profile : Profile} {x y : Node} {statement : Statement} {state output : RuntimeState}

@[simp] lemma normalizeAtEntry_calls (mnemonic : String) (state : RuntimeState) :
    (normalizeAtEntry mnemonic state).calls = state.calls := by
  unfold normalizeAtEntry
  split <;> rfl

@[simp] lemma setWidths_calls (a i : Option Width) : (state.setWidths a i).calls = state.calls := rfl

@[simp] lemma push_calls (item : StackItem) : (state.push item).calls = state.calls := rfl

lemma applyStatusImmediate_calls (set : Bool) (operand : SourceText.Text) :
    (applyStatusImmediate set operand state).calls = state.calls := by
  unfold applyStatusImmediate
  split <;> rfl

lemma popAccumulator_calls (width : Width) : (popAccumulator profile statement state width).1.calls = state.calls := by
  unfold popAccumulator
  dsimp only
  split <;> rfl

lemma popExpected_calls (item : StackItem) : (popExpected profile statement state item).1.calls = state.calls := by
  unfold popExpected
  dsimp only
  split <;> rfl

lemma popBank_calls : (popBank profile statement state).1.calls = state.calls := by
  unfold popBank
  dsimp only
  split <;> rfl

lemma popDirectPage_calls : (popDirectPage profile statement state).1.calls = state.calls := by
  unfold popDirectPage
  dsimp only
  split <;> rfl

lemma plp_calls : (plp profile statement state).1.calls = state.calls := by
  unfold plp
  dsimp only
  split <;> rfl

lemma restoreStatus_calls (expected : Abi) :
    (restoreStatus profile statement state expected).1.calls = state.calls := by
  unfold restoreStatus
  dsimp only
  split <;> rfl

/-- A statement leaves the active calls. -/
lemma transfer_calls (h : (transfer profile statement state).1 = some output) : output.calls = state.calls := by
  unfold transfer at h
  cases hinstruction : statement.instruction <;> rw [hinstruction] at h <;>
    simp only [Prod.map_fst, Option.some.injEq, reduceCtorEq] at h <;> rw [← h]
  · rfl
  · exact applyStatusImmediate_calls _ _
  · exact applyStatusImmediate_calls _ _
  · rfl
  · rfl
  · rfl
  · rfl
  · rfl
  · rfl
  · rfl
  · exact popAccumulator_calls _
  · exact popExpected_calls _
  · exact popExpected_calls _
  · exact popBank_calls
  · exact popDirectPage_calls
  · exact plp_calls
  · exact restoreStatus_calls _

/-- The flow ends in a statement that stops, and in no other one. -/
lemma transfer_eq_none : (transfer profile statement state).1 = none ↔
    statement.instruction ∈ [.rti, .stp, .terminalMacro] := by
  unfold transfer
  cases statement.instruction <;> simp

lemma callTarget_call {i t : ℕ} (h : callTarget c i statement = some t) : statement.instruction = .call := by
  by_contra hcall
  rw [callTarget, if_neg hcall] at h
  cases h

lemma transfer_call (h : statement.instruction = .call) : (transfer profile statement state).1 = some state := by
  unfold transfer
  rw [h]

lemma mem_next (hy : y ∈ next c x) :
    ∃ statement z, c.procedure.statements[x.1]? = some statement ∧ z ∈ merges c x.1 statement x.2 ∧
      z.1 < c.procedure.statements.length ∧ y.1 = z.1 ∧ y.2.calls = z.2.calls := by
  unfold next at hy
  cases hstatement : c.procedure.statements[x.1]? with
  | none => simp [hstatement] at hy
  | some statement =>
    rw [hstatement] at hy
    obtain ⟨z, hz, harrival⟩ := List.mem_filterMap.mp hy
    unfold arrival at harrival
    split at harrival
    case isTrue hlen =>
      cases harrival
      exact ⟨statement, z, rfl, hz, hlen, rfl, by simp⟩
    case isFalse => cases harrival

/-- **What comes next**: the flow goes on, a local call opens a level, or a local return closes it. -/
theorem next_cases (hy : y ∈ next c x) :
    Flows c x.1 y.1 ∧ y.2.calls = x.2.calls ∨
    CallsTo c x.1 y.1 ∧ y.2.calls = ⟨x.1 + 1, x.2.stack⟩ :: x.2.calls ∨
    IsReturn c x.1 ∧ ∃ frame, x.2.calls = frame :: y.2.calls ∧ y.1 = frame.returnIndex := by
  obtain ⟨statement, z, hstatement, hz, hlen, hindex, hcalls⟩ := mem_next hy
  rw [hindex, hcalls]
  unfold merges at hz
  split at hz
  · simp at hz
  case _ hret =>
    refine Or.inr (Or.inr ⟨⟨statement, hstatement, hret⟩, ?_⟩)
    cases hframes : x.2.calls with
    | nil => simp [hframes] at hz
    | cons frame calls =>
      rw [hframes] at hz
      dsimp only at hz
      split at hz
      · simp at hz
      · rw [List.mem_singleton] at hz
        rw [hz]
        exact ⟨frame, rfl, rfl⟩
  case _ hrti hret =>
    cases htransfer : (transfer c.profile statement x.2).1 with
    | none => simp [htransfer] at hz
    | some output =>
      rw [htransfer] at hz
      change z ∈ flow c x.1 statement output at hz
      unfold flow at hz
      cases htarget : callTarget c x.1 statement with
      | some target =>
        rw [htarget] at hz
        rw [transfer_call (callTarget_call htarget), Option.some.injEq] at htransfer
        rw [List.mem_singleton] at hz
        subst hz htransfer
        exact Or.inr (Or.inl ⟨⟨statement, hstatement, htarget, hlen⟩, rfl⟩)
      | none =>
        rw [htarget] at hz
        obtain ⟨j, hj, rfl⟩ := List.mem_map.mp hz
        have hgoes : (transfer c.profile statement x.2).1 ≠ none := by simp [htransfer]
        rw [ne_eq, transfer_eq_none] at hgoes
        refine Or.inl ⟨⟨statement, hstatement, ?_, htarget, hj, hlen⟩, transfer_calls htransfer⟩
        simp only [List.mem_cons, List.not_mem_nil, or_false, not_or] at hgoes ⊢
        exact ⟨hret, hrti, hgoes.2⟩

/-- Every way that the flow goes on is taken. -/
lemma next_of_flows {j : ℕ} (h : Flows c x.1 j) : ∃ y ∈ next c x, y.1 = j ∧ y.2.calls = x.2.calls := by
  obtain ⟨statement, hstatement, hinstruction, htarget, hj, hlen⟩ := h
  simp only [List.mem_cons, List.not_mem_nil, or_false, not_or] at hinstruction
  obtain ⟨hret, hrti, hstops⟩ := hinstruction
  have hgoes : (transfer c.profile statement x.2).1 ≠ none := by
    rw [ne_eq, transfer_eq_none]
    simp [hrti, hstops]
  obtain ⟨output, htransfer⟩ := Option.ne_none_iff_exists'.mp hgoes
  refine ⟨(j, normalizeAtEntry (normalizer c.procedure.statements j) output), ?_, rfl, ?_⟩
  · unfold next merges
    rw [hstatement]
    dsimp only
    refine List.mem_filterMap.mpr ⟨(j, output), ?_, if_pos hlen⟩
    split
    case _ h => exact absurd h hrti
    case _ h => exact absurd h hret
    · rw [htransfer]
      change _ ∈ flow c x.1 statement output
      unfold flow
      rw [htarget]
      exact List.mem_map_of_mem hj
  · rw [normalizeAtEntry_calls]
    exact transfer_calls htransfer

/-- Every local call is entered. -/
lemma next_of_callsTo {t : ℕ} (h : CallsTo c x.1 t) :
    ∃ y ∈ next c x, y.1 = t ∧ y.2.calls = ⟨x.1 + 1, x.2.stack⟩ :: x.2.calls := by
  obtain ⟨statement, hstatement, htarget, hlen⟩ := h
  have hcall := callTarget_call htarget
  refine ⟨(t, normalizeAtEntry (normalizer c.procedure.statements t)
    { x.2 with calls := ⟨x.1 + 1, x.2.stack⟩ :: x.2.calls }), ?_, rfl, by rw [normalizeAtEntry_calls]⟩
  unfold next merges
  rw [hstatement]
  dsimp only
  refine List.mem_filterMap.mpr ⟨(t, { x.2 with calls := ⟨x.1 + 1, x.2.stack⟩ :: x.2.calls }), ?_, if_pos hlen⟩
  rw [hcall]
  dsimp only
  rw [transfer_call hcall]
  change _ ∈ flow c x.1 statement x.2
  unfold flow
  rw [htarget]
  exact List.mem_singleton_self _

end Next

/-! ### Call stacks -/

/-- A node with an active call was entered by a seen node, which still has the stack of the frame. -/
structure Entered (c : Context) (seen : List Node) (x z : Node) (frame : CallFrame) : Prop where
  mem : z ∈ seen
  returnIndex : frame.returnIndex = z.1 + 1
  stack : frame.stack = z.2.stack
  level : ∃ t, CallsTo c z.1 t ∧ Level c t x.1

/-- Where a seen node comes from. -/
def Placed (c : Context) (seen : List Node) (x : Node) : Prop :=
  x.1 < c.procedure.statements.length ∧
    match x.2.calls with
    | [] => Level c 0 x.1
    | frame :: calls => ∃ z, Entered c seen x z frame ∧ z.2.calls = calls

def AllPlaced (c : Context) (seen : List Node) : Prop := ∀ x ∈ seen, Placed c seen x

section Placed

variable {c : Context} {seen seen' : List Node} {x y z : Node} {frame : CallFrame}

lemma CallsTo.lt {i t : ℕ} (h : CallsTo c i t) : i < c.procedure.statements.length := by
  obtain ⟨statement, hstatement, -⟩ := h
  exact (List.getElem?_eq_some_iff.mp hstatement).1

lemma Placed.mono (h : Placed c seen x) (hsub : ∀ z ∈ seen, z ∈ seen') : Placed c seen' x := by
  refine ⟨h.1, ?_⟩
  have hfrom := h.2
  cases hcalls : x.2.calls with
  | nil => simpa [hcalls] using hfrom
  | cons frame calls =>
    rw [hcalls] at hfrom
    obtain ⟨z, hentered, hz⟩ := hfrom
    exact ⟨z, ⟨hsub z hentered.mem, hentered.returnIndex, hentered.stack, hentered.level⟩, hz⟩

lemma Placed.nil (h : Placed c seen x) (hcalls : x.2.calls = []) : Level c 0 x.1 := by
  have hfrom := h.2
  rw [hcalls] at hfrom
  exact hfrom

lemma Placed.cons {calls : List CallFrame} (h : Placed c seen x) (hcalls : x.2.calls = frame :: calls) :
    ∃ z, Entered c seen x z frame ∧ z.2.calls = calls := by
  have hfrom := h.2
  rw [hcalls] at hfrom
  exact hfrom

/-- A node of the same level, which the flow leads to, comes from the same place. -/
lemma Placed.along (h : Placed c seen x) (hcalls : y.2.calls = x.2.calls) (hy : y.1 < c.procedure.statements.length)
    (hlevel : ∀ start, Level c start x.1 → Level c start y.1) : Placed c seen y := by
  refine ⟨hy, ?_⟩
  rw [hcalls]
  cases hframes : x.2.calls with
  | nil => exact hlevel 0 (h.nil hframes)
  | cons frame calls =>
    obtain ⟨z, hentered, hz⟩ := h.cons hframes
    obtain ⟨t, hcall, ht⟩ := hentered.level
    exact ⟨z, ⟨hentered.mem, hentered.returnIndex, hentered.stack, t, hcall, hlevel t ht⟩, hz⟩

lemma next_lt (hy : y ∈ next c x) : y.1 < c.procedure.statements.length := by
  obtain ⟨statement, z, -, -, hlen, hindex, -⟩ := mem_next hy
  rw [hindex]
  exact hlen

/-- **One more node**: it comes from a seen one. -/
lemma AllPlaced.join (h : AllPlaced c seen) (hx : x ∈ seen) (hy : y ∈ next c x) : AllPlaced c (seen ++ [y]) := by
  have hnew : Placed c seen y := by
    obtain ⟨hflows, hcalls⟩ | ⟨hcall, hcalls⟩ | ⟨hret, frame, hcalls, hindex⟩ := next_cases hy
    · exact (h x hx).along hcalls (next_lt hy) fun start hlevel => hlevel.flow hflows
    · refine ⟨next_lt hy, ?_⟩
      rw [hcalls]
      exact ⟨x, ⟨hx, rfl, rfl, y.1, hcall, Level.refl y.1⟩, rfl⟩
    · obtain ⟨z, hentered, hz⟩ := (h x hx).cons hcalls
      obtain ⟨t, hcall, ht⟩ := hentered.level
      have hreturn : y.1 = z.1 + 1 := hindex.trans hentered.returnIndex
      refine (h z hentered.mem).along hz.symm (next_lt hy) ?_
      intro start hlevel
      rw [hreturn]
      exact hlevel.past hcall ht hret
  intro x' hx'
  obtain hx' | hx' := List.mem_append.mp hx'
  · exact (h x' hx').mono fun z hz => List.mem_append_left _ hz
  · rw [List.mem_singleton] at hx'
    subst hx'
    exact hnew.mono fun z hz => List.mem_append_left _ hz

/-- The call of a frame. -/
def site (frame : CallFrame) : ℕ := frame.returnIndex - 1

lemma Entered.site_eq (h : Entered c seen x z frame) : site frame = z.1 := by
  simp [site, h.returnIndex]

lemma Entered.callsAgain {t : ℕ} (h : Entered c seen x z frame) (hx : CallsTo c x.1 t) : CallsAgain c z.1 x.1 := by
  obtain ⟨t', hcall, hlevel⟩ := h.level
  exact ⟨t', hcall, hlevel, t, hx⟩

/-- **The calls below a call**: each of them is reached by the procedure and reaches this one. -/
lemma sites_below (h : AllPlaced c seen) (calls : List CallFrame) :
    ∀ x ∈ seen, x.2.calls = calls → (∃ t, CallsTo c x.1 t) →
      Called c x.1 ∧ ∀ frame ∈ calls, TransGen (CallsAgain c) (site frame) x.1 := by
  induction calls with
  | nil =>
    intro x hx hcalls hcall
    exact ⟨⟨x.1, (h x hx).nil hcalls, hcall, ReflTransGen.refl⟩, by simp⟩
  | cons frame calls ih =>
    intro x hx hcalls hcall
    obtain ⟨z, hentered, hz⟩ := (h x hx).cons hcalls
    obtain ⟨t, hzcall, -⟩ := hentered.level
    obtain ⟨⟨first, hlevel, hfirst, hreaches⟩, hbelow⟩ := ih z hentered.mem hz ⟨t, hzcall⟩
    obtain ⟨t', hxcall⟩ := hcall
    have hagain := hentered.callsAgain hxcall
    refine ⟨⟨first, hlevel, hfirst, hreaches.tail hagain⟩, ?_⟩
    intro frame' hframe'
    obtain rfl | hframe' := List.mem_cons.mp hframe'
    · rw [hentered.site_eq]
      exact TransGen.single hagain
    · exact (hbelow frame' hframe').tail hagain

/-- A frame returns behind its call. -/
lemma returnIndex_mem (h : AllPlaced c seen) (calls : List CallFrame) :
    ∀ x ∈ seen, x.2.calls = calls →
      ∀ frame ∈ calls, ∃ i < c.procedure.statements.length, frame.returnIndex = i + 1 := by
  induction calls with
  | nil => simp
  | cons frame calls ih =>
    intro x hx hcalls
    obtain ⟨z, hentered, hz⟩ := (h x hx).cons hcalls
    obtain ⟨t, hzcall, -⟩ := hentered.level
    intro frame' hframe'
    obtain rfl | hframe' := List.mem_cons.mp hframe'
    · exact ⟨z.1, hzcall.lt, hentered.returnIndex⟩
    · exact ih z hentered.mem hz frame' hframe'

/-- **Call stacks where no call is reached again**: no two frames return to one place. -/
theorem nodup_returns (h : AllPlaced c seen) (hagain : ¬ CalledAgain c) (calls : List CallFrame) :
    ∀ x ∈ seen, x.2.calls = calls → (calls.map (·.returnIndex)).Nodup := by
  induction calls with
  | nil => simp
  | cons frame calls ih =>
    intro x hx hcalls
    obtain ⟨z, hentered, hz⟩ := (h x hx).cons hcalls
    obtain ⟨t, hzcall, -⟩ := hentered.level
    obtain ⟨hcalled, hbelow⟩ := sites_below h calls z hentered.mem hz ⟨t, hzcall⟩
    refine List.nodup_cons.mpr ⟨?_, ih z hentered.mem hz⟩
    intro hmem
    obtain ⟨frame', hframe', hsame⟩ := List.mem_map.mp hmem
    have hreaches := hbelow frame' hframe'
    have hsite : site frame' = z.1 := by rw [site, hsame, ← site, hentered.site_eq]
    rw [hsite] at hreaches
    exact hagain ⟨z.1, hcalled, hreaches⟩

/-- The places that the frames return to give the call stack. -/
lemma calls_unique (h : AllPlaced c seen) (hkeys : (seen.map key).Nodup) (calls : List CallFrame) :
    ∀ calls', ∀ x ∈ seen, ∀ y ∈ seen, x.2.calls = calls → y.2.calls = calls' →
      calls.map (·.returnIndex) = calls'.map (·.returnIndex) → calls = calls' := by
  induction calls with
  | nil =>
    intro calls' x _ y _ _ _ hsame
    simpa using hsame.symm
  | cons frame calls ih =>
    intro calls' x hx y hy hxcalls hycalls hsame
    cases calls' with
    | nil => simp at hsame
    | cons frame' calls' =>
      simp only [List.map_cons, List.cons.injEq] at hsame
      obtain ⟨hreturn, hrest⟩ := hsame
      obtain ⟨z, hz, hzcalls⟩ := (h x hx).cons hxcalls
      obtain ⟨z', hz', hzcalls'⟩ := (h y hy).cons hycalls
      have hbelow := ih calls' z hz.mem z' hz'.mem hzcalls hzcalls' hrest
      have hindex : z.1 = z'.1 := by
        have := hz.returnIndex
        have := hz'.returnIndex
        omega
      have hkey : key z = key z' := by simp [key, hindex, hzcalls, hzcalls', hbelow]
      have hnode : z = z' := List.inj_on_of_nodup_map hkeys hz.mem hz'.mem hkey
      have hstack : frame.stack = frame'.stack := by rw [hz.stack, hz'.stack, hnode]
      have hframe : frame = frame' := by
        cases frame
        cases frame'
        simp_all
      rw [hframe, hbelow]

end Placed

/-! ### The end -/

section Ends

variable {c : Context}

/-- The statement of a node and the places that its frames return to. -/
def code (c : Context) (x : Node) : ℕ × List (Fin (c.procedure.statements.length + 1)) :=
  (x.1, x.2.calls.map fun frame => Fin.ofNat _ frame.returnIndex)

lemma map_val_ofNat {n : ℕ} {frames : List CallFrame} (h : ∀ f ∈ frames, f.returnIndex ≤ n) :
    (frames.map fun f => Fin.ofNat (n + 1) f.returnIndex).map Fin.val = frames.map (·.returnIndex) := by
  rw [List.map_map]
  refine List.map_congr_left fun f hf => ?_
  simp only [Function.comp_apply, Fin.val_ofNat]
  exact Nat.mod_eq_of_lt (Nat.lt_succ_of_le (h f hf))

lemma map_ofNat_inj {n : ℕ} {xs ys : List CallFrame} (hxs : ∀ f ∈ xs, f.returnIndex ≤ n)
    (hys : ∀ f ∈ ys, f.returnIndex ≤ n)
    (h : xs.map (fun f => Fin.ofNat (n + 1) f.returnIndex) = ys.map fun f => Fin.ofNat (n + 1) f.returnIndex) :
    xs.map (·.returnIndex) = ys.map (·.returnIndex) := by
  rw [← map_val_ofNat hxs, ← map_val_ofNat hys, h]

lemma initial_placed (hne : c.procedure.statements ≠ []) (n : ℕ) :
    AllPlaced c (search key (next c) (0, initial c) n).seen := by
  refine seen_invariant key (AllPlaced c) ?_ (fun seen x y h hx hy => h.join hx hy) n
  intro x hx
  rw [List.mem_singleton] at hx
  subst hx
  exact ⟨List.length_pos_iff.mpr hne, Level.refl 0⟩

/-- The frames of a call stack are those of its calls. -/
lemma calls_length {n : ℕ} {x : Node} (hne : c.procedure.statements ≠ [])
    (hx : x ∈ (search key (next c) (0, initial c) n).seen) :
    x.2.calls.length = ∑ i ∈ Finset.range c.procedure.statements.length, active x i := by
  have hreturns := returnIndex_mem (initial_placed hne n) x.2.calls x hx rfl
  have hcount := Multiset.sum_count_eq_card (s := (Finset.range c.procedure.statements.length).image (· + 1))
    (m := ↑(x.2.calls.map (·.returnIndex))) (by
      intro a ha
      obtain ⟨frame, hframe, rfl⟩ := List.mem_map.mp (Multiset.mem_coe.mp ha)
      obtain ⟨i, hi, hindex⟩ := hreturns frame hframe
      exact Finset.mem_image.mpr ⟨i, Finset.mem_range.mpr hi, hindex.symm⟩)
  rw [Multiset.coe_card, List.length_map, Finset.sum_image (fun i _ j _ h => Nat.succ_injective h)] at hcount
  simp only [Multiset.coe_count] at hcount
  exact hcount.symm

/-- **Without recursion** the depth of the calls is bounded. -/
lemma calls_bounded (hne : c.procedure.statements ≠ []) (hrecursive : ¬ Recursive c) :
    ∃ depth, ∀ n, ∀ x ∈ (search key (next c) (0, initial c) n).seen, x.2.calls.length ≤ depth := by
  have hbound : ∀ i, ∃ bound, ∀ n, ∀ x ∈ (search key (next c) (0, initial c) n).seen, active x i < bound := by
    by_contra hnone
    push Not at hnone
    obtain ⟨i, hi⟩ := hnone
    refine hrecursive ⟨i, fun bound => ?_⟩
    obtain ⟨n, x, hx, hactive⟩ := hi bound
    obtain ⟨way, hfollowed, halong⟩ := mem_seen_iff.mp ⟨n, hx⟩
    exact ⟨way, x, hfollowed, halong, hactive⟩
  choose bound hbound using hbound
  refine ⟨∑ i ∈ Finset.range c.procedure.statements.length, bound i, fun n x hx => ?_⟩
  rw [calls_length hne hx]
  exact Finset.sum_le_sum fun i _ => (hbound i n x hx).le

theorem search_finishes (hne : c.procedure.statements ≠ []) (hrecursive : ¬ Recursive c) :
    ∃ n, (search key (next c) (0, initial c) n).pending = [] := by
  classical
  obtain ⟨depth, hdepth⟩ := calls_bounded hne hrecursive
  have hfinite := List.finite_length_le (Fin (c.procedure.statements.length + 1)) depth
  have hreturns {n : ℕ} {x : Node} (hx : x ∈ (search key (next c) (0, initial c) n).seen) :
      ∀ frame ∈ x.2.calls, frame.returnIndex ≤ c.procedure.statements.length := by
    intro frame hframe
    obtain ⟨i, hi, hindex⟩ := returnIndex_mem (initial_placed hne n) x.2.calls x hx rfl frame hframe
    omega
  refine search_ends (code c) (Finset.range c.procedure.statements.length ×ˢ hfinite.toFinset) ?_ ?_
  · intro n x hx
    rw [Finset.mem_product, Finset.mem_range, Set.Finite.mem_toFinset]
    refine ⟨(initial_placed hne n x hx).1, ?_⟩
    show (List.map _ x.2.calls).length ≤ depth
    rw [List.length_map]
    exact hdepth n x hx
  · intro n x hx y hy hcode
    obtain ⟨hindex, hplaces⟩ := Prod.mk.inj hcode
    have hkeys := keys_nodup key (next c) (0, initial c) n
    have hcalls := calls_unique (initial_placed hne n) hkeys x.2.calls y.2.calls x hx y hy rfl rfl
      (map_ofNat_inj (hreturns hx) (hreturns hy) hplaces)
    exact List.inj_on_of_nodup_map hkeys hx hy (by simp [key, hindex, hcalls])

lemma next_empty (hempty : c.procedure.statements = []) (x : Node) : next c x = [] := by
  unfold next
  rw [hempty]
  rfl

/-- The analysis ends if the search does. -/
lemma returns_iff : Returns c ↔ ∃ n, (search key (next c) (0, initial c) n).pending = [] := by
  unfold Returns analyzeProcedure
  by_cases hne : c.procedure.statements = []
  · refine ⟨fun _ => ⟨1, ?_⟩, fun _ => ⟨0, by simp [hne]⟩⟩
    rw [search_succ, search_zero]
    simp [Lib.Worklist.visit, init, next_empty hne]
  · constructor
    · rintro ⟨fuel, hsome⟩
      rw [if_neg hne, Option.isSome_map] at hsome
      obtain ⟨w, hloop⟩ := Option.isSome_iff_exists.mp hsome
      obtain ⟨n, -, hpending⟩ := loop_tracks 0 start_tracks hloop
      exact ⟨n, hpending⟩
    · rintro ⟨n, hpending⟩
      obtain ⟨w, hloop⟩ := loop_ends n 0 start_tracks (by rw [Nat.zero_add]; exact hpending)
      exact ⟨n + 1, by simp [hne, hloop]⟩

/-- What is seen at any time is seen in the end. -/
lemma mem_seen_of_ended {n m : ℕ} {x : Node} (hpending : (search key (next c) (0, initial c) n).pending = [])
    (hx : x ∈ (search key (next c) (0, initial c) m).seen) : x ∈ (search key (next c) (0, initial c) n).seen := by
  rcases Nat.le_total m n with hle | hle
  · exact (search_starts hle).subset hx
  · rwa [search_stays hpending hle] at hx

/-- The call of `@next` stands behind a subroutine whose `rts` finds another stack. -/
def gapProcedure : Procedure :=
  let path := ["src", "gap.asm"]
  ⟨"gap".toList, ⟨path, 1⟩,
    [⟨⟨path, 2⟩, ".a8".toList, ".a8", [], some .eight, none⟩,
      ⟨⟨path, 3⟩, ".i16".toList, ".i16", [], some .eight, some .sixteen⟩,
      ⟨⟨path, 4⟩, "@next:".toList, "@next:", [], some .eight, some .sixteen⟩,
      ⟨⟨path, 5⟩, "jsr @bad".toList, "jsr", "@bad".toList, some .eight, some .sixteen⟩,
      ⟨⟨path, 6⟩, "jsr @next".toList, "jsr", "@next".toList, some .eight, some .sixteen⟩,
      ⟨⟨path, 7⟩, "rts".toList, "rts", [], some .eight, some .sixteen⟩,
      ⟨⟨path, 8⟩, "@bad:".toList, "@bad:", [], some .eight, some .sixteen⟩,
      ⟨⟨path, 9⟩, "pha".toList, "pha", [], some .eight, some .sixteen⟩,
      ⟨⟨path, 10⟩, "rts".toList, "rts", [], some .eight, some .sixteen⟩],
    some ⟨.eight, .sixteen⟩, .ordinary⟩

def gapContext : Context :=
  ⟨.normal, gapProcedure, some ⟨.eight, .sixteen⟩, ⟨.eight, .sixteen⟩, declaredAbis [gapProcedure], []⟩

example : Returns gapContext := ⟨8, by decide⟩

/-- **A call that recurs** is reached again from its own target. -/
theorem calledAgain_of_recursive (hrecursive : Recursive c) : CalledAgain c := by
  by_contra hagain
  obtain ⟨i, hrecurs⟩ := hrecursive
  obtain ⟨way, x, hfollowed, halong, hactive⟩ := hrecurs 2
  obtain ⟨n, hx⟩ := mem_seen_iff.mpr ⟨way, hfollowed, halong⟩
  by_cases hne : c.procedure.statements = []
  · have hcalls : x.2.calls = [] := by
      refine seen_invariant key (fun seen => ∀ x ∈ seen, x.2.calls = []) ?_ (fun seen x y _ _ hy => ?_) n x hx
      · exact fun x hx => List.mem_singleton.mp hx ▸ rfl
      · rw [next_empty hne] at hy
        contradiction
    simp [active, hcalls] at hactive
  · have hnodup := nodup_returns (initial_placed hne n) hagain x.2.calls x hx rfl
    have hone := List.nodup_iff_count_le_one.mp hnodup (i + 1)
    unfold active at hactive
    omega

/-- The analysis saw the statement below this many local calls. -/
def Saw (seen : List Node) (i depth : ℕ) : Prop := ∃ x ∈ seen, x.1 = i ∧ x.2.calls.length = depth

/-- The nodes seen lead to nodes seen. -/
def Closed (c : Context) (seen : List Node) : Prop := ∀ x ∈ seen, ∀ y ∈ next c x, ∃ z ∈ seen, key z = key y

variable {seen : List Node} {i j depth : ℕ}

lemma Saw.flows (hclosed : Closed c seen) (h : Saw seen i depth) (hflows : Flows c i j) : Saw seen j depth := by
  obtain ⟨x, hx, rfl, hdepth⟩ := h
  obtain ⟨y, hy, rfl, hcalls⟩ := next_of_flows hflows
  obtain ⟨z, hz, hkey⟩ := hclosed x hx y hy
  simp only [key, Prod.mk.injEq] at hkey
  exact ⟨z, hz, hkey.1, by rw [hkey.2, hcalls, hdepth]⟩

lemma Saw.calls (hclosed : Closed c seen) (h : Saw seen i depth) (hcall : CallsTo c i j) :
    Saw seen j (depth + 1) := by
  obtain ⟨x, hx, rfl, hdepth⟩ := h
  obtain ⟨y, hy, rfl, hcalls⟩ := next_of_callsTo hcall
  obtain ⟨z, hz, hkey⟩ := hclosed x hx y hy
  simp only [key, Prod.mk.injEq] at hkey
  exact ⟨z, hz, hkey.1, by rw [hkey.2, hcalls, List.length_cons, hdepth]⟩

/-- Nothing is seen below every number of calls. -/
lemma exists_not_saw (seen : List Node) (i : ℕ) : ∃ bound, ∀ depth, Saw seen i depth → depth ≤ bound := by
  refine ⟨(seen.map fun x => x.2.calls.length).sum, ?_⟩
  rintro depth ⟨x, hx, -, rfl⟩
  exact List.le_sum_of_mem (List.mem_map_of_mem hx)

end Ends

/-! ### A subroutine that calls itself -/

def selfCall : List SourceText.Text :=
  [".proc countdown", "  .a8", "  .i16", "@next:", "  jsr @next", "  rts", ".endproc"].map String.toList

def selfCallProcedure : Procedure :=
  let path := ["src", "countdown.asm"]
  ⟨"countdown".toList, ⟨path, 1⟩,
    [⟨⟨path, 2⟩, ".a8".toList, ".a8", [], some .eight, none⟩,
      ⟨⟨path, 3⟩, ".i16".toList, ".i16", [], some .eight, some .sixteen⟩,
      ⟨⟨path, 4⟩, "@next:".toList, "@next:", [], some .eight, some .sixteen⟩,
      ⟨⟨path, 5⟩, "jsr @next".toList, "jsr", "@next".toList, some .eight, some .sixteen⟩,
      ⟨⟨path, 6⟩, "rts".toList, "rts", [], some .eight, some .sixteen⟩],
    some ⟨.eight, .sixteen⟩, .ordinary⟩

def selfCallContext : Context :=
  ⟨.normal, selfCallProcedure, some ⟨.eight, .sixteen⟩, ⟨.eight, .sixteen⟩, declaredAbis [selfCallProcedure], []⟩

/-- The statement falls through to the next one. -/
lemma selfCall_flows {i : ℕ} (hi : i < 3) : Flows selfCallContext i (i + 1) := by
  obtain rfl | rfl | rfl : i = 0 ∨ i = 1 ∨ i = 2 := by omega
  · exact ⟨_, rfl, by decide, by decide, by decide, by decide⟩
  · exact ⟨_, rfl, by decide, by decide, by decide, by decide⟩
  · exact ⟨_, rfl, by decide, by decide, by decide, by decide⟩

lemma selfCall_calls : CallsTo selfCallContext 3 2 := ⟨_, rfl, by decide, by decide⟩

/-- The label is seen below any number of its own calls. -/
lemma selfCall_saw {seen : List Node} (hclosed : Closed selfCallContext seen) (hstart : Saw seen 0 0) (depth : ℕ) :
    Saw seen 2 depth := by
  induction depth with
  | zero => exact (hstart.flows hclosed (selfCall_flows (by omega))).flows hclosed (selfCall_flows (by omega))
  | succ depth ih => exact (ih.flows hclosed (selfCall_flows (by omega))).calls hclosed selfCall_calls

lemma selfCall_not_returns : ¬ Returns selfCallContext := by
  rw [returns_iff]
  rintro ⟨n, hpending⟩
  have hclosed : Closed selfCallContext (search key (next selfCallContext) (0, initial selfCallContext) n).seen := by
    intro x hx y hy
    obtain ⟨z, hz, hkey, -⟩ := search_closed hpending x hx y hy
    exact ⟨z, hz, hkey⟩
  obtain ⟨bound, hbound⟩ := exists_not_saw (search key (next selfCallContext) (0, initial selfCallContext) n).seen 2
  have hdeep := selfCall_saw hclosed ⟨_, start_mem_seen n, rfl, rfl⟩ (bound + 1)
  have hle := hbound (bound + 1) hdeep
  omega

end SnesModem.Rust.AsmLint
