import SnesModem.Rust.AsmLint
import SnesModem.Lib.Worklist

/-!
# The width linter as a search

* `next`: the nodes, a statement with a state, that a node leads to; `complaints`: its own diagnostics;
* `visit_eq`: a turn of the loop complains and merges the nodes that come next;
* `Tracks`: the worklist and a search with one state for each statement and call stack go together;
* `loop_ends`, `loop_tracks`: the loop ends if the search does, and with what it saw.
-/

namespace SnesModem.Rust.AsmLint

open SnesModem.Lib.Worklist (Work Leads search init offer search_succ search_zero)

abbrev Node := ℕ × RuntimeState

/-- The analysis keeps at most one state for a statement and a call stack. -/
def key (x : Node) : ℕ × List CallFrame := (x.1, x.2.calls)

/-- The node that a merge offers. -/
def arrival (c : Context) (successor : ℕ) (state : RuntimeState) : Option Node :=
  if successor < c.procedure.statements.length then
    some (successor, normalizeAtEntry (normalizer c.procedure.statements successor) state)
  else none

/-- Where a local call goes. -/
def callTarget (c : Context) (index : ℕ) (statement : Statement) : Option ℕ :=
  if statement.instruction = .call then resolveTarget c.procedure.statements index statement.operand else none

/-- The merges behind a statement other than a return. -/
def flow (c : Context) (index : ℕ) (statement : Statement) (output : RuntimeState) : List Node :=
  match callTarget c index statement with
  | some target => [(target, { output with calls := ⟨index + 1, output.stack⟩ :: output.calls })]
  | none => (successors c.procedure.statements index statement).map (·, output)

/-- The merges of one turn. -/
def merges (c : Context) (index : ℕ) (statement : Statement) (input : RuntimeState) : List Node :=
  match statement.instruction with
  | .rti => []
  | .ret =>
    match input.calls with
    | frame :: calls => if input.stack ≠ frame.stack then [] else [(frame.returnIndex, { input with calls })]
    | [] => []
  | _ => (transfer c.profile statement input).1.elim [] (flow c index statement)

/-- The diagnostics of one turn, those of merges apart. -/
def complaints (c : Context) (statement : Statement) (input : RuntimeState) : List Diagnostic :=
  validateStatementWidth c statement input ++
    match statement.instruction with
    | .rti => handleInterruptReturn c statement input
    | .ret =>
      match input.calls with
      | frame :: _ => unbalancedReturn c statement input frame
      | [] => procedureReturn c statement input
    | _ => (transfer c.profile statement input).2

def next (c : Context) (x : Node) : List Node :=
  match c.procedure.statements[x.1]? with
  | none => []
  | some statement => (merges c x.1 statement x.2).filterMap fun y => arrival c y.1 y.2

/-- The node has no diagnostic of its own. -/
def Passes (c : Context) (x : Node) : Prop :=
  ∀ statement, c.procedure.statements[x.1]? = some statement → complaints c statement x.2 = []

section Visit

variable {c : Context} {w : Worklist} {index : ℕ} {statement : Statement} {input : RuntimeState}

@[simp] lemma report_nil (w : Worklist) : w.report [] = w := by simp [Worklist.report]

@[simp] lemma report_report (w : Worklist) (d d' : List Diagnostic) :
    (w.report d).report d' = w.report (d ++ d') := by
  simp [Worklist.report]

lemma handleReturn_eq (hret : statement.instruction = .ret) :
    handleReturn c statement input (w.report (validateStatementWidth c statement input)) =
      (merges c index statement input).foldl (fun w y => mergeState c y.1 y.2 w)
        (w.report (complaints c statement input)) := by
  unfold handleReturn merges complaints
  simp only [hret]
  cases hcalls : input.calls with
  | nil => simp
  | cons frame calls =>
    by_cases hstack : input.stack = frame.stack
    · simp [hstack, unbalancedReturn]
    · simp [hstack]

lemma follow_eq (output : RuntimeState) :
    follow c index statement output w =
      (flow c index statement output).foldl (fun w y => mergeState c y.1 y.2 w) w := by
  unfold follow flow
  change (match callTarget c index statement with
    | some target => mergeState c target { output with calls := ⟨index + 1, output.stack⟩ :: output.calls } w
    | none => (successors c.procedure.statements index statement).foldl (fun w j => mergeState c j output w) w) = _
  cases callTarget c index statement with
  | none => rw [List.foldl_map]
  | some target => rfl

/-- **One turn**: its diagnostics, then its merges. -/
theorem visit_eq (hstatement : c.procedure.statements[index]? = some statement) :
    visit c index input w =
      (merges c index statement input).foldl (fun w y => mergeState c y.1 y.2 w)
        (w.report (complaints c statement input)) := by
  unfold visit
  rw [hstatement]
  dsimp only
  by_cases hrti : statement.instruction = .rti
  · simp [hrti, merges, complaints]
  · by_cases hret : statement.instruction = .ret
    · simp only [hret]
      exact handleReturn_eq hret
    · have hmerges : merges c index statement input =
          (transfer c.profile statement input).1.elim [] (flow c index statement) := by
        unfold merges
        split
        case _ h => exact absurd h hrti
        case _ h => exact absurd h hret
        · rfl
      have hcomplaints : complaints c statement input =
          validateStatementWidth c statement input ++ (transfer c.profile statement input).2 := by
        unfold complaints
        split
        case _ h => exact absurd h hrti
        case _ h => exact absurd h hret
        · rfl
      rw [hmerges, hcomplaints]
      split
      case _ h => exact absurd h hrti
      case _ h => exact absurd h hret
      · cases htransfer : transfer c.profile statement input with
        | mk output diagnostics =>
          cases output with
          | none => simp
          | some output => simp [follow_eq]

end Visit

/-- The worklist and the search stand at the same place. -/
structure Tracks (c : Context) (w : Worklist) (v : Work Node) : Prop where
  queue : v.pending = w.queue
  states : ∀ i s, s ∈ w.states i ↔ (i, s) ∈ v.seen
  clashed : w.diagnostics = [] → v.clashed = false
  passes : w.diagnostics = [] → ∀ x ∈ v.seen, x ∈ v.pending ∨ Passes c x

section Tracks

variable {c : Context} {w w' : Worklist} {v : Work Node} {x : Node} {fuel : ℕ}

lemma report_diagnostics {d : List Diagnostic} (h : (w.report d).diagnostics = []) : w.diagnostics = [] ∧ d = [] := by
  simpa [Worklist.report] using h

lemma Tracks.mergeState (h : Tracks c w v) (i : ℕ) (s : RuntimeState) :
    Tracks c (mergeState c i s w) ((arrival c i s).toList.foldl (offer key) v) := by
  unfold AsmLint.mergeState arrival
  by_cases hlen : i < c.procedure.statements.length
  · rw [List.getElem?_eq_getElem hlen, if_pos hlen]
    dsimp only [Option.toList_some, List.foldl_cons, List.foldl_nil]
    generalize normalizeAtEntry (normalizer c.procedure.statements i) s = incoming
    unfold offer
    by_cases hold : (i, incoming) ∈ v.seen
    · rw [if_pos ((h.states _ _).mpr hold), if_pos hold]
      exact h
    · rw [if_neg (mt (h.states _ _).mp hold), if_neg hold]
      have hexists : (∃ z ∈ v.seen, key z = key (i, incoming)) ↔
          ∃ existing ∈ w.states i, existing.calls = incoming.calls := by
        constructor
        · rintro ⟨⟨i', s'⟩, hz, hkey⟩
          simp only [key, Prod.mk.injEq] at hkey
          obtain ⟨rfl, hcalls⟩ := hkey
          exact ⟨s', (h.states _ _).mpr hz, hcalls⟩
        · rintro ⟨existing, hmem, hcalls⟩
          exact ⟨(i, existing), (h.states _ _).mp hmem, by simp [key, hcalls]⟩
      rw [if_congr hexists rfl rfl]
      cases hfind : (w.states i).find? (·.calls = incoming.calls) with
      | some existing =>
        have hmem := List.mem_of_find?_eq_some hfind
        have hcalls : existing.calls = incoming.calls := by simpa using List.find?_some hfind
        rw [if_pos ⟨existing, hmem, hcalls⟩]
        refine ⟨h.queue, h.states, ?_, ?_⟩
        · intro hdiagnostics
          exact absurd (report_diagnostics hdiagnostics).2 (by simp)
        · intro hdiagnostics
          exact absurd (report_diagnostics hdiagnostics).2 (by simp)
      | none =>
        have hnone : ¬ ∃ existing ∈ w.states i, existing.calls = incoming.calls := by
          rintro ⟨existing, hmem, hcalls⟩
          have := List.find?_eq_none.mp hfind existing hmem
          simp [hcalls] at this
        rw [if_neg hnone]
        refine ⟨by simp [h.queue], ?_, h.clashed, ?_⟩
        · intro i' s'
          by_cases hi : i' = i
          · subst hi
            simp [h.states]
          · simp [hi, h.states]
        · intro hdiagnostics x hx
          obtain hx | hx := List.mem_append.mp hx
          · obtain hpending | hpasses := h.passes hdiagnostics x hx
            · exact Or.inl (List.mem_append_left _ hpending)
            · exact Or.inr hpasses
          · exact Or.inl (List.mem_append_right _ hx)
  · rw [List.getElem?_eq_none (by omega), if_neg hlen]
    exact h

lemma Tracks.merges (ys : List Node) (h : Tracks c w v) :
    Tracks c (ys.foldl (fun w y => AsmLint.mergeState c y.1 y.2 w) w)
      ((ys.filterMap fun y => arrival c y.1 y.2).foldl (offer key) v) := by
  induction ys generalizing w v with
  | nil => exact h
  | cons y ys ih =>
    have hy := h.mergeState y.1 y.2
    rw [List.foldl_cons, List.filterMap_cons]
    cases harrival : arrival c y.1 y.2 with
    | none =>
      rw [harrival] at hy
      exact ih hy
    | some z =>
      rw [harrival] at hy
      exact ih hy

/-- **One turn**: the search takes the same turn. -/
lemma Tracks.visit (h : Tracks c w v) {queue : List Node} (hqueue : w.queue = x :: queue) :
    Tracks c (AsmLint.visit c x.1 x.2 { w with queue }) (Lib.Worklist.visit key (next c) v) := by
  have hpending : v.pending = x :: queue := h.queue.trans hqueue
  have hpasses : ∀ d : List Diagnostic, (d = [] → Passes c x) →
      Tracks c (Worklist.report { w with queue } d) { v with pending := queue } := by
    intro d hd
    refine ⟨rfl, h.states, ?_, ?_⟩
    · intro hdiagnostics
      exact h.clashed (report_diagnostics hdiagnostics).1
    · intro hdiagnostics y hy
      obtain ⟨hnone, hdnone⟩ := report_diagnostics hdiagnostics
      obtain hy | hy := h.passes hnone y hy
      · rw [hpending] at hy
        obtain rfl | hy := List.mem_cons.mp hy
        · exact Or.inr (hd hdnone)
        · exact Or.inl hy
      · exact Or.inr hy
  unfold Lib.Worklist.visit
  rw [hpending]
  dsimp only
  unfold next
  cases hstatement : c.procedure.statements[x.1]? with
  | none =>
    have hnone := hpasses [] fun _ statement hsome => by rw [hstatement] at hsome; cases hsome
    rw [report_nil] at hnone
    unfold AsmLint.visit
    rw [hstatement]
    exact hnone
  | some statement =>
    rw [visit_eq hstatement]
    refine (hpasses _ ?_).merges _
    intro hcomplaints statement' hsome
    rw [hstatement] at hsome
    cases hsome
    exact hcomplaints

lemma start_tracks : Tracks c (start c) (init (0, initial c)) := by
  refine ⟨rfl, ?_, fun _ => rfl, fun _ x hx => Or.inl hx⟩
  intro i s
  by_cases hi : i = 0
  · subst hi
    simp [start, init]
  · simp [start, init, hi]

/-- **The end of the loop**: it comes if the search ends. -/
theorem loop_ends (n m : ℕ) (h : Tracks c w (search key (next c) (0, initial c) m))
    (hpending : (search key (next c) (0, initial c) (m + n)).pending = []) :
    ∃ w', loop c (n + 1) w = some w' := by
  induction n generalizing m w with
  | zero =>
    have hqueue : w.queue = [] := by rw [← h.queue]; exact hpending
    exact ⟨w, by rw [loop, hqueue]⟩
  | succ n ih =>
    rw [loop]
    cases hqueue : w.queue with
    | nil => exact ⟨w, rfl⟩
    | cons x queue =>
      have hnext := h.visit hqueue
      rw [← search_succ] at hnext
      refine ih (m + 1) hnext ?_
      rw [show m + 1 + n = m + (n + 1) by omega]
      exact hpending

/-- **What the loop ends with**: a search that has nothing left to do. -/
theorem loop_tracks (m : ℕ) (h : Tracks c w (search key (next c) (0, initial c) m))
    (hloop : loop c fuel w = some w') :
    ∃ n, Tracks c w' (search key (next c) (0, initial c) n) ∧
      (search key (next c) (0, initial c) n).pending = [] := by
  induction fuel generalizing m w with
  | zero => cases hloop
  | succ fuel ih =>
    rw [loop] at hloop
    cases hqueue : w.queue with
    | nil =>
      rw [hqueue] at hloop
      cases hloop
      exact ⟨m, h, h.queue.trans hqueue⟩
    | cons x queue =>
      rw [hqueue] at hloop
      have hnext := h.visit hqueue
      rw [← search_succ] at hnext
      exact ih (m + 1) hnext hloop

end Tracks

end SnesModem.Rust.AsmLint
