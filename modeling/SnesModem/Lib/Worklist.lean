import Mathlib.Data.Finset.Card
import Mathlib.Logic.Function.Iterate

/-!
# Worklists

A search takes nodes from a queue and offers the nodes that come next. A node joins if none with its key was
seen before; otherwise it clashes with the one that was.

* `visit`, `search`: one turn, and some turns;
* `Explored`: what holds of a search: what was done leads to what was seen;
* `search_ends`: if finitely many codes tell apart all that can be seen, the queue runs empty.
-/

namespace SnesModem.Lib.Worklist

variable {α κ γ : Type*}

structure Work (α : Type*) where
  seen : List α
  pending : List α
  clashed : Bool

def init (start : α) : Work α := ⟨[start], [start], false⟩

/-- The node leads to a seen one with the key of `y`; without a clash it is `y`. -/
def Leads (key : α → κ) (w : Work α) (y : α) : Prop :=
  ∃ z ∈ w.seen, key z = key y ∧ (w.clashed = false → z = y)

/-- What holds after some nodes were done. -/
structure Explored (key : α → κ) (next : α → List α) (done : List α) (w : Work α) : Prop where
  seen_eq : w.seen = done ++ w.pending
  nodup : (w.seen.map key).Nodup
  leads : ∀ x ∈ done, ∀ y ∈ next x, Leads key w y

/-- The second search saw what the first one did, and clashed if it did. -/
structure Extends (w w' : Work α) : Prop where
  seen : ∀ x ∈ w.seen, x ∈ w'.seen
  clashed : w'.clashed = false → w.clashed = false

variable {key : α → κ} {next : α → List α} {start : α} {done : List α} {w w' : Work α} {x y : α}

lemma Extends.refl (w : Work α) : Extends w w := ⟨fun _ h => h, id⟩

lemma Extends.trans {w'' : Work α} (h : Extends w w') (h' : Extends w' w'') : Extends w w'' :=
  ⟨fun x hx => h'.seen x (h.seen x hx), fun hx => h.clashed (h'.clashed hx)⟩

lemma Leads.mono (h : Leads key w y) (hextends : Extends w w') : Leads key w' y := by
  obtain ⟨z, hz, hkey, heq⟩ := h
  exact ⟨z, hextends.seen z hz, hkey, fun hclash => heq (hextends.clashed hclash)⟩

lemma init_explored : Explored key next [] (init start) := ⟨rfl, by simp [init], by simp⟩

variable [DecidableEq α] [DecidableEq κ]

/-- A new key joins, an old one clashes unless the node is the same. -/
def offer (key : α → κ) (w : Work α) (y : α) : Work α :=
  if y ∈ w.seen then w
  else if ∃ z ∈ w.seen, key z = key y then { w with clashed := true }
  else ⟨w.seen ++ [y], w.pending ++ [y], w.clashed⟩

/-- One turn. -/
def visit (key : α → κ) (next : α → List α) (w : Work α) : Work α :=
  match w.pending with
  | [] => w
  | x :: pending => (next x).foldl (offer key) { w with pending }

def search (key : α → κ) (next : α → List α) (start : α) (n : ℕ) : Work α := (visit key next)^[n] (init start)

/-! ### One turn -/

lemma offer_extends : Extends w (offer key w y) := by
  unfold offer
  split
  · exact Extends.refl w
  · split
    · exact ⟨fun _ h => h, by simp⟩
    · exact ⟨fun x hx => List.mem_append_left _ hx, id⟩

lemma offer_leads : Leads key (offer key w y) y := by
  unfold offer
  split
  case isTrue h => exact ⟨y, h, rfl, fun _ => rfl⟩
  case isFalse h =>
    split
    case isTrue h' =>
      obtain ⟨z, hz, hkey⟩ := h'
      exact ⟨z, hz, hkey, by simp⟩
    case isFalse h' => exact ⟨y, by simp, rfl, fun _ => rfl⟩

/-- An offer keeps what holds of the search. -/
lemma Explored.offer (h : Explored key next done w) : Explored key next done (offer key w y) := by
  have hleads : ∀ x ∈ done, ∀ y' ∈ next x, Leads key (Worklist.offer key w y) y' :=
    fun x hx y' hy' => (h.leads x hx y' hy').mono offer_extends
  refine ⟨?_, ?_, hleads⟩
  · unfold Worklist.offer
    split
    · exact h.seen_eq
    · split
      · exact h.seen_eq
      · simp [h.seen_eq]
  · unfold Worklist.offer
    split
    · exact h.nodup
    · split
      case isTrue => exact h.nodup
      case isFalse hnew =>
        have hfresh : key y ∉ w.seen.map key := by
          intro hmem
          obtain ⟨z, hz, hkey⟩ := List.mem_map.mp hmem
          exact hnew ⟨z, hz, hkey⟩
        rw [List.map_append, List.map_singleton, List.nodup_append]
        refine ⟨h.nodup, by simp, ?_⟩
        intro k hk k' hk' hkk
        rw [List.mem_singleton] at hk'
        exact hfresh (hk' ▸ hkk ▸ hk)

lemma Explored.offers (ys : List α) (h : Explored key next done w) :
    Explored key next done (ys.foldl (Worklist.offer key) w) := by
  induction ys generalizing w with
  | nil => exact h
  | cons y ys ih => exact ih h.offer

lemma offers_extends (ys : List α) : Extends w (ys.foldl (offer key) w) := by
  induction ys generalizing w with
  | nil => exact Extends.refl w
  | cons y ys ih => exact offer_extends.trans ih

lemma offers_lead (ys : List α) : ∀ y ∈ ys, Leads key (ys.foldl (offer key) w) y := by
  induction ys generalizing w with
  | nil => simp
  | cons y ys ih =>
    intro y' hy'
    obtain rfl | hy' := List.mem_cons.mp hy'
    · exact offer_leads.mono (offers_extends ys)
    · exact ih y' hy'

/-- **One turn**: its node is done. -/
lemma Explored.visit {pending : List α} (h : Explored key next done w) (hpending : w.pending = x :: pending) :
    Explored key next (done ++ [x]) (visit key next w) := by
  have htaken : Explored key next done { w with pending := x :: pending } := by
    rw [← hpending]
    exact h
  unfold Worklist.visit
  rw [hpending]
  dsimp only
  have hseen : w.seen = done ++ [x] ++ pending := by rw [htaken.seen_eq]; simp
  have hbefore : Explored key (fun _ => []) (done ++ [x]) { w with pending := pending } :=
    ⟨hseen, h.nodup, by simp⟩
  have hafter := hbefore.offers (next x)
  refine ⟨hafter.seen_eq, hafter.nodup, ?_⟩
  intro x' hx' y hy
  obtain hx' | hx' := List.mem_append.mp hx'
  · have hold : Leads key { w with pending := pending } y := h.leads x' hx' y hy
    exact hold.mono (offers_extends _)
  · rw [List.mem_singleton] at hx'
    subst hx'
    exact offers_lead _ y hy

/-! ### Searches -/

lemma search_zero : search key next start 0 = init start := rfl

lemma search_succ (n : ℕ) : search key next start (n + 1) = visit key next (search key next start n) :=
  Function.iterate_succ_apply' _ _ _

variable (key next start) in
/-- **A search**: after `n` turns `n` nodes are done, or the queue is empty. -/
theorem search_explored (n : ℕ) :
    ∃ done, Explored key next done (search key next start n) ∧
      (done.length = n ∨ (search key next start n).pending = []) := by
  induction n with
  | zero => exact ⟨[], init_explored, Or.inl rfl⟩
  | succ n ih =>
    obtain ⟨done, hexplored, hlength⟩ := ih
    rw [search_succ]
    cases hpending : (search key next start n).pending with
    | nil =>
      have hsame : visit key next (search key next start n) = search key next start n := by
        unfold visit
        rw [hpending]
      rw [hsame]
      exact ⟨done, hexplored, Or.inr hpending⟩
    | cons x pending =>
      refine ⟨done ++ [x], hexplored.visit hpending, Or.inl ?_⟩
      obtain hlength | hempty := hlength
      · simp [hlength]
      · rw [hempty] at hpending
        cases hpending

/-- What the first node has and what joining nodes keep, the seen nodes have. -/
theorem seen_invariant (key : α → κ) (inv : List α → Prop) (hstart : inv [start])
    (hjoin : ∀ seen x y, inv seen → x ∈ seen → y ∈ next x → inv (seen ++ [y])) (n : ℕ) :
    inv (search key next start n).seen := by
  have hoffers : ∀ (ys : List α) (w : Work α) (x : α), inv w.seen → x ∈ w.seen → (∀ y ∈ ys, y ∈ next x) →
      inv (ys.foldl (offer key) w).seen := by
    intro ys
    induction ys with
    | nil => exact fun w x hw _ _ => hw
    | cons y ys ih =>
      intro w x hw hx hys
      refine ih (offer key w y) x ?_ (offer_extends.seen x hx) fun y' hy' => hys y' (List.mem_cons_of_mem _ hy')
      unfold offer
      split
      · exact hw
      · split
        · exact hw
        · exact hjoin w.seen x y hw hx (hys y List.mem_cons_self)
  induction n with
  | zero => exact hstart
  | succ n ih =>
    obtain ⟨done, hexplored, -⟩ := search_explored key next start n
    rw [search_succ]
    unfold visit
    split
    · exact ih
    case _ x pending hpending =>
      have hx : x ∈ (search key next start n).seen := by
        rw [hexplored.seen_eq, hpending]
        simp
      exact hoffers (next x) _ x ih hx fun y hy => hy

variable (key next start) in
/-- No two seen nodes have one key. -/
lemma keys_nodup (n : ℕ) : ((search key next start n).seen.map key).Nodup := by
  obtain ⟨done, hexplored, -⟩ := search_explored key next start n
  exact hexplored.nodup

/-- **The end of a search**: it comes if finitely many codes tell the seen nodes apart. -/
theorem search_ends [DecidableEq γ] (code : α → γ) (codes : Finset γ)
    (hcode : ∀ n, ∀ x ∈ (search key next start n).seen, code x ∈ codes)
    (hinj : ∀ n, ∀ x ∈ (search key next start n).seen, ∀ y ∈ (search key next start n).seen, code x = code y → x = y) :
    ∃ n, (search key next start n).pending = [] := by
  refine ⟨codes.card + 1, ?_⟩
  obtain ⟨done, hexplored, hlength⟩ := search_explored key next start (codes.card + 1)
  obtain hlength | hempty := hlength
  · exfalso
    have hnodup : (search key next start (codes.card + 1)).seen.Nodup := List.Nodup.of_map _ hexplored.nodup
    have hcodes : ((search key next start (codes.card + 1)).seen.map code).Nodup := by
      rw [List.nodup_map_iff_inj_on hnodup]
      exact hinj _
    have hsub : ((search key next start (codes.card + 1)).seen.map code).toFinset ⊆ codes := by
      intro k hk
      obtain ⟨x, hx, rfl⟩ := List.mem_map.mp (List.mem_toFinset.mp hk)
      exact hcode _ x hx
    have hcard := Finset.card_le_card hsub
    rw [List.toFinset_card_of_nodup hcodes, List.length_map, hexplored.seen_eq, List.length_append] at hcard
    omega
  · exact hempty

/-- Nothing is left to do: what was seen leads to what was seen. -/
lemma search_closed {n : ℕ} (hpending : (search key next start n).pending = []) :
    ∀ x ∈ (search key next start n).seen, ∀ y ∈ next x, Leads key (search key next start n) y := by
  obtain ⟨done, hexplored, -⟩ := search_explored key next start n
  intro x hx
  rw [hexplored.seen_eq, hpending, List.append_nil] at hx
  exact hexplored.leads x hx

/-- A search with nothing left to do stays as it is. -/
lemma search_stays {n m : ℕ} (hpending : (search key next start n).pending = []) (h : n ≤ m) :
    search key next start m = search key next start n := by
  induction h with
  | refl => rfl
  | step _ ih =>
    rw [search_succ, ih]
    unfold visit
    rw [hpending]

lemma start_mem_seen (n : ℕ) : start ∈ (search key next start n).seen :=
  seen_invariant key (start ∈ ·) (by simp) (fun _ _ _ h _ _ => List.mem_append_left _ h) n

end SnesModem.Lib.Worklist
