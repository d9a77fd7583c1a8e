import SnesModem.Lib.Worklist

/-!
# What a worklist sees

A way is given by its choices among the nodes that come next.  Where ways lead to nodes with one key, the search goes on
from the first of them: the shortest way, and of ways of one length the one whose choice is the least where they part.

* `along`, `Before`, `Followed`: where a way leads, which of two ways is first, and which ways are gone on from;
* `Reached`: what holds when all ways before a given one have been offered;
* `mem_seen_iff`: the search sees the nodes that the followed ways lead to, and no others.
-/

namespace SnesModem.Lib.Worklist

variable {α κ : Type*}

/-! ### Ways -/

/-- The node that the choices lead to, the last of which comes first. -/
def along (next : α → List α) (start : α) : List ℕ → Option α
  | [] => some start
  | k :: way => (along next start way).bind fun x => (next x)[k]?

/-- The first way is shorter, or its choice is the lesser one where the two part. -/
inductive Before : List ℕ → List ℕ → Prop
  | shorter {way way' : List ℕ} : way.length < way'.length → Before way way'
  | parts {k k' : ℕ} (way : List ℕ) : k < k' → Before (k :: way) (k' :: way)
  | parted (k k' : ℕ) {way way' : List ℕ} : way.length = way'.length → Before way way' → Before (k :: way) (k' :: way')

section Before

variable {k k' : ℕ} {u v w : List ℕ}

lemma Before.length_le (h : Before v w) : v.length ≤ w.length := by
  cases h with
  | shorter hlength => exact hlength.le
  | parts way hk => exact le_rfl
  | parted k k' hlength h => simp [hlength]

lemma Before.cons (k k' : ℕ) (h : Before v w) : Before (k :: v) (k' :: w) := by
  rcases h.length_le.lt_or_eq with hlt | heq
  · exact .shorter (by simpa using hlt)
  · exact .parted k k' heq h

lemma not_before_nil : ¬ Before v [] := by
  rintro (hlength | _ | _)
  exact absurd hlength (by simp)

/-- The ways before `k' :: w`: they part from it at its last choice, or earlier, or are as short as `w` is. -/
lemma before_cons_iff : Before (k :: v) (k' :: w) ↔ Before v w ∨ v = w ∧ k < k' := by
  constructor
  · intro h
    cases h with
    | shorter hlength => exact Or.inl (.shorter (by simpa using hlength))
    | parts way hk => exact Or.inr ⟨rfl, hk⟩
    | parted k k' hlength h => exact Or.inl h
  · rintro (h | ⟨rfl, hk⟩)
    · exact h.cons k k'
    · exact .parts v hk

lemma nil_before_cons : Before [] (k :: w) := .shorter (by simp)

lemma before_own (k : ℕ) (w : List ℕ) : Before w (k :: w) := .shorter (by simp)

lemma Before.irrefl (w : List ℕ) : ¬ Before w w := by
  induction w with
  | nil => exact not_before_nil
  | cons k w ih =>
    rw [before_cons_iff]
    rintro (h | ⟨-, hk⟩)
    · exact ih h
    · exact lt_irrefl k hk

lemma Before.trans (h : Before u v) (h' : Before v w) : Before u w := by
  induction u generalizing v w with
  | nil =>
    cases w with
    | nil => exact absurd h' not_before_nil
    | cons => exact nil_before_cons
  | cons i u ih =>
    cases v with
    | nil => exact absurd h not_before_nil
    | cons j v =>
      cases w with
      | nil => exact absurd h' not_before_nil
      | cons k w =>
        rw [before_cons_iff] at h h' ⊢
        rcases h with h | ⟨rfl, hij⟩ <;> rcases h' with h' | ⟨rfl, hjk⟩
        · exact Or.inl (ih h h')
        · exact Or.inl h
        · exact Or.inl h'
        · exact Or.inr ⟨rfl, hij.trans hjk⟩

lemma Before.asymm (h : Before v w) : ¬ Before w v := fun h' => Before.irrefl v (h.trans h')

/-- Between a choice and the next one there is no way. -/
lemma before_succ_iff : Before v ((k + 1) :: w) ↔ Before v (k :: w) ∨ v = k :: w := by
  cases v with
  | nil => simp [nil_before_cons]
  | cons j v =>
    rw [before_cons_iff, before_cons_iff, List.cons.injEq]
    constructor
    · rintro (h | ⟨rfl, hj⟩)
      · exact Or.inl (Or.inl h)
      · rcases Nat.lt_succ_iff_lt_or_eq.mp hj with hj | rfl
        · exact Or.inl (Or.inr ⟨rfl, hj⟩)
        · exact Or.inr ⟨rfl, rfl⟩
    · rintro ((h | ⟨rfl, hj⟩) | ⟨rfl, rfl⟩)
      · exact Or.inl h
      · exact Or.inr ⟨rfl, hj.trans (Nat.lt_succ_self k)⟩
      · exact Or.inr ⟨rfl, Nat.lt_succ_self j⟩

end Before

/-- The way is gone on from: no way before it, nor before its parts, leads on to a node with the same key. -/
def Followed (key : α → κ) (next : α → List α) (start : α) : List ℕ → Prop
  | [] => True
  | k :: way =>
    Followed key next start way ∧
      ∀ way', Before way' (k :: way) → Followed key next start way'.tail →
        ∀ x ∈ along next start way', ∀ y ∈ along next start (k :: way), key x ≠ key y
termination_by way => way.length
decreasing_by
  · simp
  · rename_i h
    have hlength := h.length_le
    simp only [List.length_tail, List.length_cons] at hlength ⊢
    omega

section Followed

variable {key : α → κ} {next : α → List α} {start : α} {k : ℕ} {way way' : List ℕ} {x y : α}

lemma followed_nil : Followed key next start [] := by
  rw [Followed]
  trivial

lemma followed_cons : Followed key next start (k :: way) ↔ Followed key next start way ∧
    ∀ way', Before way' (k :: way) → Followed key next start way'.tail →
      ∀ x ∈ along next start way', ∀ y ∈ along next start (k :: way), key x ≠ key y := by
  rw [Followed]

lemma Followed.tail (h : Followed key next start way) : Followed key next start way.tail := by
  cases way with
  | nil => exact followed_nil
  | cons k way => exact (followed_cons.mp h).1

/-- No way before a followed one leads on from a followed way to a node with its key. -/
lemma Followed.first (h : Followed key next start way) (hbefore : Before way' way)
    (hfollowed : Followed key next start way'.tail) (hx : along next start way' = some x)
    (hy : along next start way = some y) : key x ≠ key y := by
  cases way with
  | nil => exact absurd hbefore not_before_nil
  | cons k way => exact (followed_cons.mp h).2 way' hbefore hfollowed x hx y hy

lemma along_cons (hx : along next start way = some x) : along next start (k :: way) = (next x)[k]? := by
  rw [along, hx]
  rfl

end Followed

/-! ### The search with its ways -/

abbrev Step (α : Type*) := List ℕ × α

/-- The nodes that come next, with the ways to them. -/
def onward (next : α → List α) (p : Step α) : List (Step α) := (next p.2).zipIdx.map fun y => (y.2 :: p.1, y.1)

lemma onward_snd (next : α → List α) (p : Step α) : (onward next p).map Prod.snd = next p.2 := by
  unfold onward
  rw [List.map_map]
  exact List.zipIdx_map_fst 0 (next p.2)

/-- The offer has been made: a node with the key was seen, by this way or by one before it. -/
def Offered (key : α → κ) (seen : List (Step α)) (way : List ℕ) (y : α) : Prop :=
  ∃ q ∈ seen, key q.2 = key y ∧ (q.1 = way ∨ Before q.1 way)

/-- What the seen nodes with their ways are, however far the search has come. -/
structure Traced (key : α → κ) (next : α → List α) (start : α) (seen : List (Step α)) : Prop where
  start_mem : ([], start) ∈ seen
  sorted : seen.Pairwise fun p q => Before p.1 q.1
  along_eq : ∀ p ∈ seen, along next start p.1 = some p.2
  followed : ∀ p ∈ seen, Followed key next start p.1

/-- **All ways before the given one** have been offered, and no others. -/
structure Reached (key : α → κ) (next : α → List α) (start : α) (bound : List ℕ) (seen : List (Step α)) : Prop
    extends Traced key next start seen where
  before : ∀ p ∈ seen, Before p.1 bound
  offered : ∀ p ∈ seen, ∀ k y, Before (k :: p.1) bound → (next p.2)[k]? = some y → Offered key seen (k :: p.1) y

section Reached

variable {key : α → κ} {next : α → List α} {start : α} {bound way : List ℕ} {seen seen' : List (Step α)} {x y : α}
  {k : ℕ}

lemma Offered.mono (h : Offered key seen way y) (hsub : ∀ q ∈ seen, q ∈ seen') : Offered key seen' way y := by
  obtain ⟨q, hq, hkey, hway⟩ := h
  exact ⟨q, hsub q hq, hkey, hway⟩

/-- An offer by a followed way was the first one with its key. -/
lemma Traced.mem_of_offered (h : Traced key next start seen) (hoffered : Offered key seen way y)
    (hfollowed : Followed key next start way) (halong : along next start way = some y) : (way, y) ∈ seen := by
  obtain ⟨q, hq, hkey, rfl | hbefore⟩ := hoffered
  · have hsame : q.2 = y := Option.some.inj ((h.along_eq q hq).symm.trans halong)
    rw [← hsame]
    exact hq
  · exact absurd hkey (hfollowed.first hbefore (h.followed q hq).tail (h.along_eq q hq) halong)

/-- **A way before the bound** that leads on from a followed one was offered. -/
lemma Reached.offered_of_tail (h : Reached key next start bound seen) (hbefore : Before way bound)
    (hfollowed : Followed key next start way.tail) (halong : along next start way = some y) :
    Offered key seen way y := by
  induction way generalizing y with
  | nil =>
    obtain rfl := Option.some.inj halong
    exact ⟨_, h.start_mem, rfl, Or.inl rfl⟩
  | cons k way ih =>
    obtain ⟨x, hx, hy⟩ := Option.bind_eq_some_iff.mp halong
    have hmem : (way, x) ∈ seen :=
      h.mem_of_offered (ih ((before_own k way).trans hbefore) hfollowed.tail hx) hfollowed hx
    exact h.offered _ hmem k y hbefore hy

variable [DecidableEq α] [DecidableEq κ]

/-- What an offer does to the seen nodes depends on the keys alone. -/
lemma offer_seen (key : α → κ) (w : Work α) (y : α) :
    (key y ∈ w.seen.map key → (offer key w y).seen = w.seen ∧ (offer key w y).pending = w.pending) ∧
      (key y ∉ w.seen.map key →
        (offer key w y).seen = w.seen ++ [y] ∧ (offer key w y).pending = w.pending ++ [y]) := by
  unfold offer
  constructor
  · intro hold
    obtain ⟨z, hz, hkey⟩ := List.mem_map.mp hold
    split
    · exact ⟨rfl, rfl⟩
    · rw [if_pos ⟨z, hz, hkey⟩]
      exact ⟨rfl, rfl⟩
  · intro hnew
    rw [if_neg fun hmem => hnew (List.mem_map_of_mem hmem), if_neg]
    · exact ⟨rfl, rfl⟩
    · rintro ⟨z, hz, hkey⟩
      exact hnew (List.mem_map.mpr ⟨z, hz, hkey⟩)

/-- What joins the seen nodes joins the queue. -/
lemma offers_append (key : α → κ) {w : Work α} (done ys : List α) (h : w.seen = done ++ w.pending) :
    (ys.foldl (Worklist.offer key) w).seen = done ++ (ys.foldl (Worklist.offer key) w).pending := by
  induction ys generalizing w with
  | nil => exact h
  | cons y ys ih =>
    obtain ⟨hold, hnew⟩ := offer_seen key w y
    refine ih ?_
    by_cases hkey : key y ∈ w.seen.map key
    · rw [(hold hkey).1, (hold hkey).2, h]
    · rw [(hnew hkey).1, (hnew hkey).2, h, List.append_assoc]

/-- **One offer**: the bound moves to the next choice. -/
lemma Reached.offer {v : Work (Step α)} (h : Reached key next start (k :: way) v.seen) (hx : (way, x) ∈ v.seen)
    (hy : (next x)[k]? = some y) :
    Reached key next start ((k + 1) :: way) (Worklist.offer (fun p => key p.2) v (k :: way, y)).seen := by
  have hsame {p : Step α} (hp : p ∈ v.seen) (hway : p.1 = way) : p.2 = x :=
    Option.some.inj ((h.along_eq p hp).symm.trans (hway ▸ h.along_eq _ hx))
  obtain ⟨hold, hnew⟩ := offer_seen (fun p : Step α => key p.2) v (k :: way, y)
  by_cases hkey : key y ∈ v.seen.map fun p => key p.2
  · rw [(hold hkey).1]
    refine ⟨h.toTraced, fun p hp => before_succ_iff.mpr (Or.inl (h.before p hp)), fun p hp j z hbefore hz => ?_⟩
    rcases before_succ_iff.mp hbefore with hbefore | hequal
    · exact h.offered p hp j z hbefore hz
    · obtain ⟨rfl, hway⟩ := List.cons.inj hequal
      rw [hsame hp hway] at hz
      obtain rfl := Option.some.inj (hy.symm.trans hz)
      obtain ⟨q, hq, hqkey⟩ := List.mem_map.mp hkey
      exact ⟨q, hq, hqkey, Or.inr (hway ▸ h.before q hq)⟩
  · rw [(hnew hkey).1]
    have halong : along next start (k :: way) = some y := (along_cons (h.along_eq _ hx)).trans hy
    refine ⟨⟨List.mem_append_left _ h.start_mem, ?_, ?_, ?_⟩, ?_, ?_⟩
    · refine List.pairwise_append.mpr ⟨h.sorted, List.pairwise_singleton _ _, fun p hp q hq => ?_⟩
      obtain rfl := List.mem_singleton.mp hq
      exact h.before p hp
    · intro p hp
      rcases List.mem_append.mp hp with hp | hp
      · exact h.along_eq p hp
      · obtain rfl := List.mem_singleton.mp hp
        exact halong
    · intro p hp
      rcases List.mem_append.mp hp with hp | hp
      · exact h.followed p hp
      · obtain rfl := List.mem_singleton.mp hp
        refine followed_cons.mpr ⟨h.followed _ hx, fun way' hbefore hfollowed z hz z' hz' hsamekey => hkey ?_⟩
        obtain ⟨q, hq, hqkey, -⟩ := h.offered_of_tail hbefore hfollowed hz
        obtain rfl := Option.some.inj (halong.symm.trans hz')
        exact List.mem_map.mpr ⟨q, hq, hqkey.trans hsamekey⟩
    · intro p hp
      rcases List.mem_append.mp hp with hp | hp
      · exact before_succ_iff.mpr (Or.inl (h.before p hp))
      · obtain rfl := List.mem_singleton.mp hp
        exact before_succ_iff.mpr (Or.inr rfl)
    · intro p hp j z hbefore hz
      rcases List.mem_append.mp hp with hmem | hadded
      · rcases before_succ_iff.mp hbefore with hbefore | hequal
        · exact (h.offered p hmem j z hbefore hz).mono fun q hq => List.mem_append_left _ hq
        · obtain ⟨rfl, hway⟩ := List.cons.inj hequal
          rw [hsame hmem hway] at hz
          obtain rfl := Option.some.inj (hy.symm.trans hz)
          exact ⟨_, List.mem_append_right _ (List.mem_singleton_self _), rfl, Or.inl hequal.symm⟩
      · obtain rfl := List.mem_singleton.mp hadded
        have hlength := hbefore.length_le
        simp only [List.length_cons] at hlength
        omega

lemma Reached.offers (ys : List α) (j : ℕ) {v : Work (Step α)} (h : Reached key next start (j :: way) v.seen)
    (hx : (way, x) ∈ v.seen) (hys : ∀ i y, ys[i]? = some y → (next x)[j + i]? = some y) :
    Reached key next start ((j + ys.length) :: way)
      (((ys.zipIdx j).map fun y => (y.2 :: way, y.1)).foldl (Worklist.offer fun p => key p.2) v).seen := by
  induction ys generalizing j v with
  | nil => exact h
  | cons y ys ih =>
    have hnext := h.offer hx (hys 0 y rfl)
    rw [List.zipIdx_cons, List.map_cons, List.foldl_cons, List.length_cons,
      show j + (ys.length + 1) = j + 1 + ys.length by omega]
    refine ih (j + 1) hnext (offer_extends.seen _ hx) fun i y' hy' => ?_
    have hlater := hys (i + 1) y' hy'
    rwa [show j + (i + 1) = j + 1 + i by omega] at hlater

end Reached

/-! ### The turns of a search -/

/-- What holds after some nodes were done: all their offers have been made. -/
structure Turned (key : α → κ) (next : α → List α) (start : α) (done : List (Step α)) (v : Work (Step α)) : Prop
    extends Traced key next start v.seen where
  seen_eq : v.seen = done ++ v.pending
  ahead : ∀ p ∈ v.seen, ∀ q ∈ v.pending, Before p.1 (0 :: q.1)
  offered : ∀ p ∈ done, ∀ k y, (next p.2)[k]? = some y → Offered key v.seen (k :: p.1) y

section Turns

variable {key : α → κ} {next : α → List α} {start : α} {done pending : List (Step α)} {v : Work (Step α)} {way : List ℕ}
  {x y : α}

/-- The ways of the nodes that are done, of the one whose turn it is and of the others follow one another. -/
lemma Turned.around (h : Turned key next start done v) (hpending : v.pending = (way, x) :: pending) :
    (∀ p ∈ done, Before p.1 way) ∧ ∀ p ∈ pending, Before way p.1 := by
  have hsorted := h.sorted
  rw [h.seen_eq, hpending] at hsorted
  obtain ⟨-, hrest, hdone⟩ := List.pairwise_append.mp hsorted
  exact ⟨fun p hp => hdone p hp _ List.mem_cons_self, (List.pairwise_cons.mp hrest).1⟩

lemma Turned.reached (h : Turned key next start done v) (hpending : v.pending = (way, x) :: pending) :
    Reached key next start (0 :: way) v.seen := by
  obtain ⟨-, hafter⟩ := h.around hpending
  refine ⟨h.toTraced, fun p hp => h.ahead p hp (way, x) (by simp [hpending]), fun p hp k y hbefore hy => ?_⟩
  have hearlier : Before p.1 way := by simpa using before_cons_iff.mp hbefore
  rw [h.seen_eq, hpending] at hp
  rcases List.mem_append.mp hp with hp | hp
  · exact h.offered p hp k y hy
  · rcases List.mem_cons.mp hp with rfl | hp
    · exact absurd hearlier (Before.irrefl _)
    · exact absurd hearlier (hafter p hp).asymm

lemma Reached.turned (h : Reached key next start ((next x).length :: way) v.seen)
    (hseen : v.seen = done ++ (way, x) :: v.pending) : Turned key next start (done ++ [(way, x)]) v := by
  have hsorted := h.sorted
  rw [hseen] at hsorted
  obtain ⟨-, hrest, hdone⟩ := List.pairwise_append.mp hsorted
  refine ⟨h.toTraced, by simp [hseen], fun p hp q hq => ?_, fun p hp k y hy => ?_⟩
  · exact (h.before p hp).trans (((List.pairwise_cons.mp hrest).1 q hq).cons _ 0)
  · have hmem : p ∈ v.seen := by
      rw [hseen, List.append_cons]
      exact List.mem_append_left _ hp
    refine h.offered p hmem k y ?_ hy
    rcases List.mem_append.mp hp with hp | hp
    · exact (hdone p hp _ List.mem_cons_self).cons k _
    · obtain rfl := List.mem_singleton.mp hp
      obtain ⟨hk, -⟩ := List.getElem?_eq_some_iff.mp hy
      exact .parts way hk

variable [DecidableEq α] [DecidableEq κ]

variable (key next start) in
/-- The search of the nodes with their ways. -/
def trace (n : ℕ) : Work (Step α) := search (fun p => key p.2) (onward next) ([], start) n

variable (key next start) in
/-- **The ways of a search**: after each turn the offers of the nodes that are done have been made. -/
theorem trace_turned (n : ℕ) :
    ∃ done, Turned key next start done (trace key next start n) ∧
      (done.length = n ∨ (trace key next start n).pending = []) := by
  unfold trace
  induction n with
  | zero =>
    have hone : Traced key next start [([], start)] :=
      ⟨by simp, List.pairwise_singleton _ _, by simp [along], by simp [followed_nil]⟩
    refine ⟨[], ⟨hone, rfl, fun p hp q hq => ?_, by simp⟩, Or.inl rfl⟩
    obtain rfl := List.mem_singleton.mp hp
    exact nil_before_cons
  | succ n ih =>
    obtain ⟨done, hturned, hlength⟩ := ih
    rw [search_succ]
    generalize search (fun p => key p.2) (onward next) ([], start) n = v at hturned hlength ⊢
    unfold visit
    cases hpending : v.pending with
    | nil => exact ⟨done, hturned, Or.inr hpending⟩
    | cons p pending =>
      obtain ⟨way, x⟩ := p
      have hmem : (way, x) ∈ v.seen := by simp [hturned.seen_eq, hpending]
      have hreached := Reached.offers (next x) 0 (v := { v with pending := pending }) (hturned.reached hpending) hmem
        fun i y hy => by rwa [Nat.zero_add]
      rw [Nat.zero_add] at hreached
      have hseen := offers_append (fun p : Step α => key p.2) (w := { v with pending := pending })
        (done ++ [(way, x)]) (onward next (way, x)) (by simp [hturned.seen_eq, hpending])
      refine ⟨done ++ [(way, x)], hreached.turned ?_, Or.inl ?_⟩
      · rw [List.append_cons]
        exact hseen
      · rcases hlength with hlength | hempty
        · simp [hlength]
        · rw [hempty] at hpending
          cases hpending

end Turns

/-! ### What is seen -/

section Seen

variable {key : α → κ} {next : α → List α} {start : α} {way : List ℕ} {x : α} [DecidableEq α] [DecidableEq κ]

/-- The ways do not change the search. -/
lemma offers_snd (ps : List (Step α)) {v : Work (Step α)} {w : Work α} (hseen : v.seen.map Prod.snd = w.seen)
    (hpending : v.pending.map Prod.snd = w.pending) :
    (ps.foldl (offer fun p => key p.2) v).seen.map Prod.snd = ((ps.map Prod.snd).foldl (offer key) w).seen ∧
      (ps.foldl (offer fun p => key p.2) v).pending.map Prod.snd =
        ((ps.map Prod.snd).foldl (offer key) w).pending := by
  induction ps generalizing v w with
  | nil => exact ⟨hseen, hpending⟩
  | cons p ps ih =>
    have hkeys : v.seen.map (fun p => key p.2) = w.seen.map key := by
      rw [← hseen, List.map_map]
      rfl
    obtain ⟨hold, hnew⟩ := offer_seen (fun p : Step α => key p.2) v p
    obtain ⟨hold', hnew'⟩ := offer_seen key w p.2
    rw [List.map_cons, List.foldl_cons, List.foldl_cons]
    by_cases hkey : key p.2 ∈ w.seen.map key
    · obtain ⟨hs, hp⟩ := hold (hkeys ▸ hkey)
      obtain ⟨hs', hp'⟩ := hold' hkey
      exact ih (by rw [hs, hs', hseen]) (by rw [hp, hp', hpending])
    · obtain ⟨hs, hp⟩ := hnew (hkeys ▸ hkey)
      obtain ⟨hs', hp'⟩ := hnew' hkey
      exact ih (by simp [hs, hs', hseen]) (by simp [hp, hp', hpending])

variable (key next start) in
lemma trace_snd (n : ℕ) : (trace key next start n).seen.map Prod.snd = (search key next start n).seen ∧
    (trace key next start n).pending.map Prod.snd = (search key next start n).pending := by
  unfold trace
  induction n with
  | zero => exact ⟨rfl, rfl⟩
  | succ n ih =>
    rw [search_succ, search_succ]
    generalize search (fun p => key p.2) (onward next) ([], start) n = v at ih ⊢
    generalize search key next start n = w at ih ⊢
    obtain ⟨hseen, hpending⟩ := ih
    unfold visit
    rw [← hpending]
    cases hv : v.pending with
    | nil =>
      rw [hv] at hpending
      exact ⟨hseen, by rw [hv]; exact hpending⟩
    | cons p pending =>
      rw [List.map_cons]
      dsimp only
      rw [← onward_snd next p]
      exact offers_snd _ hseen rfl

/-- What was seen stays in its place. -/
lemma search_starts {n m : ℕ} (h : n ≤ m) : (search key next start n).seen <+: (search key next start m).seen := by
  have hoffers (ys : List α) (w : Work α) : w.seen <+: (ys.foldl (offer key) w).seen := by
    induction ys generalizing w with
    | nil => exact List.prefix_rfl
    | cons y ys ih =>
      refine List.IsPrefix.trans ?_ (ih (offer key w y))
      obtain ⟨hold, hnew⟩ := offer_seen key w y
      by_cases hkey : key y ∈ w.seen.map key
      · rw [(hold hkey).1]
      · rw [(hnew hkey).1]
        exact List.prefix_append _ _
  induction h with
  | refl => exact List.prefix_rfl
  | @step m _ ih =>
    refine ih.trans ?_
    rw [search_succ]
    unfold visit
    split
    · exact List.prefix_rfl
    · rename_i x pending _
      exact hoffers (next x) { search key next start m with pending := pending }

/-- A seen node is done sooner or later. -/
lemma Turned.eventually_done {p : Step α} {n : ℕ} (hp : p ∈ (trace key next start n).seen) :
    ∃ m done, Turned key next start done (trace key next start m) ∧ p ∈ done := by
  obtain ⟨done, hturned, hlength⟩ := trace_turned key next start (n + (trace key next start n).seen.length)
  have hprefix : (trace key next start n).seen <+: done ++ (trace key next start _).pending :=
    hturned.seen_eq ▸ search_starts (Nat.le_add_right n _)
  refine ⟨_, done, hturned, ?_⟩
  rcases hlength with hlength | hempty
  · exact (List.prefix_of_prefix_length_le hprefix (List.prefix_append _ _) (by omega)).subset hp
  · rw [hempty, List.append_nil] at hprefix
    exact hprefix.subset hp

/-- **What a search sees**: the nodes that the followed ways lead to. -/
theorem mem_seen_iff : (∃ n, x ∈ (search key next start n).seen) ↔
    ∃ way, Followed key next start way ∧ along next start way = some x := by
  constructor
  · rintro ⟨n, hx⟩
    obtain ⟨done, hturned, -⟩ := trace_turned key next start n
    rw [← (trace_snd key next start n).1] at hx
    obtain ⟨p, hp, rfl⟩ := List.mem_map.mp hx
    exact ⟨p.1, hturned.followed p hp, hturned.along_eq p hp⟩
  · rintro ⟨way, hfollowed, halong⟩
    have htrace : ∃ n, (way, x) ∈ (trace key next start n).seen := by
      induction way generalizing x with
      | nil =>
        obtain rfl := Option.some.inj halong
        exact ⟨0, List.mem_singleton_self _⟩
      | cons k way ih =>
        obtain ⟨z, hz, hx⟩ := Option.bind_eq_some_iff.mp halong
        obtain ⟨n, hmem⟩ := ih hfollowed.tail hz
        obtain ⟨m, done, hturned, hdone⟩ := Turned.eventually_done hmem
        exact ⟨m, hturned.mem_of_offered (hturned.offered _ hdone k x hx) hfollowed halong⟩
    obtain ⟨n, hmem⟩ := htrace
    refine ⟨n, ?_⟩
    rw [← (trace_snd key next start n).1]
    exact List.mem_map_of_mem hmem

end Seen

end SnesModem.Lib.Worklist
