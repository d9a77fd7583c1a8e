import Mathlib.Data.List.DropRight
import SnesModem.Asm.RingFifo

/-!
# The lines that the session reads

A line is what has come since the last LF, without the CRs.  The line buffer holds 31 octets; the octet that does not
fit starts it anew and is dropped.

* `line`, `resultAt`: the lines of a stream and the results that they report;
* `kept`, `keptAt`: what the buffer holds of a line, and the result that is read off it;
* `Follows`: the session has read a stream, and has found no result;
* `readResponse_of_follows`: what a poll reads of the ring, and the result it stops at.
-/

namespace SnesModem.Asm.SessionLines

open SnesModem.Lib SnesModem.Lib.Octets SnesModem.Asm.Modem

abbrev carriageReturn : UInt8 := 0x0d
abbrev lineFeed : UInt8 := 0x0a

/-! ### Streams -/

/-- The octets since the last LF, without the CRs. -/
def line (stream : List UInt8) : List UInt8 :=
  (stream.rtakeWhile fun octet => octet ≠ lineFeed).filter fun octet => octet ≠ carriageReturn

/-- The result that the octet at `n` reports: that of the line which it ends. -/
def resultAt (stream : List UInt8) (n : ℕ) : Option SessionResult :=
  if stream[n]? = some lineFeed then lineResult (line (stream.take n)) else none

/-- What the buffer holds of a line: whole runs of 32 octets are gone. -/
def kept (text : List UInt8) : List UInt8 := text.drop (32 * (text.length / 32))

/-- The result that is read off the buffer at `n`. -/
def keptAt (stream : List UInt8) (n : ℕ) : Option SessionResult :=
  if stream[n]? = some lineFeed then lineResult (kept (line (stream.take n))) else none

/-- A line whose text does not fit the buffer, and what is left of it reports something else. -/
def Misread (text : List UInt8) : Prop := 32 ≤ text.length ∧ lineResult (kept text) ≠ lineResult text

section Lines

variable (stream : List UInt8)

@[simp] lemma line_nil : line [] = [] := rfl

@[simp] lemma line_lineFeed : line (stream ++ [lineFeed]) = [] := by
  unfold line
  rw [List.rtakeWhile_concat_neg _ _ _ (by simp)]
  rfl

@[simp] lemma line_carriageReturn : line (stream ++ [carriageReturn]) = line stream := by
  unfold line
  rw [List.rtakeWhile_concat_pos _ _ _ (by decide), List.filter_append]
  simp

lemma line_concat {octet : UInt8} (hreturn : octet ≠ carriageReturn) (hfeed : octet ≠ lineFeed) :
    line (stream ++ [octet]) = line stream ++ [octet] := by
  unfold line
  rw [List.rtakeWhile_concat_pos _ _ _ (by simpa using hfeed), List.filter_append]
  simp [hreturn]

lemma kept_of_short {text : List UInt8} (h : text.length < 32) : kept text = text := by
  unfold kept
  rw [Nat.div_eq_of_lt h, Nat.mul_zero, List.drop_zero]

lemma length_kept (text : List UInt8) : (kept text).length = text.length % 32 := by
  unfold kept
  rw [List.length_drop]
  omega

/-- **One more octet** on the line: it is kept, or it is the one that does not fit. -/
lemma kept_concat (text : List UInt8) (octet : UInt8) :
    kept (text ++ [octet]) = if (kept text).length = 31 then [] else kept text ++ [octet] := by
  rw [length_kept]
  unfold kept
  rw [List.length_append, List.length_singleton]
  split_ifs with hfull
  · rw [List.drop_eq_nil_iff, List.length_append, List.length_singleton]
    omega
  · have hsame : (text.length + 1) / 32 = text.length / 32 := by omega
    rw [hsame, List.drop_append_of_le_length (by omega)]

lemma lineResult_ne_none {text : List UInt8} {result : SessionResult} (h : lineResult text = some result) :
    result ≠ .none := by
  unfold lineResult at h
  split_ifs at h <;> cases h <;> nofun

end Lines

/-! ### Results along a stream -/

section Results

variable {stream : List UInt8} {octet : UInt8}

lemma keptAt_append {n : ℕ} (hn : n < stream.length) (behind : List UInt8) :
    keptAt (stream ++ behind) n = keptAt stream n := by
  unfold keptAt
  rw [List.getElem?_append_left hn, List.take_append_of_le_length hn.le]

lemma keptAt_last : keptAt (stream ++ [octet]) stream.length =
    if octet = lineFeed then lineResult (kept (line stream)) else none := by
  unfold keptAt
  rw [List.getElem?_concat_length, List.take_left]
  simp

lemma keptAt_of_le {n : ℕ} (hn : stream.length ≤ n) : keptAt stream n = none := by
  unfold keptAt
  rw [List.getElem?_eq_none hn]
  rfl

/-- No octet of the stream has reported a result. -/
def Quiet (stream : List UInt8) : Prop := ∀ n, keptAt stream n = none

lemma quiet_nil : Quiet [] := fun _ => keptAt_of_le (Nat.zero_le _)

lemma quiet_concat (h : Quiet stream) (hlast : octet = lineFeed → lineResult (kept (line stream)) = none) :
    Quiet (stream ++ [octet]) := by
  intro n
  rcases Nat.lt_trichotomy n stream.length with hn | rfl | hn
  · rw [keptAt_append hn, h n]
  · rw [keptAt_last]
    split_ifs with hfeed
    · exact hlast hfeed
    · rfl
  · exact keptAt_of_le (by rw [List.length_append, List.length_singleton]; omega)

/-- The octet is the first of the stream to report a result. -/
structure Reports (stream : List UInt8) (result : SessionResult) : Prop where
  ends : ∃ before, stream = before ++ [lineFeed] ∧ Quiet before ∧ lineResult (kept (line before)) = some result

end Results

/-! ### The buffer -/

/-- The session has read the stream and found no result; the buffer holds what it keeps of the line. -/
structure Follows (m : Modem) (stream : List UInt8) : Prop where
  lastResult : m.lastResult = .none
  length : m.lineLength.toNat = (kept (line stream)).length
  text : read m.line 0 m.lineLength.toNat = kept (line stream)
  quiet : Quiet stream

section Follow

variable {m m' : Modem} {stream : List UInt8} {octet : UInt8}

/-- The session only looks at its own variables. -/
lemma Follows.congr (h : Follows m stream) (hresult : m'.lastResult = m.lastResult) (hline : m'.line = m.line)
    (hlength : m'.lineLength = m.lineLength) : Follows m' stream := by
  refine ⟨hresult.trans h.lastResult, ?_, ?_, h.quiet⟩
  · rw [hlength]
    exact h.length
  · rw [hline, hlength]
    exact h.text

lemma follows_nil (hresult : m.lastResult = .none) (hlength : m.lineLength = 0) : Follows m [] := by
  refine ⟨hresult, ?_, ?_, quiet_nil⟩
  · rw [hlength]
    rfl
  · rw [hlength]
    rfl

/-- **One octet**: the session follows the stream, or the octet is the LF of a line with a result. -/
lemma feedByte_cases (h : Follows m stream) (octet : UInt8) :
    Follows (m.feedByte octet) (stream ++ [octet]) ∨
      ((m.feedByte octet).lastResult ≠ .none ∧ Reports (stream ++ [octet]) (m.feedByte octet).lastResult) := by
  unfold feedByte
  by_cases hreturn : octet = 0x0d
  · rw [if_pos hreturn, hreturn]
    refine Or.inl ⟨h.lastResult, ?_, ?_, quiet_concat h.quiet nofun⟩
    · rw [line_carriageReturn]
      exact h.length
    · rw [line_carriageReturn]
      exact h.text
  rw [if_neg hreturn]
  by_cases hfeed : octet = 0x0a
  · rw [if_pos hfeed, hfeed]
    unfold finishLine
    rw [h.text]
    cases hresult : lineResult (kept (line stream)) with
    | none =>
      refine Or.inl ⟨h.lastResult, ?_, ?_, quiet_concat h.quiet fun _ => hresult⟩
      · rw [line_lineFeed]
        rfl
      · rw [line_lineFeed]
        rfl
    | some result => exact Or.inr ⟨lineResult_ne_none hresult, ⟨stream, rfl, h.quiet, hresult⟩⟩
  rw [if_neg hfeed]
  have hline := line_concat stream hreturn hfeed
  have hquiet : Quiet (stream ++ [octet]) := quiet_concat h.quiet fun hfeed' => absurd hfeed' hfeed
  have hthirtyOne : (0x1f : UInt8).toNat = 31 := rfl
  have hshort : (kept (line stream)).length < 32 := by
    rw [length_kept]
    omega
  by_cases hfull : 0x1f ≤ m.lineLength
  · rw [if_pos hfull]
    rw [UInt8.le_iff_toNat_le, hthirtyOne, h.length] at hfull
    have hempty : kept (line (stream ++ [octet])) = [] := by
      rw [hline, kept_concat, if_pos (by omega)]
    refine Or.inl ⟨h.lastResult, ?_, ?_, hquiet⟩
    · rw [hempty]
      rfl
    · rw [hempty]
      rfl
  · rw [if_neg hfull]
    rw [UInt8.le_iff_toNat_le, hthirtyOne, h.length] at hfull
    have hlonger : kept (line (stream ++ [octet])) = kept (line stream) ++ [octet] := by
      rw [hline, kept_concat, if_neg (by omega)]
    have hnext : (m.lineLength + 1).toNat = m.lineLength.toNat + 1 := by
      have hone : (1 : UInt8).toNat = 1 := rfl
      have hlength := h.length
      rw [UInt8.toNat_add, hone]
      omega
    refine Or.inl ⟨h.lastResult, ?_, ?_, hquiet⟩
    · show (m.lineLength + 1).toNat = _
      rw [hnext, hlonger, List.length_append, List.length_singleton, h.length]
    · show read _ 0 (m.lineLength + 1).toNat = _
      rw [hnext, hlonger, read_append, ← h.text]
      congr 1
      · exact read_congr _ fun i _ hi => Function.update_of_ne (by omega) _ _
      · rw [Nat.zero_add, read_succ, read_zero]
        exact congrArg (fun last => [last]) (Function.update_self _ _ _)

/-- **A poll** reads the whole ring and finds no result, or it stops behind the first LF that ends a line with one. -/
theorem readResponse_of_follows (fuel : ℕ) (h : Follows m stream) (hfuel : m.receive.held < fuel) :
    ((readResponse fuel m).2 = false ∧ (readResponse fuel m).1.receive.contents = [] ∧
      Follows (readResponse fuel m).1 (stream ++ m.receive.contents)) ∨
    ((readResponse fuel m).2 = true ∧ ∃ taken, taken ++ (readResponse fuel m).1.receive.contents = m.receive.contents ∧
      Reports (stream ++ taken) (readResponse fuel m).1.lastResult) := by
  induction fuel generalizing m stream with
  | zero => omega
  | succ fuel ih =>
    unfold readResponse
    cases hempty : m.receive.isEmpty with
    | true =>
      have hpop : m.receive.pop = none := if_pos hempty
      have hcontents := Ring.contents_eq_nil_iff.mpr hempty
      rw [hpop]
      refine Or.inl ⟨rfl, hcontents, ?_⟩
      rw [hcontents, List.append_nil]
      exact h
    | false =>
      have hpop : m.receive.pop = some (m.receive.storage m.receive.readIndex.toNat,
          { m.receive with readIndex := m.receive.readIndex + 1 }) := if_neg (by rw [hempty]; nofun)
      have hcontents := Ring.contents_advance m.receive.storage hempty fun _ _ _ => rfl
      rw [hpop]
      dsimp only
      generalize m.receive.storage m.receive.readIndex.toNat = octet at hcontents ⊢
      generalize hrest : ({ m.receive with readIndex := m.receive.readIndex + 1 } : Ring) = receive at hcontents ⊢
      have hheld : receive.held < fuel := by
        have hlength := congrArg List.length hcontents
        rw [List.length_cons, Ring.length_contents, Ring.length_contents] at hlength
        omega
      have hnext : Follows { m with receive := receive } stream := h.congr rfl rfl rfl
      have hring : ({ m with receive := receive }.feedByte octet).receive = receive := by
        unfold feedByte finishLine
        split_ifs <;> first | rfl | (split <;> rfl)
      rcases feedByte_cases hnext octet with hfollows | ⟨hne, hreports⟩
      · rw [if_pos hfollows.lastResult]
        rcases ih hfollows (by rwa [hring]) with ⟨hnone, hdone, hread⟩ | ⟨hfound, taken, htaken, hreports⟩
        · rw [hring, List.append_assoc, List.singleton_append, hcontents] at hread
          exact Or.inl ⟨hnone, hdone, hread⟩
        · refine Or.inr ⟨hfound, octet :: taken, ?_, ?_⟩
          · rw [List.cons_append, htaken, hring, hcontents]
          · rwa [List.append_assoc, List.singleton_append] at hreports
      · rw [if_neg hne]
        refine Or.inr ⟨rfl, [octet], ?_, hreports⟩
        rw [List.singleton_append, hring, hcontents]

end Follow

end SnesModem.Asm.SessionLines
