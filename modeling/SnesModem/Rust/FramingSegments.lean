import SnesModem.Rust.FramingStream

/-!
# The decoder, segment by segment

What the decoder reports for a stream, said of the segments between the flags.

* `decodeSegment`: the octets of a segment, read from left to right;
* `segmentEvent`: the event of a segment, which no other segment enters;
* `feed_stream`: a new decoder reports the events of the complete segments behind the first flag, in order.
-/

namespace SnesModem.Rust.FramingSegments

open SnesModem.Rust.Framing SnesModem.Rust.Framing.AsyncDecoder SnesModem.Rust.FramingStream

/-! ### The specification -/

/-- What is decoded of a segment: the octets, whether an escape is left pending, and whether the reading stopped at
an octet beyond the maximum. -/
structure Decoded where
  octets : List UInt8
  pending : Bool
  exceeded : Bool
  deriving DecidableEq, Repr

/-- One more octet in front. -/
def Decoded.cons (octet : UInt8) (decoded : Decoded) : Decoded := { decoded with octets := octet :: decoded.octets }

/-- The reading of a segment with room for so many octets: controls of the ACCM are dropped, and an octet behind an
escape is taken in its transparent form. -/
def decodeSegment (accm : UInt32) (room : ℕ) (pending : Bool) : List UInt8 → Decoded
  | [] => ⟨[], pending, false⟩
  | octet :: segment =>
    if accmContains accm octet then decodeSegment accm room pending segment
    else if pending = false ∧ octet = controlEscape then decodeSegment accm room true segment
    else match room with
      | 0 => ⟨[], false, true⟩
      | room + 1 => (decodeSegment accm room false segment).cons (if pending then octet ^^^ transparencyXor else octet)

/-- The event of a complete segment. -/
def segmentEvent (accm : UInt32) (maximum : ℕ) (segment : List UInt8) : Option DecodeEvent :=
  let decoded := decodeSegment accm maximum false segment
  if decoded.exceeded then some (.overflow maximum)
  else if decoded.pending then some (.invalidFrame .escapeBeforeFlag)
  else if decoded.octets = [] then none
  else if decoded.octets.length < minimumFrameWithFcsLength then some (.invalidFrame .tooShort)
  else if !hasValidFcs16 decoded.octets then some (.fcsError decoded.octets.length)
  else some (.frame (decoded.octets.take (decoded.octets.length - fcs16Length)))

/-- The segments between the flags of a stream: what stands before the first flag is none, and what stands behind the
last one is not complete. -/
def completeSegments (stream : List UInt8) : List (List UInt8) := ((stream.splitOn flagSequence).drop 1).dropLast

/-- The events of a stream. -/
def streamEvents (accm : UInt32) (maximum : ℕ) (stream : List UInt8) : List DecodeEvent :=
  (completeSegments stream).filterMap (segmentEvent accm maximum)

/-! ### One segment -/

section Segment

variable (accm : UInt32) (maximum : ℕ)

/-- The decoder that has read a part of a segment. -/
def reading (decoded : Decoded) : AsyncDecoder where
  receiveAccm := accm
  maximumUnescapedLength := maximum
  frame := if decoded.exceeded then [] else decoded.octets
  synchronized := true
  escaped := decoded.pending
  overflowed := decoded.exceeded

/-- The same reading behind octets that are decoded already. -/
def Decoded.after (front : List UInt8) (decoded : Decoded) : Decoded :=
  { decoded with octets := front ++ decoded.octets }

lemma after_cons (front : List UInt8) (octet : UInt8) (decoded : Decoded) :
    (decoded.cons octet).after front = decoded.after (front ++ [octet]) := by
  simp [Decoded.after, Decoded.cons]

variable {accm maximum}

lemma feed_of_overflowed {d : AsyncDecoder} (hd : d.overflowed = true) {segment : List UInt8}
    (h : flagSequence ∉ segment) : d.feed segment = (d, []) := by
  induction segment with
  | nil => rfl
  | cons octet segment ih =>
    obtain ⟨hne, hrest⟩ := not_or.mp (mt List.mem_cons.mpr h)
    have hpush : d.push octet = (d, none) := by simp [push, Ne.symm hne, hd]
    simp [feed, hpush, ih hrest]

/-- **The decoder reads a segment** as `decodeSegment` does, and reports nothing. -/
theorem feed_segment (front : List UInt8) (pending : Bool) {segment : List UInt8} (h : flagSequence ∉ segment)
    (hroom : front.length ≤ maximum) :
    (reading accm maximum ⟨front, pending, false⟩).feed segment =
      (reading accm maximum ((decodeSegment accm (maximum - front.length) pending segment).after front), []) := by
  induction segment generalizing front pending with
  | nil => simp [feed, decodeSegment, Decoded.after]
  | cons octet segment ih =>
    obtain ⟨hne, hrest⟩ := not_or.mp (mt List.mem_cons.mpr h)
    have hflag : octet ≠ flagSequence := Ne.symm hne
    unfold decodeSegment
    by_cases hcontrol : accmContains accm octet = true
    · rw [if_pos hcontrol, feed, push_of_accmContains _ (show accmContains (reading accm maximum _).receiveAccm _ = _ from
        hcontrol)]
      dsimp only
      rw [ih front pending hrest hroom]
      rfl
    rw [if_neg hcontrol]
    by_cases hescape : pending = false ∧ octet = controlEscape
    · obtain ⟨rfl, rfl⟩ := hescape
      have hpush : (reading accm maximum ⟨front, false, false⟩).push controlEscape =
          (reading accm maximum ⟨front, true, false⟩, none) := by
        simp [push, reading, hcontrol, show controlEscape ≠ flagSequence by decide]
      rw [if_pos ⟨rfl, rfl⟩, feed, hpush]
      dsimp only
      rw [ih front true hrest hroom]
      rfl
    · rw [if_neg hescape]
      have hpush : (reading accm maximum ⟨front, pending, false⟩).push octet =
          ((reading accm maximum ⟨front, false, false⟩).store
            (if pending then octet ^^^ transparencyXor else octet), none) := by
        cases pending with
        | true => simp [push, reading, hcontrol, hflag]
        | false =>
          have hother : octet ≠ controlEscape := fun heq => hescape ⟨rfl, heq⟩
          simp [push, reading, hcontrol, hflag, hother]
      generalize (if pending then octet ^^^ transparencyXor else octet) = kept at hpush ⊢
      rw [feed, hpush]
      dsimp only
      rcases hroom.eq_or_lt with hfull | hspace
      · -- The octet is the first one beyond the maximum.
        have hstore : (reading accm maximum ⟨front, false, false⟩).store kept =
            reading accm maximum ⟨front, false, true⟩ := by
          simp [store, reading, hfull]
        rw [hstore, feed_of_overflowed rfl hrest, hfull, Nat.sub_self]
        simp [Decoded.after]
      · have hstore : (reading accm maximum ⟨front, false, false⟩).store kept =
            reading accm maximum ⟨front ++ [kept], false, false⟩ := by
          simp [store, reading, hspace.ne]
        obtain ⟨room, hleft⟩ : ∃ room, maximum - front.length = room + 1 := ⟨maximum - front.length - 1, by omega⟩
        have hafter : maximum - (front ++ [kept]).length = room := by
          rw [List.length_append, List.length_singleton]
          omega
        have hfits : (front ++ [kept]).length ≤ maximum := by
          rw [List.length_append, List.length_singleton]
          omega
        rw [hstore, ih (front ++ [kept]) false hrest hfits, hafter, hleft]
        dsimp only
        rw [after_cons]
        rfl

/-- Past a flag the decoder knows nothing of what came before it. -/
theorem push_flag (d : AsyncDecoder) :
    (d.push flagSequence).1 = reading d.receiveAccm d.maximumUnescapedLength ⟨[], false, false⟩ := by
  unfold push finishAtFlag reading
  rw [if_pos rfl]
  obtain ⟨accm, maximum, frame, synchronized, escaped, overflowed⟩ := d
  split_ifs <;> simp_all

/-- At the flag the decoder reports the event of the segment. -/
theorem event_flag (decoded : Decoded) (hexceeded : decoded.exceeded = true → decoded.pending = false) :
    ((reading accm maximum decoded).push flagSequence).2 =
      if decoded.exceeded then some (.overflow maximum)
      else if decoded.pending then some (.invalidFrame .escapeBeforeFlag)
      else if decoded.octets = [] then none
      else if decoded.octets.length < minimumFrameWithFcsLength then some (.invalidFrame .tooShort)
      else if !hasValidFcs16 decoded.octets then some (.fcsError decoded.octets.length)
      else some (.frame (decoded.octets.take (decoded.octets.length - fcs16Length))) := by
  obtain ⟨octets, pending, exceeded⟩ := decoded
  unfold push finishAtFlag reading
  cases exceeded with
  | true =>
    obtain rfl : pending = false := hexceeded rfl
    rfl
  | false =>
    cases pending with
    | true => rfl
    | false =>
      rw [if_pos rfl]
      dsimp only
      split_ifs <;> simp_all

/-- A reading that stopped leaves no escape pending. -/
lemma pending_of_exceeded (room : ℕ) (pending : Bool) (segment : List UInt8)
    (h : (decodeSegment accm room pending segment).exceeded = true) :
    (decodeSegment accm room pending segment).pending = false := by
  induction segment generalizing room pending with
  | nil => cases h
  | cons octet segment ih =>
    unfold decodeSegment at h ⊢
    by_cases hcontrol : accmContains accm octet = true
    · rw [if_pos hcontrol] at h ⊢
      exact ih room pending h
    rw [if_neg hcontrol] at h ⊢
    by_cases hescape : pending = false ∧ octet = controlEscape
    · rw [if_pos hescape] at h ⊢
      exact ih room true h
    rw [if_neg hescape] at h ⊢
    cases room with
    | zero => rfl
    | succ room => exact ih room false h

/-- A segment and the flag behind it. -/
theorem feed_segment_flag {segment : List UInt8} (h : flagSequence ∉ segment) :
    (reading accm maximum ⟨[], false, false⟩).feed (segment ++ [flagSequence]) =
      (reading accm maximum ⟨[], false, false⟩, (segmentEvent accm maximum segment).toList) := by
  have hread : (reading accm maximum ⟨[], false, false⟩).feed segment =
      (reading accm maximum (decodeSegment accm maximum false segment), []) :=
    feed_segment [] false h (Nat.zero_le _)
  rw [feed_append, hread]
  simp only [feed, List.nil_append, List.append_nil]
  rw [event_flag _ (pending_of_exceeded maximum false segment), push_flag]
  rfl

/-! ### Streams -/

/-- Segments with flags between them: the last one has no flag behind it, and reports nothing. -/
lemma feed_segments {segments : List (List UInt8)} (hne : segments ≠ []) (h : ∀ segment ∈ segments, flagSequence ∉ segment) :
    ((reading accm maximum ⟨[], false, false⟩).feed ([flagSequence].intercalate segments)).2 =
      segments.dropLast.filterMap (segmentEvent accm maximum) := by
  induction segments with
  | nil => exact absurd rfl hne
  | cons segment segments ih =>
    have hsegment : flagSequence ∉ segment := h segment List.mem_cons_self
    cases segments with
    | nil =>
      rw [List.intercalate_singleton, feed_segment [] false hsegment (Nat.zero_le _)]
      rfl
    | cons next rest =>
      have hstream : [flagSequence].intercalate (segment :: next :: rest) =
          (segment ++ [flagSequence]) ++ [flagSequence].intercalate (next :: rest) := by
        rw [List.intercalate_cons_cons, List.append_assoc]
      rw [hstream, feed_append, feed_segment_flag hsegment]
      dsimp only
      rw [ih (List.cons_ne_nil next rest) fun other hother => h other (List.mem_cons_of_mem segment hother),
        List.dropLast_cons_cons, List.filterMap_cons]
      cases segmentEvent accm maximum segment <;> rfl

end Segment

lemma not_mem_of_mem_splitOn {stream segment : List UInt8} (h : segment ∈ stream.splitOn flagSequence) :
    flagSequence ∉ segment := by
  induction stream generalizing segment with
  | nil =>
    rw [List.splitOn_nil, List.mem_singleton] at h
    rw [h]
    exact List.not_mem_nil
  | cons octet stream ih =>
    rw [List.splitOn_cons_eq_if_modifyHead] at h
    split_ifs at h with hflag
    · rcases List.mem_cons.mp h with rfl | h
      · exact List.not_mem_nil
      · exact ih h
    · obtain ⟨first, rest, hsplit⟩ := List.exists_cons_of_ne_nil (List.splitOn_ne_nil flagSequence stream)
      rw [hsplit, List.modifyHead_cons] at h
      rcases List.mem_cons.mp h with rfl | h
      · intro hmem
        rcases List.mem_cons.mp hmem with heq | hmem
        · exact hflag (by simp [heq])
        · exact ih (by simp [hsplit]) hmem
      · exact ih (by simp [hsplit, h])

/-- **A new decoder reports the events of the complete segments** behind the first flag. -/
theorem feed_stream (accm : UInt32) (maximum : ℕ) (stream : List UInt8) :
    ((AsyncDecoder.new accm maximum).feed stream).2 = streamEvents accm maximum stream := by
  have hparts : ∀ segment ∈ stream.splitOn flagSequence, flagSequence ∉ segment := fun _ => not_mem_of_mem_splitOn
  have hstream : [flagSequence].intercalate (stream.splitOn flagSequence) = stream := List.intercalate_splitOn _
  unfold streamEvents completeSegments
  rw [← hstream, hstream]
  generalize stream.splitOn flagSequence = segments at hparts hstream ⊢
  subst hstream
  cases segments with
  | nil => rfl
  | cons noise segments =>
    have hnoise := feed_noise (AsyncDecoder.new accm maximum) rfl noise (hparts noise List.mem_cons_self)
    cases segments with
    | nil =>
      rw [List.intercalate_singleton, hnoise]
      rfl
    | cons segment rest =>
      rw [List.intercalate_cons_cons, List.append_assoc, feed_append, hnoise, List.singleton_append, feed, new_flag]
      exact feed_segments (List.cons_ne_nil segment rest) fun other hother => hparts other (List.mem_cons_of_mem noise hother)

/-! ### The buffer -/

section Bound

variable {d : AsyncDecoder}

lemma store_bounded (octet : UInt8) (h : d.frame.length ≤ d.maximumUnescapedLength) :
    (d.store octet).frame.length ≤ (d.store octet).maximumUnescapedLength := by
  unfold store
  split_ifs with hfull
  · exact Nat.zero_le _
  · rw [List.length_append, List.length_singleton]
    exact Nat.lt_of_le_of_ne h hfull

lemma finishAtFlag_bounded (h : d.frame.length ≤ d.maximumUnescapedLength) :
    d.finishAtFlag.1.frame.length ≤ d.finishAtFlag.1.maximumUnescapedLength := by
  unfold finishAtFlag
  split_ifs <;> first | exact h | exact Nat.zero_le _

lemma push_bounded (octet : UInt8) (h : d.frame.length ≤ d.maximumUnescapedLength) :
    (d.push octet).1.frame.length ≤ (d.push octet).1.maximumUnescapedLength := by
  unfold push
  split_ifs
  · exact finishAtFlag_bounded h
  · exact h
  · exact h
  · exact store_bounded _ h
  · exact h
  · exact store_bounded _ h

@[simp] lemma maximum_push (octet : UInt8) : (d.push octet).1.maximumUnescapedLength = d.maximumUnescapedLength := by
  unfold push finishAtFlag store
  split_ifs <;> rfl

lemma receiveAccm_feed (stream : List UInt8) : (d.feed stream).1.receiveAccm = d.receiveAccm := by
  induction stream generalizing d with
  | nil => rfl
  | cons octet stream ih => exact ih.trans (receiveAccm_push d octet)

lemma maximum_feed (stream : List UInt8) : (d.feed stream).1.maximumUnescapedLength = d.maximumUnescapedLength := by
  induction stream generalizing d with
  | nil => rfl
  | cons octet stream ih => exact ih.trans (maximum_push octet)

/-- **The buffer of a stream** stays within the maximum. -/
theorem feed_bounded (stream : List UInt8) (h : d.frame.length ≤ d.maximumUnescapedLength) :
    (d.feed stream).1.frame.length ≤ d.maximumUnescapedLength := by
  induction stream generalizing d with
  | nil => exact h
  | cons octet stream ih => exact (ih (push_bounded octet h)).trans_eq (maximum_push octet)

end Bound

/-- **The decoder meets its specification**: a new decoder reports the events of the complete segments, each segment
reports the same behind every stream that ends with a flag, and the buffer stays within the maximum. -/
theorem decoder_specification (accm : UInt32) (maximum : ℕ) (stream : List UInt8) :
    ((AsyncDecoder.new accm maximum).feed stream).2 = streamEvents accm maximum stream ∧
    (∀ segment, flagSequence ∉ segment →
      ((AsyncDecoder.new accm maximum).feed (stream ++ [flagSequence] ++ (segment ++ [flagSequence]))).2 =
        ((AsyncDecoder.new accm maximum).feed (stream ++ [flagSequence])).2 ++
          (segmentEvent accm maximum segment).toList) ∧
    ((AsyncDecoder.new accm maximum).feed stream).1.frame.length ≤ maximum := by
  refine ⟨feed_stream accm maximum stream, fun segment hsegment => ?_,
    feed_bounded stream (d := AsyncDecoder.new accm maximum) (Nat.zero_le _)⟩
  have hflag : ((AsyncDecoder.new accm maximum).feed (stream ++ [flagSequence])).1 =
      reading accm maximum ⟨[], false, false⟩ := by
    rw [feed_append]
    simp only [feed]
    rw [push_flag, receiveAccm_feed, maximum_feed]
    rfl
  rw [feed_append, hflag, feed_segment_flag hsegment]

/-- The second segment has an escape before its flag, and the third one is a frame. -/
example : streamEvents 0xffffffff 4 [1, 0x7e, 2, 0x7d, 0x11, 0x7e, 0xff, 0x7d, 0x5e, 0x7d, 0x5e, 0x6a, 0x7e, 3] =
    [.invalidFrame .escapeBeforeFlag, .frame [0xff, 0x7e]] := by decide +kernel

end SnesModem.Rust.FramingSegments
