import SnesModem.Rust.Framing

/-!
# The decoder reads back what the encoder wrote

* `fcs16_appendFcs16`: a frame with its check sequence has the good residue;
* `Inserted`: a stream with control octets of the receive ACCM put in anywhere, which the decoder does not
  see (`feed_inserted`);
* `feed_encodeAsync`: from a flag on, the decoder turns one encoded frame into one frame event and waits for
  the next flag, so a whole stream of frames gives their events in order.
-/

namespace SnesModem.Rust.FramingStream

open SnesModem.Lib SnesModem.Rust.Framing SnesModem.Rust.Framing.AsyncDecoder

/-! ### The residue of a frame with its check sequence -/

section Residue

lemma toBitVec_shiftFcs16 (c : UInt16) :
    (shiftFcs16 c).toBitVec = ReflectedCrc.shift 0x8408#16 c.toBitVec := by
  have bit : (c &&& 1 ≠ 0) ↔ c.toBitVec.getLsbD 0 = true := by
    have hz : c &&& 1 = 0 ↔ c.toBitVec &&& 1#16 = 0#16 := by
      rw [← UInt16.toBitVec_inj]
      simp
    rw [Ne, hz, BitVec.and_one_eq_setWidth_ofBool_getLsbD]
    cases c.toBitVec.getLsbD 0 <;> simp
  unfold shiftFcs16 ReflectedCrc.shift
  by_cases h : c.toBitVec.getLsbD 0
  · rw [if_pos (bit.mpr h), if_pos h]
    simp
  · rw [if_neg (mt bit.mp h), if_neg h]
    simp

lemma toBitVec_iterate_shiftFcs16 (n : ℕ) (c : UInt16) :
    (shiftFcs16^[n] c).toBitVec = (ReflectedCrc.shift 0x8408#16)^[n] c.toBitVec := by
  induction n generalizing c with
  | zero => rfl
  | succ n ih => rw [Function.iterate_succ_apply, ih, toBitVec_shiftFcs16, Function.iterate_succ_apply]

lemma toBitVec_updateFcs16 (c : UInt16) (octet : UInt8) :
    (updateFcs16 c octet).toBitVec =
      ReflectedCrc.absorb 0x8408#16 8 c.toBitVec (octet.toBitVec.setWidth 16) := by
  unfold updateFcs16 ReflectedCrc.absorb
  rw [toBitVec_iterate_shiftFcs16]
  simp

lemma setWidth_toUInt8 (c : UInt16) : c.toUInt8.toBitVec.setWidth 16 = ReflectedCrc.low 8 c.toBitVec := by
  apply BitVec.eq_of_getLsbD_eq
  intro i hi
  rw [ReflectedCrc.getLsbD_low]
  simp [hi]

/-- The two octets of the complemented register bring it to the good value. -/
theorem update_trailer (c : UInt16) :
    (leBytes (c ^^^ 0xffff)).foldl updateFcs16 c = goodFcs16 := by
  have lo : (c ^^^ 0xffff).toUInt8.toBitVec.setWidth 16 = ReflectedCrc.low 8 (~~~c.toBitVec) := by
    rw [setWidth_toUInt8, UInt16.toBitVec_xor]
    congr 1
    exact BitVec.xor_allOnes
  have hi : ((c ^^^ 0xffff) >>> 8).toUInt8.toBitVec.setWidth 16 =
      ReflectedCrc.low 8 (~~~(c.toBitVec >>> 8)) := by
    rw [setWidth_toUInt8]
    apply BitVec.eq_of_getLsbD_eq
    intro i h16
    simp only [ReflectedCrc.getLsbD_low]
    by_cases h8 : i < 8
    · have : 8 + i < 16 := by omega
      have ones : (0xffff#16).getLsbD (8 + i) = true := by
        rw [show 0xffff#16 = BitVec.allOnes 16 from rfl, BitVec.getLsbD_allOnes]
        simpa using this
      simp [h8, h16, ones]
    · simp [h8]
  rw [← UInt16.toBitVec_inj]
  simp only [leBytes, List.foldl_cons, List.foldl_nil, toBitVec_updateFcs16, lo, hi]
  rw [ReflectedCrc.absorb_not_own_words, ← BitVec.shiftRight_add,
    BitVec.ushiftRight_eq_zero (by omega)]
  decide +kernel

theorem fcs16_appendFcs16 (frame : List UInt8) : fcs16 (appendFcs16 frame) = goodFcs16 := by
  unfold appendFcs16 fcs16
  rw [List.foldl_append]
  exact update_trailer _

lemma length_appendFcs16 (frame : List UInt8) : (appendFcs16 frame).length = frame.length + 2 := by
  simp [appendFcs16, leBytes]

end Residue

/-! ### Octets the decoder drops -/

/-- The second stream is the first with control octets of `accm` inserted anywhere. -/
inductive Inserted (accm : UInt32) : List UInt8 → List UInt8 → Prop
  | nil : Inserted accm [] []
  | keep {xs ys : List UInt8} (octet : UInt8) : Inserted accm xs ys →
      Inserted accm (octet :: xs) (octet :: ys)
  | insert {xs ys : List UInt8} (control : UInt8) : accmContains accm control = true →
      Inserted accm xs ys → Inserted accm xs (control :: ys)

section Feed

lemma feed_append (d : AsyncDecoder) (xs ys : List UInt8) :
    d.feed (xs ++ ys) =
      (((d.feed xs).1.feed ys).1, (d.feed xs).2 ++ ((d.feed xs).1.feed ys).2) := by
  induction xs generalizing d with
  | nil => simp [feed]
  | cons x xs ih => simp [feed, ih]

lemma receiveAccm_store (d : AsyncDecoder) (octet : UInt8) : (d.store octet).receiveAccm = d.receiveAccm := by
  unfold store
  split <;> rfl

lemma receiveAccm_finishAtFlag (d : AsyncDecoder) : d.finishAtFlag.1.receiveAccm = d.receiveAccm := by
  unfold finishAtFlag
  split_ifs <;> rfl

lemma receiveAccm_push (d : AsyncDecoder) (octet : UInt8) : (d.push octet).1.receiveAccm = d.receiveAccm := by
  unfold push
  split_ifs <;> simp [receiveAccm_store, receiveAccm_finishAtFlag]

lemma lt_of_accmContains {accm : UInt32} {octet : UInt8} (h : accmContains accm octet = true) :
    octet < 0x20 := by
  unfold accmContains at h
  simpa using (Bool.and_eq_true_iff.mp h).1

lemma push_of_accmContains (d : AsyncDecoder) {octet : UInt8} (h : accmContains d.receiveAccm octet = true) :
    d.push octet = (d, none) := by
  have hflag : octet ≠ flagSequence := by
    rintro rfl
    exact absurd (lt_of_accmContains h) (by decide)
  unfold push
  rw [if_neg hflag]
  split_ifs <;> rfl

/-- **Inserted controls are not seen**: the decoder ends the same, with the same events. -/
theorem feed_inserted {accm : UInt32} {xs ys : List UInt8} (h : Inserted accm xs ys) (d : AsyncDecoder)
    (hd : d.receiveAccm = accm) : d.feed ys = d.feed xs := by
  induction h generalizing d with
  | nil => rfl
  | keep octet _ ih => simp only [feed, ih _ ((receiveAccm_push d octet).trans hd)]
  | insert control hc _ ih => simp [feed, push_of_accmContains d (hd ▸ hc), ih d hd]

/-- Before the first flag nothing is kept. -/
theorem feed_noise (d : AsyncDecoder) (hd : d.synchronized = false) (noise : List UInt8)
    (h : flagSequence ∉ noise) : d.feed noise = (d, []) := by
  induction noise with
  | nil => rfl
  | cons x xs ih =>
    simp only [List.mem_cons, not_or] at h
    have : d.push x = (d, none) := by simp [push, Ne.symm h.1, hd]
    simp [feed, this, ih h.2]

end Feed

/-! ### One encoded frame -/

section Encoded

variable (accm : UInt32) (maximum : ℕ)

/-- The decoder past a flag, with the octets of the frame so far. -/
def collecting (frame : List UInt8) : AsyncDecoder where
  receiveAccm := accm
  maximumUnescapedLength := maximum
  frame := frame
  synchronized := true
  escaped := false
  overflowed := false

lemma collecting_nil_flag : (collecting accm maximum []).push flagSequence = (collecting accm maximum [], none) := by
  simp [push, finishAtFlag, collecting]

lemma new_flag : (AsyncDecoder.new accm maximum).push flagSequence = (collecting accm maximum [], none) := by
  simp [push, finishAtFlag, collecting, AsyncDecoder.new]

lemma store_collecting {frame : List UInt8} (octet : UInt8) (h : frame.length < maximum) :
    (collecting accm maximum frame).store octet = collecting accm maximum (frame ++ [octet]) := by
  unfold store
  rw [if_neg (by simpa [collecting] using h.ne)]
  rfl

variable {accm} {sendAccm : UInt32}

lemma accmContains_of_subset (hsub : accm &&& sendAccm = accm) {octet : UInt8}
    (h : accmContains accm octet = true) : accmContains sendAccm octet = true := by
  unfold accmContains at h ⊢
  simp only [Bool.and_eq_true, decide_eq_true_eq, bne_iff_ne, ne_eq] at h ⊢
  refine ⟨h.1, fun h0 => h.2 ?_⟩
  rw [← hsub, UInt32.and_assoc, h0, UInt32.and_zero]

/-- The second octet of an escape pair is neither a flag nor a control character. -/
lemma transparent_of_mustEscape {octet : UInt8} (h : mustEscape octet sendAccm = true) :
    octet ^^^ transparencyXor ≠ flagSequence ∧ ¬ octet ^^^ transparencyXor < 0x20 := by
  have cases : octet = flagSequence ∨ octet = controlEscape ∨ octet < 0x20 := by
    unfold mustEscape at h
    simp only [Bool.or_eq_true, beq_iff_eq] at h
    rcases h with (h | h) | h
    · exact Or.inl h
    · exact Or.inr (Or.inl h)
    · exact Or.inr (Or.inr (lt_of_accmContains h))
  have all : ∀ n < 256, (UInt8.ofNat n = flagSequence ∨ UInt8.ofNat n = controlEscape ∨ UInt8.ofNat n < 0x20) →
      UInt8.ofNat n ^^^ transparencyXor ≠ flagSequence ∧ ¬ UInt8.ofNat n ^^^ transparencyXor < 0x20 := by
    decide +kernel
  simpa using all octet.toNat octet.toNat_lt (by simpa using cases)

/-- **The octets of an escape** put one octet in the frame. -/
theorem feed_escape (hsub : accm &&& sendAccm = accm) {frame : List UInt8} (octet : UInt8)
    (h : frame.length < maximum) :
    (collecting accm maximum frame).feed (escape sendAccm octet) =
      (collecting accm maximum (frame ++ [octet]), []) := by
  unfold escape
  by_cases hesc : mustEscape octet sendAccm = true
  · obtain ⟨hflag, hcontrol⟩ := transparent_of_mustEscape hesc
    have hkept : accmContains accm (octet ^^^ transparencyXor) = false := by
      simp [accmContains, hcontrol]
    have hesc' : accmContains accm controlEscape = false := by
      simp [accmContains, show ¬ controlEscape < 0x20 by decide]
    have first : (collecting accm maximum frame).push controlEscape =
        ({ collecting accm maximum frame with escaped := true }, none) := by
      simp [push, collecting, hesc', show controlEscape ≠ flagSequence by decide]
    have second : ({ collecting accm maximum frame with escaped := true } : AsyncDecoder).push
        (octet ^^^ transparencyXor) = (collecting accm maximum (frame ++ [octet]), none) := by
      have hback : octet ^^^ transparencyXor ^^^ transparencyXor = octet := by
        rw [UInt8.xor_assoc, UInt8.xor_self, UInt8.xor_zero]
      have hpush : ({ collecting accm maximum frame with escaped := true } : AsyncDecoder).push
          (octet ^^^ transparencyXor) =
            ((collecting accm maximum frame).store (octet ^^^ transparencyXor ^^^ transparencyXor), none) := by
        simp [push, collecting, hkept, hflag]
      rw [hpush, hback, store_collecting accm maximum octet h]
    rw [if_pos hesc]
    simp [feed, first, second]
  · rw [if_neg hesc]
    have hflag : octet ≠ flagSequence := by
      rintro rfl
      simp [mustEscape] at hesc
    have hescape : octet ≠ controlEscape := by
      rintro rfl
      simp [mustEscape] at hesc
    have hkept : accmContains accm octet = false := by
      by_contra hc
      have := accmContains_of_subset hsub (by simpa using hc)
      simp [mustEscape, this] at hesc
    have : (collecting accm maximum frame).push octet = (collecting accm maximum (frame ++ [octet]), none) := by
      rw [← store_collecting accm maximum octet h]
      simp [push, collecting, hkept, hflag, hescape]
    simp [feed, this]

theorem feed_escapes (hsub : accm &&& sendAccm = accm) (octets frame : List UInt8)
    (h : frame.length + octets.length ≤ maximum) :
    (collecting accm maximum frame).feed (octets.flatMap (escape sendAccm)) =
      (collecting accm maximum (frame ++ octets), []) := by
  induction octets generalizing frame with
  | nil => simp [feed]
  | cons x xs ih =>
    simp only [List.length_cons] at h
    rw [List.flatMap_cons, feed_append, feed_escape maximum hsub x (by omega),
      ih (frame ++ [x]) (by simp; omega)]
    simp

/-- A flag ends a frame with its check sequence in a frame event. -/
lemma push_flag_appendFcs16 {frame : List UInt8} (h : 2 ≤ frame.length) :
    (collecting accm maximum (appendFcs16 frame)).push flagSequence =
      (collecting accm maximum [], some (.frame frame)) := by
  have hlen := length_appendFcs16 frame
  have hne : appendFcs16 frame ≠ [] := by
    rw [← List.length_pos_iff]
    omega
  have hvalid : hasValidFcs16 (appendFcs16 frame) = true := by
    simp [hasValidFcs16, fcs16_appendFcs16]
  have htake : (appendFcs16 frame).take frame.length = frame := by simp [appendFcs16]
  simp [push, finishAtFlag, collecting, hne, hvalid, hlen, htake, show ¬ frame.length + 2 < 4 by omega]

/-- **One encoded frame**: one event, and the decoder is past a flag again. -/
theorem feed_encodeAsync (hsub : accm &&& sendAccm = accm) {frame : List UInt8} (h2 : 2 ≤ frame.length)
    (hmax : frame.length + 2 ≤ maximum) (d : AsyncDecoder)
    (hd : d.push flagSequence = (collecting accm maximum [], none)) :
    d.feed (encodeAsync frame sendAccm) = (collecting accm maximum [], [.frame frame]) := by
  unfold encodeAsync
  rw [List.cons_append, feed, hd]
  simp only [feed_append]
  rw [feed_escapes maximum hsub _ [] (by rw [length_appendFcs16]; simpa using hmax)]
  simp [feed, push_flag_appendFcs16 maximum h2]

theorem feed_frames (hsub : accm &&& sendAccm = accm) (frames : List (List UInt8))
    (h2 : ∀ frame ∈ frames, 2 ≤ frame.length) (hmax : ∀ frame ∈ frames, frame.length + 2 ≤ maximum)
    (d : AsyncDecoder) (hd : d.push flagSequence = (collecting accm maximum [], none)) :
    (d.feed (frames.flatMap fun frame => encodeAsync frame sendAccm)).2 = frames.map .frame := by
  induction frames generalizing d with
  | nil => rfl
  | cons frame frames ih =>
    rw [List.flatMap_cons, feed_append,
      feed_encodeAsync maximum hsub (h2 _ (by simp)) (hmax _ (by simp)) d hd,
      ih (fun f hf => h2 f (by simp [hf])) (fun f hf => hmax f (by simp [hf])) _
        (collecting_nil_flag accm maximum)]
    rfl

end Encoded

/-- **The stream round trip**: one decoder, fed the encoded frames with noise before the first flag and
controls of its own ACCM inserted anywhere, reports the frames in order and nothing else. -/
theorem decode_encode_stream (frames : List (List UInt8)) (sendAccm receiveAccm : UInt32) (maximum : ℕ)
    (noise wire : List UInt8) (h2 : ∀ frame ∈ frames, 2 ≤ frame.length)
    (hsub : receiveAccm &&& sendAccm = receiveAccm)
    (hmax : ∀ frame ∈ frames, frame.length + 2 ≤ maximum) (hnoise : flagSequence ∉ noise)
    (hwire : Inserted receiveAccm (frames.flatMap fun frame => encodeAsync frame sendAccm) wire) :
    ((AsyncDecoder.new receiveAccm maximum).feed (noise ++ wire)).2 = frames.map .frame := by
  rw [feed_append, feed_noise _ rfl noise hnoise, feed_inserted hwire _ rfl]
  exact feed_frames maximum hsub frames h2 hmax _ (new_flag receiveAccm maximum)

/-- One frame that has an octet to escape and a check sequence that has another, after noise, with a control between the escape and its octet. -/
theorem decode_encode_stream_one :
    ((AsyncDecoder.new 0xffffffff 4).feed ([1, 2] ++ [0x7e, 0xff, 0x7d, 0x11, 0x5e, 0x7d, 0x5e, 0x6a, 0x7e])).2 =
      [.frame [0xff, 0x7e]] := by
  have hencoded : encodeAsync [0xff, 0x7e] 0xffffffff = [0x7e, 0xff, 0x7d, 0x5e, 0x7d, 0x5e, 0x6a, 0x7e] := by
    decide +kernel
  have hwire : Inserted 0xffffffff ([[0xff, 0x7e]].flatMap fun frame => encodeAsync frame 0xffffffff)
      [0x7e, 0xff, 0x7d, 0x11, 0x5e, 0x7d, 0x5e, 0x6a, 0x7e] := by
    rw [List.flatMap_singleton, hencoded]
    exact .keep _ (.keep _ (.keep _ (.insert _ (by decide)
      (.keep _ (.keep _ (.keep _ (.keep _ (.keep _ .nil))))))))
  exact decode_encode_stream [[0xff, 0x7e]] 0xffffffff 0xffffffff 4 [1, 2] _
    (by decide) (by decide) (by decide) (by decide) hwire

end SnesModem.Rust.FramingStream
