import SnesModem.Lib.CutStreams
import SnesModem.Rust.FramingSegments

/-!
# The decoder and frames that are cut off

* `reportOf`: the event of an encoded frame that arrives whole;
* `resynchronizes`: the first flag of a frame ends whatever came before it, and costs one event at most;
* `decoded_cut_stream`: of a stream of frames that may be cut off, the decoder reports those that are whole.
-/

namespace SnesModem.Rust.FramingCuts

open SnesModem.Lib SnesModem.Lib.CutStreams SnesModem.Rust.Framing SnesModem.Rust.Framing.AsyncDecoder
open SnesModem.Rust.FramingStream SnesModem.Rust.FramingSegments

/-- The event of a frame: with its check sequence, one of less than two octets is too short. -/
def reportOf (frame : List UInt8) : DecodeEvent :=
  if frame.length + fcs16Length < minimumFrameWithFcsLength then .invalidFrame .tooShort else .frame frame

/-- How many events the decoder reports at the next flag. -/
def owed (d : AsyncDecoder) : ℕ := (d.push flagSequence).2.toList.length

section Decoder

variable {accm sendAccm : UInt32} {maximum : ℕ} {d : AsyncDecoder} {frame octets : List UInt8}

lemma owed_le (d : AsyncDecoder) : owed d ≤ 1 := Option.length_toList_le

/-- Between two flags nothing is reported. -/
lemma feed_between (h : flagSequence ∉ octets) : (d.feed octets).2 = [] := by
  induction octets generalizing d with
  | nil => rfl
  | cons octet octets ih =>
    obtain ⟨hne, hrest⟩ := not_or.mp (mt List.mem_cons.mpr h)
    have hnone : (d.push octet).2 = none := by
      unfold push
      rw [if_neg (Ne.symm hne)]
      split_ifs <;> rfl
    unfold feed
    dsimp only
    rw [hnone, ih hrest]
    rfl

lemma not_mem_escape (octet : UInt8) : flagSequence ∉ escape sendAccm octet := by
  unfold escape
  split
  · rename_i hescape
    obtain ⟨hflag, -⟩ := transparent_of_mustEscape hescape
    intro hmem
    rcases List.mem_cons.mp hmem with heq | hmem
    · exact absurd heq (by decide)
    · exact hflag (List.mem_singleton.mp hmem).symm
  · rename_i hplain
    intro hmem
    rw [List.mem_singleton] at hmem
    subst hmem
    exact hplain (by simp [mustEscape])

/-- The octets between the flags of a frame. -/
lemma not_mem_escapes (octets : List UInt8) : flagSequence ∉ octets.flatMap (escape sendAccm) := by
  intro hmem
  obtain ⟨octet, -, hescape⟩ := List.mem_flatMap.mp hmem
  exact not_mem_escape octet hescape

/-- The flag behind a frame and its check sequence. -/
lemma push_flag_reportOf (frame : List UInt8) :
    (collecting accm maximum (appendFcs16 frame)).push flagSequence =
      (collecting accm maximum [], some (reportOf frame)) := by
  by_cases hlong : 2 ≤ frame.length
  · rw [push_flag_appendFcs16 maximum hlong]
    unfold reportOf
    rw [if_neg (by simp only [fcs16Length, minimumFrameWithFcsLength]; omega)]
  · have hlength := length_appendFcs16 frame
    have hne : appendFcs16 frame ≠ [] := by
      rw [← List.length_pos_iff]
      omega
    have hshort : frame.length + 2 < 4 := by omega
    simp [push, finishAtFlag, collecting, hne, hlength, reportOf, hshort]

/-- The decoder past a flag reads the rest of a frame. -/
lemma feed_rest (hsub : accm &&& sendAccm = accm) (hmax : frame.length + fcs16Length ≤ maximum) :
    (collecting accm maximum []).feed ((appendFcs16 frame).flatMap (escape sendAccm) ++ [flagSequence]) =
      (collecting accm maximum [], [reportOf frame]) := by
  have hfits : ([] : List UInt8).length + (appendFcs16 frame).length ≤ maximum := by
    rw [length_appendFcs16, List.length_nil, Nat.zero_add]
    exact hmax
  rw [feed_append, feed_escapes maximum hsub _ [] hfits, List.nil_append]
  simp [feed, push_flag_reportOf]

lemma owed_collecting : owed (collecting accm maximum []) = 0 := by
  unfold owed
  rw [collecting_nil_flag]
  rfl

/-- The decoder of a kind that the octets do not change. -/
def Kind (accm : UInt32) (maximum : ℕ) : Type :=
  { d : AsyncDecoder // d.receiveAccm = accm ∧ d.maximumUnescapedLength = maximum }

namespace Kind

/-- `feed`, on decoders of a kind. -/
def feed (d : Kind accm maximum) (octets : List UInt8) : Kind accm maximum × List DecodeEvent :=
  (⟨(d.1.feed octets).1, (receiveAccm_feed octets).trans d.2.1, (maximum_feed octets).trans d.2.2⟩, (d.1.feed octets).2)

/-- A new decoder. -/
def new (accm : UInt32) (maximum : ℕ) : Kind accm maximum := ⟨AsyncDecoder.new accm maximum, rfl, rfl⟩

lemma push_flag (d : Kind accm maximum) : (d.1.push flagSequence).1 = collecting accm maximum [] := by
  rw [FramingSegments.push_flag, d.2.1, d.2.2]
  rfl

end Kind

/-- **The decoder resynchronizes** at the first flag of a frame. -/
theorem resynchronizes (hsub : accm &&& sendAccm = accm) :
    Resynchronizes (fun frame => encodeAsync frame sendAccm) Kind.feed (fun d : Kind accm maximum => owed d.1)
      (fun frame => frame.length + fcs16Length ≤ maximum) reportOf where
  append d front back := by
    have happend := feed_append d.1 front back
    refine Prod.ext (Subtype.ext ?_) ?_
    · exact congrArg (fun fed => fed.1) happend
    · exact congrArg (fun fed => fed.2) happend
  empty _ := rfl
  whole d frame hfits := by
    have hfeed : d.1.feed (encodeAsync frame sendAccm) =
        (collecting accm maximum [], (d.1.push flagSequence).2.toList ++ [reportOf frame]) := by
      unfold encodeAsync
      rw [List.cons_append, AsyncDecoder.feed]
      dsimp only
      rw [d.push_flag, feed_rest hsub hfits]
    refine ⟨?_, (d.1.push flagSequence).2.toList, congrArg Prod.snd hfeed, Nat.le_refl _⟩
    exact (congrArg (fun fed => owed fed.1) hfeed).trans owed_collecting
  cut d frame part hfits hcut := by
    cases part with
    | nil => exact (Nat.zero_add (owed d.1)).trans_le (Nat.le_succ _)
    | cons octet rest =>
      obtain ⟨rfl, hrest⟩ := List.cons_prefix_cons.mp hcut
      have hfeed : d.1.feed (flagSequence :: rest) =
          (((collecting accm maximum []).feed rest).1,
            (d.1.push flagSequence).2.toList ++ ((collecting accm maximum []).feed rest).2) := by
        rw [AsyncDecoder.feed]
        dsimp only
        rw [d.push_flag]
      have hcount : ((collecting accm maximum []).feed rest).2.length +
          owed ((collecting accm maximum []).feed rest).1 ≤ 1 := by
        rcases List.prefix_concat_iff.mp hrest with rfl | hbetween
        · rw [feed_rest hsub hfits, owed_collecting]
          exact Nat.le_refl _
        · rw [feed_between fun hmem => not_mem_escapes _ (hbetween.subset hmem)]
          exact (Nat.zero_add _).trans_le (owed_le _)
      have hlength := congrArg (fun fed => fed.2.length + owed fed.1) hfeed
      dsimp only at hlength
      rw [List.length_append] at hlength
      refine hlength.trans_le ?_
      unfold owed at hcount ⊢
      omega

end Decoder

/-- **Of a stream of frames that may be cut off**, a new decoder reports those that are whole, in order, and no more
events than there are frames. -/
theorem decoded_cut_stream (accm : UInt32) (maximum : ℕ) {sendAccm : UInt32} {n : ℕ} {frames : List (List UInt8)}
    {stream : List UInt8}
    (hsub : accm &&& sendAccm = accm) (hmax : ∀ frame ∈ frames, frame.length + fcs16Length ≤ maximum)
    (h : Streams n (frames.map fun frame => encodeAsync frame sendAccm) stream) :
    (∃ whole : List (List UInt8), whole.Sublist frames ∧ frames.length = whole.length + n ∧
      (whole.map reportOf).Sublist ((AsyncDecoder.new accm maximum).feed stream).2) ∧
      ((AsyncDecoder.new accm maximum).feed stream).2.length ≤ frames.length := by
  obtain ⟨hwhole, hcount⟩ := Streams.received (resynchronizes hsub) hmax h (Kind.new accm maximum)
  have hnew : owed (Kind.new accm maximum).1 = 0 := rfl
  rw [hnew] at hcount
  exact ⟨hwhole, (Nat.le_add_right _ _).trans hcount⟩

end SnesModem.Rust.FramingCuts
