import SnesModem.Asm.LcpNegotiation

/-!
# The selective responses of LCP and IPCP

Both protocols build a Configure-Nak or Configure-Reject with the same loop over the options of the request.

* `selectOption`, `selectiveResponse`: the loop and its packet, over the classification of the options;
* `SameBuilt`: a packet does not depend on what the transmit buffer held;
* `mapsReach`: the part of the option maps that a loop over a request reads;
* `selectiveResponse_congr`: the packet is that of the request and of the part of the maps.
-/

namespace SnesModem.Asm

open SnesModem.Lib.Cpu65816 SnesModem.Lib.Octets

/-! ### The loop -/

/-- The loop at one option, with what the two protocols have of their own: the suggestion of a Nak and the
classification, by the hidden octet and the place of the option. -/
def selectOption (buffer : Buffer) (rejects : Prop) [Decidable rejects] (suggestion : UInt16 → List UInt8)
    (classify : UInt8 → UInt16 → Disposition) (build : Build) (y : UInt16) : Build :=
  let disposition := classify build.b y
  let b := high (advanceY buffer y)
  if rejects then
    if disposition = .reject then build.put (read buffer y.toNat (optionLength buffer y).toNat) 0
    else { build with b := b }
  else if disposition = .nak then build.put (suggestion y) b
  else { build with b := b }

/-- The packet, with its code and identifier. -/
def selectiveResponse (buffer output : Buffer) (packetEnd : UInt16) (header : List UInt8) (rejects : Prop)
    [Decidable rejects] (suggestion : UInt16 → List UInt8) (classify : UInt8 → UInt16 → Disposition) : Built :=
  let build := (options buffer packetEnd).foldl (selectOption buffer rejects suggestion classify)
    ⟨0, firstOption, write output 4 header⟩
  let length := build.cursor - frameOffset
  (write build.buffer 6 [high length, low length], build.cursor)

/-! ### The transmit buffer -/

/-- Two loops of a selective response at the same place, into two transmit buffers.  The Length at 6 is
written after the loop. -/
structure SameBuild (build build' : Build) : Prop where
  b : build'.b = build.b
  cursor : build'.cursor = build.cursor
  eq : ∀ i < build.cursor.toNat, i < 6 ∨ 8 ≤ i → build.buffer i = build'.buffer i

/-- A built packet and the length of its frame do not depend on the transmit buffer. -/
def SameBuilt (built built' : Built) : Prop := built'.2 = built.2 ∧ Agree built.2.toNat built.1 built'.1

section Same

variable {build build' : Build}

lemma SameBuild.put (h : SameBuild build build') (octets : List UInt8) (b : UInt8) :
    SameBuild (build.put octets b) (build'.put octets b) := by
  obtain ⟨-, hcursor, heq⟩ := h
  unfold Build.put
  rw [hcursor]
  refine ⟨rfl, rfl, fun i hi hout => ?_⟩
  have hsum := toNat_add_le build.cursor (UInt16.ofNat octets.length)
  have hlength : (UInt16.ofNat octets.length).toNat ≤ octets.length := by
    rw [UInt16.toNat_ofNat']
    exact Nat.mod_le _ _
  have hi' : i < (build.cursor + UInt16.ofNat octets.length).toNat := hi
  show write _ _ _ i = write _ _ _ i
  unfold write
  split_ifs with hinside
  · rfl
  · exact heq i (by omega) hout

lemma SameBuild.next (h : SameBuild build build') (b : UInt8) :
    SameBuild { build with b := b } { build' with b := b } := ⟨rfl, h.cursor, h.eq⟩

end Same

/-! ### The option maps -/

/-- How far behind the start of the duplicate map the entries lie that a request can reach: the hidden octet is
that of a cursor up to the packet's end. -/
def mapsReach (packetEnd : UInt16) : ℕ := duplicateMap + 256 * (packetEnd.toNat / 256 + 1)

lemma optionIndex_lt_mapsReach {b type : UInt8} {packetEnd : UInt16} (hb : b ≤ high packetEnd) :
    duplicateMap + optionIndex b type < mapsReach packetEnd := by
  have hle : b.toNat ≤ packetEnd.toNat / 256 := by
    rw [← toNat_high]
    exact UInt8.le_iff_toNat_le.mp hb
  have htype := type.toNat_lt
  have hindex : optionIndex b type = b.toNat * 256 + type.toNat := by
    unfold optionIndex
    rw [toNat_word, Nat.mul_comm]
  unfold mapsReach
  omega

/-- The options of a packet that the parser has walked through end within the packet. -/
lemma advanceY_le {buffer : Buffer} {packetEnd : UInt16} (turns : ℕ) (x : UInt16)
    (hwalk : optionLoop buffer packetEnd turns x = none) :
    ∀ y ∈ optionOffsets buffer packetEnd turns x, advanceY buffer y ≤ packetEnd := by
  induction turns generalizing x with
  | zero => cases hwalk
  | succ turns ih =>
    unfold optionLoop at hwalk
    intro y hy
    unfold optionOffsets at hy
    split_ifs at hwalk hy with hend htruncated hinvalid hoverrun
    · exact absurd hy List.not_mem_nil
    · rcases List.mem_cons.mp hy with rfl | hy
      · exact UInt16.not_lt.mp hoverrun
      · exact ih _ hwalk y hy

lemma high_mono {a b : UInt16} (h : a ≤ b) : high a ≤ high b := by
  rw [UInt8.le_iff_toNat_le, toNat_high, toNat_high]
  exact Nat.div_le_div_right (UInt16.le_iff_toNat_le.mp h)

section Response

variable {buffer : Buffer} {packetEnd : UInt16} (rejects : Prop) [Decidable rejects] (suggestion : UInt16 → List UInt8)
  {classify classify' : UInt8 → UInt16 → Disposition} {reads : UInt8 → Prop}

/-- The two loops stay at the same place, with a hidden octet for which the classifications are the same. -/
lemma SameBuild.select {build build' : Build} {y : UInt16} (h : SameBuild build build') (hb : reads build.b)
    (hzero : reads 0) (hnext : reads (high (advanceY buffer y)))
    (hclassify : ∀ b, reads b → classify' b y = classify b y) :
    SameBuild (selectOption buffer rejects suggestion classify build y)
      (selectOption buffer rejects suggestion classify' build' y) ∧
    reads (selectOption buffer rejects suggestion classify build y).b := by
  unfold selectOption
  dsimp only
  rw [h.b, hclassify _ hb]
  split_ifs
  · exact ⟨h.put _ _, hzero⟩
  · exact ⟨h.next _, hnext⟩
  · exact ⟨h.put _ _, hnext⟩
  · exact ⟨h.next _, hnext⟩

lemma SameBuild.foldl (offsets : List UInt16) {build build' : Build} (h : SameBuild build build') (hb : reads build.b)
    (hzero : reads 0) (hnext : ∀ y ∈ offsets, reads (high (advanceY buffer y)))
    (hclassify : ∀ b, reads b → ∀ y, classify' b y = classify b y) :
    SameBuild (offsets.foldl (selectOption buffer rejects suggestion classify) build)
      (offsets.foldl (selectOption buffer rejects suggestion classify') build') := by
  induction offsets generalizing build build' with
  | nil => exact h
  | cons y offsets ih =>
    obtain ⟨hsame, hb'⟩ := h.select rejects suggestion hb hzero (hnext y List.mem_cons_self)
      fun b hreads => hclassify b hreads y
    exact ih hsame hb' fun z hz => hnext z (List.mem_cons_of_mem y hz)

variable (reads) in
/-- **A selective response** is that of the request and of the classification of its options, at the hidden octets
that the loop has, whatever the transmit buffer held. -/
theorem selectiveResponse_congr {output output' : Buffer} {code identifier : UInt8} (hzero : reads 0)
    (hnext : ∀ y ∈ options buffer packetEnd, reads (high (advanceY buffer y)))
    (hclassify : ∀ b, reads b → ∀ y, classify' b y = classify b y) (h : Agree 4 output output') :
    SameBuilt (selectiveResponse buffer output packetEnd [code, identifier] rejects suggestion classify)
      (selectiveResponse buffer output' packetEnd [code, identifier] rejects suggestion classify') := by
  have hstart : SameBuild ⟨0, firstOption, write output 4 [code, identifier]⟩
      ⟨0, firstOption, write output' 4 [code, identifier]⟩ := by
    refine ⟨rfl, rfl, fun i hi hout => ?_⟩
    have hi' : i < 8 := hi
    exact h.write_append [code, identifier] i (show i < 6 by omega)
  obtain ⟨-, hcursor, heq⟩ := hstart.foldl rejects suggestion (options buffer packetEnd)
    hzero hzero hnext hclassify
  unfold selectiveResponse
  dsimp only
  rw [hcursor]
  refine ⟨rfl, fun i hi => ?_⟩
  show write _ _ _ i = write _ _ _ i
  unfold write
  split_ifs with hinside
  · rfl
  · simp only [List.length_cons, List.length_nil] at hinside
    exact heq i hi (by omega)

end Response

end SnesModem.Asm
