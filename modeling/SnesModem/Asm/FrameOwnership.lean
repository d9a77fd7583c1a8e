import SnesModem.Asm.DecoderRefinement
import SnesModem.Asm.RingFifo

/-!
# Who owns the frame buffer

The receive path of `receive.asm` and the RX ring that it drains, with the other callers of the ring.

* `Intake.poll`: `pppReceivePoll` on the ring itself; `receive_poll` is that it leaves the path as `pppReceivePoll` on
  the octets of the ring does;
* `History`: the octets that the ring has taken and given, those that the decoder has got, and the frames reported;
* `frame_owned`: a frame stays as it is until it is given up, and the frames reported are those of the reference
  decoder.
-/

namespace SnesModem.Asm.FrameOwnership

open SnesModem.Lib SnesModem.Lib.Octets SnesModem.Rust SnesModem.Asm.DecoderRefinement

/-! ### The poll and the ring -/

/-- The receive path, and the ring that it drains. -/
structure Intake where
  receive : Receive
  ring : Ring
  deriving Inhabited

/-- `carrierTailByte`; the ring is empty after at most 255 turns. -/
def carrierTail : ℕ → Ring → Ring
  | 0, ring => ring
  | turns + 1, ring =>
    match ring.pop with
    | none => ring
    | some (_, ring) => carrierTail turns ring

namespace Intake

/-- `drain` to `carrierTailDone`. -/
def drain : ℕ → Intake → Intake
  | 0, p => p
  | budget + 1, p =>
    match p.ring.pop with
    | none => p
    | some (octet, ring) =>
      match pppReceivePushConnectedByte p.receive octet with
      | (r, true) => ⟨r, carrierTail 255 ring⟩
      | (r, false) => if r.frameReady then ⟨r, ring⟩ else drain budget ⟨r, ring⟩

/-- `pppReceivePoll`. -/
def poll (connected : Bool) (p : Intake) : Intake :=
  if !p.receive.enabled || !connected then { p with receive := { p.receive with active := false } }
  else
    let p := { p with receive := activate p.receive }
    if p.receive.frameReady then p else p.drain receiveDrainBudget

/-- The octets that the drain hands to `pppReceivePushByte`. -/
def pushed : ℕ → Intake → List UInt8
  | 0, _ => []
  | budget + 1, p =>
    match p.ring.pop with
    | none => []
    | some (octet, ring) =>
      match pppReceivePushConnectedByte p.receive octet with
      | (_, true) => []
      | (r, false) => octet :: if r.frameReady then [] else pushed budget ⟨r, ring⟩

/-- The poll takes the ring over, and starts afresh. -/
def takesOver (connected : Bool) (p : Intake) : Bool := p.receive.enabled && connected && !p.receive.active

/-- The poll gets to `drain`. -/
def drains (connected : Bool) (p : Intake) : Bool :=
  p.receive.enabled && connected && !(p.receive.active && p.receive.frameReady)

/-- The completed frame, as its owner reads it. -/
def frame (p : Intake) : List UInt8 :=
  read p.receive.decoder.frameBuffer 0 p.receive.decoder.lastFrameLength.toNat

end Intake

lemma carrierTail_contents (turns : ℕ) (ring : Ring) (hheld : ring.contents.length ≤ turns) :
    (carrierTail turns ring).contents = [] := by
  induction turns generalizing ring with
  | zero => exact List.length_eq_zero_iff.mp (Nat.le_zero.mp hheld)
  | succ turns ih =>
    unfold carrierTail
    cases hpop : ring.pop with
    | none => exact Ring.contents_of_pop_none hpop
    | some popped =>
      obtain ⟨octet, ring'⟩ := popped
      have hcontents := Ring.contents_of_pop hpop
      apply ih
      rw [hcontents, List.length_cons] at hheld
      exact Nat.le_of_succ_le_succ hheld

section Receive

lemma receive_drain (budget : ℕ) (p : Intake) :
    (p.drain budget).receive = Asm.drain budget p.ring.contents p.receive := by
  induction budget generalizing p with
  | zero => cases p.ring.contents <;> rfl
  | succ budget ih =>
    unfold Intake.drain
    cases hpop : p.ring.pop with
    | none =>
      rw [Ring.contents_of_pop_none hpop]
      rfl
    | some popped =>
      obtain ⟨octet, ring⟩ := popped
      rw [Ring.contents_of_pop hpop]
      unfold Asm.drain
      dsimp only
      cases pppReceivePushConnectedByte p.receive octet with
      | mk r lost =>
        cases lost with
        | true => rfl
        | false =>
          dsimp only
          split
          · rfl
          · exact ih ⟨r, ring⟩

/-- **The poll on the ring** leaves the receive path as the poll on the octets of the ring does. -/
theorem receive_poll (connected : Bool) (p : Intake) :
    (p.poll connected).receive = pppReceivePoll connected p.ring.contents p.receive := by
  unfold Intake.poll pppReceivePoll
  split
  · rfl
  · dsimp only
    split
    · rfl
    · exact receive_drain _ _

end Receive

/-! ### The frames of a stream -/

/-- The frames among the outcomes of the console's decoder. -/
def framesOf (reports : List Outcome) : List (List UInt8) :=
  reports.filterMap fun
    | .frame octets => some octets
    | _ => none

/-- The frames that the reference decoder finds in a stream. -/
def referenceFrames (stream : List UInt8) : List (List UInt8) :=
  ((Framing.AsyncDecoder.new Framing.defaultAccm Framing.defaultMaxUnescapedFrameLength).feed stream).2.filterMap fun
    | .frame octets => some octets
    | _ => none

section Frames

variable {d : Decoder}

lemma framesOf_append (reports reports' : List Outcome) :
    framesOf (reports ++ reports') = framesOf reports ++ framesOf reports' := List.filterMap_append

/-- **The console finds the frames of the reference decoder.** -/
theorem framesOf_outcomes (origin : Decoder) (stream : List UInt8) :
    framesOf (outcomes (pppDecoderReset origin) stream).2 = referenceFrames stream := by
  rw [(outcomes_refines (sound_reset origin) stream).2, abstraction_reset]
  unfold framesOf referenceFrames
  rw [List.filterMap_map]
  apply List.filterMap_congr
  intro event _
  rcases event with octets | _ | reason | _
  · rfl
  · rfl
  · cases reason <;> rfl
  · rfl

lemma outcomes_append (stream stream' : List UInt8) :
    outcomes d (stream ++ stream') =
      ((outcomes (outcomes d stream).1 stream').1, (outcomes d stream).2 ++ (outcomes (outcomes d stream).1 stream').2) := by
  induction stream generalizing d with
  | nil => rfl
  | cons octet stream ih =>
    simp only [List.cons_append, outcomes]
    rw [ih, List.append_assoc]

/-- An octet completes a frame exactly if its event says so. -/
lemma framesOf_outcome (d : Decoder) : framesOf (outcome d).toList =
    if d.lastEvent = .frame then [read d.frameBuffer 0 d.lastFrameLength.toNat] else [] := by
  unfold outcome
  cases d.lastEvent with
  | frame => rfl
  | invalid => cases d.lastInvalidReason <;> rfl
  | none => rfl
  | fcsError => rfl
  | overflow => rfl
  | carrierLost => rfl

end Frames

/-! ### One drain -/

/-- The octet that completes the line of the loss is a line feed, and goes nowhere; any other goes to the decoder. -/
lemma pushConnectedByte_cases (r : Receive) (octet : UInt8) :
    (octet = 0x0a ∧ pppReceivePushConnectedByte r octet =
      ({ r with
        carrierLineIndex := 0
        enabled := false
        active := false
        frameReady := false
        decoder := pppDecoderDiscardPartial r.decoder }, true)) ∨
    ∃ index, pppReceivePushConnectedByte r octet = (pppReceivePushByte { r with carrierLineIndex := index } octet, false) := by
  unfold pppReceivePushConnectedByte
  split
  · rename_i hnext
    split
    · rename_i hlast
      rw [hlast] at hnext
      exact Or.inl ⟨(Option.some.inj hnext).symm, rfl⟩
    · exact Or.inr ⟨_, rfl⟩
  · exact Or.inr ⟨_, rfl⟩

/-- The drain ends with the carrier up: the decoder has got the octets that have left the ring, and a frame is ready
exactly if they complete one. -/
structure Drained (p p' : Intake) (given : List UInt8) : Prop where
  up : p'.receive.enabled = p.receive.enabled ∧ p'.receive.active = p.receive.active
  decoder : p'.receive.decoder = (outcomes p.receive.decoder given).1
  frames : framesOf (outcomes p.receive.decoder given).2 = if p'.receive.frameReady then [p'.frame] else []
  ring : p.ring.contents = given ++ p'.ring.contents

/-- The drain ends with the loss of the carrier: no frame is complete, and the line feed of the report and what the
ring holds behind it are discarded. -/
structure Lost (p p' : Intake) (given : List UInt8) : Prop where
  down : p'.receive.enabled = false ∧ p'.receive.active = false ∧ p'.receive.frameReady = false
  frames : framesOf (outcomes p.receive.decoder given).2 = []
  ring : ∃ tail, p.ring.contents = given ++ 0x0a :: tail
  discarded : p'.ring.contents = []

lemma drain_cases (budget : ℕ) (p : Intake) (hready : p.receive.frameReady = false) :
    Drained p (p.drain budget) (p.pushed budget) ∨ Lost p (p.drain budget) (p.pushed budget) := by
  induction budget generalizing p with
  | zero =>
    refine Or.inl ⟨⟨rfl, rfl⟩, rfl, ?_, rfl⟩
    change [] = if p.receive.frameReady then [p.frame] else []
    rw [hready]
    rfl
  | succ budget ih =>
    unfold Intake.drain Intake.pushed
    cases hpop : p.ring.pop with
    | none =>
      refine Or.inl ⟨⟨rfl, rfl⟩, rfl, ?_, rfl⟩
      change [] = if p.receive.frameReady then [p.frame] else []
      rw [hready]
      rfl
    | some popped =>
      obtain ⟨octet, ring⟩ := popped
      have hcontents := Ring.contents_of_pop hpop
      dsimp only
      rcases pushConnectedByte_cases p.receive octet with ⟨rfl, hlost⟩ | ⟨index, hpushed⟩
      · rw [hlost]
        refine Or.inr ⟨⟨rfl, rfl, rfl⟩, rfl, ⟨_, hcontents⟩, ?_⟩
        exact carrierTail_contents 255 ring (by rw [Ring.length_contents]; exact Nat.le_of_lt_succ ring.held_lt)
      · rw [hpushed]
        dsimp only
        set r := pppReceivePushByte { p.receive with carrierLineIndex := index } octet with hr
        have hdecoder : r.decoder = pppDecoderPush p.receive.decoder octet := rfl
        have hevent : r.frameReady = decide ((pppDecoderPush p.receive.decoder octet).lastEvent = .frame) := by
          change (p.receive.frameReady || _) = _
          rw [hready, Bool.false_or]
        have hhead := framesOf_outcome (pppDecoderPush p.receive.decoder octet)
        split
        · rename_i hcomplete
          rw [hcomplete] at hevent
          rw [if_pos (of_decide_eq_true hevent.symm)] at hhead
          refine Or.inl ⟨⟨rfl, rfl⟩, hdecoder, ?_, hcontents⟩
          simp only [outcomes, List.append_nil]
          rw [hhead, if_pos hcomplete]
          rfl
        · rename_i hunfinished
          rw [Bool.not_eq_true] at hunfinished
          rw [hunfinished] at hevent
          rw [if_neg (of_decide_eq_false hevent.symm)] at hhead
          have hrest (given : List UInt8) :
              (outcomes p.receive.decoder (octet :: given)).1 = (outcomes r.decoder given).1 ∧
              framesOf (outcomes p.receive.decoder (octet :: given)).2 = framesOf (outcomes r.decoder given).2 := by
            refine ⟨rfl, ?_⟩
            simp only [outcomes]
            rw [framesOf_append, hhead, List.nil_append, hdecoder]
          rcases ih ⟨r, ring⟩ hunfinished with h | h
          · refine Or.inl ⟨h.up, h.decoder.trans (hrest _).1.symm, (hrest _).2.trans h.frames, ?_⟩
            rw [hcontents, List.cons_append]
            exact congrArg _ h.ring
          · obtain ⟨tail, htail⟩ := h.ring
            refine Or.inr ⟨h.down, (hrest _).2.trans h.frames, ⟨tail, ?_⟩, h.discarded⟩
            rw [hcontents, List.cons_append]
            exact congrArg _ htail

/-! ### One poll -/

/-- The path once the ring is taken over. -/
def Intake.activated (p : Intake) : Intake := { p with receive := activate p.receive }

/-- What the poll hands to the decoder. -/
def Intake.given (connected : Bool) (p : Intake) : List UInt8 :=
  if p.drains connected then p.activated.pushed receiveDrainBudget else []

section Poll

variable {connected : Bool} {p : Intake}

/-- A poll that does not get to the drain leaves the ring, the decoder and the frame alone. -/
lemma poll_of_not_drains (hdrains : p.drains connected = false) :
    (p.poll connected).ring = p.ring ∧ (p.poll connected).receive.decoder = p.receive.decoder ∧
      (p.poll connected).receive.frameReady = p.receive.frameReady ∧
      ((p.poll connected).receive.active = true → p.receive.active = true) := by
  unfold Intake.poll
  split
  · exact ⟨rfl, rfl, rfl, fun h => by cases h⟩
  · rename_i hup
    have howned : p.receive.active = true ∧ p.receive.frameReady = true := by
      unfold Intake.drains at hdrains
      cases henabled : p.receive.enabled <;> cases hconnected : connected <;> simp_all
    have hsame : activate p.receive = p.receive := if_pos howned.1
    rw [hsame]
    dsimp only
    rw [if_pos howned.2]
    exact ⟨rfl, rfl, rfl, fun h => h⟩

/-- The drain finds no frame. -/
lemma poll_of_drains (hdrains : p.drains connected = true) :
    p.activated.receive.frameReady = false ∧ p.poll connected = p.activated.drain receiveDrainBudget := by
  unfold Intake.drains at hdrains
  rw [Bool.and_eq_true, Bool.and_eq_true, Bool.not_eq_true'] at hdrains
  obtain ⟨⟨henabled, hconnected⟩, hfree⟩ := hdrains
  have hready : (activate p.receive).frameReady = false := by
    unfold activate
    split
    · rename_i hactive
      simpa [hactive] using hfree
    · rfl
  refine ⟨hready, ?_⟩
  unfold Intake.poll
  rw [if_neg (by simp [henabled, hconnected])]
  dsimp only
  rw [if_neg (by simp [hready])]
  rfl

/-- Only a poll that takes the ring over ends what a frame's owner reads. -/
lemma not_drains_of_ready (hready : p.receive.frameReady = true) (htakes : p.takesOver connected = false) :
    p.drains connected = false := by
  unfold Intake.takesOver at htakes
  unfold Intake.drains
  cases henabled : p.receive.enabled <;> cases hconnected : connected <;> simp_all

end Poll

/-! ### Runs -/

/-- The receive path and the ring, with what has become of the octets. -/
structure History where
  intake : Intake
  /-- The octets that the ring has taken. -/
  stored : List UInt8
  /-- The octets that have left the ring. -/
  removed : List UInt8
  /-- The octets that polls have taken out of the ring. -/
  polled : List UInt8
  /-- The octets that the decoder has got since the ring was taken over. -/
  given : List UInt8
  /-- The frames reported since then. -/
  frames : List (List UInt8)

/-- The entry points of `receive.asm`, and what else happens to the ring: the driver stores an octet, another caller
of `modemReadByte` takes one, or `modemResetQueues` drops them all. -/
inductive Event where
  | reset | start | stop | release
  | poll (connected : Bool)
  | store (octet : UInt8)
  | read
  | resetQueues

namespace History

def start (p : Intake) : History where
  intake := { p with receive := pppReceiveInitialize p.receive }
  stored := p.ring.contents
  removed := []
  polled := []
  given := []
  frames := []

/-- The history, as a poll that takes the ring over starts it afresh. -/
def base (connected : Bool) (h : History) : History :=
  if h.intake.takesOver connected then { h with given := [], frames := [] } else h

def poll (connected : Bool) (h : History) : History :=
  let p := h.intake.poll connected
  let taken := h.intake.ring.contents.take (h.intake.ring.held - p.ring.held)
  { intake := p
    stored := h.stored
    removed := h.removed ++ taken
    polled := h.polled ++ taken
    given := (h.base connected).given ++ h.intake.given connected
    frames := (h.base connected).frames ++
      if h.intake.drains connected && p.receive.frameReady then [p.frame] else [] }

/-- The path after an entry point; the ring is left alone. -/
def withReceive (h : History) (r : Receive) : History := { h with intake := { h.intake with receive := r } }

def step (h : History) : Event → History
  | .reset => { h.withReceive (pppReceiveInitialize h.intake.receive) with given := [], frames := [] }
  | .start => h.withReceive (pppReceiveStart h.intake.receive)
  | .stop => h.withReceive (pppReceiveStop h.intake.receive)
  | .release => h.withReceive (pppReleaseFrame h.intake.receive)
  | .poll connected => h.poll connected
  | .store octet =>
    { h with
      intake := { h.intake with ring := (h.intake.ring.push octet).1 }
      stored := h.stored ++ if (h.intake.ring.push octet).2 then [] else [octet] }
  | .read =>
    match h.intake.ring.pop with
    | none => h
    | some (octet, ring) => { h with intake := { h.intake with ring := ring }, removed := h.removed ++ [octet] }
  | .resetQueues =>
    { h with
      intake := { h.intake with ring := h.intake.ring.reset }
      removed := h.removed ++ h.intake.ring.contents }

/-- The history of a run from the initialization. -/
def after (p : Intake) (events : List Event) : History := Run.run step (start p) events

end History

/-- The frame that is ready in one state is there in another one, and no poll has taken an octet in the meantime. -/
structure Owned (a x : History) : Prop where
  frameReady : x.intake.receive.frameReady = true
  decoder : x.intake.receive.decoder = a.intake.receive.decoder
  polled : x.polled = a.polled
  given : x.given = a.given
  frames : x.frames = a.frames

/-- What gives a frame up: its release, the entry points that clear the receive path, and the poll that takes the ring
over, once a poll has found the driver away from the connection. -/
def Ends (h : History) : Event → Prop
  | .reset | .start | .stop | .release => True
  | .poll connected => h.intake.takesOver connected = true
  | .store _ | .read | .resetQueues => False

/-- A poll hands the octets that it takes to the decoder, one after the other, behind those that the decoder has got.
If they report the loss of the carrier, the line feed of the report and what the ring holds behind it are discarded. -/
def Continues (h : History) (connected : Bool) : Prop :=
  ∃ given, (h.step (.poll connected)).given = (h.base connected).given ++ given ∧
    (h.intake.ring.contents = given ++ (h.step (.poll connected)).intake.ring.contents ∨
      (h.step (.poll connected)).intake.receive.enabled = false ∧
        (h.step (.poll connected)).intake.ring.contents = [] ∧
        ∃ tail, h.intake.ring.contents = given ++ 0x0a :: tail)

/-! ### The invariant -/

/-- No octet is lost between the ring and its callers, the frames are those of the reference decoder, and the decoder
is where the octets have taken it. -/
structure Sound (h : History) : Prop where
  conserved : h.stored = h.removed ++ h.intake.ring.contents
  frames : h.frames = referenceFrames h.given
  decoder : h.intake.receive.active = true →
    ∃ origin, h.intake.receive.decoder = (outcomes (pppDecoderReset origin) h.given).1

section Sound

variable {h : History} {connected : Bool}

lemma sound_start (p : Intake) : Sound (History.start p) where
  conserved := rfl
  frames := rfl
  decoder := fun hactive => by cases hactive

/-- Once the ring is taken over, the decoder is where the octets have taken it. -/
lemma Sound.base (hsound : Sound h) (hdrains : h.intake.drains connected = true) :
    (h.base connected).frames = referenceFrames (h.base connected).given ∧
      ∃ origin, h.intake.activated.receive.decoder = (outcomes (pppDecoderReset origin) (h.base connected).given).1 := by
  unfold History.base
  unfold Intake.drains at hdrains
  simp only [Bool.and_eq_true, Bool.not_eq_true'] at hdrains
  have htakes : h.intake.takesOver connected = !h.intake.receive.active := by
    unfold Intake.takesOver
    rw [hdrains.1.1, hdrains.1.2]
    rfl
  rw [htakes]
  unfold Intake.activated activate
  cases hactive : h.intake.receive.active with
  | true =>
    rw [if_neg (by decide)]
    exact ⟨hsound.frames, hsound.decoder hactive⟩
  | false =>
    rw [if_pos (by decide)]
    exact ⟨rfl, h.intake.receive.decoder, rfl⟩

/-- The octets that a poll takes are in the ring. -/
lemma taken_append {contents rest taken : List UInt8} (hcontents : contents = taken ++ rest) :
    contents.take (contents.length - rest.length) = taken := by
  rw [hcontents, List.length_append, Nat.add_sub_cancel]
  exact List.take_left

lemma poll_conserved (h : History) (connected : Bool) :
    ∃ taken, h.intake.ring.contents = taken ++ (h.intake.poll connected).ring.contents := by
  cases hdrains : h.intake.drains connected with
  | false =>
    rw [(poll_of_not_drains hdrains).1]
    exact ⟨[], rfl⟩
  | true =>
    obtain ⟨hready, hpoll⟩ := poll_of_drains hdrains
    rw [hpoll]
    rcases drain_cases receiveDrainBudget h.intake.activated hready with hdrained | hlost
    · exact ⟨_, hdrained.ring⟩
    · rw [hlost.discarded]
      exact ⟨h.intake.ring.contents, (List.append_nil _).symm⟩

lemma Sound.poll (hsound : Sound h) (connected : Bool) : Sound (h.poll connected) := by
  have hconserved : h.stored = (h.poll connected).removed ++ (h.poll connected).intake.ring.contents := by
    obtain ⟨taken, htaken⟩ := poll_conserved h connected
    have hlength := taken_append htaken
    rw [Ring.length_contents, Ring.length_contents] at hlength
    change _ = (h.removed ++ _) ++ (h.intake.poll connected).ring.contents
    rw [hlength, List.append_assoc, ← htaken]
    exact hsound.conserved
  cases hdrains : h.intake.drains connected with
  | false =>
    obtain ⟨-, hdecoder, -, hactive⟩ := poll_of_not_drains hdrains
    have hgiven : (h.poll connected).given = (h.base connected).given := by
      change _ ++ Intake.given connected h.intake = _
      rw [Intake.given, hdrains]
      exact List.append_nil _
    have hframes : (h.poll connected).frames = (h.base connected).frames := by
      change _ ++ ite _ _ _ = _
      rw [hdrains]
      exact List.append_nil _
    refine ⟨hconserved, ?_, fun hpolled => ?_⟩
    · rw [hframes, hgiven]
      unfold History.base
      split
      · rfl
      · exact hsound.frames
    · have hbefore := hactive hpolled
      have hbase : h.base connected = h := if_neg (by simp [Intake.takesOver, hbefore])
      rw [hgiven, hbase]
      obtain ⟨origin, horigin⟩ := hsound.decoder hbefore
      exact ⟨origin, hdecoder.trans horigin⟩
  | true =>
    obtain ⟨hbase, origin, horigin⟩ := hsound.base hdrains
    obtain ⟨hready, hpoll⟩ := poll_of_drains hdrains
    have hgiven : (h.poll connected).given =
        (h.base connected).given ++ h.intake.activated.pushed receiveDrainBudget := by
      change _ ++ Intake.given connected h.intake = _
      rw [Intake.given, if_pos hdrains]
    have hframes : (h.poll connected).frames = (h.base connected).frames ++
        if (h.intake.activated.drain receiveDrainBudget).receive.frameReady then
          [(h.intake.activated.drain receiveDrainBudget).frame] else [] := by
      change _ ++ ite _ _ _ = _
      rw [hdrains, Bool.true_and, hpoll]
    have hreference (given : List UInt8) : referenceFrames ((h.base connected).given ++ given) =
        (h.base connected).frames ++ framesOf (outcomes h.intake.activated.receive.decoder given).2 := by
      rw [hbase, ← framesOf_outcomes origin, ← framesOf_outcomes origin, outcomes_append, framesOf_append, ← horigin]
    refine ⟨hconserved, ?_, fun hactive => ?_⟩
    · rw [hgiven, hreference, hframes]
      rcases drain_cases receiveDrainBudget h.intake.activated hready with hdrained | hlost
      · rw [hdrained.frames]
      · rw [hlost.frames, hlost.down.2.2]
        rfl
    · refine ⟨origin, ?_⟩
      rw [hgiven, outcomes_append, ← horigin]
      change (h.intake.poll connected).receive.active = true at hactive
      change (h.intake.poll connected).receive.decoder = _
      rw [hpoll] at hactive ⊢
      rcases drain_cases receiveDrainBudget h.intake.activated hready with hdrained | hlost
      · exact hdrained.decoder
      · rw [hlost.down.2.1] at hactive
        cases hactive

/-- **The step lemma.** -/
lemma Sound.step (hsound : Sound h) (event : Event) : Sound (h.step event) := by
  cases event with
  | poll connected => exact hsound.poll connected
  | reset => exact ⟨hsound.conserved, rfl, fun hactive => by cases hactive⟩
  | start => exact ⟨hsound.conserved, hsound.frames, fun hactive => by cases hactive⟩
  | stop => exact ⟨hsound.conserved, hsound.frames, fun hactive => by cases hactive⟩
  | release => exact ⟨hsound.conserved, hsound.frames, hsound.decoder⟩
  | store octet =>
    refine ⟨?_, hsound.frames, hsound.decoder⟩
    unfold History.step
    dsimp only
    by_cases hfull : h.intake.ring.held = 255
    · rw [Ring.push_of_full octet hfull, if_pos rfl, List.append_nil]
      exact hsound.conserved
    · have hroom : h.intake.ring.held < 255 := by
        have hheld := h.intake.ring.held_lt
        omega
      obtain ⟨htaken, hcontents⟩ := Ring.contents_push (r := h.intake.ring) octet hroom
      rw [htaken, hcontents, if_neg (by decide), hsound.conserved, List.append_assoc]
  | read =>
    unfold History.step
    dsimp only
    cases hpop : h.intake.ring.pop with
    | none => exact hsound
    | some popped =>
      obtain ⟨octet, ring⟩ := popped
      refine ⟨?_, hsound.frames, hsound.decoder⟩
      rw [List.append_assoc, List.singleton_append, ← Ring.contents_of_pop hpop]
      exact hsound.conserved
  | resetQueues =>
    refine ⟨?_, hsound.frames, hsound.decoder⟩
    have hempty : h.intake.ring.reset.contents = [] := Ring.contents_eq_nil_iff.mpr rfl
    unfold History.step
    rw [hempty, List.append_nil]
    exact hsound.conserved

/-- **The run lemma.** -/
lemma sound_after (p : Intake) (events : List Event) : Sound (History.after p events) :=
  Run.run_preserves (fun _ event hsound => hsound.step event) (sound_start p)

lemma continues (h : History) (connected : Bool) : Continues h connected := by
  refine ⟨h.intake.given connected, rfl, ?_⟩
  change h.intake.ring.contents = _ ++ (h.intake.poll connected).ring.contents ∨
    (h.intake.poll connected).receive.enabled = false ∧ (h.intake.poll connected).ring.contents = [] ∧ _
  unfold Intake.given
  cases hdrains : h.intake.drains connected with
  | false =>
    rw [(poll_of_not_drains hdrains).1]
    exact Or.inl rfl
  | true =>
    obtain ⟨hready, hpoll⟩ := poll_of_drains hdrains
    rw [hpoll, if_pos rfl]
    rcases drain_cases receiveDrainBudget h.intake.activated hready with hdrained | hlost
    · exact Or.inl hdrained.ring
    · exact Or.inr ⟨hlost.down.1, hlost.discarded, hlost.ring⟩

end Sound

section Owned

variable {a x : History}

/-- **The step lemma.** -/
lemma Owned.step (h : Owned a x) (event : Event) : Ends x event ∨ Owned a (x.step event) := by
  cases event with
  | reset => exact Or.inl trivial
  | start => exact Or.inl trivial
  | stop => exact Or.inl trivial
  | release => exact Or.inl trivial
  | store octet => exact Or.inr ⟨h.frameReady, h.decoder, h.polled, h.given, h.frames⟩
  | resetQueues => exact Or.inr ⟨h.frameReady, h.decoder, h.polled, h.given, h.frames⟩
  | read =>
    right
    unfold History.step
    dsimp only
    cases x.intake.ring.pop with
    | none => exact h
    | some popped => exact ⟨h.frameReady, h.decoder, h.polled, h.given, h.frames⟩
  | poll connected =>
    by_cases htakes : x.intake.takesOver connected = true
    · exact Or.inl htakes
    · right
      rw [Bool.not_eq_true] at htakes
      have hdrains := not_drains_of_ready h.frameReady htakes
      obtain ⟨hring, hdecoder, hready, -⟩ := poll_of_not_drains hdrains
      have hbase : x.base connected = x := if_neg (by rw [htakes]; decide)
      refine ⟨hready.trans h.frameReady, hdecoder.trans h.decoder, ?_, ?_, ?_⟩
      · change x.polled ++ List.take (x.intake.ring.held - (x.intake.poll connected).ring.held) _ = _
        rw [hring, Nat.sub_self, List.take_zero, List.append_nil]
        exact h.polled
      · change (x.base connected).given ++ Intake.given connected x.intake = _
        rw [hbase, Intake.given, hdrains, if_neg (by decide), List.append_nil]
        exact h.given
      · change (x.base connected).frames ++ ite _ _ _ = _
        rw [hbase, hdrains, Bool.false_and, if_neg (by decide), List.append_nil]
        exact h.frames

end Owned

/-- **A frame is its owner's until it is given up**, in every run.  No poll changes it or takes an octet out of the
ring; behind it the polls go on with the next octet of the ring, and the frames that they report, each of them once,
are those that the reference decoder finds in the octets they have handed over. -/
theorem frame_owned (p : Intake) (events : List Event) :
    ((History.after p events).intake.receive.frameReady = true →
      ∀ more, Run.Until History.step (Owned (History.after p events)) Ends (History.after p events) more) ∧
    (History.after p events).frames = referenceFrames (History.after p events).given ∧
    (History.after p events).stored =
      (History.after p events).removed ++ (History.after p events).intake.ring.contents ∧
    ∀ connected, Continues (History.after p events) connected := by
  have hsound := sound_after p events
  refine ⟨fun hready more => ?_, hsound.frames, hsound.conserved, continues _⟩
  have hfree : Run.Along History.step (fun _ _ => True) (History.after p events) more :=
    Run.along_of_forall fun _ _ => trivial
  exact Run.until_of_step (fun x event howned _ => howned.step event) ⟨hready, rfl, rfl, rfl, rfl⟩ hfree

section Scenario

/-- The frame `[0xff, 0x7e]`, with its flags and its check sequence. -/
def frameOctets : List UInt8 := [0x7e, 0xff, 0x7d, 0x5e, 0x7d, 0x5e, 0x6a, 0x7e]

/-- The receiver is started, the frame arrives and a poll reports it. -/
def frameReported : List Event := .start :: frameOctets.map .store ++ [.poll true]

end Scenario

set_option maxRecDepth 100000 in
theorem frame_owned_reported :
    (History.after default frameReported).intake.receive.frameReady = true ∧
      Run.Until History.step (Owned (History.after default frameReported)) Ends (History.after default frameReported)
        (frameOctets.map .store ++ [.poll true, .poll false, .release, .poll true]) := by
  have hready : (History.after default frameReported).intake.receive.frameReady = true := by decide +kernel
  exact ⟨hready, (frame_owned default frameReported).1 hready _⟩

/-- What is said to give a frame up: its release, a stop, and the loss of the carrier. -/
def EndsOnly (h : History) : Event → Prop
  | .release | .stop => True
  | .poll connected =>
    h.intake.receive.enabled = true ∧ (h.step (.poll connected)).intake.receive.enabled = false
  | _ => False

instance (h : History) (event : Event) : Decidable (EndsOnly h event) := by
  unfold EndsOnly
  split
  all_goals infer_instance

/-- The frame `[0xff, 0x41, 0x42]`, with its flags and its check sequence. -/
def otherOctets : List UInt8 := [0x7e, 0xff, 0x41, 0x42, 0x97, 0x3e, 0x7e]

/-- Behind the report comes the event, and then another frame, which a poll takes out of the ring.  Although nothing is
said to give the first frame up, its octets and their number are not what they were. -/
def Overwritten (event : Event) : Prop :=
  let events := event :: otherOctets.map .store ++ [.poll true]
  let h := History.after default frameReported
  let x := Run.run History.step h events
  Run.Along History.step (fun x event => ¬ EndsOnly x event) h events ∧
    h.intake.frame = [0xff, 0x7e] ∧ x.intake.frame = [0xff, 0x41, 0x42] ∧ x.polled = h.polled ++ otherOctets

instance (event : Event) : Decidable (Overwritten event) := inferInstanceAs (Decidable (_ ∧ _))

set_option maxRecDepth 100000 in
/-- **A frame is given up without its release**: a further start clears it, and so does the poll that takes the ring
over behind one that has found the driver away from the connection; the next frame is then written over it.  And a
frame is lost that comes behind the report of a loss, in the octets that are discarded with it. -/
theorem frame_given_up :
    (Overwritten .start ∧ Overwritten (.poll false)) ∧
      ¬ Run.Until History.step (Owned (History.after default frameReported)) EndsOnly
        (History.after default frameReported) [.start] ∧
      ¬ Run.Until History.step (Owned (History.after default frameReported)) EndsOnly
        (History.after default frameReported) [.poll false, .poll true] ∧
      (let h := History.after default (.start :: (carrierLine ++ frameOctets).map .store ++ [.poll true])
      h.intake.ring.contents = [] ∧ h.removed = carrierLine ++ frameOctets ∧ referenceFrames h.removed ≠ [] ∧
        h.frames = []) := by
  refine ⟨by decide +kernel, ?_, ?_, by decide +kernel⟩
  · rintro ⟨-, hends | howned⟩
    · exact hends
    · exact absurd howned.frameReady (by decide +kernel)
  · rintro ⟨-, hends | ⟨-, hends | howned⟩⟩
    · exact absurd hends.2 (by decide +kernel)
    · exact absurd hends.2 (by decide +kernel)
    · exact absurd howned.frameReady (by decide +kernel)

end SnesModem.Asm.FrameOwnership
