import SnesModem.Rust.Framing

/-!
# The restartable encoder of the reference

`AsyncEncoder` hands a frame to a sink octet by octet, and keeps an octet that the sink refuses.

* `pending`: the octets that the state of the encoder still stands for;
* `advance_pending`: an accepted octet is the first of them, and leaves the others;
* `offered`: what sinks take of a list of octets, each up to the first one that it refuses;
* `pumps_deliver`: so much they have of the encoded frame, a prefix, and all of it once the encoder is complete.
-/

namespace SnesModem.Rust.Framing

inductive EncoderStage where
  | openingFlag | frame | fcsLow | fcsHigh | closingFlag | complete
  deriving DecidableEq, Repr

structure AsyncEncoder where
  frame : List UInt8
  sendAccm : UInt32
  position : ℕ
  fcs : UInt16
  stage : EncoderStage
  escapeSecond : Bool
  deriving DecidableEq, Repr

namespace AsyncEncoder

/-! ### The encoder

`none` is a panic: an index out of range, or an arm that should not be reached. -/

def new (frame : List UInt8) (sendAccm : UInt32) : AsyncEncoder where
  frame := frame
  sendAccm := sendAccm
  position := 0
  fcs := initialFcs16
  stage := .openingFlag
  escapeSecond := false

def isComplete (e : AsyncEncoder) : Bool := e.stage = .complete

def logicalOctet (e : AsyncEncoder) : Option UInt8 :=
  match e.stage with
  | .frame => e.frame[e.position]?
  | .fcsLow => (leBytes (e.fcs ^^^ 0xffff))[0]?
  | .fcsHigh => (leBytes (e.fcs ^^^ 0xffff))[1]?
  | _ => none

/-- The next octet on the wire, unless the encoder is complete. -/
def peek (e : AsyncEncoder) : Option (Option UInt8) :=
  match e.stage with
  | .openingFlag | .closingFlag => some (some flagSequence)
  | .frame | .fcsLow | .fcsHigh =>
    e.logicalOctet.map fun octet =>
      if mustEscape octet e.sendAccm then some (if e.escapeSecond then octet ^^^ transparencyXor else controlEscape)
      else some octet
  | .complete => some none

def finishLogicalOctet (e : AsyncEncoder) (octet : UInt8) : Option AsyncEncoder :=
  match e.stage with
  | .frame =>
    let e := { e with fcs := updateFcs16 e.fcs octet, position := e.position + 1 }
    some { e with stage := if e.position = e.frame.length then .fcsLow else .frame }
  | .fcsLow => some { e with stage := .fcsHigh }
  | .fcsHigh => some { e with stage := .closingFlag }
  | _ => none

/-- The octet of `peek` was accepted. -/
def advance (e : AsyncEncoder) : Option AsyncEncoder :=
  match e.stage with
  | .openingFlag => some { e with stage := if e.frame = [] then .fcsLow else .frame }
  | .frame | .fcsLow | .fcsHigh =>
    match e.logicalOctet with
    | none => none
    | some octet =>
      if mustEscape octet e.sendAccm && !e.escapeSecond then some { e with escapeSecond := true }
      else { e with escapeSecond := false }.finishLogicalOctet octet
  | .closingFlag => some { e with stage := .complete }
  | .complete => some e

/-- The closure that takes an octet or refuses it, with the variables it captures. -/
abbrev Sink (σ : Type*) := σ → UInt8 → Bool × σ

/-- What a call of `pump` leaves: the encoder, the variables of the sink, the number that it returns, and the octets
that the sink has accepted. -/
structure Pumped (σ : Type*) where
  encoder : AsyncEncoder
  sink : σ
  accepted : ℕ
  delivered : List UInt8

variable {σ : Type*}

/-- `pump`, in at most so many turns of its loop. -/
def pump (accept : Sink σ) : ℕ → σ → AsyncEncoder → Option (Pumped σ)
  | 0, _, _ => none
  | turns + 1, s, e =>
    match e.peek with
    | none => none
    | some none => some ⟨e, s, 0, []⟩
    | some (some octet) =>
      match accept s octet with
      | (false, s) => some ⟨e, s, 0, []⟩
      | (true, s) =>
        match e.advance with
        | none => none
        | some e =>
          (pump accept turns s e).map fun p =>
            { p with accepted := p.accepted + 1, delivered := octet :: p.delivered }

/-- A schedule of calls, each with its own closure over the same variables. -/
def pumps (turns : ℕ) : List (Sink σ) → σ → AsyncEncoder → Option (Pumped σ)
  | [], s, e => some ⟨e, s, 0, []⟩
  | accept :: sinks, s, e =>
    match pump accept turns s e with
    | none => none
    | some p =>
      (pumps turns sinks p.sink p.encoder).map fun rest =>
        { rest with accepted := p.accepted + rest.accepted, delivered := p.delivered ++ rest.delivered }

/-! ### The octets that are left -/

/-- The encoded octets of a part of a frame, up to its closing flag. -/
def wire (sendAccm : UInt32) (octets : List UInt8) : List UInt8 := octets.flatMap (escape sendAccm) ++ [flagSequence]

/-- The octets of the frame and its check sequence that are not done yet. -/
def logicalLeft (e : AsyncEncoder) : List UInt8 :=
  match e.stage with
  | .openingFlag | .frame =>
    e.frame.drop e.position ++ leBytes ((e.frame.drop e.position).foldl updateFcs16 e.fcs ^^^ 0xffff)
  | .fcsLow => leBytes (e.fcs ^^^ 0xffff)
  | .fcsHigh => (leBytes (e.fcs ^^^ 0xffff)).tail
  | _ => []

/-- The octets that are still to be delivered. -/
def pending (e : AsyncEncoder) : List UInt8 :=
  match e.stage with
  | .openingFlag => flagSequence :: wire e.sendAccm e.logicalLeft
  | .complete => []
  | _ => if e.escapeSecond then (wire e.sendAccm e.logicalLeft).tail else wire e.sendAccm e.logicalLeft

/-- The stages of an octet of the frame or of its check sequence. -/
def logicalStage (stage : EncoderStage) : Prop := stage = .frame ∨ stage = .fcsLow ∨ stage = .fcsHigh

/-- What holds of an encoder between two octets. -/
structure Sound (e : AsyncEncoder) : Prop where
  opening : e.stage = .openingFlag → e.position = 0 ∧ e.fcs = initialFcs16
  position : e.stage = .frame → e.position < e.frame.length
  /-- The second half of an escape is due only for an octet that needs one. -/
  second : e.escapeSecond = true →
    logicalStage e.stage ∧ ∃ octet, e.logicalOctet = some octet ∧ mustEscape octet e.sendAccm = true

lemma sound_new (frame : List UInt8) (sendAccm : UInt32) : Sound (new frame sendAccm) :=
  ⟨fun _ => ⟨rfl, rfl⟩, nofun, nofun⟩

lemma pending_new (frame : List UInt8) (sendAccm : UInt32) :
    (new frame sendAccm).pending = encodeAsync frame sendAccm := rfl

section Octet

variable {e : AsyncEncoder}

lemma wire_cons (sendAccm : UInt32) (octet : UInt8) (octets : List UInt8) :
    wire sendAccm (octet :: octets) = escape sendAccm octet ++ wire sendAccm octets := by
  unfold wire
  rw [List.flatMap_cons, List.append_assoc]

/-- Nothing is left exactly when the encoder is complete. -/
lemma pending_eq_nil_iff (h : Sound e) : e.pending = [] ↔ e.isComplete = true := by
  have hwire (octets : List UInt8) : wire e.sendAccm octets ≠ [] := by simp [wire]
  unfold pending isComplete
  rw [decide_eq_true_iff]
  cases hstage : e.stage with
  | openingFlag => simp
  | complete => simp
  | closingFlag =>
    have hsecond : e.escapeSecond = false := by
      by_contra hnot
      have hlogical := (h.second (by simpa using hnot)).1
      simp [logicalStage, hstage] at hlogical
    simp [hsecond, hwire]
  | frame | fcsLow | fcsHigh =>
    cases hsecond : e.escapeSecond with
    | false => simp [hwire]
    | true =>
      -- Behind the first half of an escape come the second half and the closing flag.
      have htail (octets : List UInt8) : (wire e.sendAccm octets).tail = [] → octets = [] := by
        intro hnil
        cases octets with
        | nil => rfl
        | cons octet octets =>
          rw [wire_cons] at hnil
          unfold escape wire at hnil
          split_ifs at hnil <;> simp at hnil
      have hleft : e.logicalLeft ≠ [] := by
        simp [logicalLeft, hstage, leBytes]
      simp only [if_true, reduceCtorEq, iff_false]
      exact fun hnil => hleft (htail _ hnil)

/-- At a stage of an octet the first one left is the octet of the stage. -/
lemma logicalLeft_cons (h : Sound e) (hstage : logicalStage e.stage) :
    ∃ octet octets, e.logicalOctet = some octet ∧ e.logicalLeft = octet :: octets := by
  unfold logicalOctet logicalLeft
  rcases hstage with hstage | hstage | hstage
  · rw [hstage]
    have hposition := h.position hstage
    refine ⟨e.frame[e.position], e.frame.drop (e.position + 1) ++
      leBytes ((e.frame.drop e.position).foldl updateFcs16 e.fcs ^^^ 0xffff), List.getElem?_eq_getElem hposition, ?_⟩
    dsimp only
    rw [← List.cons_append, ← List.drop_eq_getElem_cons hposition]
  · rw [hstage]
    exact ⟨_, _, rfl, rfl⟩
  · rw [hstage]
    exact ⟨_, _, rfl, rfl⟩

/-- **The octet of the stage is done**: the others are left. -/
lemma finishLogicalOctet_pending {octet : UInt8} (h : Sound e) (hstage : logicalStage e.stage)
    (hsecond : e.escapeSecond = false) (hoctet : e.logicalOctet = some octet) :
    ∃ e', e.finishLogicalOctet octet = some e' ∧ Sound e' ∧
      wire e.sendAccm e.logicalLeft = escape e.sendAccm octet ++ e'.pending := by
  unfold finishLogicalOctet
  unfold logicalOctet at hoctet
  rcases hstage with hstage | hstage | hstage
  · have hposition := h.position hstage
    rw [hstage] at hoctet ⊢
    dsimp only at hoctet ⊢
    rw [List.getElem?_eq_getElem hposition, Option.some.injEq] at hoctet
    have hleft : e.logicalLeft = octet :: (e.frame.drop (e.position + 1) ++
        leBytes ((e.frame.drop (e.position + 1)).foldl updateFcs16 (updateFcs16 e.fcs octet) ^^^ 0xffff)) := by
      unfold logicalLeft
      rw [hstage]
      dsimp only
      rw [List.drop_eq_getElem_cons hposition, hoctet]
      rfl
    refine ⟨_, rfl, ?_, ?_⟩
    · refine ⟨?_, ?_, by simp [hsecond]⟩
      · simp only
        split_ifs <;> simp
      · simp only
        split_ifs with hlast
        · simp
        · intro _
          omega
    · rw [hleft, wire_cons]
      unfold pending logicalLeft
      simp only [hsecond]
      by_cases hlast : e.position + 1 = e.frame.length
      · simp [hlast]
      · simp [hlast]
  · rw [hstage] at hoctet ⊢
    refine ⟨_, rfl, ⟨nofun, nofun, by simp [hsecond]⟩, ?_⟩
    have hoctet : some (e.fcs ^^^ 0xffff).toUInt8 = some octet := hoctet
    rw [Option.some.injEq] at hoctet
    have hleft : e.logicalLeft = octet :: (leBytes (e.fcs ^^^ 0xffff)).tail := by
      unfold logicalLeft
      rw [hstage, ← hoctet]
      rfl
    rw [hleft, wire_cons]
    unfold pending logicalLeft
    simp [hsecond]
  · rw [hstage] at hoctet ⊢
    refine ⟨_, rfl, ⟨nofun, nofun, by simp [hsecond]⟩, ?_⟩
    have hleft : e.logicalLeft = [octet] := by
      unfold logicalLeft
      rw [hstage]
      unfold leBytes at hoctet ⊢
      simpa using hoctet
    rw [hleft, wire_cons]
    unfold pending logicalLeft
    simp [hsecond]

lemma pending_of_logicalStage (hstage : logicalStage e.stage) :
    e.pending = if e.escapeSecond then (wire e.sendAccm e.logicalLeft).tail else wire e.sendAccm e.logicalLeft := by
  unfold pending
  rcases hstage with hstage | hstage | hstage <;> rw [hstage]

lemma advance_logical_pending (h : Sound e) (hstage : logicalStage e.stage) :
    ∃ octet e', e.peek = some (some octet) ∧ e.advance = some e' ∧ Sound e' ∧ e.pending = octet :: e'.pending := by
  obtain ⟨octet, octets, hoctet, hleft⟩ := logicalLeft_cons h hstage
  have hpeek : e.peek = some (if mustEscape octet e.sendAccm then
      some (if e.escapeSecond then octet ^^^ transparencyXor else controlEscape) else some octet) := by
    unfold peek
    rcases hstage with hstage | hstage | hstage <;> rw [hstage, hoctet] <;> rfl
  have hadvance : e.advance = if mustEscape octet e.sendAccm && !e.escapeSecond then
      some { e with escapeSecond := true } else { e with escapeSecond := false }.finishLogicalOctet octet := by
    unfold advance
    rcases hstage with hstage | hstage | hstage <;> rw [hstage, hoctet]
  have hwhole : Sound { e with escapeSecond := false } := ⟨h.opening, h.position, nofun⟩
  obtain ⟨e', hfinish, hafter, hwire⟩ := finishLogicalOctet_pending hwhole hstage rfl hoctet
  have hwire : wire e.sendAccm e.logicalLeft = escape e.sendAccm octet ++ e'.pending := hwire
  rw [hpeek, hadvance, pending_of_logicalStage hstage, hfinish]
  unfold escape at hwire
  cases hescaped : mustEscape octet e.sendAccm with
  | false =>
    have hsecond : e.escapeSecond = false := by
      by_contra hnot
      obtain ⟨-, found, hfound, hmust⟩ := h.second (by simpa using hnot)
      rw [hoctet, Option.some.injEq] at hfound
      rw [← hfound, hescaped] at hmust
      cases hmust
    rw [hescaped] at hwire
    rw [hsecond]
    exact ⟨octet, e', rfl, rfl, hafter, hwire⟩
  | true =>
    rw [hescaped] at hwire
    cases hsecond : e.escapeSecond with
    | false =>
      have hhalf : Sound { e with escapeSecond := true } :=
        ⟨h.opening, h.position, fun _ => ⟨hstage, octet, hoctet, hescaped⟩⟩
      have hrest : pending { e with escapeSecond := true } = (wire e.sendAccm e.logicalLeft).tail :=
        pending_of_logicalStage (e := { e with escapeSecond := true }) hstage
      refine ⟨controlEscape, _, rfl, rfl, hhalf, ?_⟩
      rw [hrest, hwire]
      rfl
    | true =>
      refine ⟨octet ^^^ transparencyXor, e', rfl, rfl, hafter, ?_⟩
      rw [hwire]
      rfl

/-- **An accepted octet is the first one that is left**, and leaves the others behind it. -/
theorem advance_pending (h : Sound e) (hopen : e.isComplete = false) :
    ∃ octet e', e.peek = some (some octet) ∧ e.advance = some e' ∧ Sound e' ∧ e.pending = octet :: e'.pending := by
  cases hstage : e.stage with
  | frame | fcsLow | fcsHigh => exact advance_logical_pending h (by simp [logicalStage, hstage])
  | complete => simp [isComplete, hstage] at hopen
  | openingFlag =>
    obtain ⟨hposition, hfcs⟩ := h.opening hstage
    have hsecond : e.escapeSecond = false := by
      by_contra hnot
      have hlogical := (h.second (by simpa using hnot)).1
      simp [logicalStage, hstage] at hlogical
    refine ⟨flagSequence, { e with stage := if e.frame = [] then .fcsLow else .frame }, ?_, ?_, ?_, ?_⟩
    · simp only [peek, hstage]
    · simp only [advance, hstage]
    · refine ⟨?_, ?_, by simp [hsecond]⟩
      · simp only
        split_ifs <;> simp
      · simp only
        split_ifs with hempty
        · simp
        · intro _
          rw [hposition]
          exact List.length_pos_iff.mpr hempty
    · by_cases hempty : e.frame = []
      · simp [pending, logicalLeft, hstage, hsecond, hempty]
      · simp [pending, logicalLeft, hstage, hsecond, hempty]
  | closingFlag =>
    have hsecond : e.escapeSecond = false := by
      by_contra hnot
      have hlogical := (h.second (by simpa using hnot)).1
      simp [logicalStage, hstage] at hlogical
    refine ⟨flagSequence, { e with stage := .complete }, ?_, ?_, ⟨nofun, nofun, by simp [hsecond]⟩, ?_⟩
    · simp only [peek, hstage]
    · simp only [advance, hstage]
    · simp [pending, logicalLeft, hstage, hsecond, wire]

end Octet

/-! ### Schedules -/

/-- What the sink takes of the octets, up to the first one that it refuses. -/
def taken (accept : Sink σ) : σ → List UInt8 → List UInt8 × σ
  | s, [] => ([], s)
  | s, octet :: octets =>
    match accept s octet with
    | (false, s) => ([], s)
    | (true, s) => (octet :: (taken accept s octets).1, (taken accept s octets).2)

/-- What sinks take that are offered the octets one after the other, each from where the one before has refused. -/
def offered : List (Sink σ) → σ → List UInt8 → List UInt8 × σ
  | [], s, _ => ([], s)
  | accept :: sinks, s, octets =>
    let first := taken accept s octets
    let rest := offered sinks first.2 (octets.drop first.1.length)
    (first.1 ++ rest.1, rest.2)

/-- The sink has what the state of the encoder no longer stands for. -/
structure Delivers (e : AsyncEncoder) (p : Pumped σ) : Prop where
  sound : Sound p.encoder
  split : e.pending = p.delivered ++ p.encoder.pending
  count : p.accepted = p.delivered.length

section Schedules

variable {e : AsyncEncoder} {turns : ℕ}

/-- **A call of `pump`** returns, and has offered the octets that are left until the sink has refused one. -/
theorem pump_delivers (accept : Sink σ) (s : σ) (h : Sound e) (hturns : e.pending.length < turns) :
    ∃ p, pump accept turns s e = some p ∧ Delivers e p ∧ (p.delivered, p.sink) = taken accept s e.pending := by
  induction turns generalizing s e with
  | zero => omega
  | succ turns ih =>
    have hstays (s : σ) : Delivers e (⟨e, s, 0, []⟩ : Pumped σ) := ⟨h, rfl, rfl⟩
    unfold pump
    cases hcomplete : e.isComplete with
    | true =>
      have hpeek : e.peek = some none := by
        unfold isComplete at hcomplete
        unfold peek
        rw [of_decide_eq_true hcomplete]
      rw [hpeek, (pending_eq_nil_iff h).mpr hcomplete]
      exact ⟨_, rfl, hstays s, rfl⟩
    | false =>
      obtain ⟨octet, e', hpeek, hadvance, hsound, hpending⟩ := advance_pending h hcomplete
      have htakes : taken accept s e.pending = match accept s octet with
          | (false, s) => ([], s)
          | (true, s) => (octet :: (taken accept s e'.pending).1, (taken accept s e'.pending).2) := by
        rw [hpending, taken]
      rw [hpeek, htakes]
      dsimp only
      cases hverdict : accept s octet with
      | mk accepted s' =>
        cases accepted with
        | false => exact ⟨_, rfl, hstays s', rfl⟩
        | true =>
          rw [hpending, List.length_cons] at hturns
          obtain ⟨p, hpump, hdelivers, htaken⟩ := ih s' hsound (by omega)
          rw [hadvance]
          dsimp only
          rw [hpump, ← htaken]
          refine ⟨_, rfl, ⟨hdelivers.sound, ?_, ?_⟩, rfl⟩
          · rw [hpending, hdelivers.split]
            rfl
          · rw [List.length_cons, ← hdelivers.count]

/-- **A schedule of calls.** -/
theorem pumps_cases (sinks : List (Sink σ)) (s : σ) (h : Sound e) (hturns : e.pending.length < turns) :
    ∃ p, pumps turns sinks s e = some p ∧ Delivers e p ∧ (p.delivered, p.sink) = offered sinks s e.pending := by
  induction sinks generalizing s e with
  | nil => exact ⟨_, rfl, ⟨h, rfl, rfl⟩, rfl⟩
  | cons accept sinks ih =>
    obtain ⟨p, hpump, hfirst, htaken⟩ := pump_delivers accept s h hturns
    have hlength := congrArg List.length hfirst.split
    rw [List.length_append] at hlength
    obtain ⟨rest, hpumps, hrest, hoffered⟩ := ih p.sink hfirst.sound (by omega)
    unfold pumps
    rw [hpump]
    dsimp only
    rw [hpumps]
    refine ⟨_, rfl, ⟨hrest.sound, ?_, ?_⟩, ?_⟩
    · rw [hfirst.split, hrest.split, List.append_assoc]
    · rw [List.length_append, ← hfirst.count, ← hrest.count]
    · unfold offered
      rw [← htaken, hfirst.split]
      dsimp only
      rw [List.drop_left, ← hoffered]

/-- **The encoder delivers the encoded frame**: every schedule of calls, whatever octets its sinks refuse, runs without
a panic, the sinks have what they take of the encoded frame, each from where the one before has refused, which is a
prefix, and all of it exactly if the encoder reports completion. -/
theorem pumps_deliver (frame : List UInt8) (sendAccm : UInt32) (sinks : List (Sink σ)) (s : σ)
    (hturns : (encodeAsync frame sendAccm).length < turns) :
    ∃ p, pumps turns sinks s (new frame sendAccm) = some p ∧ p.accepted = p.delivered.length ∧
      (p.delivered, p.sink) = offered sinks s (encodeAsync frame sendAccm) ∧
      p.delivered <+: encodeAsync frame sendAccm ∧
      (p.encoder.isComplete = true ↔ p.delivered = encodeAsync frame sendAccm) := by
  obtain ⟨p, hpumps, ⟨hsound, hsplit, hcount⟩, hoffered⟩ :=
    @pumps_cases _ _ turns sinks s (sound_new frame sendAccm) hturns
  rw [pending_new] at hsplit hoffered
  refine ⟨p, hpumps, hcount, hoffered, ⟨p.encoder.pending, hsplit.symm⟩, ?_⟩
  rw [← pending_eq_nil_iff hsound, hsplit]
  simp

/-- A sink that has room for so many octets. -/
def roomFor : Sink ℕ
  | 0, _ => (false, 0)
  | room + 1, _ => (true, room)

/-- A sink that refuses its octet, and has room afterwards. -/
def emptied : Sink ℕ := fun room _ => (false, room + 4)

theorem pumps_deliver_roomFor :
    ∃ p, pumps 20 [roomFor, emptied, roomFor] 2 (new [0xc0, 0x21] defaultAccm) = some p ∧
      p.accepted = p.delivered.length ∧
      (p.delivered, p.sink) = offered [roomFor, emptied, roomFor] 2 (encodeAsync [0xc0, 0x21] defaultAccm) ∧
      p.delivered <+: encodeAsync [0xc0, 0x21] defaultAccm ∧
      (p.encoder.isComplete = true ↔ p.delivered = encodeAsync [0xc0, 0x21] defaultAccm) :=
  pumps_deliver _ _ _ 2 (by decide +kernel)

end Schedules

end AsyncEncoder

end SnesModem.Rust.Framing
