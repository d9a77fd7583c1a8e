import SnesModem.Asm.ClientRequests
import SnesModem.Asm.ClockCalendar
import SnesModem.Lib.Words
import SnesModem.Rust.Ntp

/-!
# The NTP client against the reference

* `receiveWords_eq`: the cookie and the Unix time, in words of 16 bits with their borrow;
* `answered_of_received`, `sameResponse`: the responses that the client takes, and what it keeps of them;
* `responses_agree`: they are those of the reference, with the same fields and the same Unix time.
-/

namespace SnesModem.Asm.NtpRefinement

open SnesModem.Lib SnesModem.Lib.Cpu65816 SnesModem.Lib.Octets
open SnesModem.Lib.Words (Long)
open SnesModem.Asm.ClientRequests (Cookie Cookie.Answered ntpReceive_eq)
open SnesModem.Rust.Ntp (ServerResponse Timestamp readU32)

/-! ### In words -/

/-- A variable of 32 bits. -/
def words (value : UInt32) : Long := .ofNat value.toNat

/-- From `cmp` of the high words to `convertUnix`; `none` is `preUnix16`. -/
def convertUnix (seconds : Long) : Option Long :=
  let offset := words ntpUnixEpochOffsetSeconds
  if seconds.high < offset.high then none
  else if seconds.high = offset.high ∧ seconds.low < offset.low then none
  else some (seconds.sub offset).1

/-- `pppNtpReceive`, from `cookie` on. -/
def receiveWords (n : Ntp) (buffer : Buffer) (x : ℕ) : Ntp :=
  if wordAt buffer (x + 24) ≠ (words n.cookieSeconds).high ∨ wordAt buffer (x + 26) ≠ (words n.cookieSeconds).low ∨
      wordAt buffer (x + 28) ≠ (words n.cookieFraction).high ∨ wordAt buffer (x + 30) ≠ (words n.cookieFraction).low then
    n.fail .originateMismatch
  else
    let n := { n with
      serverReceiveSeconds := doubleWordAt buffer (x + 32)
      serverReceiveFraction := doubleWordAt buffer (x + 36)
      serverTransmitSeconds := doubleWordAt buffer (x + 40)
      serverTransmitFraction := doubleWordAt buffer (x + 44) }
    match convertUnix ⟨wordAt buffer (x + 42), wordAt buffer (x + 40)⟩ with
    | none => n.fail .preUnixEpoch
    | some seconds =>
      { n with
        unixSeconds := UInt32.ofNat seconds.toNat
        state := .received
        lastError := .none
        cookieValid := true
        responseValid := true
        unixTimeValid := true }

section Words

lemma toNat_words (value : UInt32) : (words value).toNat = value.toNat := Long.toNat_ofNat value.toNat_lt

lemma toNat_doubleWordAt (buffer : Buffer) (x : ℕ) : (doubleWordAt buffer x).toNat =
    (Long.mk (wordAt buffer (x + 2)) (wordAt buffer x)).toNat := by
  have hlow := (wordAt buffer (x + 2)).toNat_lt
  have hhigh := (wordAt buffer x).toNat_lt
  have hshift : (wordAt buffer x).toNat <<< 16 % 2 ^ 32 = 2 ^ 16 * (wordAt buffer x).toNat := by
    rw [Nat.shiftLeft_eq]
    omega
  unfold doubleWordAt Long.toNat
  rw [UInt32.toNat_or, UInt32.toNat_shiftLeft, UInt16.toNat_toUInt32, UInt16.toNat_toUInt32]
  show (wordAt buffer x).toNat <<< 16 % 2 ^ 32 ||| _ = _
  rw [hshift, ← Nat.two_pow_add_eq_or_of_lt hlow]

/-- A double word is compared word by word. -/
lemma doubleWordAt_eq_iff (buffer : Buffer) (x : ℕ) (value : UInt32) : doubleWordAt buffer x = value ↔
    wordAt buffer x = (words value).high ∧ wordAt buffer (x + 2) = (words value).low := by
  rw [← UInt32.toNat_inj, toNat_doubleWordAt, ← toNat_words value, Long.toNat_inj]
  constructor
  · intro h
    rw [← h]
    exact ⟨rfl, rfl⟩
  · rintro ⟨hhigh, hlow⟩
    exact Long.ext hlow hhigh

/-- The comparison, the high words first, and the subtraction with its borrow. -/
theorem convertUnix_eq (seconds : Long) : convertUnix seconds =
    if seconds.toNat < ntpUnixEpochOffsetSeconds.toNat then none
    else some (.ofNat (seconds.toNat - ntpUnixEpochOffsetSeconds.toNat)) := by
  have hsame : convertUnix seconds = clockSubtractIfAtLeast (words ntpUnixEpochOffsetSeconds) seconds := rfl
  rw [hsame, ← toNat_words ntpUnixEpochOffsetSeconds]
  split_ifs with hless
  · exact ClockCalendar.subtract_none hless
  · rw [ClockCalendar.subtract_some (Nat.not_lt.mp hless), ← Long.toNat_sub (Nat.not_lt.mp hless)]
    congr 1
    rw [← Long.toNat_inj, Long.toNat_ofNat (Long.toNat_lt _)]

/-- **The words** are compared and subtracted as the double words are. -/
theorem receiveWords_eq (n : Ntp) (buffer : Buffer) (x : ℕ) : receiveWords n buffer x = n.receiveTimestamps buffer x := by
  have hcookie : (wordAt buffer (x + 24) ≠ (words n.cookieSeconds).high ∨
      wordAt buffer (x + 26) ≠ (words n.cookieSeconds).low ∨
      wordAt buffer (x + 28) ≠ (words n.cookieFraction).high ∨ wordAt buffer (x + 30) ≠ (words n.cookieFraction).low) ↔
      (doubleWordAt buffer (x + 24) ≠ n.cookieSeconds ∨ doubleWordAt buffer (x + 28) ≠ n.cookieFraction) := by
    rw [← not_iff_not]
    simp only [not_or, not_not, doubleWordAt_eq_iff, and_assoc, Nat.add_assoc, Nat.reduceAdd]
  unfold receiveWords Ntp.receiveTimestamps
  by_cases hmismatch : doubleWordAt buffer (x + 24) ≠ n.cookieSeconds ∨ doubleWordAt buffer (x + 28) ≠ n.cookieFraction
  · rw [if_pos hmismatch, if_pos (hcookie.mpr hmismatch)]
  · rw [if_neg hmismatch, if_neg (mt hcookie.mp hmismatch), convertUnix_eq, ← toNat_doubleWordAt]
    dsimp only
    by_cases hbefore : doubleWordAt buffer (x + 40) < ntpUnixEpochOffsetSeconds
    · rw [if_pos (UInt32.lt_iff_toNat_lt.mp hbefore), if_pos hbefore]
    · have hle : ntpUnixEpochOffsetSeconds ≤ doubleWordAt buffer (x + 40) := UInt32.not_lt.mp hbefore
      have hlt := (doubleWordAt buffer (x + 40)).toNat_lt
      have hseconds : UInt32.ofNat (Long.ofNat ((doubleWordAt buffer (x + 40)).toNat -
          ntpUnixEpochOffsetSeconds.toNat)).toNat = doubleWordAt buffer (x + 40) - ntpUnixEpochOffsetSeconds := by
        rw [Long.toNat_ofNat (by omega), ← UInt32.toNat_sub_of_le _ _ hle, UInt32.ofNat_toNat]
      rw [if_neg (mt UInt32.lt_iff_toNat_lt.mpr hbefore), if_neg hbefore]
      dsimp only
      rw [hseconds]

end Words

/-! ### Responses -/

/-- The payload of a datagram. -/
def payload (d : UdpDatagram) : List UInt8 :=
  read d.frameBuffer (d.packetOffset + udpHeaderLength).toNat d.payloadLength.toNat

/-- The cookie of the request. -/
def cookie (n : Ntp) : Timestamp := ⟨n.cookieSeconds, n.cookieFraction⟩

/-- The variables of an accepted response are the fields of the reference. -/
structure SameResponse (n : Ntp) (response : ServerResponse) : Prop where
  version : n.version = response.version
  leapIndicator : n.leapIndicator = response.leapIndicator
  stratum : n.stratum = response.stratum
  pollExponent : n.pollExponent.toInt8 = response.poll
  precision : n.precision.toInt8 = response.precision
  referenceId : n.referenceId = response.referenceId
  cookie : cookie n = response.originateTimestamp
  serverReceive : ⟨n.serverReceiveSeconds, n.serverReceiveFraction⟩ = response.receiveTimestamp
  serverTransmit : ⟨n.serverTransmitSeconds, n.serverTransmitFraction⟩ = response.transmitTimestamp
  unixSeconds : some n.unixSeconds = response.transmitTimestamp.unixSeconds

section Response

variable {p : Ipcp} {n : Ntp} {d : UdpDatagram} {x : ℕ}

lemma getD_payload {i : ℕ} (hi : i < d.payloadLength.toNat) :
    (payload d).getD i 0 = d.frameBuffer ((d.packetOffset + udpHeaderLength).toNat + i) := getD_read _ _ hi

lemma readU32_payload {i : ℕ} (hi : i + 3 < d.payloadLength.toNat) :
    readU32 (payload d) i = doubleWordAt d.frameBuffer ((d.packetOffset + udpHeaderLength).toNat + i) := by
  rw [← UInt32.toNat_inj, toNat_doubleWordAt]
  unfold Rust.Ntp.readU32 Rust.Ntp.readArray Long.toNat wordAt
  rw [getD_payload (by omega), getD_payload (by omega), getD_payload (by omega), getD_payload hi, toNat_word, toNat_word]
  generalize (d.packetOffset + udpHeaderLength).toNat = x
  have ha := (d.frameBuffer (x + i)).toNat_lt
  have hb := (d.frameBuffer (x + (i + 1))).toNat_lt
  have hc := (d.frameBuffer (x + (i + 2))).toNat_lt
  have hd := (d.frameBuffer (x + (i + 3))).toNat_lt
  simp only [BigEndian.value, List.foldl_cons, List.foldl_nil, Nat.add_assoc, Nat.reduceAdd, UInt32.toNat_ofNat']
  omega

lemma readTimestamp_payload {i : ℕ} (hi : i + 7 < d.payloadLength.toNat) :
    Rust.Ntp.readTimestamp (payload d) i =
      ⟨doubleWordAt d.frameBuffer ((d.packetOffset + udpHeaderLength).toNat + i),
        doubleWordAt d.frameBuffer ((d.packetOffset + udpHeaderLength).toNat + (i + 4))⟩ := by
  unfold Rust.Ntp.readTimestamp
  rw [readU32_payload (by omega), readU32_payload (by omega)]

/-- What the client takes is an answer. -/
lemma answered_of_received (hwaiting : n.state = .waiting) (hreceived : (pppNtpReceive p d n).state = .received) :
    Cookie.Answered ⟨n.cookieSeconds, n.cookieFraction⟩ p d (d.packetOffset + udpHeaderLength).toNat := by
  have hfail (n : Ntp) (error : NtpError) : (n.fail error).state ≠ .received := by
    unfold Ntp.fail
    exact nofun
  unfold pppNtpReceive at hreceived
  rw [if_neg (not_not_intro hwaiting)] at hreceived
  dsimp only at hreceived
  split_ifs at hreceived with hports hlength hsource hversion hmode hdeath hstratum hleap
  all_goals try exact absurd hreceived (hfail _ _)
  unfold Ntp.receiveTimestamps at hreceived
  dsimp only at hreceived
  split_ifs at hreceived with hcookie htime
  all_goals try exact absurd hreceived (hfail _ _)
  simp only [not_or, not_not] at hports hcookie
  refine ⟨hports, UInt16.not_lt.mp hlength, not_not.mp hsource, rfl, ?_, not_not.mp hmode, hleap,
    ⟨hdeath, UInt8.not_le.mp hstratum⟩, hcookie, UInt32.not_lt.mp htime⟩
  by_contra h
  rw [not_or] at h
  exact hversion h

/-- **The responses of the reference**, in the frame buffer. -/
lemma valid_iff (hlength : 48 ≤ d.payloadLength.toNat) (hx : x = (d.packetOffset + udpHeaderLength).toNat) :
    Rust.Ntp.Valid (payload d) (cookie n) ↔
      (d.frameBuffer x >>> 3 &&& 7 = 3 ∨ d.frameBuffer x >>> 3 &&& 7 = 4) ∧ d.frameBuffer x &&& 7 = 4 ∧
      d.frameBuffer x >>> 6 ≠ 3 ∧ (d.frameBuffer (x + 1) ≠ 0 ∧ d.frameBuffer (x + 1) < 16) ∧
      doubleWordAt d.frameBuffer (x + 24) = n.cookieSeconds ∧ doubleWordAt d.frameBuffer (x + 28) = n.cookieFraction := by
  have hfirst : (payload d).getD 0 0 = d.frameBuffer x := by
    rw [getD_payload (by omega), ← hx]
    rfl
  have hsecond : (payload d).getD 1 0 = d.frameBuffer (x + 1) := by
    rw [getD_payload (by omega), ← hx]
  have hall : (payload d).length = d.payloadLength.toNat := length_read _ _ _
  have hversion (version : UInt8) : ((3 : UInt8) ≤ version ∧ version ≤ 4) ↔ version = 3 ∨ version = 4 := by
    rw [UInt8.le_iff_toNat_le, UInt8.le_iff_toNat_le, ← UInt8.toNat_inj, ← UInt8.toNat_inj]
    show 3 ≤ version.toNat ∧ version.toNat ≤ 4 ↔ version.toNat = 3 ∨ version.toNat = 4
    omega
  have hstratum (stratum : UInt8) : stratum ≤ 15 ↔ stratum < 16 := by
    rw [UInt8.le_iff_toNat_le, UInt8.lt_iff_toNat_lt]
    show stratum.toNat ≤ 15 ↔ stratum.toNat < 16
    omega
  have hcookie : Rust.Ntp.readTimestamp (payload d) 24 = cookie n ↔
      doubleWordAt d.frameBuffer (x + 24) = n.cookieSeconds ∧ doubleWordAt d.frameBuffer (x + 28) = n.cookieFraction := by
    rw [readTimestamp_payload (by omega), ← hx]
    unfold cookie
    rw [Timestamp.mk.injEq]
  constructor
  · rintro ⟨-, h₁, h₂, h₃, h₄, h₅⟩
    rw [hfirst, hversion] at h₁
    rw [hfirst] at h₂ h₄
    rw [hsecond, hstratum] at h₃
    exact ⟨h₁, h₂, h₄, h₃, hcookie.mp h₅⟩
  · rintro ⟨h₁, h₂, h₄, h₃, h₅⟩
    refine ⟨by rw [hall]; exact hlength, ?_, ?_, ?_, ?_, hcookie.mpr h₅⟩
    · rwa [hfirst, hversion]
    · rwa [hfirst]
    · rwa [hsecond, hstratum]
    · rwa [hfirst]

lemma sameResponse (hwaiting : n.state = .waiting)
    (hanswered : Cookie.Answered ⟨n.cookieSeconds, n.cookieFraction⟩ p d x) :
    SameResponse (pppNtpReceive p d n) (Rust.Ntp.responseOf (payload d)) := by
  have hlength : 48 ≤ d.payloadLength.toNat := UInt16.le_iff_toNat_le.mp hanswered.length
  have hx := hanswered.payload
  have hoctet {i : ℕ} (hi : i < 48) : (payload d).getD i 0 = d.frameBuffer (x + i) := by
    rw [getD_payload (by omega), ← hx]
  have htimestamp {i : ℕ} (hi : i + 7 < 48) : Rust.Ntp.readTimestamp (payload d) i =
      ⟨doubleWordAt d.frameBuffer (x + i), doubleWordAt d.frameBuffer (x + (i + 4))⟩ := by
    rw [readTimestamp_payload (by omega), ← hx]
  rw [ntpReceive_eq hwaiting hanswered]
  unfold Rust.Ntp.responseOf
  refine ⟨?_, ?_, ?_, ?_, ?_, ?_, ?_, ?_, ?_, ?_⟩
  · dsimp only
    rw [hoctet (by decide), Nat.add_zero]
  · dsimp only
    rw [hoctet (by decide), Nat.add_zero]
  · exact (hoctet (by decide)).symm
  · exact congrArg UInt8.toInt8 (hoctet (by decide)).symm
  · exact congrArg UInt8.toInt8 (hoctet (by decide)).symm
  · dsimp only
    unfold Rust.Ntp.readArray
    rw [hoctet (by decide), hoctet (by decide), hoctet (by decide), hoctet (by decide)]
    rfl
  · dsimp only
    obtain ⟨hseconds, hfraction⟩ := hanswered.originate
    dsimp only at hseconds hfraction
    rw [htimestamp (by decide)]
    unfold cookie
    dsimp only
    rw [hseconds, hfraction]
  · exact (htimestamp (by decide)).symm
  · exact (htimestamp (by decide)).symm
  · dsimp only
    rw [htimestamp (by decide)]
    exact (if_pos hanswered.time).symm

/-- **The responses that the client takes** while it waits are those from the peer, with the ports of the request, that
the reference accepts for the cookie, with a Unix time; and it keeps the same fields and the same time. -/
theorem responses_agree (p : Ipcp) (n : Ntp) (d : UdpDatagram) (hwaiting : n.state = .waiting) :
    ((pppNtpReceive p d n).state = .received ↔
      d.source = p.peerAddress ∧ d.sourcePort = ntpServerPort ∧ d.destinationPort = ntpClientPort ∧
      ∃ response, ServerResponse.parse (payload d) (cookie n) = .ok response ∧
        response.transmitTimestamp.unixSeconds.isSome = true) ∧
    (∀ response, (pppNtpReceive p d n).state = .received →
      ServerResponse.parse (payload d) (cookie n) = .ok response → SameResponse (pppNtpReceive p d n) response) ∧
    ∀ buffer x, n.receiveTimestamps buffer x = receiveWords n buffer x := by
  refine ⟨⟨fun hreceived => ?_, ?_⟩, fun response hreceived hparse => ?_, fun buffer x => (receiveWords_eq n buffer x).symm⟩
  · have hanswered := answered_of_received hwaiting hreceived
    have hlength : 48 ≤ d.payloadLength.toNat := UInt16.le_iff_toNat_le.mp hanswered.length
    have hvalid := (valid_iff (n := n) hlength rfl).mpr ⟨hanswered.version, hanswered.mode, hanswered.leapIndicator,
      hanswered.stratum, hanswered.originate⟩
    refine ⟨hanswered.source, hanswered.ports.1, hanswered.ports.2, _, Rust.Ntp.parse_eq_ok_iff.mpr ⟨hvalid, rfl⟩, ?_⟩
    rw [Rust.Ntp.unixSeconds_isSome]
    show _ ≤ (Rust.Ntp.readTimestamp (payload d) 40).seconds
    rw [readTimestamp_payload (by omega)]
    exact hanswered.time
  · rintro ⟨hsource, hsourcePort, hdestinationPort, response, hparse, htime⟩
    obtain ⟨hvalid, rfl⟩ := Rust.Ntp.parse_eq_ok_iff.mp hparse
    have hall : (payload d).length = d.payloadLength.toNat := length_read _ _ _
    have hlength : 48 ≤ d.payloadLength.toNat := by
      rw [← hall]
      exact hvalid.length
    obtain ⟨hversion, hmode, hleap, hstratum, horiginate⟩ := (valid_iff hlength rfl).mp hvalid
    rw [Rust.Ntp.unixSeconds_isSome] at htime
    change _ ≤ (Rust.Ntp.readTimestamp (payload d) 40).seconds at htime
    rw [readTimestamp_payload (by omega)] at htime
    have hanswered : Cookie.Answered ⟨n.cookieSeconds, n.cookieFraction⟩ p d (d.packetOffset + udpHeaderLength).toNat :=
      ⟨⟨hsourcePort, hdestinationPort⟩, UInt16.le_iff_toNat_le.mpr hlength, hsource, rfl, hversion, hmode, hleap,
        hstratum, horiginate, htime⟩
    rw [ntpReceive_eq hwaiting hanswered]
  · obtain ⟨-, rfl⟩ := Rust.Ntp.parse_eq_ok_iff.mp hparse
    exact sameResponse hwaiting (answered_of_received hwaiting hreceived)

def waitingClient : Ntp :=
  { pppNtpInitialize with state := .waiting, cookieSeconds := ntpCookieSeconds, cookieFraction := 1 }

/-- The answer of the peer, whose address is zero, five seconds behind the Unix epoch. -/
def earlyResponse : UdpDatagram where
  source := (default : Ipcp).peerAddress
  sourcePort := ntpServerPort
  destinationPort := ntpClientPort
  payloadLength := 48
  packetOffset := 24
  frameBuffer := write default 32 ([0x24, 2, 6, 0xec] ++ List.replicate 20 0 ++ doubleWordOctets ntpCookieSeconds ++
    doubleWordOctets 1 ++ List.replicate 8 0 ++ doubleWordOctets (ntpUnixEpochOffsetSeconds + 5) ++ doubleWordOctets 7)

theorem responses_agree_early : ∃ response,
    ServerResponse.parse (payload earlyResponse) (cookie waitingClient) = .ok response ∧
    SameResponse (pppNtpReceive default earlyResponse waitingClient) response := by
  obtain ⟨haccepts, hsame, -⟩ := responses_agree default waitingClient earlyResponse rfl
  have hreceived : (pppNtpReceive default earlyResponse waitingClient).state = .received := by decide +kernel
  obtain ⟨-, -, -, response, hparse, -⟩ := haccepts.mp hreceived
  exact ⟨response, hparse, hsame response hreceived hparse⟩

end Response

end SnesModem.Asm.NtpRefinement
