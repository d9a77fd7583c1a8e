import Mathlib.Data.List.Basic
import Mathlib.Tactic

/-!
# Streams of messages that may be cut off

A sender writes its messages one behind the other; it may give one up, and goes on with the next.

* `Streams`: each message is in the stream as a whole, or as its first part if it has been cut off;
* `Sending`: a sender with the rest of a message, and its rules: `begin`, `advance`, `finish` and `abort`;
* `Resynchronizes`: a receiver that finds the beginning of a message whatever came before it, and owes one report at most
  for what it has read of others;
* `Streams.received`: it reports each whole message, in order, and little else.
-/

namespace SnesModem.Lib.CutStreams

variable {α : Type*}

/-- A stream of messages, of which so many have been cut off. -/
inductive Streams : ℕ → List (List α) → List α → Prop
  | nil : Streams 0 [] []
  | whole {n : ℕ} {messages : List (List α)} {stream : List α} (message : List α) (h : Streams n messages stream) :
    Streams n (messages ++ [message]) (stream ++ message)
  | cut {n : ℕ} {messages : List (List α)} {stream message part : List α} (hcut : part <+: message)
    (h : Streams n messages stream) : Streams (n + 1) (messages ++ [message]) (stream ++ part)

/-- A sender: `rest` is left of its last message, if it is busy. -/
inductive Sending (n : ℕ) (messages : List (List α)) (stream rest : List α) : Bool → Prop
  | idle (hrest : rest = []) (h : Streams n messages stream) : Sending n messages stream rest false
  | busy {before : List (List α)} {sent part message : List α} (hmessages : messages = before ++ [message])
    (hstream : stream = sent ++ part) (hwhole : part ++ rest = message) (h : Streams n before sent) :
    Sending n messages stream rest true

lemma Sending.start : Sending 0 [] [] ([] : List α) false := .idle rfl .nil

section

variable {n : ℕ} {messages : List (List α)} {stream rest : List α}

/-- An idle sender takes a message. -/
lemma Sending.begin (message : List α) (h : Sending n messages stream rest false) :
    Sending n (messages ++ [message]) stream message true := by
  cases h with
  | idle hrest h => exact .busy rfl (List.append_nil _).symm rfl h

/-- A busy sender writes some of what is left. -/
lemma Sending.advance {written rest' : List α} (hrest : rest = written ++ rest')
    (h : Sending n messages stream rest true) : Sending n messages (stream ++ written) rest' true := by
  cases h with
  | busy hmessages hstream hwhole h =>
    refine .busy hmessages (by rw [hstream, List.append_assoc]) ?_ h
    rw [List.append_assoc, ← hrest, hwhole]

/-- A sender that has nothing left is done. -/
lemma Sending.finish (h : Sending n messages stream [] true) : Sending n messages stream [] false := by
  cases h with
  | busy hmessages hstream hwhole h =>
    rw [List.append_nil] at hwhole
    subst hmessages hstream hwhole
    exact .idle rfl (.whole _ h)

/-- A busy sender gives up. -/
lemma Sending.abort (h : Sending n messages stream rest true) : Sending (n + 1) messages stream [] false := by
  cases h with
  | busy hmessages hstream hwhole h =>
    subst hmessages hstream
    exact .idle rfl (.cut ⟨rest, hwhole⟩ h)

/-- What has been written is a stream; the message that is under way counts as one that has been cut off. -/
theorem Sending.streams {busy : Bool} (h : Sending n messages stream rest busy) :
    Streams (n + busy.toNat) messages stream := by
  cases h with
  | idle hrest h => exact h
  | busy hmessages hstream hwhole h =>
    subst hmessages hstream
    exact .cut ⟨rest, hwhole⟩ h

end

/-! ### Receivers -/

section Receivers

variable {μ δ ε : Type*} {encode : μ → List α} {feed : δ → List α → δ × List ε} {owed : δ → ℕ} {admits : μ → Prop}
  {report : μ → ε} {messages : List μ} {octets : List (List α)} {stream : List α} {n : ℕ}

/-- A receiver, with the number of reports that it owes at the beginning of a message.  A whole message is reported behind
what was owed, and nothing is owed then; for a message that is cut off one report more is owed or made. -/
structure Resynchronizes (encode : μ → List α) (feed : δ → List α → δ × List ε) (owed : δ → ℕ) (admits : μ → Prop)
    (report : μ → ε) : Prop where
  append (d : δ) (front back : List α) :
    feed d (front ++ back) = ((feed (feed d front).1 back).1, (feed d front).2 ++ (feed (feed d front).1 back).2)
  empty (d : δ) : feed d [] = (d, [])
  whole (d : δ) {message : μ} (h : admits message) : owed (feed d (encode message)).1 = 0 ∧
    ∃ before, (feed d (encode message)).2 = before ++ [report message] ∧ before.length ≤ owed d
  cut (d : δ) {message : μ} {part : List α} (h : admits message) (hcut : part <+: encode message) :
    (feed d part).2.length + owed (feed d part).1 ≤ owed d + 1

/-- The last of the messages that have been encoded. -/
lemma exists_of_map_eq_append {before : List (List α)} {last : List α} (h : messages.map encode = before ++ [last]) :
    ∃ messages' message, messages = messages' ++ [message] ∧ messages'.map encode = before ∧ encode message = last := by
  obtain ⟨messages', rest, rfl, hbefore, hrest⟩ := List.map_eq_append_iff.mp h
  obtain ⟨message, rfl, hlast⟩ := List.map_eq_singleton_iff.mp hrest
  exact ⟨messages', message, rfl, hbefore, hlast⟩

/-- **A receiver that resynchronizes** reports the messages that were not cut off, in order, and in all no more than one
report for each message. -/
theorem Streams.received (hsync : Resynchronizes encode feed owed admits report)
    (hadmits : ∀ message ∈ messages, admits message) (h : Streams n (messages.map encode) stream) (d : δ) :
    (∃ whole : List μ, whole.Sublist messages ∧ messages.length = whole.length + n ∧
      (whole.map report).Sublist (feed d stream).2) ∧
      (feed d stream).2.length + owed (feed d stream).1 ≤ messages.length + owed d := by
  generalize hoctets : messages.map encode = octets at h
  induction h generalizing messages with
  | nil =>
    obtain rfl := List.map_eq_nil_iff.mp hoctets
    rw [hsync.empty]
    exact ⟨⟨[], List.Sublist.refl _, rfl, List.Sublist.refl _⟩, by simp⟩
  | @whole n octets stream last h ih =>
    obtain ⟨messages, message, rfl, hbefore, rfl⟩ := exists_of_map_eq_append hoctets
    obtain ⟨⟨whole, hsub, hlength, hreported⟩, hcount⟩ :=
      ih (fun message hmem => hadmits message (List.mem_append_left _ hmem)) hbefore
    obtain ⟨hclean, before, hreports, hfew⟩ := hsync.whole (feed d stream).1 (hadmits message (by simp))
    rw [hsync.append, hreports]
    dsimp only
    refine ⟨⟨whole ++ [message], hsub.append (List.Sublist.refl _), ?_, ?_⟩, ?_⟩
    · rw [List.length_append, List.length_append, hlength, List.length_singleton]
      omega
    · rw [List.map_append, List.map_singleton]
      exact hreported.append (List.sublist_append_right _ _)
    · rw [hclean, List.length_append, List.length_append, List.length_append, List.length_singleton, List.length_singleton]
      omega
  | @cut n octets stream last part hcut h ih =>
    obtain ⟨messages, message, rfl, hbefore, rfl⟩ := exists_of_map_eq_append hoctets
    obtain ⟨⟨whole, hsub, hlength, hreported⟩, hcount⟩ :=
      ih (fun message hmem => hadmits message (List.mem_append_left _ hmem)) hbefore
    have hone := hsync.cut (feed d stream).1 (hadmits message (by simp)) hcut
    rw [hsync.append]
    dsimp only
    refine ⟨⟨whole, hsub.trans (List.sublist_append_left _ _), ?_, hreported.trans (List.sublist_append_left _ _)⟩, ?_⟩
    · rw [List.length_append, hlength, List.length_singleton]
      omega
    · rw [List.length_append, List.length_append, List.length_singleton]
      omega

end Receivers

end SnesModem.Lib.CutStreams
