import UsbCan.Adapters.TransportContract

/-
  The receive side of a transport over time.

  `Receives` relates a transport to the bytes that have been
  taken from the port and to the messages that have been
  delivered so far.  It is kept by a look into the buffer,
  and, when that has found nothing, by the wait for the
  port.  Both the exclusive client and the read task of
  split mode alternate between these two.

  Key definitions include:
    * `UsbCan.Transport.Receives`
    * `UsbCan.Transport.Exhausted`

  Key theorems include:
    * `UsbCan.Transport.Receives.tryReadFrame`
    * `UsbCan.Transport.Receives.awaitSerial`
    * `UsbCan.Transport.Receives.drain`
-/

open Checked Framing

------------------------------------------------------------
-- Receiving
------------------------------------------------------------

namespace UsbCan

namespace Transport

variable [EmbeddedCan]
variable {P : Type} [Protocol P] [ScanningProtocol P]

open ScanningProtocol

/-
  After `taken` bytes a transport has delivered `delivered`
  and its buffer holds what is still needed.  It never holds
  more than one unfinished frame and one serial read.
-/
structure Receives
    (protocol : P)
    (transport : Transport P)
    (taken : List UInt8)
    (delivered : List CanMessage) :
    Prop where
  protocol_eq : transport.protocol = protocol
  bounded :
    transport.rxLength < (grammar protocol).reach + tempSize
  tracks :
    (grammar protocol).Tracks deliver taken delivered
      transport.buffered

/- Less than one frame is buffered, and none is complete. -/
structure Exhausted
    (protocol : P)
    (transport : Transport P) :
    Prop where
  short : transport.rxLength < (grammar protocol).reach
  incomplete :
    (grammar protocol).scan transport.buffered = (0, none)

namespace Receives

variable {protocol : P} {transport : Transport P}
variable {taken : List UInt8} {delivered : List CanMessage}

/- A transport with an empty buffer has received nothing. -/
theorem start
    (hProtocol : transport.protocol = protocol)
    (hEmpty : transport.rxLength = 0) :
    Receives protocol transport [] [] where
  protocol_eq := hProtocol
  bounded := by
    have hPos := (grammar protocol).window_pos
    have hReach := (grammar protocol).window_le_reach
    omega
  tracks := by
    have hNothing : transport.buffered = [] := by
      rw [buffered, hEmpty, List.take_zero]
    rw [hNothing]
    exact Grammar.Tracks.start

theorem sized
    (hReceives :
      Receives protocol transport taken delivered) :
    transport.Sized := by
  have hReach := reach_le protocol
  have hBound := hReceives.bounded
  unfold Sized rxSize
  unfold tempSize at hBound
  omega

/- A look into the buffer delivers the next message. -/
theorem tryReadFrame
    (hReceives :
      Receives protocol transport taken delivered) :
    ∃ message transport',
      transport.tryReadFrame =
          .ok (message, transport') ∧
        Receives protocol transport' taken
          (delivered ++ message.toList) ∧
        (message = none →
          Exhausted protocol transport') := by
  have hProtocol := hReceives.protocol_eq
  rcases tryReadFrame_next hReceives.sized with
    ⟨⟨message, transport'⟩, hRead, hNext, hSized, hLe,
      hSame⟩
  rw [rxGrammar, hProtocol] at hNext
  simp only at hNext hSized hLe hSame
  have hTracks := hReceives.tracks.next
  rw [hNext] at hTracks
  refine ⟨message, transport', hRead, ?_, ?_⟩
  · exact
      { protocol_eq := hSame.trans hProtocol
        bounded := by
          have hBound := hReceives.bounded
          omega
        tracks := hTracks }
  · rintro rfl
    have hLeft :=
      (grammar protocol).next_none_lt_reach deliver hNext
    rw [hSized.length_buffered] at hLeft
    exact ⟨hLeft.1, hLeft.2⟩

/-
  After a look that found nothing, a serial read fits into
  the buffer; a wait that fails has taken no byte.
-/
theorem awaitSerial
    (hReceives :
      Receives protocol transport taken delivered)
    (hExhausted : Exhausted protocol transport)
    (event : ReadEvent) :
    (∃ error,
        transport.awaitSerial event = .ok (.done error) ∧
          event.bytes = []) ∨
      ∃ transport',
        transport.awaitSerial event =
            .ok (.next transport') ∧
          Receives protocol transport'
            (taken ++ event.bytes) delivered := by
  cases event with
  | deadlinePassed => exact Or.inl ⟨_, rfl, rfl⟩
  | elapsed => exact Or.inl ⟨_, rfl, rfl⟩
  | failed => exact Or.inl ⟨_, rfl, rfl⟩
  | data chunk =>
      by_cases hEnd : chunk.bytes.length = 0
      · refine Or.inl ⟨_, if_pos hEnd, ?_⟩
        exact List.length_eq_zero_iff.mp hEnd
      · have hReach := reach_le protocol
        have hShort := hExhausted.short
        have hChunk := chunk.length_le
        have hFits :
            transport.rxLength + chunk.bytes.length ≤
              rxSize := by
          unfold rxSize
          unfold tempSize at hChunk
          omega
        rcases receive_append chunk hFits with
          ⟨transport', hReceive, hBuffered, hCount, hSame⟩
        refine Or.inr ⟨transport', ?_, ?_⟩
        · rw [Transport.awaitSerial, if_neg hEnd, hReceive]
          rfl
        · exact
            { protocol_eq :=
                hSame.trans hReceives.protocol_eq
              bounded := by omega
              tracks := by
                rw [hBuffered]
                exact hReceives.tracks.arrive chunk.bytes }

/- Delivered and still deliverable is all there is. -/
theorem drain
    (hReceives :
      Receives protocol transport taken delivered) :
    ∃ kept,
      UsbCan.drain protocol transport.buffered =
          .ok kept ∧
        UsbCan.drain protocol taken =
          .ok (delivered ++ kept) :=
  ⟨_, drain_eq protocol transport.buffered, by
    rw [drain_eq, hReceives.tracks.drain_eq]⟩

/- Nothing deliverable is left behind. -/
theorem drain_exhausted
    (hReceives :
      Receives protocol transport taken delivered)
    (hExhausted : Exhausted protocol transport) :
    UsbCan.drain protocol taken = .ok delivered := by
  rw [drain_eq,
    hReceives.tracks.delivered_eq hExhausted.incomplete]

end Receives

end Transport

end UsbCan
