import AgentLink.Proofs.Framing
import AgentLink.Proofs.MarkerGrammar

/-!
# What the marker scan finds

The scan reads many spellings of a marker, with any blanks around the count and any zeros in front
of it. Whatever it finds, there is a header byte in front of the separating byte, which lies within
the buffer, and the count is a word (`fits_of_scan`). The one spelling that is ever sent is found
again in front of every header that has a byte (`scan_marker`), so that what was found can be sent:
the encoder accepts every message that is framed (`Framed.encode`).
-/
namespace AgentLink

namespace Marker

/-- Whatever marker is found stands within the buffer, behind a header byte. -/
theorem fits_of_scan {buffer : Bytes} {marker : Marker} (found : scan buffer = .found marker) :
    marker.Fits buffer :=
  (scan_found_iff.mp found).fits

/-- The marker that is sent is found, behind every header that has a byte. -/
theorem scan_marker {header attachment : Bytes} (headed : header ≠ [])
    (counted : attachment.length < countLimit) :
    scan (header ++ Message.marker attachment ++ [Byte.nul]) =
      .found ⟨header.length, attachment.length⟩ := by
  have blank : ∀ byte ∈ [Byte.space], Byte.isBlank byte = true := by
    simp [Byte.isBlank, Byte.space]
  have spells : Spells header (Decimal.digits attachment.length) (header ++ Byte.space :: keyword ++
      [Byte.space] ++ Decimal.digits attachment.length ++ []) :=
    .intro headed (List.cons_ne_nil _ _) blank (Decimal.digits_ne_nil _)
      (fun _ => Decimal.isDigit_of_mem_digits) (by simp)
  have text : header ++ Message.marker attachment = header ++ Byte.space :: keyword ++
      [Byte.space] ++ Decimal.digits attachment.length ++ [] := by
    simp [Message.marker]
  rw [text, scan_spells spells (.inr rfl), Scan.ofCount_eq_found, Decimal.value_digits]
  exact ⟨counted, rfl⟩

end Marker

namespace Message

/-- What is framed can be sent. -/
theorem Framed.encode {message : Message} (framed : message.Framed) :
    message.encode = .ok message.wire := by
  have unterminated : message.header.any Header.isTerminator = false := by
    simpa using framed.plain
  have scan := framed.scan
  obtain ⟨header, attachment⟩ := message
  cases attachment with
  | none => simp [Message.encode, unterminated, scan, announcement]
  | some attachment => simp [Message.encode, unterminated, scan, announcement]

/-- With an attachment, every header is framed that has a byte and holds nothing that ends it,
also one that ends in a marker. -/
theorem framed_attached {header attachment : Bytes}
    (plain : ∀ byte ∈ header, Header.isTerminator byte = false) (headed : header ≠ [])
    (counted : attachment.length < Marker.countLimit) :
    (Message.mk header (some attachment)).Framed :=
  ⟨plain, Marker.scan_marker headed counted⟩

end Message

end AgentLink
