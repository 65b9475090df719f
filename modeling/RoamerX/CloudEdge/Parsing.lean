import RoamerX.Center.ParseMessage
import RoamerX.Edge.CommandForms

set_option autoImplicit false

/-! # Both parsers on the same message

Each end decodes what reaches it with its own module. A message is read in form when either parser
refuses it with a `ProtocolError` or returns an envelope that keeps the constraints it documents. -/

namespace RoamerX

open Excepts

/-- `decode_message` and `parse_message` return an envelope in form or raise a `ProtocolError`. -/
def ParsedInForm (texts : Texts) (upper : String → String) (loads : String → LoadedText)
    (raw : RawMessage) : Prop :=
  EndsIn Raised.IsProtocolError (EdgeProtocol.EnvelopeForm texts) (EdgeProtocol.decode texts loads raw) ∧
  EndsIn Raised.IsProtocolError (CenterProtocol.EnvelopeForm texts upper)
    (CenterProtocol.parseMessage texts upper loads raw)

/-- Every message is read in form but for the bytes, the texts and the members that nothing guards. -/
theorem parsedInForm_iff (texts : Texts) (upper : String → String) (loads : String → LoadedText)
    (raw : RawMessage) :
    ParsedInForm texts upper loads raw ↔
      raw.Reads loads (EdgeProtocol.Decodable texts) ∧
      raw.Reads loads (CenterProtocol.Parsable texts) := by
  unfold ParsedInForm
  rw [EdgeProtocol.endsIn_decode, CenterProtocol.endsIn_parseMessage]

/-- One byte that is no UTF-8 is enough. -/
theorem not_parsedInForm_notUtf8 :
    ¬ ParsedInForm default id (fun _ => .invalid) (.bytes ⟨#[0xff]⟩) := by
  intro h
  have hraised : EdgeProtocol.decode default (fun _ => .invalid) (.bytes ⟨#[0xff]⟩) =
      .error (.other "UnicodeDecodeError") := rfl
  have hends := h.1
  rw [hraised] at hends
  exact hends

end RoamerX
