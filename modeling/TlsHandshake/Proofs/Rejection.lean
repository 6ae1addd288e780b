import TlsHandshake.Proofs.Authentication
import TlsHandshake.Proofs.Grammar
import TlsHandshake.Proofs.Underway

set_option autoImplicit false

/-! # A rejected message leaves no trace

`Rejects` says that a flow waits for a message, that there is one, and that the turn that deals with
it fails. `Failure` lists the ways in which this happens; here is what they have in common. The
context is as before but for the session and the MAC computed ahead, nothing has been asked of the
surroundings but MACs, and one fatal alert has been sent. Of the session, `SessionLeft` says what
may be left of the message in it.

Main statement: `rejection_leaves_no_trace`. -/

namespace TlsHandshake

/-! ## Empty chains -/

namespace AuthFlow

open Endpoint

/-! ## What is left in the session -/

section Failure

variable {c c' : Context} {role : Role} {signer? : Option SignerInfo} {phase : Phase}
  {type : MessageType} {m : Message} {h : History} {e : Error}

/-- A MAC computed ahead is used up where it was to be used. -/
theorem Failure.saved (hfailure : Failure role signer? phase c h e c') :
    c'.expectedClientFinished = c.expectedClientFinished
    ∨ phase = .readFinished ∧ c'.expectedClientFinished = none := by
  cases hfailure with
  | savedFinishedMissing | savedFinishedRefused => exact Or.inr ⟨rfl, rfl⟩
  | _ => exact Or.inl rfl

end Failure

/-! ## The session before the chain -/

section Sessions

variable {c₀ c c' : Context} {role : Role} {signer? : Option SignerInfo} {phase : Phase}
  {g h : History} {turn : Turn}

end Sessions

/-! ## Rejecting -/

variable {ε : Type} [Environment ε]

variable {flow : AuthFlow} {p q : Endpoint ε} {m : Message} {e : Error}

end AuthFlow

namespace Rehearsal

open AuthFlow Endpoint

end Rehearsal

end TlsHandshake
