import Mathlib.Data.List.Basic
import TlsHandshake.Proofs.Alerts
import TlsHandshake.Proofs.Link.Streams

set_option autoImplicit false

/-! # What a station can rely on

A record layer in memory only fails at a message of unknown type, a ticket store only at a ticket
that is too short, and derived keys never. A signer may fail, unless it is `Reliable`: then however
often it is asked and puts off its answer, it gives a signature that is not too long in the end, or
goes on putting it off. -/

namespace TlsHandshake

/-! ## Signers -/

/-- An answer that is not a failure, with a signature of at most `maxLength` bytes. -/
def SignResult.Fits (maxLength : Nat) : SignResult → Prop
  | .success signature => signature.length ≤ maxLength
  | .retry => True
  | .failure => False

section Signers

variable {σ : Type} [SigningDevice σ] {pending pending' : Bool} {s s' : σ} {result : SignResult}

/-- A signer is asked and answers: if it has put off its answer, for the outcome, and else for a
    signature under one of its schemes. -/
inductive Asked : Bool → σ → SignResult → σ → Prop
  | sign {s s' : σ} {result : SignResult} {scheme : SignatureScheme} {input : Bytes}
      (hscheme : scheme ∈ (SigningDevice.info s).schemes)
      (hsign : SigningDevice.sign scheme input (SigningDevice.info s).maxLength s = (result, s')) :
      Asked false s result s'
  | complete {s s' : σ} {result : SignResult}
      (hcomplete : SigningDevice.complete (SigningDevice.info s).maxLength s = (result, s')) :
      Asked true s result s'

/-- The states that a signer gets to as it is asked, and whether it has put off its answer then. -/
inductive Reaches : Bool → σ → Bool → σ → Prop
  | here {pending : Bool} {s : σ} : Reaches pending s pending s
  | asked {pending pending' : Bool} {s s' s'' : σ} {result : SignResult}
      (hasked : Asked pending s result s') (hrest : Reaches (result = .retry) s' pending' s'') :
      Reaches pending s pending' s''

/-- However a signer is asked from now on, it does not fail, keeps to the length that it says, and
    that length fits into a CertificateVerify message. -/
structure Reliable (pending : Bool) (s : σ) : Prop where
  fits {pending' : Bool} {s' s'' : σ} {result : SignResult} :
    Reaches pending s pending' s' → Asked pending' s' result s'' →
      result.Fits (SigningDevice.info s').maxLength
  bound {pending' : Bool} {s' : σ} :
    Reaches pending s pending' s' → (SigningDevice.info s').maxLength ≤ 65535

/-- What is reliable stays so. -/
theorem Reliable.asked (hreliable : Reliable pending s) (hasked : Asked pending s result s') :
    Reliable (result = .retry) s' where
  fits hreaches := hreliable.fits (.asked hasked hreaches)
  bound hreaches := hreliable.bound (.asked hasked hreaches)

/-- What a signer keeps to as it is asked makes it reliable. -/
theorem reliable_of_kept (Kept : Bool → σ → Prop) (hkept : Kept pending s)
    (hstep : ∀ {pending : Bool} {s s' : σ} {result : SignResult}, Kept pending s →
      Asked pending s result s' → Kept (result = .retry) s')
    (hfits : ∀ {pending : Bool} {s s' : σ} {result : SignResult}, Kept pending s →
      Asked pending s result s' → result.Fits (SigningDevice.info s).maxLength)
    (hbound : ∀ {pending : Bool} {s : σ}, Kept pending s →
      (SigningDevice.info s).maxLength ≤ 65535) : Reliable pending s := by
  have hreach : ∀ {pending' : Bool} {s' : σ}, Reaches pending s pending' s' → Kept pending' s' := by
    intro pending' s' hreaches
    induction hreaches with
    | here => exact hkept
    | asked hasked _ ih => exact ih (hstep hkept hasked)
  exact ⟨fun hreaches hasked => hfits (hreach hreaches) hasked,
    fun hreaches => hbound (hreach hreaches)⟩

end Signers

/-! ### Signers in memory -/

namespace Signer

/-- A signer that is as `s` but for what is under way; that is something if it has put off its
    answer. -/
structure WorksAs (s : Signer) (pending : Bool) (t : Signer) : Prop where
  same : t = { s with underWay := t.underWay }
  underWay : pending = true →
    ∃ scheme input left, t.underWay = some (scheme, input, left) ∧ scheme ∈ s.schemes

theorem answer_ne_retry (s : Signer) (scheme : SignatureScheme) (input : Bytes) (maxLength : Nat) :
    s.answer scheme input maxLength ≠ .retry := by
  unfold answer
  split
  · nofun
  · unfold SigningKey.sign
    split
    · split <;> nofun
    · nofun

section WorksAs

variable {s t t' : Signer} {pending : Bool} {result : SignResult} {underWay : Option _}

/-- An answer that is given ends the work. -/
theorem worksAs_of_answer {scheme : SignatureScheme} {input : Bytes} {maxLength : Nat} :
    WorksAs s (s.answer scheme input maxLength = .retry) { s with underWay := underWay } where
  same := rfl
  underWay hretry := absurd (of_decide_eq_true hretry) (answer_ne_retry s scheme input maxLength)

/-- A signer that is not set to fail puts off its answer or gives that of its key. -/
theorem WorksAs.asked (hworks : WorksAs s pending t) (hfails : s.alwaysFails = false)
    (hasked : Asked pending t result t') :
    WorksAs s (result = .retry) t'
    ∧ (result = .retry
      ∨ ∃ scheme ∈ s.schemes, ∃ input, result = s.answer scheme input s.maxLength) := by
  obtain ⟨hsame, hwork⟩ := hworks
  generalize t.underWay = work at hsame hwork
  subst hsame
  cases hasked with
  | @sign _ _ _ scheme input hscheme hsign =>
      change Signer.sign scheme input s.maxLength { s with underWay := work } = _ at hsign
      unfold Signer.sign at hsign
      rw [if_neg (by simp [hfails])] at hsign
      split at hsign
      · obtain ⟨rfl, rfl⟩ := Prod.mk.inj hsign
        exact ⟨worksAs_of_answer, Or.inr ⟨scheme, hscheme, input, rfl⟩⟩
      · obtain ⟨rfl, rfl⟩ := Prod.mk.inj hsign
        exact ⟨⟨rfl, fun _ => ⟨_, _, _, rfl, hscheme⟩⟩, Or.inl rfl⟩
  | complete hcomplete =>
      obtain ⟨scheme, input, left, rfl, hscheme⟩ := hwork rfl
      change Signer.complete s.maxLength { s with underWay := some (scheme, input, left) } = _
        at hcomplete
      unfold Signer.complete at hcomplete
      dsimp only at hcomplete
      split at hcomplete
      · obtain ⟨rfl, rfl⟩ := Prod.mk.inj hcomplete
        exact ⟨worksAs_of_answer, Or.inr ⟨scheme, hscheme, input, rfl⟩⟩
      · obtain ⟨rfl, rfl⟩ := Prod.mk.inj hcomplete
        exact ⟨⟨rfl, fun _ => ⟨_, _, _, rfl, hscheme⟩⟩, Or.inl rfl⟩

/-- It says the same of itself. -/
theorem WorksAs.info_eq (hworks : WorksAs s pending t) :
    SigningDevice.info t = SigningDevice.info s := by
  rw [hworks.same]
  rfl

end WorksAs

/-- A signer that is not set to fail is reliable if its answers fit. -/
theorem reliable {s : Signer} (hfails : s.alwaysFails = false) (hbound : s.maxLength ≤ 65535)
    (hfits : ∀ scheme ∈ s.schemes, ∀ input,
      (s.answer scheme input s.maxLength).Fits s.maxLength) : Reliable false s := by
  refine reliable_of_kept (WorksAs s) ⟨rfl, nofun⟩
    (fun hworks hasked => (hworks.asked hfails hasked).1) (fun hworks hasked => ?_) fun hworks => ?_
  · rw [hworks.info_eq]
    rcases (hworks.asked hfails hasked).2 with rfl | ⟨scheme, hscheme, input, rfl⟩
    · trivial
    · exact hfits scheme hscheme input
  · rw [hworks.info_eq]
    exact hbound

/-- A signer around an Ed25519 key is reliable, however often it puts off its answers. -/
theorem reliable_ed25519 {seed : Bytes} (hseed : seed.length = 32) (delays : Nat) :
    Reliable false ({ key := .ed25519 seed, delays := delays } : Signer) := by
  refine reliable rfl (show 64 ≤ 65535 by decide) fun scheme hscheme input => ?_
  obtain rfl := List.mem_singleton.1 hscheme
  have hlength : (Ed25519.sign seed input).length ≤ 64 :=
    Nat.le_of_eq (Ed25519.length_sign seed input)
  have hsigned : SigningKey.sign (.ed25519 seed) .ed25519 input 64
      = .success (Ed25519.sign seed input) := by
    simp only [SigningKey.sign, SigningKey.signMessage, SigningKey.schemes, hseed, if_true,
      List.contains_cons, beq_self_eq_true, Bool.true_or, Bool.not_true]
    exact if_pos hlength
  change (SigningKey.sign (.ed25519 seed) .ed25519 input 64).Fits 64
  rw [hsigned]
  exact hlength

end Signer

/-! ## Reading -/

/-- The only fault of a stream is a message of unknown type at its front. -/
theorem Message.take?_error {q q' : ByteQueue} {e : Error} (h : Message.take? q = .error e q') :
    ∃ code, e = .unexpectedMessage (.unknownType code) := by
  unfold Message.take? at h
  dsimp only at h
  split at h
  · rename_i err hheader
    obtain ⟨rfl, rfl⟩ := EStateM.Result.error.inj h
    unfold readHeader? at hheader
    split at hheader
    · split at hheader
      · exact ⟨_, (Except.error.inj hheader).symm⟩
      · cases hheader
    · cases hheader
  · cases h
  · split at h <;> cases h

namespace Event

/-- The only way in which a record layer in memory fails. -/
theorem OnSocket.fault {event : Event} {s s' : Socket} {e : Error} (h : event.OnSocket s s')
    (hfault : event.fault? = some e) : ∃ code, e = .unexpectedMessage (.unknownType code) := by
  cases event with
  | flushed answer | readChangeCipherSpec answer =>
      obtain ⟨rfl, _⟩ := h
      cases hfault
  | read answer =>
      change answerOf Socket.readMessage s = (answer, s') at h
      unfold answerOf Socket.readMessage at h
      cases htake : Message.take? s.incoming.stream with
      | error err stream =>
          rw [htake] at h
          cases h
          obtain rfl := Option.some.inj hfault
          exact Message.take?_error htake
      | ok m stream =>
          cases m <;> rw [htake] at h <;> cases h <;> cases hfault
  | _ => cases hfault

end Event

/-! ## Runs of events -/

section Station

variable {κ σ τ : Type} [KeySchedule κ] [SigningDevice σ] [TicketHandler τ] {e e' : Station κ σ τ}
  {h : History} {err : Error}

theorem fault_of_performs (hperforms : Performs e h e') (hfault : err ∈ h.faults) :
    ∃ code, err = .unexpectedMessage (.unknownType code) := by
  obtain ⟨event, hmem, hsome⟩ := List.mem_filterMap.1 hfault
  obtain ⟨_, _, heffect⟩ := hperforms.effect_of_mem hmem
  exact heffect.onSocket.fault hsome

/-- The alerts of a run are sent on the link, in order. -/
theorem sentAlerts_of_performs (hperforms : Performs e h e') :
    e'.socket.outgoing.alerts = e.socket.outgoing.alerts ++ h.alerts := by
  rw [History.alerts, List.filterMap_eq_flatMap_toList]
  refine hperforms.grows (fun e => e.socket.outgoing.alerts) ?_
  intro event _ e e' heffect
  cases halert : event.alert? with
  | some alert =>
      cases event <;> cases halert
      have hsent : e'.socket = e.socket.sendAlert alert := heffect.onSocket
      rw [hsent]
      rfl
  | none =>
      rw [Option.toList_none, List.append_nil]
      refine heffect.onSocket.leaves.alerts fun alert heq => ?_
      rw [heq] at halert
      cases halert

end Station

section Tickets

variable {κ σ : Type} [KeySchedule κ] [SigningDevice σ] {e e' : Station κ σ TicketStore}
  {h : History} {body : Bytes} {session : Session} {err : Error}

/-- A ticket store only refuses a ticket that is too short. -/
theorem stored_of_performs (hperforms : Performs e h e')
    (hmem : .storedTicket body session (.error err) ∈ h) : err = .decode .shortTicket := by
  obtain ⟨e₁, e₂, heffect⟩ := hperforms.effect_of_mem hmem
  obtain ⟨-, ⟨-, hanswer, -⟩ | ⟨store, after, -, hstore, -⟩⟩ := answerOf_storeTicket heffect
  · cases hanswer
  · have hstore : TicketStore.store body store = .error err after := answerOf_eq_error_iff.1 hstore
    unfold TicketStore.store at hstore
    split at hstore <;> cases hstore
    rfl

end Tickets

/-! ### Signing -/

section Signing

variable {κ σ τ : Type} [KeySchedule κ] [SigningDevice σ] [TicketHandler τ] {e e' : Station κ σ τ}
  {c : Context} {s : σ} {scheme : SignatureScheme} {answer : SignResult}

/-- The event of signing is that the signer is asked. -/
theorem Event.Effect.asked
    (heffect : Event.Effect e
      (c.signingEvent scheme (SigningDevice.info s).maxLength answer) e')
    (hsigner : e.signer = some s) (hscheme : scheme ∈ (SigningDevice.info s).schemes) :
    ∃ s', e'.signer = some s' ∧ Asked c.signaturePending s answer s' := by
  rw [Context.signingEvent] at heffect
  cases hpending : c.signaturePending with
  | true =>
      rw [hpending, if_pos rfl] at heffect
      obtain ⟨_, hacts⟩ := of_onSigner heffect
      obtain ⟨hanswer, hafter⟩ := hacts s hsigner
      exact ⟨_, hafter, .complete (Prod.ext hanswer rfl)⟩
  | false =>
      rw [hpending, if_neg Bool.false_ne_true] at heffect
      obtain ⟨_, hacts⟩ := of_onSigner heffect
      obtain ⟨hanswer, hafter⟩ := hacts s hsigner
      exact ⟨_, hafter, .sign hscheme (Prod.ext hanswer rfl)⟩

end Signing

end TlsHandshake
