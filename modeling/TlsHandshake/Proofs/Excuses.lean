import TlsHandshake.Handshake.PostHandshake
import TlsHandshake.Message.Certificate
import TlsHandshake.Message.CertificateVerify

set_option autoImplicit false

/-! # Errors that are no fault of this end

Whatever bytes a peer sends, the readers refuse them with errors that are about those bytes. An
internal error, an error of the connection below and one of a key are never among them. Main
statement: `CertificateChain.decode_excused`, for the largest of the readers. -/

namespace TlsHandshake

/-- Whether an error is a fault of this end, of the connection below or of a key. -/
def Error.isOwnFault : Error → Bool
  | internal _ | io _ | crypto _ => true
  | _ => false

/-- If a result is an error, that is no fault of this end. -/
def Excused {α : Type} (result : Except Error α) : Prop :=
  ∀ e, result = .error e → e.isOwnFault = false

namespace Excused

variable {α β : Type} {e : Error}

theorem ok (a : α) : Excused (.ok a) := nofun

theorem error (he : e.isOwnFault = false) : Excused (.error e : Except Error α) := by
  intro e' heq
  obtain rfl := Except.error.inj heq
  exact he

theorem bind {result : Except Error α} {f : α → Except Error β} (hresult : Excused result)
    (hf : ∀ a, Excused (f a)) : Excused (result >>= f) := by
  cases result with
  | ok a => exact hf a
  | error e => exact .error (hresult e rfl)

theorem mapError {ε : Type} {result : Except ε α} {f : ε → Error}
    (hf : ∀ e, (f e).isOwnFault = false) : Excused (result.mapError f) := by
  cases result with
  | ok a => exact .ok a
  | error e => exact .error (hf e)

end Excused

/-! ## Extensions -/

namespace Extension

variable (policy : ExtensionPolicy)

theorem check_excused (seen : List ExtensionType) (type : ExtensionType) (length : Nat)
    (rest : Bytes) : Excused (check policy seen type length rest) := by
  unfold check
  split
  · exact .error rfl
  · split
    · exact .error rfl
    · split
      · exact .error rfl
      · exact .ok ()

theorem readAll_excused (seen : List ExtensionType) (block : Bytes) :
    Excused (readAll policy seen block) := by
  induction seen, block using readAll.induct with
  | case1 seen =>
      rw [readAll]
      exact .ok []
  | case2 seen t1 t0 l1 l0 rest type length ih =>
      rw [readAll]
      exact .bind (check_excused _ _ _ _ _) fun _ => .bind ih fun _ => .ok _
  | case3 seen block hnil hcons =>
      rw [readAll]
      · exact .error rfl
      · exact hnil
      · exact hcons

end Extension

/-! ## Chains -/

namespace Staples

variable (rules : CertificateRules)

theorem readStatus_excused (extensions : List Extension) :
    Excused (readStatus rules extensions) := by
  unfold readStatus
  split
  · exact .ok none
  · split
    · exact .error rfl
    · split
      · exact .error rfl
      · exact .ok _

theorem readSctList_excused (extensions : List Extension) :
    Excused (readSctList rules extensions) := by
  unfold readSctList
  split
  · exact .ok none
  · split
    · exact .error rfl
    · split
      · exact .error rfl
      · exact .ok _

theorem read_excused (block : Bytes) : Excused (read rules block) :=
  .bind (Extension.readAll_excused _ _ _) fun _ =>
    .bind (readStatus_excused _ _) fun _ => .bind (readSctList_excused _ _) fun _ => .ok _

end Staples

namespace CertificateChain

variable (rules : CertificateRules)

theorem readEntry_excused (list : Bytes) : Excused (readEntry list) := by
  unfold readEntry
  split
  · split
    · exact .error rfl
    · exact .ok _
  · exact .error rfl

theorem readLeafKey_excused (der : Bytes) : Excused (readLeafKey der) := by
  refine .bind (.mapError fun _ => rfl) fun leaf => .bind (.mapError fun _ => rfl) fun key => ?_
  split
  · exact .error rfl
  · exact .error rfl
  · exact .ok key

theorem readIssuers_excused (fuel : Nat) (before : List Bytes) (list : Bytes) :
    Excused (readIssuers rules fuel before list) := by
  induction fuel generalizing before list with
  | zero =>
      unfold readIssuers
      split
      · exact .ok _
      · exact .error rfl
      · contradiction
  | succ fuel ih =>
      cases list with
      | nil => exact .ok _
      | cons byte list =>
          rw [readIssuers]
          · split
            · exact .error (readEntry_excused _ _ ‹_›)
            · split
              · exact .error (Staples.read_excused _ _ _ ‹_›)
              · exact ih _ _
          · exact List.cons_ne_nil _ _

theorem readList_excused (list : Bytes) : Excused (readList rules list) := by
  unfold readList
  split
  · exact .ok _
  · refine .bind (readEntry_excused _) fun ⟨leaf, block, rest⟩ => ?_
    refine .bind (readLeafKey_excused leaf) fun _ => ?_
    refine .bind (Staples.read_excused rules block) fun _ => ?_
    exact .bind (readIssuers_excused rules _ _ rest) fun _ => .ok _

/-- Whatever bytes come as a chain, they are refused with an error about them. -/
theorem decode_excused (body : Bytes) : Excused (decode rules body) := by
  unfold decode
  split
  · exact .error rfl
  · split
    · exact .error rfl
    · split
      · exact .error rfl
      · exact readList_excused rules _
      · exact .error rfl

/-- Such an error is not reported as an internal one. -/
theorem alertFor_ne_internalError {e : Error} (he : e.isOwnFault = false) :
    alertFor e ≠ .internalError := by
  cases e with
  | internal fault => cases he
  | _ => nofun

end CertificateChain

namespace ChainHook

theorem checkChain_excused (index : Nat) (chain : List Bytes) :
    Excused (checkChain index chain) := by
  induction chain generalizing index with
  | nil => exact .ok ()
  | cons der rest ih =>
      refine .bind ?_ fun _ => ih (index + 1)
      unfold checkCertificate
      split
      · exact .error rfl
      · exact .ok ()
      · exact .error rfl

end ChainHook

/-! ## Other messages -/

theorem CertificateVerify.decode_excused (body : Bytes) : Excused (decode body) := by
  unfold decode
  split
  · exact .ok _
  · exact .error rfl

theorem KeyUpdateRequest.decode_excused (body : Bytes) : Excused (decode body) := by
  unfold decode
  split
  · exact .ok _
  · exact .ok _
  · exact .error rfl
  · exact .error rfl

end TlsHandshake
