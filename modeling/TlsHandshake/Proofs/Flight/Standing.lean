import TlsHandshake.Proofs.Flight.Progress
import TlsHandshake.Proofs.Framing

set_option autoImplicit false

/-! # Where a flight stands between calls

Between calls a flight has either failed for good, and then little more is known than which bytes
have gone into its transcript (`Outline`), or it can go on, and then its `Progress` is known. Main
statement: `Drives.standing`, every call of `drive` keeps to this. -/

namespace TlsHandshake

/-! ## The shape of a flight -/

/-- The messages of a flight, as far as it has been sent: nothing comes after Finished. -/
structure FlightShape (sent : List Bytes) : Prop where
  framed : ∀ m ∈ sent, ∃ type, IsMessage type m
  finished : ∀ init f rest, sent = init ++ f :: rest → IsMessage .finished f → rest = []

theorem FlightShape.of_unfinished {sent : List Bytes}
    (h : ∀ m ∈ sent, ∃ type, IsMessage type m ∧ type ≠ .finished) : FlightShape sent where
  framed m hm := let ⟨type, htype, _⟩ := h m hm; ⟨type, htype⟩
  finished init f rest hsent hfinished := by
    obtain ⟨type, htype, hne⟩ := h f (by rw [hsent]; simp)
    exact absurd (htype.type_eq hfinished) hne

theorem FlightShape.concat {sent : List Bytes} {f : Bytes}
    (h : ∀ m ∈ sent, ∃ type, IsMessage type m ∧ type ≠ .finished) (hf : IsMessage .finished f) :
    FlightShape (sent ++ [f]) where
  framed m hm := by
    rcases List.mem_append.1 hm with hm | hm
    · exact let ⟨type, htype, _⟩ := h m hm; ⟨type, htype⟩
    · rw [List.mem_singleton] at hm
      exact ⟨_, hm ▸ hf⟩
  finished init f' rest hsent hfinished := by
    rcases List.eq_nil_or_concat rest with rfl | ⟨rest, last, rfl⟩
    · rfl
    · have hmem : f' ∈ sent := by
        have hinit : sent = init ++ f' :: rest := by
          have hsplit : sent ++ [f] = (init ++ f' :: rest) ++ [last] := by
            rw [hsent]
            simp
          exact (List.append_inj' hsplit rfl).1
        rw [hinit]
        simp
      obtain ⟨type, htype, hne⟩ := h f' hmem
      exact absurd (htype.type_eq hfinished) hne

namespace AuthFlow

section Shape

variable {c₀ : Context} {Good : Bytes → CertificateVerify → Prop} {before : Bytes} {phase : Phase}
  {sent : List Bytes} {macs : List (Bytes × Bytes)}

/-- Before Finished, no message of the own flight is one. -/
theorem OwnFlight.unfinished (hflight : OwnFlight c₀ Good before .sendFinished sent macs) :
    ∀ m ∈ sent, ∃ type, IsMessage type m ∧ type ≠ .finished := by
  cases hflight with
  | waiting _ hphase => cases hphase
  | unasked _ _ =>
      intro m hm
      cases hm
  | bare _ hencode _ =>
      intro m hm
      rw [List.mem_singleton] at hm
      exact ⟨.certificate, hm ▸ isMessage_chain hencode, by decide⟩
  | signed _ hencode _ hverify _ =>
      intro m hm
      simp only [List.mem_cons, List.not_mem_nil, or_false] at hm
      rcases hm with rfl | rfl
      · exact ⟨.certificate, isMessage_chain hencode, by decide⟩
      · exact ⟨.certificateVerify, isMessage_verify hverify, by decide⟩
  | complete hdone _ _ => rcases hdone with h | ⟨_, h⟩ <;> cases h

theorem OwnFlight.shape (hflight : OwnFlight c₀ Good before phase sent macs) : FlightShape sent := by
  cases hflight with
  | complete _ hflight hencode => exact .concat hflight.unfinished (isMessage_finished hencode)
  | waiting _ _ => exact .of_unfinished fun m hm => by cases hm
  | unsent _ => exact .of_unfinished fun m hm => by cases hm
  | unasked _ _ => exact .of_unfinished fun m hm => by cases hm
  | certificate _ hencode _ =>
      refine .of_unfinished fun m hm => ?_
      rw [List.mem_singleton] at hm
      exact ⟨.certificate, hm ▸ isMessage_chain hencode, by decide⟩
  | bare hrequested hencode hchain =>
      have hbare : OwnFlight c₀ Good before .sendFinished _ [] := .bare hrequested hencode hchain
      exact .of_unfinished hbare.unfinished
  | signed hrequested hencode hchain hverify hgood =>
      exact .of_unfinished (OwnFlight.signed hrequested hencode hchain hverify hgood).unfinished

end Shape

/-! ## Failed flights -/

/-- What is known of a flight whether it has failed or not: which bytes its transcript has taken in,
    with `handled` the messages dealt with. -/
structure Outline (c₀ c : Context) (h : History) (handled : List Message) : Prop where
  read : ∃ pending, h.messagesRead = handled ++ pending
  transcript : c.transcript.bytes = c₀.afterBoth handled (h.messagesSent ++ h.messagesUnsent)
  shape : FlightShape h.messagesSent
  finished : c₀.role = .client → h.messagesSent ++ h.messagesUnsent ≠ [] →
    ∃ ms f, handled = ms ++ [f] ∧ f.type = .finished

section Outline

variable {c₀ c c' : Context} {Good : Bytes → CertificateVerify → Prop} {phase : Phase}
  {g h : History} {handled : List Message} {m : Bytes} {e : Error} {signer? : Option SignerInfo}

/-- A client that has begun to send has read Finished. -/
theorem Progress.finished_read (hprogress : Progress c₀ Good phase c h handled)
    (hrole : c₀.role = .client) (hphase : expected? phase = none) :
    ∃ ms f, handled = ms ++ [f] ∧ f.type = .finished := by
  have hpeer := hprogress.peer
  generalize c.expectedClientFinished = saved at hpeer
  generalize h.macsOf c₀.role.peer = macs at hpeer
  cases hpeer with
  | complete _ _ htype _ => exact ⟨_, _, rfl, htype⟩
  | waiting hserver _ _ =>
      rw [hrole] at hserver
      cases hserver
  | _ => cases hphase

theorem Progress.outline (hprogress : Progress c₀ Good phase c h handled) :
    Outline c₀ c h handled where
  read := ⟨_, hprogress.read⟩
  transcript := by rw [hprogress.unsent, List.append_nil, hprogress.transcript]
  shape := hprogress.own.shape
  finished hrole hsent := by
    refine hprogress.finished_read hrole ?_
    cases hphase : expected? phase with
    | none => rfl
    | some type =>
        rw [hprogress.unsent, List.append_nil] at hsent
        exact absurd (hprogress.own.of_client_reads hrole (by rw [hphase]; rfl)).1 hsent

/-- Nothing that goes into a transcript has happened. -/
theorem Outline.quiet (houtline : Outline c₀ c h handled)
    (htranscript : c'.transcript.bytes = c.transcript.bytes) (hread : g.messagesRead = [])
    (hsent : g.messagesSent = []) (hunsent : g.messagesUnsent = []) :
    Outline c₀ c' (h ++ g) handled where
  read := by
    rw [History.messagesRead_append, hread, List.append_nil]
    exact houtline.read
  transcript := by
    rw [History.messagesSent_append, History.messagesUnsent_append, hsent, hunsent,
      List.append_nil, List.append_nil, htranscript, houtline.transcript]
  shape := by
    rw [History.messagesSent_append, hsent, List.append_nil]
    exact houtline.shape
  finished := by
    rw [History.messagesSent_append, History.messagesUnsent_append, hsent, hunsent,
      List.append_nil, List.append_nil]
    exact houtline.finished

/-- A message of the own flight has gone into the transcript, whether it could be queued or not. -/
theorem Progress.outline_recorded (hprogress : Progress c₀ Good phase c h handled)
    (hphase : sends phase) (htranscript : c'.transcript.bytes = c.transcript.bytes ++ m)
    (hread : g.messagesRead = []) (hsent : g.messagesSent ++ g.messagesUnsent = [m])
    (hshape : FlightShape (h.messagesSent ++ g.messagesSent)) :
    Outline c₀ c' (h ++ g) handled where
  read := by
    rw [History.messagesRead_append, hread, List.append_nil]
    exact ⟨_, hprogress.read⟩
  transcript := by
    rw [History.messagesSent_append, History.messagesUnsent_append, hprogress.unsent,
      List.nil_append, List.append_assoc, hsent, htranscript, hprogress.transcript_own hphase,
      Context.afterBoth, Context.beforeOwn]
    cases hrole : c₀.role with
    | client => simp only [List.flatten_append, List.flatten_singleton, List.append_assoc]
    | server =>
        obtain ⟨rfl, _, _⟩ := hprogress.peer.of_server_sends hrole hphase
        simp only [List.flatten_append, List.flatten_singleton, List.append_assoc, rawBytes_nil,
          List.append_nil]
  shape := by
    rw [History.messagesSent_append]
    exact hshape
  finished hrole _ :=
    hprogress.finished_read hrole (by rcases hphase with rfl | rfl | rfl <;> rfl)

/-- A turn that fails leaves an outline. -/
theorem Progress.outline_of_failure (hprogress : Progress c₀ Good phase c h handled)
    (hfailure : Failure c₀.role signer? phase c g e c') : Outline c₀ c' (h ++ g) handled := by
  have hshape : FlightShape (h.messagesSent ++ []) := by
    rw [List.append_nil]
    exact hprogress.own.shape
  cases hfailure with
  | certificateUnqueued hencode =>
      exact hprogress.outline_recorded (Or.inl rfl) rfl rfl rfl hshape
  | finishedUnqueued hencode =>
      exact hprogress.outline_recorded (Or.inr (Or.inr rfl)) rfl rfl rfl hshape
  | savedFinishedUncomputable hrole hverify hencode =>
      have hown := hprogress.finishedSent .done hencode (Or.inl rfl)
      exact hprogress.outline_recorded (Or.inr (Or.inr rfl)) rfl rfl rfl hown.shape
  | signatureUnqueued hsigner hscheme hlength hencode =>
      refine hprogress.outline_recorded (Or.inr (Or.inl rfl)) rfl ?_ ?_ ?_
      · rw [History.messagesRead_cons, Context.signingEvent_message?]
        rfl
      · rw [History.messagesSent_cons, History.messagesUnsent_cons, Context.signingEvent_sent?,
          Context.signingEvent_unsent?]
        rfl
      · rw [History.messagesSent_cons, Context.signingEvent_sent?]
        exact hshape
  | signatureFailed | signatureTooLong | signatureUnencodable =>
      refine hprogress.outline.quiet rfl ?_ ?_ ?_
      · rw [History.messagesRead_cons, Context.signingEvent_message?]
        rfl
      · rw [History.messagesSent_cons, Context.signingEvent_sent?]
        rfl
      · rw [History.messagesUnsent_cons, Context.signingEvent_unsent?]
        rfl
  | _ => exact hprogress.outline.quiet rfl rfl rfl rfl

end Outline

/-! ## Between calls -/

/-- Whether a wait is for a message. -/
def awaitsMessage (wait : Wait) : Prop := wait = .readMessage ∨ wait = .flushAndReadMessage

/-- Where a flight stands between calls, since its context was `c₀`. -/
inductive Standing (c₀ : Context) (Good : Bytes → CertificateVerify → Prop) (phase : Phase)
    (c : Context) (h : History) : Prop
  | failed {handled : List Message} (hwait : c.wait = .error)
      (houtline : Outline c₀ c h handled)
  | live {handled : List Message} (hwait : c.wait ≠ .error) (hmessage : c.message = none)
      (hawaits : awaitsMessage c.wait → (expected? phase).isSome = true)
      (hprogress : Progress c₀ Good phase c h handled)

section Standing

variable {c₀ c c' : Context} {Good : Bytes → CertificateVerify → Prop} {phase phase' : Phase}
  {g h : History} {handled : List Message} {o : Option Outcome}

theorem Standing.outline (hstanding : Standing c₀ Good phase c h) :
    ∃ handled, Outline c₀ c h handled := by
  cases hstanding with
  | failed _ houtline => exact ⟨_, houtline⟩
  | live _ _ _ hprogress => exact ⟨_, hprogress.outline⟩

/-- A flight goes on from a context that differs only in its wait and its message. -/
theorem Progress.sameFlight (hprogress : Progress c₀ Good phase c h handled)
    (hsame : c.SameFlight c') (hread : (h ++ g).messagesRead = handled ++ c'.message.toList)
    (hmessage : expected? phase = none → c'.message = none) (hsent : g.messagesSent = [])
    (hunsent : g.messagesUnsent = []) (hmacs : ∀ sender, g.macsOf sender = []) :
    Progress c₀ Good phase c' (h ++ g) handled := by
  have hsettings := hprogress.settings.keep hsame.config hsame.peerSchemes hsame.ocspRequested
    hsame.sctsRequested hsame.certificateRequested (by rw [hsame.transcript])
  exact hprogress.still hsettings (by rw [hsame.transcript]) hsame.session
    hsame.expectedClientFinished hread hmessage hsent hunsent hmacs

theorem Standing.suspend {outcome : Outcome} (hstanding : Standing c₀ Good phase c h)
    (hsettles : Endpoint.Settles c g (some outcome) c') : Standing c₀ Good phase c' (h ++ g) := by
  have hsame := hsettles.sameFlight
  have hread := hsettles.messagesRead_of_some
  cases hstanding with
  | failed hwait houtline =>
      obtain ⟨rfl, _, rfl⟩ := hsettles.of_error hwait
      rw [List.append_nil]
      exact .failed hwait houtline
  | live hwait hmessage hawaits hprogress =>
      rcases hsettles.wait_of_some with herror | ⟨_, hsame', hreads⟩
      · exact .failed herror (hprogress.outline.quiet (by rw [hsame.transcript]) hread
          hsettles.messagesSent hsettles.messagesUnsent)
      · by_cases herror : c'.wait = .error
        · exact .failed herror (hprogress.outline.quiet (by rw [hsame.transcript]) hread
            hsettles.messagesSent hsettles.messagesUnsent)
        refine .live herror (by rw [hsame', hmessage]) (fun h => hawaits (hreads h))
          (hprogress.sameFlight hsame ?_ ?_ hsettles.messagesSent hsettles.messagesUnsent
            hsettles.macsOf)
        · rw [History.messagesRead_append, hread, List.append_nil, hsame', hprogress.read]
        · exact fun _ => by rw [hsame', hmessage]

theorem Standing.settle (hstanding : Standing c₀ Good phase c h)
    (hsettles : Endpoint.Settles c g none c') :
    ∃ handled, Progress c₀ Good phase c' (h ++ g) handled := by
  have hsame := hsettles.sameFlight
  cases hstanding with
  | failed hwait houtline =>
      obtain ⟨_, houtcome, _⟩ := hsettles.of_error hwait
      cases houtcome
  | @live handled hwait hmessage hawaits hprogress =>
      have hread := hprogress.read
      rw [hmessage, Option.toList_none, List.append_nil] at hread
      refine ⟨handled, hprogress.sameFlight hsame ?_ ?_ hsettles.messagesSent
        hsettles.messagesUnsent hsettles.macsOf⟩
      · rw [History.messagesRead_append, hread]
        rcases hsettles.messagesRead_of_none with ⟨hnone, hsame'⟩ | ⟨m, hone, hsome, _⟩
        · rw [hnone, hsame', hmessage]
          rfl
        · rw [hone, hsome]
          rfl
      · intro hphase
        rcases hsettles.messagesRead_of_none with ⟨_, hsame'⟩ | ⟨m, _, _, hawait⟩
        · rw [hsame', hmessage]
        · have hreads := hawaits hawait
          rw [hphase] at hreads
          cases hreads

/-- Nothing of a flight has happened, and if it waits for a message it has done so before. -/
theorem Standing.quiet (hstanding : Standing c₀ Good phase c h) (hsame : c.SameFlight c')
    (hmessage : c'.message = c.message) (herror : c'.wait = .error ↔ c.wait = .error)
    (hawaits : awaitsMessage c'.wait → awaitsMessage c.wait) (hread : g.messagesRead = [])
    (hsent : g.messagesSent = []) (hunsent : g.messagesUnsent = [])
    (hmacs : ∀ sender, g.macsOf sender = []) : Standing c₀ Good phase c' (h ++ g) := by
  cases hstanding with
  | failed hwait houtline =>
      exact .failed (herror.2 hwait) (houtline.quiet (by rw [hsame.transcript]) hread hsent hunsent)
  | live hwait hnone hphase hprogress =>
      refine .live (fun h => hwait (herror.1 h)) (by rw [hmessage, hnone])
        (fun h => hphase (hawaits h)) (hprogress.sameFlight hsame ?_ ?_ hsent hunsent hmacs)
      · rw [History.messagesRead_append, hread, List.append_nil, hmessage, hprogress.read]
      · exact fun _ => by rw [hmessage, hnone]

/-- A flush between calls changes nothing of a flight. -/
theorem Standing.flushed {answer : Except Error (Awaited Unit)}
    (hstanding : Standing c₀ Good phase c h) (hcontext : c' = c ∨ c' = c.noteFlushed) :
    Standing c₀ Good phase c' (h ++ [.flushed answer]) := by
  rcases hcontext with rfl | rfl
  · exact hstanding.quiet {} rfl Iff.rfl id rfl rfl rfl fun _ => rfl
  · exact hstanding.quiet {} rfl Iff.rfl id rfl rfl rfl fun _ => rfl

/-- What a turn leaves when it waits. -/
theorem Advance.waits {role : Role} {signer? : Option SignerInfo} {wait : Wait}
    (hadvance : Advance role signer? phase c g (.wait phase' wait) c') :
    (awaitsMessage wait → (expected? phase').isSome = true)
    ∧ ((expected? phase).isSome = true → c.message = none) ∧ c'.message = c.message := by
  generalize hturn : Turn.wait phase' wait = turn at hadvance
  cases hadvance <;> cases hturn
  case awaiting hphase hmessage =>
    exact ⟨fun _ => by rw [hphase]; rfl, fun _ => hmessage, rfl⟩
  case serverFinishedSent => exact ⟨fun _ => rfl, nofun, rfl⟩
  case serverFinishedSaved => exact ⟨fun _ => rfl, nofun, rfl⟩
  all_goals exact ⟨(fun h => by rcases h with h | h <;> cases h), nofun, rfl⟩

/-- Nothing is left to deal with when a turn waits. -/
theorem Progress.message_of_wait {signer? : Option SignerInfo} {role : Role} {wait : Wait}
    (hprogress : Progress c₀ Good phase c h handled)
    (hadvance : Advance role signer? phase c g (.wait phase' wait) c') : c'.message = none := by
  obtain ⟨_, hreading, hsame⟩ := hadvance.waits
  rw [hsame]
  cases hphase : expected? phase with
  | none => exact hprogress.message hphase
  | some type => exact hreading (by rw [hphase]; rfl)

theorem Progress.wait {signer? : Option SignerInfo} {wait : Wait}
    (hprogress : Progress c₀ Good phase c h handled)
    (hadvance : Advance c₀.role signer? phase c g (.wait phase' wait) c')
    (hnext : ∃ handled, Progress c₀ Good phase' c' (h ++ g) handled) :
    Standing c₀ Good phase' { c' with wait := wait } (h ++ g) := by
  obtain ⟨handled', hnext⟩ := hnext
  obtain ⟨hawaits, _, _⟩ := hadvance.waits
  have hmessage := hprogress.message_of_wait hadvance
  have hwaiting : Progress c₀ Good phase' { c' with wait := wait } (h ++ g) handled' := by
    rw [← List.append_nil (h ++ g)]
    exact hnext.idle hnext.settings.keep rfl rfl rfl rfl rfl rfl rfl fun _ => rfl
  exact .live hadvance.wait_ne_error hmessage hawaits hwaiting

end Standing

/-! ## Calls -/

section Calls

variable {ε : Type} [Environment ε] {c₀ : Context} {Good : Bytes → CertificateVerify → Prop}
  {phase phase' : Phase} {p q : Endpoint ε} {g h : History} {outcome : Outcome}

/-- Everything a flow does keeps to where a flight can stand, whatever is known of its signatures. -/
theorem standing_kept (hkeeps : c₀.config.KeepsPeer)
    (hgood : ∀ bytes verify, Good bytes verify) :
    Kept (ε := ε) c₀.role (fun phase p h => Standing c₀ Good phase p.context h)
      (fun phase p h => ∃ handled, Progress c₀ Good phase p.context h handled) where
  suspend hstanding hsettled := hstanding.suspend hsettled.1
  settle hstanding hsettled := hstanding.settle hsettled.1
  next := by
    rintro phase phase' p q g h ⟨handled, hprogress⟩ hturn
    exact hprogress.advance hturn.1 hkeeps fun _ _ _ _ _ _ _ _ => hgood _ _
  wait := by
    rintro phase phase' p q g h wait ⟨handled, hprogress⟩ hturn
    exact hprogress.wait hturn.1
      (hprogress.advance hturn.1 hkeeps fun _ _ _ _ _ _ _ _ => hgood _ _)
  fail := by
    rintro phase p q g h e ⟨handled, hprogress⟩ hturn
    have houtline : Outline c₀ q.failed.context (g ++ h ++ []) handled :=
      (hprogress.outline_of_failure hturn.1).quiet rfl rfl rfl rfl
    rw [List.append_nil] at houtline
    exact .failed rfl houtline

/-- A call leaves a flight standing. -/
theorem Drives.standing (hdrives : Drives c₀.role phase p h outcome phase' q)
    (hkeeps : c₀.config.KeepsPeer) (hgood : ∀ bytes verify, Good bytes verify)
    (hstanding : Standing c₀ Good phase p.context g) :
    Standing c₀ Good phase' q.context (g ++ h) :=
  (standing_kept hkeeps hgood).drives hstanding hdrives

end Calls

end AuthFlow

end TlsHandshake
