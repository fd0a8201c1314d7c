import LightingBus.Proofs.Controller.Replies

/-!
# What a device may answer to being muted

`Controller.mute_verdict`: whatever is read back, a device counts as muted exactly if the last frame
is its positive response, and the search goes on without it unless the port fails or the last frame
is a response that spoils the search. A device spoils it by refusing (`mute_aborted`), by asking for
more time and by a response that is malformed within.

1. `Confirms` and `Spoils` sort the responses, and `readMuteResponse_cases` shows that there
   are no others.
2. `resultOf_confirmMute` is what a controller makes of the result of a mute request.
-/

namespace LightingBus

variable {σ ε : Type}

namespace Controller

/-! ## Responses to being muted -/

/-- A positive response: the device is muted. -/
def Confirms (response : Response) : Prop :=
  response.type = .ack ∧ (MuteReply.decode? response.data.bytes).isSome = true

/-- A response to which no result is returned, and the error that is returned instead. -/
inductive Spoils (response : Response) : RequestError ε → Prop
  | refuses (reason : NackReason) : response.type = .nack →
    response.data.bytes = reason.toBytes → Spoils response (.notAcknowledged reason)
  | refusesUnclearly : response.type = .nack →
    (∀ reason : NackReason, response.data.bytes ≠ reason.toBytes) →
    Spoils response .refusalMalformed
  | postpones (units : UInt16) : response.type = .ackTimer →
    response.data.bytes = Bytes.ofWord units → Spoils response (.notReady units)
  | postponesUnclearly : response.type = .ackTimer →
    (∀ units : UInt16, response.data.bytes ≠ Bytes.ofWord units) →
    Spoils response .refusalMalformed
  | confirmsUnclearly : response.type = .ack →
    MuteReply.decode? response.data.bytes = none → Spoils response .dataMalformed
  | overflows : response.type = .ackOverflow → Spoils response .dataMalformed

/-- What a response to a mute request is read as. -/
def readMuteResponse (response : Response) : Except (RequestError ε) (Option MuteReply) :=
  (evaluate response).bind readMuteReply

theorem toBytes_inj {a b : NackReason} : a.toBytes = b.toBytes ↔ a = b := by
  refine ⟨fun h => ?_, congrArg _⟩
  have hcode := Bytes.ofWord_inj.mp h
  have hreason : NackReason.ofCode? a.code = NackReason.ofCode? b.code := congrArg _ hcode
  rw [NackReason.ofCode?_code, NackReason.ofCode?_code] at hreason
  exact Option.some.inj hreason

/-- A response is read in one way only. -/
theorem Spoils.unique {response : Response} {e e' : RequestError ε} (h : Spoils response e)
    (h' : Spoils response e') : e = e' := by
  cases h with
  | refuses reason htype hdata =>
    cases h' with
    | refuses reason' _ hdata' => rw [toBytes_inj.mp (hdata.symm.trans hdata')]
    | refusesUnclearly _ hdata' => exact absurd hdata (hdata' reason)
    | _ => simp_all
  | refusesUnclearly htype hdata =>
    cases h' with
    | refuses reason' _ hdata' => exact absurd hdata' (hdata reason')
    | _ => simp_all
  | postpones units htype hdata =>
    cases h' with
    | postpones units' _ hdata' => rw [Bytes.ofWord_inj.mp (hdata.symm.trans hdata')]
    | postponesUnclearly _ hdata' => exact absurd hdata (hdata' units)
    | _ => simp_all
  | postponesUnclearly htype hdata =>
    cases h' with
    | postpones units' _ hdata' => exact absurd hdata' (hdata units')
    | _ => simp_all
  | confirmsUnclearly htype hdata => cases h' <;> simp_all
  | overflows htype => cases h' <;> simp_all

theorem Spoils.not_confirms {response : Response} {e : RequestError ε} (h : Spoils response e) :
    ¬ Confirms response := by
  rintro ⟨htype, hdata⟩
  cases h <;> simp_all

theorem code_of_ofCode? {code : UInt16} {reason : NackReason}
    (h : NackReason.ofCode? code = some reason) : reason.code = code := by
  have hall : ∀ (i : ℕ) (hi : i < NackReason.all.length), NackReason.all[i].code.toNat = i := by
    decide
  obtain ⟨hi, hreason⟩ := List.getElem?_eq_some_iff.mp h
  rw [← hreason, ← UInt16.toNat_inj]
  exact hall _ hi

/-- Every response confirms the mute request or spoils the search. -/
theorem readMuteResponse_cases (response : Response) :
    (Confirms response ∧ ∃ reply,
      (readMuteResponse response : Except (RequestError ε) _) = .ok reply) ∨
    ∃ e : RequestError ε, Spoils response e ∧ readMuteResponse response = .error e := by
  unfold readMuteResponse evaluate
  dsimp only
  split
  case h_1 htype =>
    dsimp only [Except.bind, readMuteReply]
    split
    next hdata => exact .inr ⟨_, .confirmsUnclearly htype hdata, rfl⟩
    next hdata => exact .inl ⟨⟨htype, by rw [hdata]; rfl⟩, _, rfl⟩
  case h_2 htype => exact .inr ⟨_, .overflows htype, rfl⟩
  case h_3 high low htype hdata =>
    exact .inr ⟨_, .postpones _ htype (by rw [Bytes.ofWord_word, hdata]), rfl⟩
  case h_4 high low htype hdata =>
    split
    next hnone =>
      refine .inr ⟨_, .refusesUnclearly htype fun reason hreason => ?_, rfl⟩
      rw [hdata, NackReason.toBytes, ← Bytes.ofWord_word, Bytes.ofWord_inj] at hreason
      rw [hreason, NackReason.ofCode?_code] at hnone
      cases hnone
    next reason hsome =>
      refine .inr ⟨_, .refuses reason htype ?_, rfl⟩
      rw [hdata, NackReason.toBytes, code_of_ofCode? hsome, Bytes.ofWord_word]
  case h_5 htype hdata =>
    exact .inr ⟨_, .postponesUnclearly htype fun units hunits => hdata _ _ hunits, rfl⟩
  case h_6 htype hdata =>
    exact .inr ⟨_, .refusesUnclearly htype fun reason hreason => hdata _ _ hreason, rfl⟩

theorem Spoils.answered {response : Response} {e : RequestError ε} (h : Spoils response e) :
    e.Answered := by
  cases h <;> trivial

/-! ## The verdict -/

variable (line : Transport σ ε)

/-- The mute request to a device. -/
def muteInquiry (uid : Uid) : Inquiry :=
  .bare (.device uid) Pid.discMute

theorem resultOf_mute (uid : Uid) (c : Controller) (p : Port σ ε) :
    resultOf (mute line (.device uid)) c p =
      (resultOf (request line .discovery (muteInquiry uid)) c p).bind readMuteReply := by
  unfold resultOf mute muteInquiry
  rw [runWith_bind]
  generalize runWith (request line .discovery (.bare (.device uid) Pid.discMute)) (c, p) = out
  obtain ⟨_ | _, _⟩ := out <;> rfl

/-- What a search makes of the result of a mute request. -/
def muteVerdict : Except (RequestError ε) (Option MuteReply) → Except (RequestError ε) Bool
  | .ok _ => .ok true
  | .error (.port .timeout) | .error (.port (.malformed _)) | .error .notMatching
  | .error .responseInvalid => .ok false
  | .error e => .error e

theorem resultOf_confirmMute (uid : Uid) (c : Controller) (p : Port σ ε) :
    resultOf (confirmMute line uid) c p =
      muteVerdict (resultOf (mute line (.device uid)) c p) := by
  unfold resultOf confirmMute
  rw [runWith_bind, runWith_attempt]
  generalize (runWith (mute line (.device uid)) (c, p)) = out
  obtain ⟨e | _, s⟩ := out
  · cases e with
    | port x => cases x <;> rfl
    | _ => rfl
  · rfl

theorem muteVerdict_of_answered {e : RequestError ε} (h : e.Answered) :
    muteVerdict (.error e) = .error e := by
  cases e <;> first | exact h.elim | rfl

/-- A request that is not answered does not mute the device; it fails if the port does. -/
theorem muteVerdict_of_not_answered {e : RequestError ε} (h : ¬ e.Answered) :
    muteVerdict (.error e) = .ok false ∨ muteVerdict (.error e) = .error e ∧
      (e = .busy ∨ ∃ x, e = .port x ∧ x ≠ .timeout ∧ ∀ reason, x ≠ .malformed reason) := by
  cases e with
  | busy => exact .inr ⟨rfl, .inl rfl⟩
  | notMatching | responseInvalid => exact .inl rfl
  | dataMalformed | refusalMalformed | notReady | notAcknowledged => exact absurd trivial h
  | port x =>
    cases x with
    | timeout | malformed => exact .inl rfl
    | _ => exact .inr ⟨rfl, .inr ⟨_, rfl, nofun, nofun⟩⟩

theorem confirmMute_cases (uid : Uid) (c : Controller) (p : Port σ ε) :
    (∃ response, Responds line .discovery (muteInquiry uid) c p response ∧
      resultOf (confirmMute line uid) c p = muteVerdict (readMuteResponse response)) ∨
    (¬ ∃ response, Responds line .discovery (muteInquiry uid) c p response) ∧
      ∃ e, resultOf (confirmMute line uid) c p = muteVerdict (.error e) ∧ ¬ e.Answered := by
  have hunicast : (muteInquiry uid).destination.isBroadcast = false := rfl
  rw [resultOf_confirmMute, resultOf_mute]
  obtain ⟨response, hresponds, hresult⟩ | ⟨hnone, e, hresult, hunanswered⟩ :=
    resultOf_request_cases line .discovery hunicast c p
  · rw [hresult]
    exact .inl ⟨response, hresponds, rfl⟩
  · rw [hresult]
    exact .inr ⟨hnone, e, rfl, hunanswered⟩

/-- A device counts as muted exactly if the last frame read is its confirmation. The search ends
with what a device has answered exactly if the last frame read is a response that spoils it;
otherwise it ends only if the port fails. -/
theorem mute_verdict (uid : Uid) (c : Controller) (p : Port σ ε) :
    let verdict := resultOf (confirmMute line uid) c p
    let Responds := Responds line .discovery (muteInquiry uid) c p
    (verdict = .ok true ↔ ∃ response, Responds response ∧ Confirms response) ∧
    (∀ e : RequestError ε, e.Answered →
      (verdict = .error e ↔ ∃ response, Responds response ∧ Spoils response e)) ∧
    ∀ e, verdict = .error e → ¬ e.Answered →
      e = .busy ∨ ∃ x, e = .port x ∧ x ≠ .timeout ∧ ∀ reason, x ≠ .malformed reason := by
  dsimp only
  obtain ⟨response, hresponds, hverdict⟩ | ⟨hnone, e, hverdict, hunanswered⟩ :=
    confirmMute_cases line uid c p
  · have hiff (known : Response → Prop) :
        (∃ response, Responds line .discovery (muteInquiry uid) c p response ∧ known response) ↔
          known response := by
      constructor
      · rintro ⟨other, hother, hknown⟩
        rwa [hresponds.unique hother] at hknown
      · exact fun hknown => ⟨response, hresponds, hknown⟩
    simp only [hverdict, hiff]
    obtain ⟨hconfirms, reply, hread⟩ | ⟨e, hspoils, hread⟩ :=
      readMuteResponse_cases (ε := ε) response
    · rw [hread]
      exact ⟨iff_of_true rfl hconfirms,
        fun e _ => iff_of_false nofun fun hspoils => hspoils.not_confirms hconfirms, nofun⟩
    · rw [hread, muteVerdict_of_answered hspoils.answered]
      refine ⟨iff_of_false nofun hspoils.not_confirms, fun e' _ => ⟨?_, ?_⟩, ?_⟩
      · rintro ⟨⟩
        exact hspoils
      · exact fun hspoils' => congrArg _ (hspoils.unique hspoils')
      · rintro _ ⟨⟩ hunanswered
        exact absurd hspoils.answered hunanswered
  · have hno (known : Response → Prop) :
        ¬ ∃ response, Responds line .discovery (muteInquiry uid) c p response ∧ known response :=
      fun ⟨response, hresponds, _⟩ => hnone ⟨response, hresponds⟩
    rw [hverdict]
    obtain hmissing | ⟨hfails, hport⟩ := muteVerdict_of_not_answered hunanswered
    · rw [hmissing]
      exact ⟨iff_of_false nofun (hno _), fun e _ => iff_of_false nofun (hno _), nofun⟩
    · rw [hfails]
      refine ⟨iff_of_false nofun (hno _), fun e' he' => iff_of_false ?_ (hno _), ?_⟩
      · rintro ⟨⟩
        exact hunanswered he'
      · rintro _ ⟨⟩ -
        exact hport

/-- A device that is asked to mute itself and does not know how. -/
def refusal : Response where
  destination := .device asker.uid
  source := Simulation.ScriptedResponse.spokesman
  transaction := 0
  type := .nack
  messageCount := 0
  subDevice := SubDevice.root
  commandClass := .discovery
  pid := Pid.discMute
  data := ⟨NackReason.unknownPid.toBytes, by decide⟩

theorem mute_verdict_refusal :
    let p := fresh (sending (Message.response refusal).encode)
    let e : RequestError Simulation.LineCall := .notAcknowledged .unknownPid
    e.Answered ∧ resultOf (confirmMute Simulation.line refusal.source) asker p = .error e ∧
    ∃ response, Responds Simulation.line .discovery (muteInquiry refusal.source) asker p response ∧
      Spoils response e := by
  have hverdict : resultOf (confirmMute Simulation.line refusal.source) asker
      (fresh (sending (Message.response refusal).encode)) =
      .error (.notAcknowledged .unknownPid) := by decide +kernel
  have hanswered : (RequestError.notAcknowledged .unknownPid :
      RequestError Simulation.LineCall).Answered := trivial
  exact ⟨hanswered, hverdict, ((mute_verdict Simulation.line refusal.source asker _).2.1 _
    hanswered).mp hverdict⟩

/-- The refusal is a packet that is read completely, and yet the device counts neither as muted nor
as not muted. -/
theorem mute_aborted :
    let p := fresh (sending (Message.response refusal).encode)
    Port.create 64 {} 8 p.world = .ok p ∧
    (framesRead Simulation.line .discovery (muteInquiry refusal.source) asker p).getLast? =
      some (Message.response refusal).encode ∧
    Message.decode (Message.response refusal).encode = .ok (.response refusal) ∧
    refusal.type ≠ .ack ∧
    resultOf (confirmMute Simulation.line refusal.source) asker p =
      .error (.notAcknowledged .unknownPid) := by
  refine ⟨rfl, ?_, ?_, ?_, ?_⟩ <;> decide +kernel

end Controller

end LightingBus
