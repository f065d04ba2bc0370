import OaiNssf.Server.Framing

/-!
# Configurations that the servers cannot tell apart

Both servers reach the configuration through three handlers of `nssf_app`: the two selections
and the availability PUT. Where these agree, so does everything that is sent.

* `SameHandlers`: two configurations on which the handlers agree.
* `SameHandlers.replies_eq`: the responses on any run of either server.
-/

namespace OaiNssf

open Callback

/-- The handlers do the same on both configurations. -/
structure SameHandlers (C : Common) (cfg cfg' : NssfConfig) : Prop where
  registration : SliceSelect.handleSliceInfoForRegistration C cfg =
    SliceSelect.handleSliceInfoForRegistration C cfg'
  pduSession : SliceSelect.handleSliceInfoForPduSession C cfg =
    SliceSelect.handleSliceInfoForPduSession C cfg'
  put : putStatus cfg = putStatus cfg'

namespace SameHandlers

variable {C : Common} {K : Codec} {cfg cfg' : NssfConfig} (h : SameHandlers C cfg cfg')
include h

theorem symm : SameHandlers C cfg' cfg where
  registration := h.registration.symm
  pduSession := h.pduSession.symm
  put := h.put.symm

theorem trans {cfg'' : NssfConfig} (h' : SameHandlers C cfg' cfg'') :
    SameHandlers C cfg cfg'' where
  registration := h.registration.trans h'.registration
  pduSession := h.pduSession.trans h'.pduSession
  put := h.put.trans h'.put

theorem app_registration :
    App.handleSliceInfoForRegistration C cfg = App.handleSliceInfoForRegistration C cfg' := by
  funext si tai home features httpVersion st
  unfold App.handleSliceInfoForRegistration
  rw [h.registration]

theorem app_pduSession :
    App.handleSliceInfoForPduSession C cfg = App.handleSliceInfoForPduSession C cfg' := by
  funext si tai home features httpVersion st
  unfold App.handleSliceInfoForPduSession
  rw [h.pduSession]

/-! ## Responses -/

theorem http1_selectionReply (query : Query) :
    Http1.selectionReply C K cfg query = Http1.selectionReply C K cfg' query := by
  have hrun : ∀ p, Http1.runHandlers C cfg p = Http1.runHandlers C cfg' p := by
    intro p
    unfold Http1.runHandlers
    rw [h.app_registration, h.app_pduSession]
  unfold Http1.selectionReply Http1.selectedReply
  simp only [hrun]

theorem http1_reply (L : Http1.Libraries) (handler : Http1.Handler) (params : PathPattern.Params)
    (r : Http1.RawRequest) :
    handler.reply C K L cfg params r = handler.reply C K L cfg' params r := by
  cases handler with
  | nSsaiAvailabilityPut => simp only [Http1.Handler.reply, Http1.paramReply, Http1.putReply, h.put]
  | nSSelectionGet => exact h.http1_selectionReply r.query
  | _ => rfl

theorem http2_reply (stream : Http2.Stream) : stream.reply C K cfg = stream.reply C K cfg' := by
  obtain ⟨resource, method, path, query⟩ := stream
  funext data
  cases resource with
  | networkSliceInformation =>
    have hdecoded : Http2.decodedReply C cfg query = Http2.decodedReply C cfg' query := by
      funext r
      cases r with
      | registration si tai home => simp only [Http2.decodedReply, h.app_registration]
      | pduSession si tai home => simp only [Http2.decodedReply, h.app_pduSession]
      | neither => rfl
    simp only [Http2.Stream.reply, hdecoded]
  | nfInstanceId =>
    simp only [Http2.Stream.reply, Http2.availabilityReply, Http2.createdReply, h.put]
  | _ => rfl

/-! ## Runs -/

/-- No response of a run of either server differs, and an exception ends the HTTP/2 server on
    both configurations or on none. -/
theorem replies_eq {κ : Type} [DecidableEq κ] (K : Codec) (L : Http1.Libraries)
    (find : List (PathPattern.Pattern × Http1.Handler) → List String →
      Option (Http1.Handler × PathPattern.Params)) (P : Paths) :
    (∀ (requests : List (κ × Http1.RawRequest)) k,
      replies (ofSession k (Http1.serve C K L find P cfg requests).actions) =
        replies (ofSession k (Http1.serve C K L find P cfg' requests).actions)) ∧
    ∀ (streams : κ → Http2.Stream) (calls : List (κ × List UInt8)),
      (Http2.serve C K streams cfg calls).escaped =
        (Http2.serve C K streams cfg' calls).escaped ∧
      ∀ k, replies (ofSession k (Http2.serve C K streams cfg calls).actions) =
        replies (ofSession k (Http2.serve C K streams cfg' calls).actions) := by
  constructor
  · intro requests k
    rw [Http1.replies_serve, Http1.replies_serve]
    apply List.map_congr_left
    intro r _
    exact h.http1_reply L (Http1.dispatch find P r).1 (Http1.dispatch find P r).2 r
  · intro streams calls
    constructor
    · rw [Bool.eq_iff_iff, Http2.escaped_serve_iff, Http2.escaped_serve_iff]
    · intro k
      have hhandled : Http2.handledCalls C K cfg streams calls =
          Http2.handledCalls C K cfg' streams calls := by
        apply handled_congr
        rintro ⟨k, data⟩
        show ((streams k).answer C K cfg data).escaped = ((streams k).answer C K cfg' data).escaped
        rw [Bool.eq_iff_iff, Http2.Stream.answer_escaped_iff, Http2.Stream.answer_escaped_iff]
      rw [Http2.replies_serve, Http2.replies_serve, h.http2_reply, hhandled]

end SameHandlers

end OaiNssf
