import OaiNssf.Server.Meaning

/-!
# The two front ends on one availability PUT

HTTP/1 parses the whole body and validates what it decodes; HTTP/2 parses each DATA chunk and
does not validate. HTTP/1 sends problem details with every status that `nssf_app` leaves;
HTTP/2 sends an accepted update without a body. A body that is no document has the text of the
exception for an answer on HTTP/1 only.

* `put_front_ends_agree_iff`: when the two complete responses with the same statuses, and when
  the responses are the same.
-/

namespace OaiNssf

open Callback Decoding SliceAvail Http2

variable {K : Codec} {cfg : NssfConfig} {path : String}

/-- What is written of a response that is completed. -/
def Reply.sent (K : Codec) (reply : Reply) : ℤ × Option String × String :=
  (reply.code, reply.contentType, K.content reply.body)

/-- The body is an availability document, and a valid one. -/
def IsValidPut (K : Codec) (body : List UInt8) (info : NssaiAvailabilityInfo) : Prop :=
  K.parseNssaiAvailabilityInfo body = .ok info ∧ K.validateNssaiAvailabilityInfo info = .ok ()

/-- The response of HTTP/2 to a body that comes in one chunk. -/
def Http2.putReply (K : Codec) (cfg : NssfConfig) (body : List UInt8) : Option Reply :=
  tryReply (fun info => some (createdReply cfg info)) (K.parseNssaiAvailabilityInfo body)

/-! ## One body -/

section Body

variable {body : List UInt8}

theorem cStrBytes_eq_self (hnul : 0 ∉ body) : cStrBytes body = body := by
  rw [cStrBytes, List.takeWhile_eq_self_iff]
  intro b hb
  simpa using ne_of_mem_of_not_mem hb hnul

theorem availabilityReply_put (hnfId : pathNfId path ≠ "") (hbody : body ≠ []) (hnul : 0 ∉ body) :
    availabilityReply K cfg "PUT" path body = Http2.putReply K cfg body := by
  rw [availabilityReply, if_pos ⟨hnfId, hbody, rfl⟩, cStrBytes_eq_self hnul, Http2.putReply]

theorem putReply_of_escapes (h : Escapes (K.parseNssaiAvailabilityInfo body)) :
    Http2.putReply K cfg body = none := by
  unfold Http2.putReply
  cases hparse : K.parseNssaiAvailabilityInfo body with
  | ok info =>
    rw [hparse] at h
    exact h.elim
  | error e =>
    cases e with
    | json what =>
      rw [hparse] at h
      exact h.elim
    | other what => rfl

theorem createdReply_code (info : NssaiAvailabilityInfo) :
    (createdReply cfg info).code = putStatus cfg info := by
  unfold createdReply
  split_ifs with h
  · exact h.symm
  · rfl

/-- The response of HTTP/1 to a document is the one of HTTP/2, but for an accepted update. -/
theorem createdReply_sent_iff (info : NssaiAvailabilityInfo) :
    (createdReply cfg info).sent K =
        Reply.sent K ⟨putStatus cfg info, some "application/problem+json", .problemDetails {}⟩ ↔
      putStatus cfg info ≠ HttpStatusCode.noContent := by
  unfold createdReply
  split_ifs with h
  · exact iff_of_false (by simp [Reply.sent]) (not_not_intro h)
  · exact iff_of_true rfl h

/-- A response to a document that is not valid has a status that no document has. -/
theorem parsingReply_code_ne (e : Exn) (info : NssaiAvailabilityInfo) :
    putStatus cfg info ≠ (Http1.parsingReply e).code := by
  have hput := putStatus_mem cfg info
  have hparsing := Http1.parsingReply_code_mem e
  simp only [List.mem_cons, List.not_mem_nil, or_false] at hput hparsing
  omega

/-- What the body of a PUT decodes to on HTTP/1, from the two checks. -/
theorem decodePut_eq (body : List UInt8) :
    Http1.decodePut K body =
      match K.parseNssaiAvailabilityInfo body with
      | .error e => .error e
      | .ok info =>
        match K.validateNssaiAvailabilityInfo info with
        | .error e => .error e
        | .ok _ => .ok info := by
  unfold Http1.decodePut
  cases K.parseNssaiAvailabilityInfo body with
  | error e => rfl
  | ok info =>
    dsimp only [bind, Except.bind]
    cases K.validateNssaiAvailabilityInfo info with
    | error e => rfl
    | ok u => rfl

/-- For a part of a response that tells statuses apart: the responses to a body agree in it
    when the body does not parse and the two errors agree, or when it is a valid document and
    its two responses agree. -/
theorem put_view_eq_iff {β : Type} {view : Reply → β}
    (hview : ∀ {r r'}, view r = view r' → r.code = r'.code) :
    (Http2.putReply K cfg body).map view = some (view (Http1.putReply K cfg body)) ↔
      (∃ what, K.parseNssaiAvailabilityInfo body = .error (.json what) ∧
        view ⟨HttpStatusCode.badRequest, none, .empty⟩ =
          view (Http1.parsingReply (.json what))) ∨
      ∃ info, IsValidPut K body info ∧
        view (createdReply cfg info) =
          view ⟨putStatus cfg info, some "application/problem+json", .problemDetails {}⟩ := by
  unfold Http1.putReply Http2.putReply IsValidPut
  rw [decodePut_eq]
  cases hparse : K.parseNssaiAvailabilityInfo body with
  | error e =>
    cases e with
    | json what => simp [tryReply]
    | other what => simp [tryReply]
  | ok info =>
    dsimp only
    cases hvalid : K.validateNssaiAvailabilityInfo info with
    | error e =>
      refine iff_of_false (fun h => ?_) (by simp [hvalid])
      have hcode : (createdReply cfg info).code = (Http1.parsingReply e).code :=
        hview (Option.some_inj.mp h)
      rw [createdReply_code] at hcode
      exact parsingReply_code_ne e info hcode
    | ok u => simp [tryReply, hvalid]

end Body

/-! ## The routes -/

/-- A PUT on the NF Instance ID route of the HTTP/2 server. -/
def putRequest (path : String) (chunks : List Chunk) : Http2.Request where
  method := "PUT"
  path := path
  chunks := chunks

/-- The body that the chunks carry. -/
def putBody (chunks : List Chunk) : List UInt8 := (chunks.map Subtype.val).flatten

theorem replies_http1Put (nfId : String) (body : List UInt8) :
    replies (Http1.nssaiAvailabilityRoute K cfg
      { method := "PUT", nfId := nfId, body := body }).1 = [Http1.putReply K cfg body] := by
  have hsends : Http1.Sends (Http1.nSsaiAvailabilityPutHandler K cfg nfId body).1
      (Http1.putReply K cfg body) := (Http1.sends_nSsaiAvailabilityPutHandler nfId body).2
  have hreplies := hsends []
  rw [List.append_nil] at hreplies
  exact hreplies

theorem escaped_http2Put_iff (hnfId : pathNfId path ≠ "") (chunks : List Chunk) :
    (nssaiAvailabilityRoute K cfg (putRequest path chunks)).escaped = true ↔
      ∃ chunk ∈ chunks, Escapes (K.parseNssaiAvailabilityInfo (cStrBytes chunk.val)) := by
  have hanswers := (preserves_availabilityOnData K "PUT" path cfg).answers
  refine (hanswers.run_escaped rfl _).trans ?_
  simp only [answerAt]
  constructor
  · rintro ⟨data, hdata, hesc⟩
    obtain ⟨-, hne, hesc⟩ := (availabilityOnData_escaped_iff _ _ _ _).mp hesc
    rcases List.mem_append.mp hdata with hchunk | hlast
    · obtain ⟨chunk, hmem, rfl⟩ := List.mem_map.mp hchunk
      exact ⟨chunk, hmem, by simpa [putRequest] using hesc⟩
    · exact absurd (List.mem_singleton.mp hlast) hne
  · rintro ⟨chunk, hchunk, hesc⟩
    refine ⟨chunk.val, List.mem_append_left _ (List.mem_map_of_mem hchunk), ?_⟩
    exact (availabilityOnData_escaped_iff _ _ _ _).mpr
      ⟨hnfId, chunk.property, Or.inl ⟨rfl, hesc⟩⟩

/-- Unless an exception ends the server, each chunk of a PUT has its response. -/
theorem replies_http2Put {chunks : List Chunk}
    (hrun : (nssaiAvailabilityRoute K cfg (putRequest path chunks)).escaped = false) :
    replies (nssaiAvailabilityRoute K cfg (putRequest path chunks)).actions =
      (chunks.map Subtype.val).filterMap (availabilityReply K cfg "PUT" path) := by
  have hanswers := (preserves_availabilityOnData K "PUT" path cfg).answers
  have hlast : availabilityReply K cfg "PUT" path [] = none := by simp [availabilityReply]
  have hreplies : replies (nssaiAvailabilityRoute K cfg (putRequest path chunks)).actions =
      (putRequest path chunks).calls.filterMap (availabilityReply K cfg "PUT" path) := by
    have hactions := hanswers.run_actions rfl (putRequest path chunks).calls
    rw [hanswers.handled_of_not_escaped rfl hrun] at hactions
    have hread : ∀ data rest,
        replies ((answerAt (availabilityOnData K "PUT" path) cfg data).actions ++ rest) =
          (availabilityReply K cfg "PUT" path data).toList ++ replies rest := by
      intro data rest
      simp only [answerAt]
      exact sends_availabilityOnData "PUT" path data rest
    exact (congrArg replies hactions).trans (read_flatMap rfl hread _)
  rw [hreplies, Request.calls, List.filterMap_append, List.filterMap_cons_none hlast,
    List.filterMap_nil, List.append_nil]
  rfl

/-- The front ends agree in a part of the responses exactly when the body comes in one chunk
    for which its responses agree in it. -/
theorem put_routes_view_iff {β : Type} {view : Reply → β}
    (hnfId : pathNfId path ≠ "") {chunks : List Chunk} (hnul : 0 ∉ putBody chunks)
    (nfId : String) :
    ((nssaiAvailabilityRoute K cfg (putRequest path chunks)).escaped = false ∧
        (replies (Http1.nssaiAvailabilityRoute K cfg
          { method := "PUT", nfId := nfId, body := putBody chunks }).1).map view =
        (replies (nssaiAvailabilityRoute K cfg (putRequest path chunks)).actions).map view) ↔
      ∃ chunk, chunks = [chunk] ∧
        (Http2.putReply K cfg chunk.val).map view =
          some (view (Http1.putReply K cfg chunk.val)) := by
  rw [replies_http1Put]
  -- one chunk has at most one response
  have hsingle : ∀ chunk : Chunk, 0 ∉ chunk.val →
      (([chunk].map Subtype.val).filterMap (availabilityReply K cfg "PUT" path)).map view =
        ((Http2.putReply K cfg chunk.val).map view).toList := by
    intro chunk hchunk
    rw [List.map_singleton, List.filterMap_cons, List.filterMap_nil,
      availabilityReply_put hnfId chunk.property hchunk]
    cases Http2.putReply K cfg chunk.val with
    | none => rfl
    | some reply => rfl
  constructor
  · rintro ⟨hrun, heq⟩
    have hesc : ∀ chunk ∈ chunks,
        ¬Escapes (K.parseNssaiAvailabilityInfo (cStrBytes chunk.val)) := by
      intro chunk hchunk h
      rw [← Bool.not_eq_true, escaped_http2Put_iff hnfId] at hrun
      exact hrun ⟨chunk, hchunk, h⟩
    have hlength : ((chunks.map Subtype.val).filterMap
        (availabilityReply K cfg "PUT" path)).length = chunks.length := by
      rw [length_availabilityReply hnfId (fun _ => hesc) (fun h => absurd h (by decide)),
        if_pos rfl]
    rw [replies_http2Put hrun] at heq
    have hone : chunks.length = 1 := by
      rw [← hlength, ← List.length_map view, ← heq]
      rfl
    obtain ⟨chunk, rfl⟩ := List.length_eq_one_iff.mp hone
    have hbody : putBody [chunk] = chunk.val := by simp [putBody]
    rw [hbody] at hnul heq
    rw [hsingle chunk hnul] at heq
    exact ⟨chunk, rfl, Option.toList_eq_singleton_iff.mp heq.symm⟩
  · rintro ⟨chunk, rfl, heq⟩
    have hbody : putBody [chunk] = chunk.val := by simp [putBody]
    rw [hbody] at hnul ⊢
    have hbytes : cStrBytes chunk.val = chunk.val := cStrBytes_eq_self hnul
    have hrun : (nssaiAvailabilityRoute K cfg (putRequest path [chunk])).escaped = false := by
      rw [← Bool.not_eq_true, escaped_http2Put_iff hnfId]
      rintro ⟨chunk', hmem, hesc⟩
      rw [List.mem_singleton.mp hmem, hbytes] at hesc
      have hsome : (Http2.putReply K cfg chunk.val).isSome = true := by
        rw [← Option.isSome_map, heq]
        rfl
      rw [putReply_of_escapes hesc] at hsome
      cases hsome
    refine ⟨hrun, ?_⟩
    rw [replies_http2Put hrun, hsingle chunk hnul, heq]
    rfl

/-- A PUT with an identifier, its body without NUL bytes and in any number of DATA chunks.
    No exception ends the HTTP/2 server and both front ends complete responses with the same
    statuses exactly when the body comes in one chunk and is either no availability document for
    nlohmann's parser or a valid one. The responses as a whole are the same exactly when, then,
    the exception has no text, or the update is not accepted. -/
theorem put_front_ends_agree_iff (K : Codec) (cfg : NssfConfig) {path : String}
    (hnfId : pathNfId path ≠ "") (nfId : String) {chunks : List Chunk}
    (hnul : 0 ∉ putBody chunks) :
    let http1 := replies (Http1.nssaiAvailabilityRoute K cfg
      { method := "PUT", nfId := nfId, body := putBody chunks }).1
    let http2 := nssaiAvailabilityRoute K cfg (putRequest path chunks)
    (http2.escaped = false ∧ http1.map Reply.code = (replies http2.actions).map Reply.code ↔
      ∃ chunk, chunks = [chunk] ∧
        ((∃ what, K.parseNssaiAvailabilityInfo chunk.val = .error (.json what)) ∨
          ∃ info, IsValidPut K chunk.val info)) ∧
    (http2.escaped = false ∧
        http1.map (Reply.sent K) = (replies http2.actions).map (Reply.sent K) ↔
      ∃ chunk, chunks = [chunk] ∧
        (K.parseNssaiAvailabilityInfo chunk.val = .error (.json "") ∨
          ∃ info, IsValidPut K chunk.val info ∧
            putStatus cfg info ≠ HttpStatusCode.noContent)) := by
  intro http1 http2
  constructor
  · rw [put_routes_view_iff hnfId hnul]
    refine exists_congr fun chunk => and_congr_right fun _ => ?_
    rw [put_view_eq_iff id]
    refine or_congr (exists_congr fun what => ?_) (exists_congr fun info => ?_)
    · exact and_iff_left rfl
    · exact and_iff_left (createdReply_code info)
  · rw [put_routes_view_iff hnfId hnul]
    refine exists_congr fun chunk => and_congr_right fun _ => ?_
    rw [put_view_eq_iff fun h => congrArg Prod.fst h]
    refine or_congr ?_
      (exists_congr fun info => and_congr_right fun _ => createdReply_sent_iff info)
    constructor
    · rintro ⟨what, hparse, hsent⟩
      have hwhat : "" = what := congrArg (fun sent => sent.2.2) hsent
      rw [hparse, hwhat]
    · exact fun hparse => ⟨"", hparse, rfl⟩

/-- The update for the set `set-1`, without such a set. -/
theorem put_front_ends_agree_iff_sample :
    let chunk : Chunk := ⟨asciiBytes availabilityText, by decide⟩
    (replies (Http1.nssaiAvailabilityRoute sampleCodec {}
        { method := "PUT", nfId := "amf-1", body := putBody [chunk] }).1).map
          (Reply.sent sampleCodec) =
      (replies (nssaiAvailabilityRoute sampleCodec {} (putRequest "/amf-1" [chunk])).actions).map
        (Reply.sent sampleCodec) := by
  intro chunk
  have hnfId : pathNfId "/amf-1" ≠ "" := by decide
  have hnul : 0 ∉ putBody [chunk] := by decide
  have hvalid : IsValidPut sampleCodec chunk.val { amfSetId := some "set-1" } :=
    ⟨rfl, rfl⟩
  exact ((put_front_ends_agree_iff sampleCodec {} hnfId "amf-1" hnul).2.mpr
    ⟨chunk, rfl, Or.inr ⟨_, hvalid, by decide⟩⟩).2

end OaiNssf
