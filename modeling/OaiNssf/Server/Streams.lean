import OaiNssf.Lib.Sessions
import OaiNssf.Model.Http2Server
import OaiNssf.Server.Answers

/-!
# The HTTP/2 server under interleaved streams

The calls of `on_data` for the open streams arrive in any order, and all callbacks share the
configuration and the local `nfId` of `start`. No call changes the configuration, and each
call that reads `nfId` has written it before, so that a stream is served as if it were the
only one. What streams do share is the process: an exception that escapes one callback ends
the server for all.

* `streams_served_alone`: what is sent on a stream, for every interleaving.
* `throwing_call_ends_server`: the calls that end the server.
* `interleaving_irrelevant`: two interleavings of the same calls.
-/

namespace OaiNssf.Http2

open Callback Decoding
open SliceSelect (sampleCommon)

variable {C : Common} {K : Codec} {cfg : NssfConfig}

/-! ## One call -/

/-- Once `nfId` is assigned, the block reads from the shared state what the model with a
    local `nfId` computes. -/
theorem sharedAvailabilityBlock_assignNfId (method path : String) (srv : Server)
    (data : List UInt8) :
    sharedAvailabilityBlock K method (srv.assignNfId path) data =
      availabilityBlock K method path srv.cfg data := by
  unfold sharedAvailabilityBlock availabilityBlock Server.assignNfId
  generalize pathNfId path = nfId
  rfl

/-- The shared `nfId` makes no difference to a call: it writes the value that it reads. -/
theorem sharedAvailabilityOnData_eq (method path : String) (srv : Server) (data : List UInt8) :
    sharedAvailabilityOnData K method path srv data =
      { state := { cfg := (availabilityOnData K method path srv.cfg data).state
                   nfId := pathNfId path }
        actions := (availabilityOnData K method path srv.cfg data).actions
        escaped := (availabilityOnData K method path srv.cfg data).escaped } := by
  unfold sharedAvailabilityOnData availabilityOnData
  simp only [sharedAvailabilityBlock_assignNfId]
  simp only [Server.assignNfId]

/-- A call on the shared state does what the callback does alone. -/
theorem Stream.onData_alone (C : Common) (K : Codec) (stream : Stream) (srv : Server)
    (data : List UInt8) :
    (stream.onData C K srv data).actions = (stream.onDataAlone C K srv.cfg data).actions ∧
      (stream.onData C K srv data).escaped = (stream.onDataAlone C K srv.cfg data).escaped ∧
      (stream.onData C K srv data).state.cfg = (stream.onDataAlone C K srv.cfg data).state := by
  obtain ⟨resource, method, path, query⟩ := stream
  cases resource with
  | networkSliceInformation => exact ⟨rfl, rfl, rfl⟩
  | nfInstanceId =>
    simp only [Stream.onData, Stream.onDataAlone, sharedAvailabilityOnData_eq, and_self]
  | subscriptions => exact ⟨rfl, rfl, rfl⟩
  | sliceConfig => exact ⟨rfl, rfl, rfl⟩
  | apiList => exact ⟨rfl, rfl, rfl⟩

/-- No callback changes the configuration. -/
theorem Stream.onDataAlone_state (C : Common) (K : Codec) (stream : Stream) (cfg : NssfConfig)
    (data : List UInt8) : (stream.onDataAlone C K cfg data).state = cfg := by
  unfold Stream.onDataAlone
  cases stream.resource with
  | networkSliceInformation => exact nsSelectionOnData_state C K _ _ cfg data
  | nfInstanceId => exact preserves_availabilityOnData K _ _ cfg data
  | subscriptions => rfl
  | sliceConfig => rfl
  | apiList => rfl

/-! ## The server as an answer to each call -/

variable (C K cfg)

/-- What the configuration decides about a call on a stream. -/
def Stream.answer (stream : Stream) (data : List UInt8) : Answer Action where
  actions := (stream.onDataAlone C K cfg data).actions
  escaped := (stream.onDataAlone C K cfg data).escaped

theorem Stream.answers (stream : Stream) :
    Answers (stream.onDataAlone C K) (· = cfg) (stream.answer C K cfg) :=
  Preserves.answers (stream.onDataAlone_state C K cfg)

theorem server_answers {κ : Type} (streams : κ → Stream) :
    Answers (onData C K streams) (fun srv => srv.cfg = cfg)
      (tagged fun k => (streams k).answer C K cfg) where
  actions := by
    rintro srv rfl ⟨k, data⟩
    have halone := ((streams k).onData_alone C K srv data).1
    exact congrArg (List.map (Prod.mk k)) halone
  escaped := by
    rintro srv rfl ⟨k, data⟩
    exact ((streams k).onData_alone C K srv data).2.1
  keeps := by
    rintro srv rfl ⟨k, data⟩
    have halone := ((streams k).onData_alone C K srv data).2.2
    exact halone.trans ((streams k).onDataAlone_state C K srv.cfg data)

/-- The calls that are handled before the server ends. -/
def handledCalls {κ : Type} (streams : κ → Stream) (calls : List (κ × List UInt8)) :
    List (κ × List UInt8) :=
  handled (tagged fun k => (streams k).answer C K cfg) calls

variable {C K cfg}

/-- What is sent on a stream is what its callback sends alone. -/
theorem ofSession_serve {κ : Type} [DecidableEq κ] (C : Common) (K : Codec) (streams : κ → Stream)
    (cfg : NssfConfig) (calls : List (κ × List UInt8)) (k : κ) :
    ofSession k (serve C K streams cfg calls).actions =
      (run ((streams k).onDataAlone C K) cfg
        (ofSession k (handledCalls C K cfg streams calls))).actions :=
  ofSession_run (server_answers C K cfg streams) rfl (fun k => (streams k).answers C K cfg) rfl
    calls k

theorem handledCalls_of_not_escaped {κ : Type} {streams : κ → Stream}
    {calls : List (κ × List UInt8)} (h : (serve C K streams cfg calls).escaped = false) :
    handledCalls C K cfg streams calls = calls :=
  (server_answers C K cfg streams).handled_of_not_escaped rfl h

/-! ## The calls that end the server -/

/-- A call that decodes something and meets an exception that is not one of nlohmann's. -/
def Stream.Throws (K : Codec) (stream : Stream) (data : List UInt8) : Prop :=
  match stream.resource with
  | .networkSliceInformation =>
    stream.method = "GET" ∧ Escapes (decodeSelection K stream.query)
  | .nfInstanceId =>
    pathNfId stream.path ≠ "" ∧ data ≠ [] ∧
      ((stream.method = "PUT" ∧ Escapes (K.parseNssaiAvailabilityInfo (cStrBytes data))) ∨
        (stream.method = "PATCH" ∧ Escapes (K.parsePatchItems (cStrBytes data))))
  | _ => False

theorem catchJson_escaped_map_iff {α : Type} (cfg : NssfConfig) (x : Except Exn α)
    (f : α → List Action × NssfConfig) :
    (catchJson cfg (x.map f)).escaped = true ↔ Escapes x := by
  cases x with
  | ok a => exact iff_of_false (by simp [catchJson, Except.map]) (fun h => h)
  | error e =>
    cases e with
    | json what => exact iff_of_false (by simp [catchJson, Except.map]) (fun h => h)
    | other what => exact iff_of_true rfl trivial

theorem nsSelectionOnData_escaped_iff (C : Common) (method : String) (query : Query)
    (cfg : NssfConfig) (data : List UInt8) :
    (nsSelectionOnData C K method query cfg data).escaped = true ↔
      method = "GET" ∧ Escapes (decodeSelection K query) := by
  by_cases hget : method = "GET"
  · subst hget
    rw [nsSelectionOnData_get, catchJson_escaped_map_iff, eq_self_iff_true, true_and]
  · refine iff_of_false ?_ (fun h => hget h.1)
    simp [nsSelectionOnData, if_neg hget, catchJson]

theorem availabilityOnData_escaped_iff (method path : String) (cfg : NssfConfig)
    (data : List UInt8) :
    (availabilityOnData K method path cfg data).escaped = true ↔
      pathNfId path ≠ "" ∧ data ≠ [] ∧
        ((method = "PUT" ∧ Escapes (K.parseNssaiAvailabilityInfo (cStrBytes data))) ∨
          (method = "PATCH" ∧ Escapes (K.parsePatchItems (cStrBytes data)))) := by
  rw [availabilityOnData, availabilityBlock_eq]
  split_ifs with hput hpatch
  · obtain ⟨hnfId, hdata, rfl⟩ := hput
    rw [catchJson_escaped_map_iff]
    simp [hnfId, hdata]
  · obtain ⟨hnfId, hdata, rfl⟩ := hpatch
    rw [catchJson_escaped_map_iff]
    simp [hnfId, hdata]
  · refine iff_of_false (by simp [catchJson]) ?_
    rintro ⟨hnfId, hdata, ⟨hmethod, -⟩ | ⟨hmethod, -⟩⟩
    · exact hput ⟨hnfId, hdata, hmethod⟩
    · exact hpatch ⟨hnfId, hdata, hmethod⟩

theorem Stream.answer_escaped_iff (stream : Stream) (data : List UInt8) :
    (stream.answer C K cfg data).escaped = true ↔ stream.Throws K data := by
  obtain ⟨resource, method, path, query⟩ := stream
  cases resource with
  | networkSliceInformation =>
    simp only [Stream.answer, Stream.onDataAlone, Stream.Throws, nsSelectionOnData_escaped_iff]
  | nfInstanceId =>
    simp only [Stream.answer, Stream.onDataAlone, Stream.Throws, availabilityOnData_escaped_iff]
  | subscriptions => exact iff_of_false Bool.false_ne_true id
  | sliceConfig => exact iff_of_false Bool.false_ne_true id
  | apiList => exact iff_of_false Bool.false_ne_true id

/-- Such a call sends nothing. -/
theorem Stream.answer_of_throws {stream : Stream} {data : List UInt8}
    (h : stream.Throws K data) : (stream.answer C K cfg data).actions = [] := by
  have hesc : (stream.answer C K cfg data).escaped = true :=
    (stream.answer_escaped_iff data).mpr h
  obtain ⟨resource, method, path, query⟩ := stream
  cases resource with
  | networkSliceInformation =>
    simp only [Stream.answer, Stream.onDataAlone] at hesc ⊢
    exact catchJson_escaped hesc
  | nfInstanceId =>
    simp only [Stream.answer, Stream.onDataAlone] at hesc ⊢
    exact catchJson_escaped hesc
  | subscriptions => exact h.elim
  | sliceConfig => exact h.elim
  | apiList => exact h.elim

/-- An exception leaves a run when a call throws one. -/
theorem escaped_serve_iff {κ : Type} (streams : κ → Stream) (calls : List (κ × List UInt8)) :
    (serve C K streams cfg calls).escaped = true ↔
      ∃ call ∈ calls, (streams call.1).Throws K call.2 := by
  rw [serve, (server_answers C K cfg streams).run_escaped rfl]
  exact exists_congr fun call => and_congr_right fun _ => (streams call.1).answer_escaped_iff call.2

/-! ## The server -/

/-- For every interleaving of the calls of any streams: a prefix of the calls is handled,
    which is all of them unless an exception escapes; on each stream is sent what its callback
    sends alone, with the configuration loaded at the start, on the calls of the stream in
    this prefix; and the configuration is the same at the end. -/
theorem streams_served_alone {κ : Type} [DecidableEq κ] (C : Common) (K : Codec)
    (streams : κ → Stream) (cfg : NssfConfig) (calls : List (κ × List UInt8)) :
    (serve C K streams cfg calls).state.cfg = cfg ∧
      ∃ handled, handled <+: calls ∧
        ((serve C K streams cfg calls).escaped = false → handled = calls) ∧
        ∀ k, ofSession k (serve C K streams cfg calls).actions =
          (run ((streams k).onDataAlone C K) cfg (ofSession k handled)).actions :=
  ⟨(server_answers C K cfg streams).run_state rfl calls,
    handledCalls C K cfg streams calls, handled_isPrefix calls, handledCalls_of_not_escaped,
    ofSession_serve C K streams cfg calls⟩

/-- One request ends the server for all: an exception leaves a run exactly when a call makes
    a decoder throw something other than nlohmann's exceptions, and from the first such call
    on nothing is sent on any stream. -/
theorem throwing_call_ends_server {κ : Type} [DecidableEq κ] (C : Common) (K : Codec)
    (streams : κ → Stream) (cfg : NssfConfig) (calls : List (κ × List UInt8)) :
    ((serve C K streams cfg calls).escaped = true ↔
      ∃ call ∈ calls, (streams call.1).Throws K call.2) ∧
    ∀ before call after, calls = before ++ call :: after →
      (∀ c ∈ before, ¬(streams c.1).Throws K c.2) → (streams call.1).Throws K call.2 →
      ∀ k, ofSession k (serve C K streams cfg calls).actions =
        ofSession k (serve C K streams cfg before).actions := by
  refine ⟨escaped_serve_iff streams calls, ?_⟩
  rintro before call after rfl hbefore hcall k
  have hserver := server_answers C K cfg streams
  have hnot : ∀ c ∈ before,
      (tagged (fun k => (streams k).answer C K cfg) c).escaped = false := by
    intro c hc
    rw [← Bool.not_eq_true]
    exact fun h => hbefore c hc (((streams c.1).answer_escaped_iff c.2).mp h)
  have hesc : (tagged (fun k => (streams k).answer C K cfg) call).escaped = true :=
    ((streams call.1).answer_escaped_iff call.2).mpr hcall
  have hnone : (tagged (fun k => (streams k).answer C K cfg) call).actions = [] := by
    show ((streams call.1).answer C K cfg call.2).actions.map (Prod.mk call.1) = []
    rw [Stream.answer_of_throws hcall, List.map_nil]
  rw [serve, serve, hserver.run_actions rfl, hserver.run_actions rfl,
    handled_append_cons hnot hesc, handled_eq_self hnot, List.flatMap_append,
    List.flatMap_singleton, hnone, List.append_nil]

/-- Two interleavings that have the same calls on each stream: an exception ends the server
    in both or in none, and if in none, the same is sent on every stream. -/
theorem interleaving_irrelevant {κ : Type} [DecidableEq κ] (C : Common) (K : Codec)
    (streams : κ → Stream) (cfg : NssfConfig) {calls calls' : List (κ × List UInt8)}
    (hsame : ∀ k, ofSession k calls = ofSession k calls') :
    (serve C K streams cfg calls).escaped = (serve C K streams cfg calls').escaped ∧
      ((serve C K streams cfg calls).escaped = false →
        ∀ k, ofSession k (serve C K streams cfg calls).actions =
          ofSession k (serve C K streams cfg calls').actions) :=
  run_of_ofSession_eq (server_answers C K cfg streams) rfl hsame

/-- Two GETs of the API list, answered in either order. -/
theorem interleaving_irrelevant_sample :
    let streams : Bool → Stream := fun _ => { resource := .apiList, method := "GET" }
    ofSession true (serve sampleCommon sampleCodec streams {} [(true, []), (false, [])]).actions =
      ofSession true
        (serve sampleCommon sampleCodec streams {} [(false, []), (true, [])]).actions := by
  intro streams
  have hsame : ∀ k, ofSession k [(true, ([] : List UInt8)), (false, [])] =
      ofSession k [(false, []), (true, [])] := by decide
  have hrun : (serve sampleCommon sampleCodec streams {} [(true, []), (false, [])]).escaped =
      false := rfl
  exact (interleaving_irrelevant sampleCommon sampleCodec streams {} hsame).2 hrun true

end OaiNssf.Http2
