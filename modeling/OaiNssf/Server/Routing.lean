import OaiNssf.Server.Framing

/-!
# Which requests reach a handler

Both servers build their routes from the same constants. The API version is missing in one of
them: the subscription resource, which can be changed under its versioned path, cannot be
deleted there. The HTTP/1 server reads the path as it was sent, the HTTP/2 server with its
percent-escapes resolved. The identifier of an AMF is the last segment of the path for the one,
and what follows the last slash for the other. A path that no route names is an error for the
one, and the root for the other.

* `subscription_routes`: the subscription resource of the HTTP/1 server.
* `nf_instance_ids_agree_iff`: the identifier of an AMF, as each server reads it from a path.
* `put_below_nf_instance`: paths that only the HTTP/2 server takes for those of an AMF.
* `unknown_paths_differ`: the two servers on a path without a route.
-/

namespace OaiNssf

open PathPattern
open SliceSelect (sampleCommon)

/-! ## The subscription resource -/

namespace Http1

variable {find : List (Pattern × Handler) → List String → Option (Handler × Params)} {P : Paths}
  {base resource : String}

/-- How the constants are put together: the base ends with a slash, the resource begins with
    one, and the version is one segment. The resource of a subscription is not as long as the
    one of an AMF. -/
structure SubscriptionPaths (P : Paths) (base resource : String) : Prop where
  base_eq : P.nssfNssaiAvailabilityBase = base ++ "/"
  resource_eq : P.nssfNssaiAvailabilityPathSubscriptionId = "/" ++ resource
  apiVersion_ne : P.apiVersion ≠ ""
  slash_notMem : '/' ∉ P.apiVersion.toList
  length_ne : (segments resource).length ≠ 2

theorem length_pattern (path : String) : (pattern path).length = (segments path).length :=
  List.length_map _

namespace SubscriptionPaths

variable (hP : SubscriptionPaths P base resource)
include hP

theorem segments_versioned (rest : String) :
    segments (P.nssfNssaiAvailabilityBase ++ P.apiVersion ++ ("/" ++ rest)) =
      segments base ++ [P.apiVersion] ++ segments rest := by
  rw [← String.append_assoc, segments_append, hP.base_eq, segments_append,
    segments_eq_singleton hP.apiVersion_ne hP.slash_notMem]

theorem segments_unversioned :
    segments (P.nssfNssaiAvailabilityBase ++ P.nssfNssaiAvailabilityPathSubscriptionId) =
      segments base ++ segments resource := by
  rw [hP.resource_eq, hP.base_eq, ← String.append_assoc, segments_append, segments_append_slash]

end SubscriptionPaths

/-- The path of the subscription resource, as the other routes have it. -/
def versionedSubscription (P : Paths) : String :=
  P.nssfNssaiAvailabilityBase ++ P.apiVersion ++ P.nssfNssaiAvailabilityPathSubscriptionId

/-- The path of the resource of an AMF. -/
def versionedNfInstance (P : Paths) : String :=
  P.nssfNssaiAvailabilityBase ++ P.apiVersion ++ "/nssai-availability/:nfId"

theorem routeTable_patch (P : Paths) :
    routeTable P "PATCH" =
      [(pattern (versionedNfInstance P), .nSsaiAvailabilityPatch),
        (pattern (versionedSubscription P), .nSsaiAvailabilitySubModifyPatch)] := rfl

theorem routeTable_delete (P : Paths) :
    routeTable P "DELETE" =
      [(pattern (versionedNfInstance P), .nSsaiAvailabilityDelete),
        (pattern (P.nssfNssaiAvailabilityBase ++ P.nssfNssaiAvailabilityPathSubscriptionId),
          .nSsaiAvailabilityUnsubscribe)] := rfl

/-- A pattern of another length does not match. -/
theorem bindings_eq_none_of_length {p : Pattern} {path : List String}
    (h : path.length ≠ p.length) : bindings p path = none := by
  cases hbind : bindings p path with
  | none => rfl
  | some params => exact absurd (length_of_bindings hbind) h

/-- What no route of the method matches is answered by the default handler. -/
theorem respond_of_find_eq_none (C : Common) (K : Codec) (L : Libraries) (cfg : NssfConfig)
    {r : RawRequest} (h : find (routeTable P r.method) (segments r.resource) = none) :
    respond C K L cfg find P r = notFoundReply := by
  unfold respond dispatch
  rw [h]
  rfl

/-- Under the versioned path of a subscription, PATCH reaches its handler with the parameters
    of the path, for any router, and DELETE is answered as a method that does not exist. -/
theorem subscription_routes (C : Common) (K : Codec) (L : Libraries) (cfg : NssfConfig)
    (hfind : IsRouter find) (hP : SubscriptionPaths P base resource) {path : String}
    {params : Params}
    (hpath : bindings (pattern (versionedSubscription P)) (segments path) = some params)
    (query : Query) (body : List UInt8) :
    dispatch find P ⟨"PATCH", path, query, body⟩ = (.nSsaiAvailabilitySubModifyPatch, params) ∧
      respond C K L cfg find P ⟨"DELETE", path, query, body⟩ = notFoundReply := by
  have hlength : (segments path).length =
      (segments base).length + 1 + (segments resource).length := by
    rw [length_of_bindings hpath, length_pattern, versionedSubscription, hP.resource_eq,
      hP.segments_versioned, List.length_append, List.length_append, List.length_singleton]
  have hamf : bindings (pattern (versionedNfInstance P)) (segments path) = none := by
    apply bindings_eq_none_of_length
    have hlong : (segments (versionedNfInstance P)).length = (segments base).length + 1 + 2 := by
      show (segments (P.nssfNssaiAvailabilityBase ++ P.apiVersion ++
        ("/" ++ "nssai-availability/:nfId"))).length = _
      rw [hP.segments_versioned, List.length_append, List.length_append, List.length_singleton]
      rfl
    have hne := hP.length_ne
    rw [length_pattern, hlength, hlong]
    omega
  constructor
  · have hfound : find (routeTable P "PATCH") (segments path) =
        some (.nSsaiAvailabilitySubModifyPatch, params) := by
      rw [routeTable_patch]
      apply hfind.find_eq
      · exact ⟨_, List.mem_cons_of_mem _ List.mem_cons_self, rfl, hpath⟩
      · simp [hamf, hpath]
    unfold dispatch
    rw [hfound]
    rfl
  · have hunsubscribe : bindings (pattern (P.nssfNssaiAvailabilityBase ++
        P.nssfNssaiAvailabilityPathSubscriptionId)) (segments path) = none := by
      apply bindings_eq_none_of_length
      rw [length_pattern, hlength, hP.segments_unversioned, List.length_append]
      omega
    apply respond_of_find_eq_none
    rw [routeTable_delete]
    apply hfind.find_eq_none
    simp [hamf, hunsubscribe]

/-- The subscription `7`. -/
theorem subscription_routes_sample :
    respond sampleCommon sampleCodec sampleLibraries {} findFirst samplePaths
        ⟨"DELETE", "/nnssf-nssaiavailability/v1/nssai-availability/subscriptions/7",
          fun _ => none, []⟩ = notFoundReply := by
  have hP : SubscriptionPaths samplePaths "/nnssf-nssaiavailability"
      "nssai-availability/subscriptions/:subscriptionId" :=
    ⟨by decide, by decide, by decide, by decide, by decide⟩
  have hpath : bindings (pattern (versionedSubscription samplePaths))
      (segments "/nnssf-nssaiavailability/v1/nssai-availability/subscriptions/7") =
        some [(":subscriptionId", "7")] := by decide +kernel
  exact (subscription_routes sampleCommon sampleCodec sampleLibraries {} findFirst_isRouter hP
    hpath (fun _ => none) []).2

/-! ## The identifier of an AMF -/

/-- A route with the handler of a PUT is the resource of an AMF. -/
theorem eq_of_mem_routeTable_put {P : Paths} {method : String} {entry : Pattern × Handler}
    (hentry : entry ∈ routeTable P method) (hput : entry.2 = .nSsaiAvailabilityPut) :
    entry.1 = pattern (versionedNfInstance P) := by
  obtain ⟨route, hroute, rfl⟩ := List.mem_map.mp hentry
  have hmem := (List.mem_filter.mp hroute).1
  dsimp only at hput ⊢
  simp only [routes, List.mem_cons, List.not_mem_nil, or_false] at hmem
  rcases hmem with rfl | rfl | rfl | rfl | rfl | rfl | rfl | rfl | rfl | rfl
  all_goals first | rfl | cases hput

/-- The pattern of the resource of an AMF is fixed up to the identifier. -/
theorem pattern_versionedNfInstance {P : Paths}
    (hfixed : ∀ s ∈ segments (P.nssfNssaiAvailabilityBase ++ P.apiVersion),
      s.toList.head? ≠ some ':') :
    ∃ p : Pattern, (∀ segment ∈ p, ∃ text, segment = .fixed text) ∧
      pattern (versionedNfInstance P) = p ++ [.param ":nfId"] := by
  refine ⟨(segments (P.nssfNssaiAvailabilityBase ++ P.apiVersion)).map Segment.ofString ++
    [.fixed "nssai-availability"], ?_, ?_⟩
  · intro segment hsegment
    rcases List.mem_append.mp hsegment with hsegment | hsegment
    · obtain ⟨s, hs, rfl⟩ := List.mem_map.mp hsegment
      exact ⟨s, if_neg (hfixed s hs)⟩
    · exact ⟨_, List.mem_singleton.mp hsegment⟩
  · have hpath : versionedNfInstance P = P.nssfNssaiAvailabilityBase ++ P.apiVersion ++ "/" ++
        "nssai-availability/:nfId" := by
      rw [String.append_assoc]
      rfl
    rw [pattern, hpath, segments_append, List.map_append, List.append_assoc]
    rfl

end Http1

namespace Http2

/-- The plain pattern of the NF Instance ID route of the HTTP/2 server. -/
def nfInstanceRoute (P : Paths) : String :=
  P.nssfNssaiAvailabilityBase ++ P.apiVersion ++ P.nssfNssaiAvailabilityPathNssaiAvailability

/-- A path that is not redirected, that the pattern of the NF Instance ID route names, and that
    no pattern as long as this one gives to another route. -/
structure UnderNfInstance (P : Paths) (path : String) : Prop where
  served : Served (muxTable P) path
  names : Names (nfInstanceRoute P) path
  longest : ∀ entry ∈ muxTable P, Names entry.1 path →
    (nfInstanceRoute P).length ≤ entry.1.length → entry.2 = .nfInstanceId

instance (P : Paths) (path : String) : Decidable (UnderNfInstance P path) :=
  decidable_of_iff
    (Served (muxTable P) path ∧ Names (nfInstanceRoute P) path ∧
      ∀ entry ∈ muxTable P, Names entry.1 path →
        (nfInstanceRoute P).length ≤ entry.1.length → entry.2 = .nfInstanceId)
    ⟨fun ⟨served, names, longest⟩ => ⟨served, names, longest⟩,
      fun ⟨served, names, longest⟩ => ⟨served, names, longest⟩⟩

theorem UnderNfInstance.mux_eq {P : Paths} {path : String} (h : UnderNfInstance P path)
    {mux : List (String × Resource) → String → Option Resource} (hmux : IsMux mux) :
    mux (muxTable P) path = some .nfInstanceId := by
  have hmem : (nfInstanceRoute P, .nfInstanceId) ∈ muxTable P := by
    simp [muxTable, nfInstanceRoute]
  exact hmux.mux_eq h.served hmem h.names h.longest

/-- What comes before a slash is not read. -/
theorem pathNfId_append (dir rest : String) : pathNfId (dir ++ "/" ++ rest) = pathNfId rest := by
  have htoList : (dir ++ "/" ++ rest).toList = dir.toList ++ '/' :: rest.toList := by
    simp [String.toList_append]
  have hsplit : (dir ++ "/" ++ rest).toList.splitOn '/' =
      dir.toList.splitOn '/' ++ rest.toList.splitOn '/' := by
    rw [htoList, List.splitOn_append_cons_self]
  have hlast : ((dir ++ "/" ++ rest).toList.splitOn '/').getLast (List.splitOn_ne_nil _ _) =
      (rest.toList.splitOn '/').getLast (List.splitOn_ne_nil _ _) := by
    simp only [hsplit]
    exact List.getLast_append_of_ne_nil _ _
  rw [pathNfId, hlast, pathNfId]

/-- A text without slashes is read as a whole, up to a NUL. -/
theorem pathNfId_eq_cStr {rest : String} (hrest : '/' ∉ rest.toList) :
    pathNfId rest = cStr rest := by
  have hlast : (rest.toList.splitOn '/').getLast (List.splitOn_ne_nil _ _) = rest.toList := by
    simp only [List.splitOn_eq_singleton hrest, List.getLast_singleton]
  rw [pathNfId, hlast, String.ofList_toList]

theorem length_pathNfId_le (path : String) : (pathNfId path).length ≤ path.length := by
  have hcStr := (List.takeWhile_sublist (· ≠ '\x00')
    (l := (path.toList.splitOn '/').getLast (List.splitOn_ne_nil _ _))).length_le
  have hlast := (getLast_splitOn_suffix path.toList).length_le
  rw [pathNfId, cStr, String.length_ofList, String.toList_ofList]
  exact hcStr.trans hlast

end Http2

/-- A string without NUL is its own C string. -/
theorem cStr_eq_self_iff (s : String) : cStr s = s ↔ '\x00' ∉ s.toList := by
  have htoList : cStr s = s ↔ s.toList.takeWhile (· ≠ '\x00') = s.toList := by
    rw [← String.toList_inj, cStr, String.toList_ofList]
  rw [htoList, List.takeWhile_eq_self_iff]
  constructor
  · intro h hmem
    simpa using h '\x00' hmem
  · intro h c hc
    simpa using ne_of_mem_of_not_mem hc h

/-- The identifier that the HTTP/2 server reads from a decoded last segment is the segment itself
    only if it has neither an escape nor a NUL. -/
theorem Http2.pathNfId_decode_eq_iff {decode : String → String} (hdecode : IsDecoding decode)
    {rest : String} (hrest : '/' ∉ rest.toList) :
    Http2.pathNfId (decode rest) = rest ↔ decode rest = rest ∧ '\x00' ∉ rest.toList := by
  constructor
  · intro h
    have hlong : rest.length ≤ (decode rest).length := by
      calc rest.length = (Http2.pathNfId (decode rest)).length := by rw [h]
        _ ≤ (decode rest).length := Http2.length_pathNfId_le _
    have hself : decode rest = rest :=
      hdecode.eq_self (Nat.le_antisymm (hdecode.length_le rest) hlong)
    rw [hself, Http2.pathNfId_eq_cStr hrest, cStr_eq_self_iff] at h
    exact ⟨hself, h⟩
  · rintro ⟨hself, hnul⟩
    rw [hself, Http2.pathNfId_eq_cStr hrest, cStr_eq_self_iff]
    exact hnul

/-- A PUT that reaches its handler binds the identifier to the last segment of its path. -/
theorem Http1.lookup_nfId_of_put
    {find : List (Pattern × Http1.Handler) → List String → Option (Http1.Handler × Params)}
    (hfind : IsRouter find) {P : Paths}
    (hfixed : ∀ s ∈ segments (P.nssfNssaiAvailabilityBase ++ P.apiVersion),
      s.toList.head? ≠ some ':')
    {r : Http1.RawRequest} (hput : (Http1.dispatch find P r).1 = .nSsaiAvailabilityPut) :
    ∃ before s, segments r.resource = before ++ [s] ∧
      (Http1.dispatch find P r).2.lookup ":nfId" = some s := by
  obtain ⟨p, hp, hpattern⟩ := Http1.pattern_versionedNfInstance hfixed
  unfold Http1.dispatch at hput ⊢
  cases hfound : find (Http1.routeTable P r.method) (segments r.resource) with
  | none => simp [hfound] at hput
  | some found =>
    obtain ⟨handler, params⟩ := found
    obtain ⟨entry, hentry, hhandler, hbind⟩ := hfind.found hfound
    have hentryPut : entry.2 = .nSsaiAvailabilityPut := by
      rw [hhandler]
      simpa [hfound] using hput
    rw [Http1.eq_of_mem_routeTable_put hentry hentryPut, hpattern] at hbind
    obtain ⟨before, s, hsegments, hparams⟩ := bindings_concat_param hp hbind
    exact ⟨before, s, hsegments, by simp [hparams]⟩

/-- A PUT that reaches its handler on the HTTP/1 server, its path as it was sent put apart at the
    last slash. The HTTP/2 server reads the decoded path, which is one under its NF Instance ID
    route. The identifier that the one hands on is the one that the other reads exactly when the
    path does not end in a slash and what follows the last slash has neither an escape nor a NUL.
    On a path that ends in a slash the HTTP/2 server does nothing. -/
theorem nf_instance_ids_agree_iff
    {find : List (Pattern × Http1.Handler) → List String → Option (Http1.Handler × Params)}
    (hfind : IsRouter find) {mux : List (String × Http2.Resource) → String → Option Http2.Resource}
    (hmux : IsMux mux) {decode : String → String} (hdecode : IsDecoding decode) {P : Paths}
    (hfixed : ∀ s ∈ segments (P.nssfNssaiAvailabilityBase ++ P.apiVersion),
      s.toList.head? ≠ some ':')
    {dir rest : String} (hrest : '/' ∉ rest.toList) {method : String} {query : Query}
    {body : List UInt8}
    (hput : (Http1.dispatch find P ⟨method, dir ++ "/" ++ rest, query, body⟩).1 =
      .nSsaiAvailabilityPut)
    (hunder : Http2.UnderNfInstance P (decode (dir ++ "/" ++ rest))) :
    mux (Http2.muxTable P) (decode (dir ++ "/" ++ rest)) = some .nfInstanceId ∧
    ((Http1.dispatch find P ⟨method, dir ++ "/" ++ rest, query, body⟩).2.lookup ":nfId" =
        some (Http2.pathNfId (decode (dir ++ "/" ++ rest))) ↔
      rest ≠ "" ∧ decode rest = rest ∧ '\x00' ∉ rest.toList) ∧
    (rest = "" → ∀ K method cfg data,
      Http2.availabilityOnData K method (decode (dir ++ "/" ++ rest)) cfg data =
        { state := cfg, actions := [] }) := by
  have hnfId : Http2.pathNfId (decode (dir ++ "/" ++ rest)) = Http2.pathNfId (decode rest) := by
    rw [hdecode.append_slash, Http2.pathNfId_append]
  refine ⟨hunder.mux_eq hmux, ?_, ?_⟩
  · obtain ⟨before, s, hsegments, hlookup⟩ := Http1.lookup_nfId_of_put hfind hfixed hput
    have hs : s ≠ "" := ne_of_mem_segments (by rw [hsegments]; simp)
    rw [hlookup, hnfId, Option.some_inj]
    by_cases hempty : rest = ""
    · -- the last segment comes before the slash
      rw [hempty, hdecode.empty]
      exact iff_of_false hs fun h => h.1 rfl
    · have hlast : s = rest := by
        rw [segments_append, segments_eq_singleton hempty hrest] at hsegments
        exact (List.append_singleton_inj.mp hsegments).2.symm
      rw [hlast, eq_comm, Http2.pathNfId_decode_eq_iff hdecode hrest, and_iff_right hempty]
  · rintro rfl K method cfg data
    rw [hdecode.empty] at hnfId
    exact Http2.availabilityOnData_idle (Or.inl (hnfId.trans rfl))

/-- The path of `amf-1`, the same path with a slash at the end, and one with an escape. -/
theorem nf_instance_ids_agree_iff_sample :
    let path := "/nnssf-nssaiavailability/v1/nssai-availability"
    let nfId := fun path =>
      (Http1.dispatch findFirst Http1.samplePaths ⟨"PUT", path, fun _ => none, []⟩).2.lookup ":nfId"
    nfId (path ++ "/" ++ "amf-1") =
        some (Http2.pathNfId (percentDecode (path ++ "/" ++ "amf-1"))) ∧
      nfId (path ++ "/amf-1" ++ "/" ++ "") ≠
        some (Http2.pathNfId (percentDecode (path ++ "/amf-1" ++ "/" ++ ""))) ∧
      nfId (path ++ "/" ++ "amf%201") ≠
        some (Http2.pathNfId (percentDecode (path ++ "/" ++ "amf%201"))) := by
  intro path nfId
  have hfixed : ∀ s ∈ segments
      (Http1.samplePaths.nssfNssaiAvailabilityBase ++ Http1.samplePaths.apiVersion),
      s.toList.head? ≠ some ':' := by decide
  have hagree : ∀ dir rest : String, '/' ∉ rest.toList →
      (Http1.dispatch findFirst Http1.samplePaths
          ⟨"PUT", dir ++ "/" ++ rest, fun _ => none, []⟩).1 = .nSsaiAvailabilityPut ∧
        Http2.UnderNfInstance Http1.samplePaths (percentDecode (dir ++ "/" ++ rest)) →
      (nfId (dir ++ "/" ++ rest) = some (Http2.pathNfId (percentDecode (dir ++ "/" ++ rest))) ↔
        rest ≠ "" ∧ percentDecode rest = rest ∧ '\x00' ∉ rest.toList) :=
    fun dir rest hrest h => (nf_instance_ids_agree_iff findFirst_isRouter findLongest_isMux
      percentDecode_isDecoding hfixed hrest h.1 h.2).2.1
  refine ⟨?_, ?_, ?_⟩
  · exact (hagree path "amf-1" (by decide) (by decide +kernel)).mpr (by decide)
  · intro h
    exact ((hagree (path ++ "/amf-1") "" (by decide) (by decide +kernel)).mp h).1 rfl
  · intro h
    have hself := ((hagree path "amf%201" (by decide) (by decide +kernel)).mp h).2.1
    exact absurd hself (by decide)

/-! ## Below the resource of an AMF -/

theorem Http1.routeTable_put (P : Paths) :
    Http1.routeTable P "PUT" =
      [(pattern (Http1.versionedNfInstance P), .nSsaiAvailabilityPut)] := rfl

/-- The callback of the NF Instance ID route reads only the last segment of the path. -/
theorem Http2.nssaiAvailabilityRoute_eq (K : Codec) (cfg : NssfConfig) {method path path' : String}
    (hnfId : Http2.pathNfId path = Http2.pathNfId path') (query : Query)
    (chunks : List Http2.Chunk) :
    Http2.nssaiAvailabilityRoute K cfg ⟨method, path, query, chunks⟩ =
      Http2.nssaiAvailabilityRoute K cfg ⟨method, path', query, chunks⟩ := by
  have honData : Http2.availabilityOnData K method path =
      Http2.availabilityOnData K method path' := by
    funext cfg data
    simp only [Http2.availabilityOnData, Http2.availabilityBlock, hnfId]
  unfold Http2.nssaiAvailabilityRoute
  rw [honData]
  rfl

/-- A path that has not as many segments as the resource of an AMF, and is decoded to one under
    the NF Instance ID route of the HTTP/2 server. The HTTP/1 server, which reads the path as it
    was sent, responds to a PUT that the method does not exist. The HTTP/2 server serves every
    request, all its calls together, as one on the resource of an AMF, with what follows a slash
    of the decoded path as the identifier. -/
theorem put_below_nf_instance (C : Common) (K : Codec) (L : Http1.Libraries) (cfg : NssfConfig)
    {find : List (Pattern × Http1.Handler) → List String → Option (Http1.Handler × Params)}
    (hfind : IsRouter find) {mux : List (String × Http2.Resource) → String → Option Http2.Resource}
    (hmux : IsMux mux) {decode : String → String} {P : Paths} {path dir rest : String}
    (hdecoded : decode path = dir ++ "/" ++ rest)
    (hlength : (segments path).length ≠ (segments (Http1.versionedNfInstance P)).length)
    (hunder : Http2.UnderNfInstance P (decode path)) :
    (∀ query body,
      Http1.respond C K L cfg find P ⟨"PUT", path, query, body⟩ = Http1.notFoundReply) ∧
    mux (Http2.muxTable P) (decode path) = some .nfInstanceId ∧
    ∀ method query chunks,
      Http2.nssaiAvailabilityRoute K cfg ⟨method, decode path, query, chunks⟩ =
        Http2.nssaiAvailabilityRoute K cfg
          ⟨method, P.nssfNssaiAvailabilityBase ++ P.apiVersion ++ "/nssai-availability" ++ "/" ++
            rest, query, chunks⟩ := by
  refine ⟨?_, hunder.mux_eq hmux, ?_⟩
  · intro query body
    apply Http1.respond_of_find_eq_none
    rw [Http1.routeTable_put]
    apply hfind.find_eq_none
    intro entry hentry
    rw [List.mem_singleton.mp hentry]
    exact Http1.bindings_eq_none_of_length (by rwa [Http1.length_pattern])
  · intro method query chunks
    apply Http2.nssaiAvailabilityRoute_eq
    rw [hdecoded, Http2.pathNfId_append, Http2.pathNfId_append]

/-- The path of the subscription `7`. -/
theorem put_below_nf_instance_sample :
    let path := "/nnssf-nssaiavailability/v1/nssai-availability/subscriptions/7"
    Http1.respond sampleCommon sampleCodec Http1.sampleLibraries {} findFirst Http1.samplePaths
        ⟨"PUT", path, fun _ => none, []⟩ = Http1.notFoundReply ∧
      findLongest (Http2.muxTable Http1.samplePaths) (percentDecode path) = some .nfInstanceId := by
  intro path
  have hdecoded : percentDecode path =
      "/nnssf-nssaiavailability/v1/nssai-availability/subscriptions" ++ "/" ++ "7" := by
    decide +kernel
  obtain ⟨hhttp1, hhttp2, -⟩ := put_below_nf_instance sampleCommon sampleCodec
    Http1.sampleLibraries {} findFirst_isRouter findLongest_isMux hdecoded
    (P := Http1.samplePaths) (by decide +kernel) (by decide +kernel)
  exact ⟨hhttp1 _ _, hhttp2⟩

/-! ## Paths without a route -/

/-- A path that no route of the HTTP/1 server matches as it was sent, and that the HTTP/2 server,
    once it is decoded, does not redirect and names by the root alone: the one responds that the
    method does not exist, whatever the method, the other gives the path to the root, where every
    call of a GET is answered with the list of APIs and nothing else is answered. -/
theorem unknown_paths_differ (C : Common) (K : Codec) (L : Http1.Libraries) (cfg : NssfConfig)
    {find : List (Pattern × Http1.Handler) → List String → Option (Http1.Handler × Params)}
    (hfind : IsRouter find) {mux : List (String × Http2.Resource) → String → Option Http2.Resource}
    (hmux : IsMux mux) {decode : String → String} {P : Paths} {path : String}
    (hserved : Served (Http2.muxTable P) (decode path))
    (hrouted : ∀ route ∈ Http1.routes P, bindings (pattern route.resource) (segments path) = none)
    (hnamed : ∀ entry ∈ Http2.muxTable P, Names entry.1 (decode path) → entry = ("/", .apiList)) :
    (∀ method query body,
      Http1.respond C K L cfg find P ⟨method, path, query, body⟩ = Http1.notFoundReply) ∧
    mux (Http2.muxTable P) (decode path) = some .apiList ∧
    ∀ method query data,
      Http2.Stream.reply C K cfg ⟨.apiList, method, decode path, query⟩ data =
        if method = "GET" then some ⟨HttpStatusCode.ok, some "application/json", .apiList⟩
        else none := by
  refine ⟨?_, ?_, fun _ _ _ => rfl⟩
  · intro method query body
    apply Http1.respond_of_find_eq_none
    apply hfind.find_eq_none
    intro entry hentry
    obtain ⟨route, hroute, rfl⟩ := List.mem_map.mp hentry
    exact hrouted route (List.mem_filter.mp hroute).1
  · have hmem : (("/", .apiList) : String × Http2.Resource) ∈ Http2.muxTable P := by
      simp [Http2.muxTable]
    apply hmux.mux_eq hserved hmem (names_root hserved.1.1)
    intro entry hentry hnames _
    rw [hnamed entry hentry hnames]

/-- The path `/nnssf`. -/
theorem unknown_paths_differ_sample :
    Http1.respond sampleCommon sampleCodec Http1.sampleLibraries {} findFirst Http1.samplePaths
        ⟨"GET", "/nnssf", fun _ => none, []⟩ = Http1.notFoundReply ∧
      findLongest (Http2.muxTable Http1.samplePaths) (percentDecode "/nnssf") =
        some .apiList := by
  have hserved : Served (Http2.muxTable Http1.samplePaths) (percentDecode "/nnssf") := by
    rw [Http2.muxTable]
    decide +kernel
  have hrouted : ∀ route ∈ Http1.routes Http1.samplePaths,
      bindings (pattern route.resource) (segments "/nnssf") = none := by
    rw [Http1.routes]
    decide +kernel
  have hnamed : ∀ entry ∈ Http2.muxTable Http1.samplePaths,
      Names entry.1 (percentDecode "/nnssf") → entry = ("/", .apiList) := by
    rw [Http2.muxTable]
    decide +kernel
  obtain ⟨hhttp1, hhttp2, -⟩ := unknown_paths_differ sampleCommon sampleCodec
    Http1.sampleLibraries {} findFirst_isRouter findLongest_isMux hserved hrouted hnamed
  exact ⟨hhttp1 _ _ _, hhttp2⟩

end OaiNssf
