import OaiNssf.Selection.Outcome

/-!
# Two selections side by side

What two runs of the registration handler, on different configurations and requests,
must have in common for their results to agree, and what "agree" means for lists that
may differ.

* `OutcomesAlike A Q K`: the results agree, but for the Allowed NSSAI, the rejected list
  and the candidates, which are written on both sides or on neither and are related by
  `A`, `Q` and `K`.
* `RegistrationsAlike A Q K`: the checks pass or fail alike, and the lists that the
  loops compute are so related.
* `RegistrationsAlike.outcomes`: then the results are alike.
* `ServesNssai.transfer`, `HasServingAmf.transfer`: what serves a request serves a
  related one.
-/

namespace OaiNssf.SliceSelect

open Coverage

/-! ## Results -/

/-- Both runs leave a field as it was, or both write it, with values related by `R`. -/
def BothWrite {α β : Type} (write : α → β) (R : α → α → Prop) (prior o o' : β) : Prop :=
  (o = prior ∧ o' = prior) ∨ ∃ a a', R a a' ∧ o = write a ∧ o' = write a'

theorem BothWrite.eq {α β : Type} {write : α → β} {prior o o' : β}
    (h : BothWrite write Eq prior o o') : o = o' := by
  rcases h with ⟨ho, ho'⟩ | ⟨a, a', rfl, ho, ho'⟩
  · rw [ho, ho']
  · rw [ho, ho']

/-- The Allowed NSSAI with the S-NSSAIs `allowed`. -/
def allowedNssaiOf (allowed : List Snssai) : Option (List AllowedNssai) :=
  some [⟨allowed.map AllowedSnssai.mk, ._3gppAccess⟩]

/-- The results agree in the status and the names of the target AMF set. -/
structure SameTarget (out out' : SelectionResult) : Prop where
  httpCode : out.httpCode = out'.httpCode
  targetAmfSet : out.authSliceInfo.targetAmfSet = out'.authSliceInfo.targetAmfSet
  nrfAmfSet : out.authSliceInfo.nrfAmfSet = out'.authSliceInfo.nrfAmfSet
  nrfAmfSetNfMgtUri :
    out.authSliceInfo.nrfAmfSetNfMgtUri = out'.authSliceInfo.nrfAmfSetNfMgtUri

/-- The results of two runs that were entered with `auth` agree, up to `A` on the
    Allowed NSSAI, `Q` on the rejected list and `K` on the candidates. -/
structure OutcomesAlike (A Q : List Snssai → List Snssai → Prop)
    (K : List String → List String → Prop) (auth : AuthorizedNetworkSliceInfo)
    (out out' : SelectionResult) : Prop extends SameTarget out out' where
  result : out.result = out'.result
  nsiInformation : out.authSliceInfo.nsiInformation = out'.authSliceInfo.nsiInformation
  candidateAmfList : BothWrite some K auth.candidateAmfList out.authSliceInfo.candidateAmfList
    out'.authSliceInfo.candidateAmfList
  allowedNssaiList : BothWrite allowedNssaiOf A auth.allowedNssaiList
    out.authSliceInfo.allowedNssaiList out'.authSliceInfo.allowedNssaiList
  rejectedNssaiInPlmn : BothWrite some Q auth.rejectedNssaiInPlmn
    out.authSliceInfo.rejectedNssaiInPlmn out'.authSliceInfo.rejectedNssaiInPlmn

/-- With equal lists throughout, the results are the same. -/
theorem OutcomesAlike.eq {auth : AuthorizedNetworkSliceInfo} {out out' : SelectionResult}
    (h : OutcomesAlike Eq Eq Eq auth out out') : out = out' := by
  have hcandidates := h.candidateAmfList.eq
  have hallowed := h.allowedNssaiList.eq
  have hrejected := h.rejectedNssaiInPlmn.eq
  obtain ⟨result, httpCode, authSliceInfo⟩ := out
  obtain ⟨result', httpCode', authSliceInfo'⟩ := out'
  have hresult : result = result' := h.result
  have hhttpCode : httpCode = httpCode' := h.httpCode
  have hauth : authSliceInfo = authSliceInfo' := by
    cases authSliceInfo
    cases authSliceInfo'
    rw [AuthorizedNetworkSliceInfo.mk.injEq]
    exact ⟨hallowed, h.targetAmfSet, hcandidates, hrejected, h.nsiInformation, h.nrfAmfSet,
      h.nrfAmfSetNfMgtUri⟩
  rw [hresult, hhttpCode, hauth]

/-- Two AMF sets under the same names. -/
structure SameNames (set set' : AmfInfo) : Prop where
  targetAmfSet : set.targetAmfSet = set'.targetAmfSet
  nrfAmfSet : set.nrfAmfSet = set'.nrfAmfSet
  nrfAmfSetMgt : set.nrfAmfSetMgt = set'.nrfAmfSetMgt

section Alike

variable (C : Common) (A Q : List Snssai → List Snssai → Prop)
  (K : List String → List String → Prop)

/-! ## Requests -/

/-- Two AMF sets under the same names, of which both or none have AMFs serving the
    request; these are related by `K`. -/
structure SetsAlike (req req' : List Snssai) (set set' : AmfInfo) : Prop extends
    SameNames set set' where
  serving : HasServingAmf C req set ↔ HasServingAmf C req' set'
  candidates : K (servingAmfs C req set) (servingAmfs C req' set')

/-- Two requests with their AMF sets: on both sides a list is missing, or both lists are
    given and what the loops make of them is related. -/
inductive ListsAlike (cfg cfg' : NssfConfig) (si si' : SliceInfoForRegistration) : Prop
  | missing (h : si.requestedNssai = none ∨ si.subscribedNssai = none)
      (h' : si'.requestedNssai = none ∨ si'.subscribedNssai = none)
  | given {req req' : List Snssai} {sub sub' : List SubscribedSnssai}
      (hreq : si.requestedNssai = some req) (hsub : si.subscribedNssai = some sub)
      (hreq' : si'.requestedNssai = some req') (hsub' : si'.subscribedNssai = some sub')
      (hrejected : Q req req')
      (hmatch : (∃ r ∈ req, Subscribed C sub r) ↔ ∃ r ∈ req', Subscribed C sub' r)
      (hallowed : A (matchedSnssai C sub req) (matchedSnssai C sub' req'))
      (hsets : List.Forall₂ (SetsAlike C K req req') cfg.amfInfoList cfg'.amfInfoList)

/-- Two registrations that the handler cannot tell apart, but for the related lists. -/
structure RegistrationsAlike (cfg cfg' : NssfConfig) (si si' : SliceInfoForRegistration)
    (tai : Tai) (home : PlmnId) : Prop where
  inScope : InScope si home ↔ InScope si' home
  authorised : TaAuthorised cfg tai ↔ TaAuthorised cfg' tai
  lists : InScope si home → TaAuthorised cfg tai → ListsAlike C A Q K cfg cfg' si si'

variable {C A Q K} {cfg cfg' : NssfConfig} {si si' : SliceInfoForRegistration} {tai : Tai}
  {home : PlmnId}

theorem taAuthorised_congr (h : cfg.taInfoList = cfg'.taInfoList) :
    TaAuthorised cfg tai ↔ TaAuthorised cfg' tai := by
  rw [TaAuthorised, TaConfigured, h]
  rfl

/-- A result that writes nothing is like itself. -/
theorem outcomesAlike_of_unwritten (auth : AuthorizedNetworkSliceInfo) (result : Bool)
    (httpCode : ℤ) : OutcomesAlike A Q K auth ⟨result, httpCode, auth⟩ ⟨result, httpCode, auth⟩ :=
  ⟨⟨rfl, rfl, rfl, rfl⟩, rfl, rfl, Or.inl ⟨rfl, rfl⟩, Or.inl ⟨rfl, rfl⟩, Or.inl ⟨rfl, rfl⟩⟩

/-- The handler takes both registrations to the same exit. -/
theorem RegistrationsAlike.outcomes (h : RegistrationsAlike C A Q K cfg cfg' si si' tai home)
    (features : String) (httpCode : ℤ) (httpVersion : ℕ) (auth : AuthorizedNetworkSliceInfo) :
    OutcomesAlike A Q K auth
      (handleSliceInfoForRegistration C cfg si tai home features httpCode httpVersion auth)
      (handleSliceInfoForRegistration C cfg' si' tai home features httpCode httpVersion auth) := by
  -- the checks in the order of the handler: each fails on both sides or on neither
  by_cases hscope : InScope si home
  swap
  · have hscope' : ¬InScope si' home := mt h.inScope.mpr hscope
    rw [(RegistrationDecides.notSupported hscope).handle_eq,
      (RegistrationDecides.notSupported hscope').handle_eq]
    exact outcomesAlike_of_unwritten auth _ _
  have hscope' : InScope si' home := h.inScope.mp hscope
  by_cases hta : TaAuthorised cfg tai
  swap
  · have hta' : ¬TaAuthorised cfg' tai := mt h.authorised.mpr hta
    rw [(RegistrationDecides.taNotAuthorised hscope hta).handle_eq,
      (RegistrationDecides.taNotAuthorised hscope' hta').handle_eq]
    exact outcomesAlike_of_unwritten auth _ _
  have hta' : TaAuthorised cfg' tai := h.authorised.mp hta
  cases h.lists hscope hta with
  | missing hnone hnone' =>
    rw [(RegistrationDecides.undecided hscope hta hnone).handle_eq,
      (RegistrationDecides.undecided hscope' hta' hnone').handle_eq]
    exact outcomesAlike_of_unwritten auth _ _
  | @given req req' sub sub' hreq hsub hreq' hsub' hrejected hmatch hallowed hsets =>
    by_cases hmatched : ∃ r ∈ req, Subscribed C sub r
    swap
    · have hnone : ∀ r ∈ req, ¬Subscribed C sub r := fun r hr hs => hmatched ⟨r, hr, hs⟩
      have hnone' : ∀ r ∈ req', ¬Subscribed C sub' r :=
        fun r hr hs => hmatched (hmatch.mpr ⟨r, hr, hs⟩)
      rw [(RegistrationDecides.notInPlmn hscope hta hreq hsub hnone).handle_eq,
        (RegistrationDecides.notInPlmn hscope' hta' hreq' hsub' hnone').handle_eq]
      exact ⟨⟨rfl, rfl, rfl, rfl⟩, rfl, rfl, Or.inl ⟨rfl, rfl⟩, Or.inl ⟨rfl, rfl⟩,
        Or.inr ⟨req, req', hrejected, rfl, rfl⟩⟩
    have hmatched' : ∃ r ∈ req', Subscribed C sub' r := hmatch.mp hmatched
    have hwritten : BothWrite allowedNssaiOf A auth.allowedNssaiList
        (allowedNssaiOf (matchedSnssai C sub req)) (allowedNssaiOf (matchedSnssai C sub' req')) :=
      Or.inr ⟨_, _, hallowed, rfl, rfl⟩
    by_cases hserved : ∃ set ∈ cfg.amfInfoList, HasServingAmf C req set
    · obtain ⟨set, hset⟩ := exists_isFirst_iff.mpr hserved
      obtain ⟨set', hset', halike⟩ := hset.forall₂ hsets fun _ _ hs => hs.serving
      rw [(RegistrationDecides.granted hscope hta hreq hsub hmatched hset).handle_eq,
        (RegistrationDecides.granted hscope' hta' hreq' hsub' hmatched' hset').handle_eq]
      have htarget : SameTarget
          (RegistrationVerdict.outcome httpCode auth
            (.granted (matchedSnssai C sub req) set (servingAmfs C req set)))
          (RegistrationVerdict.outcome httpCode auth
            (.granted (matchedSnssai C sub' req') set' (servingAmfs C req' set'))) :=
        ⟨rfl, congrArg some halike.targetAmfSet, congrArg some halike.nrfAmfSet,
          congrArg some halike.nrfAmfSetMgt⟩
      exact ⟨htarget, rfl, rfl, Or.inr ⟨_, _, halike.candidates, rfl, rfl⟩, hwritten,
        Or.inl ⟨rfl, rfl⟩⟩
    · have hnone : ∀ set ∈ cfg.amfInfoList, ¬HasServingAmf C req set :=
        fun set hset hs => hserved ⟨set, hset, hs⟩
      have hserved_iff : (∃ set ∈ cfg.amfInfoList, HasServingAmf C req set) ↔
          ∃ set ∈ cfg'.amfInfoList, HasServingAmf C req' set :=
        (Alike.of_forall₂ hsets).exists_mem_iff fun _ _ hs => hs.serving
      have hnone' : ∀ set ∈ cfg'.amfInfoList, ¬HasServingAmf C req' set :=
        fun set hset hs => hserved (hserved_iff.mpr ⟨set, hset, hs⟩)
      rw [(RegistrationDecides.noAmfSet hscope hta hreq hsub hmatched hnone).handle_eq,
        (RegistrationDecides.noAmfSet hscope' hta' hreq' hsub' hmatched' hnone').handle_eq]
      exact ⟨⟨rfl, rfl, rfl, rfl⟩, rfl, rfl, Or.inl ⟨rfl, rfl⟩, hwritten, Or.inl ⟨rfl, rfl⟩⟩

end Alike

/-! ## Serving AMFs -/

/-- The availability entries of two AMFs, up to `T` on the supported S-NSSAIs. -/
def OffersAlike (T : Snssai → Snssai → Prop)
    (entries entries' : List SupportedNssaiAvailabilityData) : Prop :=
  Alike (fun d d' => Alike (fun e e' => T (nssaiTmp e) (nssaiTmp e'))
    d.supportedSnssaiList d'.supportedSnssaiList) entries entries'

theorem offersAlike_refl (entries : List SupportedNssaiAvailabilityData) :
    OffersAlike Eq entries entries := by
  have hentry : ∀ d : SupportedNssaiAvailabilityData,
      Alike (fun e e' => nssaiTmp e = nssaiTmp e') d.supportedSnssaiList d.supportedSnssaiList :=
    fun d => ⟨fun e he => ⟨e, he, rfl⟩, fun e he => ⟨e, he, rfl⟩⟩
  exact ⟨fun d hd => ⟨d, hd, hentry d⟩, fun d hd => ⟨d, hd, hentry d⟩⟩

theorem OffersAlike.swap {T : Snssai → Snssai → Prop}
    {entries entries' : List SupportedNssaiAvailabilityData} (h : OffersAlike T entries entries') :
    OffersAlike (fun x x' => T x' x) entries' entries :=
  (Alike.swap h).imp fun _ _ hd => hd.swap

section Transfer

variable {C D : Common} {S T : Snssai → Snssai → Prop}
  (hST : ∀ r r' x x', S r r' → T x x' → Matches C r x → Matches D r' x')
include hST

theorem Subscribed.transfer {sub sub' : List SubscribedSnssai} {r r' : Snssai}
    (h : Subscribed C sub r) (hr : S r r')
    (hsub : Alike (fun s s' => T s.subscribedSnssai s'.subscribedSnssai) sub sub') :
    Subscribed D sub' r' := by
  refine hsub.exists_mem ?_ h
  intro s s' hs hmatch
  exact hST r r' _ _ hr hs hmatch

theorem ServesNssai.transfer {req req' : List Snssai}
    {entries entries' : List SupportedNssaiAvailabilityData} (h : ServesNssai C req entries)
    (hreq : Alike S req req') (hentries : OffersAlike T entries entries') :
    ServesNssai D req' entries' := by
  refine Serves.transfer h hreq (Alike.map hentries) ?_
  intro r r' e e' hr he hmatch
  exact hST r r' _ _ hr he hmatch

theorem HasServingAmf.transfer {req req' : List Snssai} {set set' : AmfInfo}
    (h : HasServingAmf C req set) (hreq : Alike S req req')
    (hamfs : Alike (fun amf amf' => OffersAlike T amf.2 amf'.2) set.amfList set'.amfList) :
    HasServingAmf D req' set' := by
  refine hamfs.exists_mem ?_ h
  intro amf amf' hentries hserves
  exact hserves.transfer hST hreq hentries

end Transfer

section Congr

variable {C : Common} {S T : Snssai → Snssai → Prop}
  (hST : ∀ r r' x x', S r r' → T x x' → (Matches C r x ↔ Matches C r' x'))
include hST

theorem subscribed_congr {sub sub' : List SubscribedSnssai} {r r' : Snssai} (hr : S r r')
    (hsub : Alike (fun s s' => T s.subscribedSnssai s'.subscribedSnssai) sub sub') :
    Subscribed C sub r ↔ Subscribed C sub' r' :=
  hsub.exists_mem_iff fun s s' hs => hST r r' s.subscribedSnssai s'.subscribedSnssai hr hs

theorem servesNssai_congr {req req' : List Snssai}
    {entries entries' : List SupportedNssaiAvailabilityData} (hreq : Alike S req req')
    (hentries : OffersAlike T entries entries') :
    ServesNssai C req entries ↔ ServesNssai C req' entries' := by
  constructor
  · intro h
    exact h.transfer (fun r r' x x' hr hx => (hST r r' x x' hr hx).mp) hreq hentries
  · intro h
    exact h.transfer (fun r' r x' x hr hx => (hST r r' x x' hr hx).mpr) hreq.swap hentries.swap

end Congr

variable {C : Common}

/-- AMFs that serve alike, position by position, give the same candidates. -/
theorem servingAmfs_congr {req req' : List Snssai} {set set' : AmfInfo}
    (h : List.Forall₂ (fun amf amf' => amf.1 = amf'.1 ∧
      (ServesNssai C req amf.2 ↔ ServesNssai C req' amf'.2)) set.amfList set'.amfList) :
    servingAmfs C req set = servingAmfs C req' set' := by
  have hfilter := List.rel_filter (p := fun amf => decide (ServesNssai C req amf.2))
    (q := fun amf => decide (ServesNssai C req' amf.2))
    (fun amf amf' hamf => by simpa using hamf.2) h
  rw [servingAmfs_eq_filter, servingAmfs_eq_filter, ← List.forall₂_eq_eq_eq,
    List.forall₂_map_left_iff, List.forall₂_map_right_iff]
  exact hfilter.imp fun _ _ hamf => hamf.1

/-- The same candidates come from sets that serve alike. -/
theorem hasServingAmf_iff_of_eq {req req' : List Snssai} {set set' : AmfInfo}
    (h : servingAmfs C req set = servingAmfs C req' set') :
    HasServingAmf C req set ↔ HasServingAmf C req' set' := by
  rw [← servingAmfs_ne_nil_iff, h, servingAmfs_ne_nil_iff]

end OaiNssf.SliceSelect
