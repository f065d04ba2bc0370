import OaiNssf.Selection.Correspondence

/-!
# Order and repetition in the lists of a registration

The lists that the registration handler goes through, replaced by lists with the same
elements.

* `ConfigReordered`: tracking areas, availability entries and supported S-NSSAIs in
  another order or number.
* `ConfigPermuted`: the AMFs of each set in another order.
* `registration_order_irrelevant`: the result is the same, but for the lists that are
  returned in the order they were given in.
-/

namespace OaiNssf.SliceSelect

open Coverage

/-! ## Reordered configurations -/

/-- The entry `d'` is `d` with its supported S-NSSAIs in another order or number. -/
structure EntryReordered (d d' : SupportedNssaiAvailabilityData) : Prop where
  tai : d.tai = d'.tai
  supported : SameElements d.supportedSnssaiList d'.supportedSnssaiList

/-- The AMF `a'` is `a` with its availability entries in another order or number, each
    of them reordered. -/
structure AmfReordered (a a' : String × List SupportedNssaiAvailabilityData) : Prop where
  nfId : a.1 = a'.1
  entries : Alike EntryReordered a.2 a'.2

/-- The AMF sets agree, up to what their AMFs list. -/
structure SetReordered (set set' : AmfInfo) : Prop extends SameNames set set' where
  amfs : List.Forall₂ AmfReordered set.amfList set'.amfList

/-- The configurations agree, up to the order and number of tracking areas and of what
    the AMFs list. -/
structure ConfigReordered (cfg cfg' : NssfConfig) : Prop where
  ta : SameElements cfg.taInfoList cfg'.taInfoList
  amf : List.Forall₂ SetReordered cfg.amfInfoList cfg'.amfInfoList

/-- The AMF sets agree, up to the order of their AMFs. -/
structure SetPermuted (set set' : AmfInfo) : Prop extends SameNames set set' where
  amfs : set.amfList.Perm set'.amfList

/-- The configurations agree, up to the order of the AMFs within each set. -/
structure ConfigPermuted (cfg cfg' : NssfConfig) : Prop where
  ta : cfg.taInfoList = cfg'.taInfoList
  amf : List.Forall₂ SetPermuted cfg.amfInfoList cfg'.amfInfoList

/-! ## What order does not change -/

variable {C : Common}

theorem ConfigReordered.taAuthorised_iff {cfg cfg' : NssfConfig} (h : ConfigReordered cfg cfg')
    (tai : Tai) : TaAuthorised cfg tai ↔ TaAuthorised cfg' tai := by
  have hconfigured : TaConfigured cfg tai ↔ TaConfigured cfg' tai :=
    h.ta.alike.exists_mem_iff fun item item' heq => by rw [heq]
  rw [TaAuthorised, TaAuthorised, hconfigured]

theorem EntryReordered.offers {entries entries' : List SupportedNssaiAvailabilityData}
    (h : Alike EntryReordered entries entries') : OffersAlike Eq entries entries' :=
  h.imp fun _ _ hd => hd.supported.alike.imp fun _ _ he => congrArg nssaiTmp he

theorem SetReordered.alike {set set' : AmfInfo} (h : SetReordered set set') (req : List Snssai) :
    SetsAlike C Eq req req set set' := by
  have hreq : Alike Eq req req := SameElements.alike fun _ => Iff.rfl
  have hserving : servingAmfs C req set = servingAmfs C req set' := by
    refine servingAmfs_congr (h.amfs.imp fun amf amf' hamf => ⟨hamf.nfId, ?_⟩)
    have hoffers : OffersAlike Eq amf.2 amf'.2 := EntryReordered.offers hamf.entries
    exact servesNssai_congr (fun r r' x x' hr hx => by rw [hr, hx]) hreq hoffers
  exact ⟨h.toSameNames, hasServingAmf_iff_of_eq hserving, hserving⟩

theorem SetPermuted.alike {set set' : AmfInfo} (h : SetPermuted set set') (req : List Snssai) :
    SetsAlike C List.Perm req req set set' := by
  have hserving : (servingAmfs C req set).Perm (servingAmfs C req set') := by
    apply List.Perm.map
    exact h.amfs.filter _
  refine ⟨h.toSameNames, ?_, hserving⟩
  constructor
  · rintro ⟨amf, hamf, hserves⟩
    exact ⟨amf, h.amfs.mem_iff.mp hamf, hserves⟩
  · rintro ⟨amf, hamf, hserves⟩
    exact ⟨amf, h.amfs.mem_iff.mpr hamf, hserves⟩

/-- A set serves two requests with the same elements by the same AMFs. -/
theorem setsAlike_of_sameElements {req req' : List Snssai} (h : SameElements req req')
    (set : AmfInfo) : SetsAlike C Eq req req' set set := by
  have hserving : servingAmfs C req set = servingAmfs C req' set := by
    refine servingAmfs_congr (List.forall₂_same.mpr fun amf _ => ⟨rfl, ?_⟩)
    exact servesNssai_congr (fun r r' x x' hr hx => by rw [hr, hx]) h.alike (offersAlike_refl amf.2)
  exact ⟨⟨rfl, rfl, rfl⟩, hasServingAmf_iff_of_eq hserving, hserving⟩

/-! ## Registrations -/

section Registration

variable {cfg cfg' : NssfConfig} {si : SliceInfoForRegistration} {tai : Tai} {home : PlmnId}

/-- The requested list replaced by one with the same elements. -/
theorem registrationsAlike_requested {req req' : List Snssai} (hreq : si.requestedNssai = some req)
    (h : SameElements req req') :
    RegistrationsAlike C
      (fun allowed allowed' =>
        (allowed = req.filter fun r => Subscribed C (si.subscribedNssai.getD []) r) ∧
          allowed' = req'.filter fun r => Subscribed C (si.subscribedNssai.getD []) r)
      (fun rejected rejected' => rejected = req ∧ rejected' = req') Eq cfg cfg si
      { si with requestedNssai := some req' } tai home where
  inScope := ⟨fun h => h.congr rfl rfl, fun h => h.congr rfl rfl⟩
  authorised := Iff.rfl
  lists _ _ := by
    cases hsub : si.subscribedNssai with
    | none => exact .missing (Or.inr hsub) (Or.inr rfl)
    | some sub =>
      have hmatch : (∃ r ∈ req, Subscribed C sub r) ↔ ∃ r ∈ req', Subscribed C sub r :=
        h.alike.exists_mem_iff fun r r' heq => by rw [heq]
      have hsets : List.Forall₂ (SetsAlike C Eq req req') cfg.amfInfoList cfg.amfInfoList :=
        List.forall₂_same.mpr fun set _ => setsAlike_of_sameElements h set
      exact .given hreq hsub rfl rfl ⟨rfl, rfl⟩ hmatch
        ⟨matchedSnssai_eq_filter C sub req, matchedSnssai_eq_filter C sub req'⟩ hsets

/-- The subscribed list and the configuration reordered. -/
theorem registrationsAlike_reordered {subscribed' : Option (List SubscribedSnssai)}
    (hcfg : ConfigReordered cfg cfg')
    (hsub : Option.Rel SameElements si.subscribedNssai subscribed') :
    RegistrationsAlike C Eq Eq Eq cfg cfg' si { si with subscribedNssai := subscribed' } tai
      home where
  inScope := ⟨fun h => h.congr rfl rfl, fun h => h.congr rfl rfl⟩
  authorised := hcfg.taAuthorised_iff tai
  lists _ _ := by
    cases hreq : si.requestedNssai with
    | none => exact .missing (Or.inl hreq) (Or.inl rfl)
    | some req =>
      generalize hsubscribed : si.subscribedNssai = subscribed at hsub
      cases hsub with
      | none => exact .missing (Or.inr hsubscribed) (Or.inr rfl)
      | @some sub sub' hsame =>
        have hsubscribed_iff : ∀ r, Subscribed C sub r ↔ Subscribed C sub' r := by
          intro r
          exact hsame.alike.exists_mem_iff fun s s' heq => by rw [heq]
        have hallowed : matchedSnssai C sub req = matchedSnssai C sub' req := by
          simp only [matchedSnssai_eq_filter, hsubscribed_iff]
        have hmatch : (∃ r ∈ req, Subscribed C sub r) ↔ ∃ r ∈ req, Subscribed C sub' r := by
          simp only [hsubscribed_iff]
        have hsets : List.Forall₂ (SetsAlike C Eq req req) cfg.amfInfoList cfg'.amfInfoList :=
          hcfg.amf.imp fun set set' hset => hset.alike req
        exact .given hreq hsubscribed rfl rfl rfl hmatch hallowed hsets

/-- The AMFs permuted within each set. -/
theorem registrationsAlike_permuted (hcfg : ConfigPermuted cfg cfg') :
    RegistrationsAlike C Eq Eq List.Perm cfg cfg' si si tai home where
  inScope := Iff.rfl
  authorised := taAuthorised_congr hcfg.ta
  lists _ _ := by
    cases hreq : si.requestedNssai with
    | none => exact .missing (Or.inl hreq) (Or.inl hreq)
    | some req =>
      cases hsub : si.subscribedNssai with
      | none => exact .missing (Or.inr hsub) (Or.inr hsub)
      | some sub =>
        have hsets : List.Forall₂ (SetsAlike C List.Perm req req) cfg.amfInfoList
            cfg'.amfInfoList := hcfg.amf.imp fun set set' hset => hset.alike req
        exact .given hreq hsub hreq hsub rfl Iff.rfl rfl hsets

end Registration

/-- The registration handler depends on its lists through their elements: (a) another
    order or number of requested S-NSSAIs changes only the Allowed NSSAI, which repeats
    the subscribed ones among them, and the rejected list, which repeats them all; (b)
    another order or number of subscribed S-NSSAIs, tracking areas, availability entries
    and supported S-NSSAIs changes nothing; and (c) another order of the AMFs within the
    sets changes only the order of the candidates. -/
theorem registration_order_irrelevant (C : Common) (cfg : NssfConfig)
    (si : SliceInfoForRegistration) (tai : Tai) (home : PlmnId) (features : String) (httpCode : ℤ)
    (httpVersion : ℕ) (auth : AuthorizedNetworkSliceInfo) :
    let run := fun cfg si =>
      handleSliceInfoForRegistration C cfg si tai home features httpCode httpVersion auth
    (∀ req req', si.requestedNssai = some req → SameElements req req' →
      OutcomesAlike
        (fun allowed allowed' =>
          (allowed = req.filter fun r => Subscribed C (si.subscribedNssai.getD []) r) ∧
            allowed' = req'.filter fun r => Subscribed C (si.subscribedNssai.getD []) r)
        (fun rejected rejected' => rejected = req ∧ rejected' = req') Eq auth
        (run cfg si) (run cfg { si with requestedNssai := some req' })) ∧
    (∀ cfg' subscribed', ConfigReordered cfg cfg' →
      Option.Rel SameElements si.subscribedNssai subscribed' →
      run cfg' { si with subscribedNssai := subscribed' } = run cfg si) ∧
    ∀ cfg', ConfigPermuted cfg cfg' →
      OutcomesAlike Eq Eq List.Perm auth (run cfg si) (run cfg' si) := by
  intro run
  refine ⟨?_, ?_, ?_⟩
  · intro req req' hreq hsame
    exact (registrationsAlike_requested hreq hsame).outcomes features httpCode httpVersion auth
  · intro cfg' subscribed' hcfg hsub
    have halike : RegistrationsAlike C Eq Eq Eq cfg cfg' si
        { si with subscribedNssai := subscribed' } tai home :=
      registrationsAlike_reordered hcfg hsub
    exact (halike.outcomes features httpCode httpVersion auth).eq.symm
  · intro cfg' hcfg
    exact (registrationsAlike_permuted hcfg).outcomes features httpCode httpVersion auth

/-- The Allowed NSSAI repeats the requested list as it was given. -/
example :
    allowedSnssais (handleSliceInfoForRegistration sampleCommon
      (oneAmfConfig [⟨222, none⟩, ⟨1, none⟩])
      (registrationFor [⟨1, none⟩, ⟨222, none⟩, ⟨1, none⟩] [⟨222, none⟩, ⟨1, none⟩]) {} {} "" 0 1
      {}).authSliceInfo = [⟨1, none⟩, ⟨222, none⟩, ⟨1, none⟩] := by
  decide

end OaiNssf.SliceSelect
