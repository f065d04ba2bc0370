import OaiNssf.Lib.Loops
import OaiNssf.Lib.Coverage
import OaiNssf.Model.Selection

/-!
# Closed forms of the selection loops

Each loop of `nssf_slice_selection.cpp` computes a statement about lists:

* `compareSnssai_iff`: when two S-NSSAIs match;
* `snssaiMatched_iff`, `validateRnssaiInPlmn_eq`: the PLMN check keeps the
  requested S-NSSAIs that some subscribed one matches, and fails when there is
  none;
* `getValidAmf_iff`, `anyValidAmf_iff`: an AMF serves a list when one of its
  availability entries covers it;
* `amfSetLoop_of_isFirst`, `amfSetLoop_of_forall_not`: `get_valid_amfset` takes
  the first set with a serving AMF, with all its serving AMFs;
* `validateTa_iff`, `nsiLoop_of_isFirst`: the two table look-ups.
-/

namespace OaiNssf.SliceSelect

open Coverage

variable (C : Common)

/-! ## Matching -/

/-- The S-NSSAIs `a` and `b` match under `compare_snssai`. -/
def Matches (a b : Snssai) : Prop := compareSnssai C a b = true

instance (a b : Snssai) : Decidable (Matches C a b) :=
  inferInstanceAs (Decidable (compareSnssai C a b = true))

variable {C}

/-- Two S-NSSAIs match when the SSTs agree and, from the bound on and unless
    neither has an SD, the values of `getSd()` agree. -/
theorem compareSnssai_iff {a b : Snssai} :
    Matches C a b ↔ a.sst = b.sst ∧
      (a.sd.isSome ∨ b.sd.isSome → C.sstMaxStandardizedValue ≤ a.sst →
        C.getSd a = C.getSd b) := by
  unfold Matches compareSnssai
  by_cases hsst : a.sst = b.sst
  · rw [if_pos hsst]
    by_cases hsd : ((a.sd.isSome || b.sd.isSome) &&
        decide (a.sst ≥ C.sstMaxStandardizedValue)) = true
    · rw [if_pos hsd]
      simp only [Bool.and_eq_true, Bool.or_eq_true, decide_eq_true_eq, ge_iff_le] at hsd
      by_cases heq : C.getSd a = C.getSd b
      · simp [hsst, heq]
      · rw [if_pos heq]
        simp only [Bool.false_eq_true, false_iff, not_and]
        exact fun _ h => heq (h hsd.1 hsd.2)
    · rw [if_neg hsd]
      simp only [Bool.and_eq_true, Bool.or_eq_true, decide_eq_true_eq, ge_iff_le, not_and] at hsd
      exact iff_of_true rfl ⟨hsst, fun h1 h2 => absurd h2 (hsd h1)⟩
  · rw [if_neg hsst]
    simp [hsst]

/-! ## Requested and subscribed S-NSSAIs -/

variable (C)

/-- Some subscribed S-NSSAI matches `r`. -/
def Subscribed (subscribedNssai : List SubscribedSnssai) (r : Snssai) : Prop :=
  ∃ s ∈ subscribedNssai, Matches C r s.subscribedSnssai

variable {C}

theorem snssaiMatched_iff {subscribedNssai : List SubscribedSnssai} {r : Snssai} :
    snssaiMatched C subscribedNssai r = true ↔ Subscribed C subscribedNssai r := by
  unfold snssaiMatched
  rw [Loops.foldl_flag (fun s : SubscribedSnssai => compareSnssai C r s.subscribedSnssai),
    Bool.false_or, List.any_eq_true]
  rfl

variable (C)

/-- The requested S-NSSAIs that pass the PLMN check (`matched_snssai`). -/
def matchedSnssai (subscribedNssai : List SubscribedSnssai) (requestedNssai : List Snssai) :
    List Snssai :=
  requestedNssai.filter (snssaiMatched C subscribedNssai)

variable {C}

theorem mem_matchedSnssai {sub : List SubscribedSnssai} {req : List Snssai} {r : Snssai} :
    r ∈ matchedSnssai C sub req ↔ r ∈ req ∧ Subscribed C sub r := by
  rw [matchedSnssai, List.mem_filter, snssaiMatched_iff]

theorem matchedSnssai_subset (sub : List SubscribedSnssai) (req : List Snssai) :
    matchedSnssai C sub req ⊆ req := fun _ hr => (mem_matchedSnssai.mp hr).1

theorem matchedSnssai_eq_nil_iff {sub : List SubscribedSnssai} {req : List Snssai} :
    matchedSnssai C sub req = [] ↔ ∀ r ∈ req, ¬Subscribed C sub r := by
  simp only [matchedSnssai, List.filter_eq_nil_iff, snssaiMatched_iff]

/-- The copy made by `set_allowed_nssai` is the S-NSSAI itself. -/
theorem allowedSnssai_eq (s : Snssai) : allowedSnssai C s = ⟨s⟩ := by
  obtain ⟨sst, sd⟩ := s
  cases sd <;> simp [allowedSnssai, Common.getSd]

/-- `auth_slice_info` with an Allowed NSSAI for 3GPP access. -/
def withAllowed (allowed : List Snssai) (auth : AuthorizedNetworkSliceInfo) :
    AuthorizedNetworkSliceInfo :=
  { auth with allowedNssaiList := some [⟨allowed.map AllowedSnssai.mk, ._3gppAccess⟩] }

theorem setAllowedNssai_eq (nssai : List Snssai) (auth : AuthorizedNetworkSliceInfo) :
    setAllowedNssai C nssai auth = withAllowed nssai auth := by
  have hmap : nssai.map (allowedSnssai C) = nssai.map AllowedSnssai.mk :=
    List.map_congr_left fun s _ => allowedSnssai_eq s
  unfold setAllowedNssai withAllowed
  rw [Loops.foldl_pushBack, List.nil_append, hmap]

/-- The size test of `validate_rnssai_in_plmn` asks whether nothing matched. -/
theorem length_rejected_eq_iff (sub : List SubscribedSnssai) (req : List Snssai) :
    (req.filter fun r => !snssaiMatched C sub r).length = req.length ↔
      matchedSnssai C sub req = [] := by
  rw [List.length_filter_eq_length_iff, matchedSnssai, List.filter_eq_nil_iff]
  simp

/-- `validate_rnssai_in_plmn` in closed form. -/
theorem validateRnssaiInPlmn_eq {si : SliceInfoForRegistration} {req : List Snssai}
    {sub : List SubscribedSnssai} (hreq : si.requestedNssai = some req)
    (hsub : si.subscribedNssai = some sub) (auth : AuthorizedNetworkSliceInfo) :
    validateRnssaiInPlmn C si auth =
      if matchedSnssai C sub req = [] then (false, { auth with rejectedNssaiInPlmn := some req })
      else (true, withAllowed (matchedSnssai C sub req) auth) := by
  unfold validateRnssaiInPlmn
  simp only [hreq, hsub, Option.getD_some]
  rw [Loops.foldl_partition (snssaiMatched C sub)]
  simp only [List.nil_append, length_rejected_eq_iff, setAllowedNssai_eq]
  rfl

/-! ## Serving AMFs -/

variable (C)

/-- The supported S-NSSAI `e` meets the requested S-NSSAI `r`. -/
def Supports (r : Snssai) (e : ExtSnssai) : Prop := Matches C r (nssaiTmp e)

/-- One of the availability entries supports every S-NSSAI of `req`. -/
def ServesNssai (req : List Snssai) (entries : List SupportedNssaiAvailabilityData) : Prop :=
  Serves (Supports C) req (entries.map SupportedNssaiAvailabilityData.supportedSnssaiList)

/-- The set has an AMF that serves `req`. -/
def HasServingAmf (req : List Snssai) (set : AmfInfo) : Prop :=
  ∃ amf ∈ set.amfList, ServesNssai C req amf.2

/-- The AMFs of a set that serve `req`, in list order. -/
def servingAmfs (req : List Snssai) (set : AmfInfo) : List String :=
  (set.amfList.filter fun amf => anyValidAmf C req amf.2).map Prod.fst

variable {C}

theorem amfMatched_iff {offers : List ExtSnssai} {r : Snssai} :
    amfMatched C offers r = true ↔ ∃ e ∈ offers, Supports C r e := by
  unfold amfMatched
  rw [Loops.foldl_flag (fun e => compareSnssai C r (nssaiTmp e)), Bool.false_or, List.any_eq_true]
  rfl

/-- `get_valid_amf` collects the requested S-NSSAIs that no offer supports, and
    succeeds when it has collected none. -/
theorem getValidAmf_iff {offers : List ExtSnssai} {req : List Snssai} :
    getValidAmf C offers req = true ↔ Covers (Supports C) req offers := by
  have hloop : req.foldl
        (fun rejected r => if !amfMatched C offers r then rejected ++ [r] else rejected) [] =
      req.filter fun r => !amfMatched C offers r :=
    (Loops.foldl_pushBackIf (fun r => !amfMatched C offers r) id req []).trans
      (by rw [List.map_id, List.nil_append])
  have hnil : (req.filter fun r => !amfMatched C offers r) = [] ↔
      Covers (Supports C) req offers := by
    simp [List.filter_eq_nil_iff, Covers, amfMatched_iff]
  unfold getValidAmf
  simp only [hloop]
  rw [← hnil]
  by_cases h : (req.filter fun r => !amfMatched C offers r) = []
  · rw [if_neg (by rw [h]; exact Nat.lt_irrefl 0)]
    exact iff_of_true rfl h
  · rw [if_pos (List.length_pos_iff.mpr h)]
    exact iff_of_false Bool.false_ne_true h

theorem anyValidAmf_iff {req : List Snssai} {entries : List SupportedNssaiAvailabilityData} :
    anyValidAmf C req entries = true ↔ ServesNssai C req entries := by
  induction entries with
  | nil => simp [anyValidAmf, ServesNssai, Serves]
  | cons d rest ih =>
    have hcons : ServesNssai C req (d :: rest) ↔
        Covers (Supports C) req d.supportedSnssaiList ∨ ServesNssai C req rest := by
      simp [ServesNssai, Serves]
    rw [anyValidAmf, hcons, ← ih, ← getValidAmf_iff]
    split_ifs with h <;> simp [h]

instance (req : List Snssai) (set : AmfInfo) : Decidable (HasServingAmf C req set) :=
  decidable_of_iff (∃ amf ∈ set.amfList, anyValidAmf C req amf.2 = true)
    (exists_congr fun _ => and_congr_right fun _ => anyValidAmf_iff)

theorem servingAmfs_ne_nil_iff {req : List Snssai} {set : AmfInfo} :
    servingAmfs C req set ≠ [] ↔ HasServingAmf C req set := by
  simp only [servingAmfs, HasServingAmf, ne_eq, List.map_eq_nil_iff, List.filter_eq_nil_iff,
    anyValidAmf_iff, not_forall, not_not, exists_prop]

theorem mem_servingAmfs {req : List Snssai} {set : AmfInfo} {nfId : String} :
    nfId ∈ servingAmfs C req set ↔ ∃ amf ∈ set.amfList, ServesNssai C req amf.2 ∧ amf.1 = nfId := by
  simp only [servingAmfs, List.mem_map, List.mem_filter, anyValidAmf_iff, and_assoc]

/-- `auth_slice_info` with the four fields `get_valid_amfset` writes. -/
def withAmfSet (set : AmfInfo) (candidates : List String) (auth : AuthorizedNetworkSliceInfo) :
    AuthorizedNetworkSliceInfo :=
  { auth with
    candidateAmfList := some candidates
    targetAmfSet := some set.targetAmfSet
    nrfAmfSet := some set.nrfAmfSet
    nrfAmfSetNfMgtUri := some set.nrfAmfSetMgt }

/-- One round of the loop over the AMF sets, entered with no candidates. -/
theorem amfSetLoop_cons (req : List Snssai) (set : AmfInfo) (rest : List AmfInfo)
    (auth : AuthorizedNetworkSliceInfo) :
    amfSetLoop C req (set :: rest) [] auth =
      if servingAmfs C req set ≠ [] then (true, withAmfSet set (servingAmfs C req set) auth)
      else amfSetLoop C req rest [] auth := by
  have hpush : pushCandidates C req set.amfList [] = servingAmfs C req set := by
    unfold pushCandidates servingAmfs
    rw [Loops.foldl_pushBackIf (fun amf => anyValidAmf C req amf.2) Prod.fst, List.nil_append]
  rw [amfSetLoop, hpush]
  by_cases hnil : servingAmfs C req set = []
  · rw [hnil]
    simp
  · simp [hnil, withAmfSet]

/-- The loop stops at the first set with a serving AMF. -/
theorem amfSetLoop_of_isFirst {req : List Snssai} {sets : List AmfInfo} {set : AmfInfo}
    (h : IsFirst (HasServingAmf C req) sets set) (auth : AuthorizedNetworkSliceInfo) :
    amfSetLoop C req sets [] auth = (true, withAmfSet set (servingAmfs C req set) auth) := by
  induction sets with
  | nil => simpa using h.mem
  | cons s rest ih =>
    rw [amfSetLoop_cons]
    rcases isFirst_cons.mp h with ⟨hs, rfl⟩ | ⟨hs, hrest⟩
    · rw [if_pos (servingAmfs_ne_nil_iff.mpr hs)]
    · rw [if_neg (mt servingAmfs_ne_nil_iff.mp hs), ih hrest]

/-- Without a serving AMF the loop falls through and writes nothing. -/
theorem amfSetLoop_of_forall_not {req : List Snssai} {sets : List AmfInfo}
    (h : ∀ set ∈ sets, ¬HasServingAmf C req set) (auth : AuthorizedNetworkSliceInfo) :
    amfSetLoop C req sets [] auth = (false, auth) := by
  induction sets with
  | nil => rfl
  | cons s rest ih =>
    rw [amfSetLoop_cons, if_neg (mt servingAmfs_ne_nil_iff.mp (h s (by simp)))]
    exact ih fun set hset => h set (List.mem_cons_of_mem _ hset)

/-! ## Table look-ups -/

/-- The TAI equals that of a `taInfoList` entry in MCC, MNC and TAC. -/
def TaConfigured (cfg : NssfConfig) (tai : Tai) : Prop :=
  ∃ item ∈ cfg.taInfoList, tai.plmnId.mcc = item.tai.plmnId.mcc ∧
    tai.plmnId.mnc = item.tai.plmnId.mnc ∧ tai.tac = item.tai.tac

instance (cfg : NssfConfig) (tai : Tai) : Decidable (TaConfigured cfg tai) :=
  inferInstanceAs (Decidable (∃ item ∈ cfg.taInfoList, _))

theorem validateTa_iff {cfg : NssfConfig} {tai : Tai} :
    validateTa cfg tai = true ↔ TaConfigured cfg tai := by
  unfold validateTa TaConfigured
  induction cfg.taInfoList with
  | nil => simp [taLoop]
  | cons item rest ih =>
    rw [taLoop, List.exists_mem_cons_iff, ← ih]
    split_ifs with h <;> simp [h]

/-- `validate_nsi` into a fresh record copies the first matching entry. -/
theorem nsiLoop_of_isFirst {r : Snssai} {items : List NsiInfo} {item : NsiInfo}
    (h : IsFirst (fun i => Matches C r i.snssai) items item) :
    nsiLoop C r items {} = (true, item.nsiInfo) := by
  induction items with
  | nil => simpa using h.mem
  | cons i rest ih =>
    rw [nsiLoop]
    rcases isFirst_cons.mp h with ⟨hi, rfl⟩ | ⟨hi, hrest⟩
    · rw [if_pos (show compareSnssai C r item.snssai = true from hi)]
      obtain ⟨-, nrfId, nsiId, nrfNfMgtUri⟩ := item
      cases nsiId <;> cases nrfNfMgtUri <;> rfl
    · rw [if_neg (show ¬compareSnssai C r i.snssai = true from hi), ih hrest]

theorem nsiLoop_of_forall_not {r : Snssai} {items : List NsiInfo}
    (h : ∀ i ∈ items, ¬Matches C r i.snssai) (nsiInfo : NsiInformation) :
    nsiLoop C r items nsiInfo = (false, nsiInfo) := by
  induction items with
  | nil => rfl
  | cons i rest ih =>
    rw [nsiLoop, if_neg (show ¬compareSnssai C r i.snssai = true from h i (by simp))]
    exact ih fun j hj => h j (List.mem_cons_of_mem _ hj)

end OaiNssf.SliceSelect
