import OaiNssf.Lib.Gate
import OaiNssf.Model.Config

/-!
# What the configuration parsers read

For each level of the document, which nodes are read without an exception, field by
field, and what the parser of that level leaves.

* `nsiEntry_succeeds_iff`, `taEntry_succeeds_iff`, `parseNssai_fst_iff`,
  `amfEntry_succeeds_iff`, `amfSetEntry_succeeds_iff`: one entry, down to one S-NSSAI.
* `amfEntry_eq_ok_iff`, `amfSetEntry_eq_ok_iff`: what the entry of an AMF and of an AMF
  set becomes in the store.
* `parseNssai_snd_of_failed`: availability data that is not read has the supported
  list it had before.
* `parseConfig_eq`: on a document with the three sections, `parse_config` returns
  `true` and appends the good prefix of each section.
-/

namespace OaiNssf.Config

open Throwing

variable {Node : Type}

section Readable

variable (Y : Yaml Node)

/-! ## Readable nodes -/

/-- An S-NSSAI: `sst` is an integer, and `sd`, if it is there, a string. -/
def SnssaiReadable (snssai : Node) : Prop :=
  Succeeds (int32At Y snssai "sst") ∧ Succeeds (optionalStringAt Y snssai "sd")

/-- An entry of `nsiInfoList`. -/
def NsiReadable (nsiInfo : Node) : Prop :=
  ∃ info snssai, Y.get nsiInfo "nsiInformationList" = .ok info ∧
    Y.get nsiInfo "snssai" = .ok snssai ∧ Succeeds (stringAt Y info "nrfId") ∧
    Succeeds (optionalStringAt Y info "nsiId") ∧
    Succeeds (optionalStringAt Y info "nrfNfMgtUri") ∧ SnssaiReadable Y snssai

/-- An entry of `taInfoList`: the TAI with MCC, MNC and TAC. -/
def TaReadable (taInfo : Node) : Prop :=
  ∃ tai plmnId, Y.get taInfo "tai" = .ok tai ∧ Y.get tai "plmnId" = .ok plmnId ∧
    Succeeds (stringAt Y plmnId "mcc") ∧ Succeeds (stringAt Y plmnId "mnc") ∧
    Succeeds (stringAt Y tai "tac")

/-- The TAI of availability data, of which the MNC is not looked at. -/
def NssaiTaiReadable (conf : Node) : Prop :=
  ∃ tai plmnId, Y.get conf "tai" = .ok tai ∧ Y.get tai "plmnId" = .ok plmnId ∧
    Succeeds (stringAt Y tai "tac") ∧ Succeeds (stringAt Y plmnId "mcc")

/-- The `supportedNssaiAvailabilityData` of an AMF: the TAI and each supported S-NSSAI. -/
def NssaiReadable (conf : Node) : Prop :=
  NssaiTaiReadable Y conf ∧ ∃ slices, Y.get conf "supportedSnssaiList" = .ok slices ∧
    ∀ snssai ∈ Y.children slices, SnssaiReadable Y snssai

/-- An entry of `amfInfoList` with its names, and with a list of AMFs. -/
def AmfSetNamed (amfInfo : Node) : Prop :=
  Succeeds (stringAt Y amfInfo "targetAmfSet") ∧ Succeeds (stringAt Y amfInfo "nrfAmfSet") ∧
    Succeeds (stringAt Y amfInfo "nrfAmfSetNfMgtUri") ∧ Succeeds (Y.get amfInfo "amfList")

end Readable

variable {Y : Yaml Node}

theorem caught_iff {α : Type} (x : Except StdException α) : caught x = true ↔ Succeeds x := by
  cases x <;> simp [caught]

theorem succeeds_unit_iff (x : Except StdException Unit) : Succeeds x ↔ x = .ok () := by
  cases x with
  | error e => exact iff_of_false (not_succeeds_error e) nofun
  | ok u => exact iff_of_true (succeeds_ok u) rfl

/-- The exit of a parser's loop is caught as `true` when every entry is read. -/
theorem caught_pushEach_iff {α β : Type} (body : α → Except StdException β) (l : List α)
    (v : List β) : caught (pushEach body l v).1 = true ↔ ∀ a ∈ l, Succeeds (body a) := by
  rw [caught_iff, succeeds_unit_iff, pushEach_fst_eq_ok_iff]

/-! ## Entries -/

theorem extSnssaiEntry_succeeds_iff (snssai : Node) :
    Succeeds (extSnssaiEntry Y snssai) ↔ SnssaiReadable Y snssai := by
  unfold extSnssaiEntry SnssaiReadable
  exact succeeds_bind_and_iff fun _ => succeeds_bind_pure_iff

theorem nsiEntry_succeeds_iff (nsiInfo : Node) :
    Succeeds (nsiEntry Y nsiInfo) ↔ NsiReadable Y nsiInfo := by
  unfold nsiEntry NsiReadable SnssaiReadable
  cases hinfo : Y.get nsiInfo "nsiInformationList" with
  | error e => simp
  | ok info =>
    cases hsnssai : Y.get nsiInfo "snssai" with
    | error e => simp [succeeds_bind_iff]
    | ok snssai =>
      simp only [ok_bind, Except.ok.injEq, exists_eq_left', exists_and_left]
      refine succeeds_bind_and_iff fun _ => ?_
      refine succeeds_bind_and_iff fun _ => ?_
      refine succeeds_bind_and_iff fun _ => ?_
      exact succeeds_bind_and_iff fun _ => succeeds_bind_pure_iff

theorem taEntry_succeeds_iff (taInfo : Node) :
    Succeeds (taEntry Y taInfo) ↔ TaReadable Y taInfo := by
  unfold taEntry TaReadable
  cases htai : Y.get taInfo "tai" with
  | error e => simp
  | ok tai =>
    cases hplmnId : Y.get tai "plmnId" with
    | error e => simp [hplmnId]
    | ok plmnId =>
      simp only [ok_bind, hplmnId, Except.ok.injEq, exists_eq_left', exists_and_left]
      refine succeeds_bind_and_iff fun _ => ?_
      exact succeeds_bind_and_iff fun _ => succeeds_bind_pure_iff

theorem nssaiTai_succeeds_iff (conf : Node) :
    Succeeds (nssaiTai Y conf) ↔ NssaiTaiReadable Y conf := by
  unfold nssaiTai NssaiTaiReadable
  cases htai : Y.get conf "tai" with
  | error e => simp
  | ok tai =>
    cases hplmnId : Y.get tai "plmnId" with
    | error e => simp [hplmnId, succeeds_bind_iff]
    | ok plmnId =>
      simp only [ok_bind, hplmnId, Except.ok.injEq, exists_eq_left', exists_and_left]
      refine succeeds_bind_and_iff fun _ => ?_
      -- the MCC is read twice
      rw [succeeds_bind_and_iff fun _ => succeeds_bind_pure_iff, and_self]

theorem supportedSnssaiList_succeeds_iff (conf : Node) :
    Succeeds (supportedSnssaiList Y conf) ↔
      ∃ slices, Y.get conf "supportedSnssaiList" = .ok slices ∧
        ∀ snssai ∈ Y.children slices, SnssaiReadable Y snssai := by
  unfold supportedSnssaiList
  rw [succeeds_bind_iff]
  refine exists_congr fun slices => and_congr_right fun _ => ?_
  show Succeeds ((pushEach (extSnssaiEntry Y) (Y.children slices) []).1 >>= fun _ => pure _) ↔ _
  rw [succeeds_bind_pure_iff, succeeds_unit_iff, pushEach_fst_eq_ok_iff]
  simp only [extSnssaiEntry_succeeds_iff]

/-- `parse_nssai` returns `true` on readable availability data. -/
theorem parseNssai_fst_iff (conf : Node) (nssaiData : SupportedNssaiAvailabilityData) :
    (parseNssai Y conf nssaiData).1 = true ↔ NssaiReadable Y conf := by
  unfold parseNssai NssaiReadable
  rw [← nssaiTai_succeeds_iff, ← supportedSnssaiList_succeeds_iff]
  cases nssaiTai Y conf with
  | error e => simp
  | ok tai =>
    cases supportedSnssaiList Y conf with
    | error e => simp
    | ok snssaiList => simp

/-- The supported list is stored last: where `parse_nssai` fails, it is as before. -/
theorem parseNssai_snd_of_failed {conf : Node} {nssaiData : SupportedNssaiAvailabilityData}
    (h : (parseNssai Y conf nssaiData).1 = false) :
    (parseNssai Y conf nssaiData).2.supportedSnssaiList = nssaiData.supportedSnssaiList := by
  unfold parseNssai at h ⊢
  cases htai : nssaiTai Y conf with
  | error e => rfl
  | ok tai =>
    cases hlist : supportedSnssaiList Y conf with
    | error e => rfl
    | ok snssaiList =>
      rw [htai, hlist] at h
      exact absurd h (by simp)

/-- What the entry of an AMF becomes, whether its availability data is readable or
    not. -/
theorem amfEntry_eq_ok_iff {amf : Node} {e : String × List SupportedNssaiAvailabilityData} :
    amfEntry Y amf = .ok e ↔
      ∃ conf nfId, Y.get amf "supportedNssaiAvailabilityData" = .ok conf ∧
        stringAt Y amf "nfId" = .ok nfId ∧ e = (nfId, [(parseNssai Y conf {}).2]) := by
  unfold amfEntry
  rw [Decoding.bind_eq_ok_iff]
  refine exists_congr fun conf => ?_
  rw [exists_and_left]
  refine and_congr_right fun _ => ?_
  show (stringAt Y amf "nfId" >>= fun nfId => pure (nfId, [(parseNssai Y conf {}).2])) = .ok e ↔ _
  rw [Decoding.bind_eq_ok_iff]
  exact exists_congr fun nfId => and_congr_right fun _ => Decoding.pure_eq_ok_iff

theorem amfEntry_succeeds_iff (amf : Node) :
    Succeeds (amfEntry Y amf) ↔
      Succeeds (Y.get amf "supportedNssaiAvailabilityData") ∧ Succeeds (stringAt Y amf "nfId") := by
  unfold amfEntry
  exact succeeds_bind_and_iff fun _ => succeeds_bind_pure_iff

/-- What the entry of an AMF set becomes: its names, and what the entries of its AMFs
    become, none of which may fail. -/
theorem amfSetEntry_eq_ok_iff {amfInfo : Node} {set : AmfInfo} :
    amfSetEntry Y amfInfo = .ok set ↔
      stringAt Y amfInfo "targetAmfSet" = .ok set.targetAmfSet ∧
      stringAt Y amfInfo "nrfAmfSet" = .ok set.nrfAmfSet ∧
      stringAt Y amfInfo "nrfAmfSetNfMgtUri" = .ok set.nrfAmfSetMgt ∧
      ∃ amfs, Y.get amfInfo "amfList" = .ok amfs ∧
        (∀ amf ∈ Y.children amfs, Succeeds (amfEntry Y amf)) ∧
        set.amfList = goodPrefix (amfEntry Y) (Y.children amfs) := by
  unfold amfSetEntry parseAmfList
  simp only [Decoding.bind_eq_ok_iff]
  constructor
  · rintro ⟨target, h1, nrf, h2, mgt, h3, amfs, h4, h⟩
    by_cases hall : ∀ amf ∈ Y.children amfs, Succeeds (amfEntry Y amf)
    · rw [(caught_pushEach_iff _ _ _).mpr hall, pushEach_snd] at h
      cases h
      exact ⟨h1, h2, h3, amfs, h4, hall, rfl⟩
    · rw [Bool.eq_false_iff.mpr (mt (caught_pushEach_iff _ _ _).mp hall)] at h
      cases h
  · rintro ⟨h1, h2, h3, amfs, h4, hall, hlist⟩
    refine ⟨_, h1, _, h2, _, h3, amfs, h4, ?_⟩
    rw [(caught_pushEach_iff _ _ _).mpr hall, pushEach_snd, List.nil_append, ← hlist]
    rfl

theorem amfSetEntry_succeeds_iff (amfInfo : Node) :
    Succeeds (amfSetEntry Y amfInfo) ↔
      AmfSetNamed Y amfInfo ∧ ∀ amfs, Y.get amfInfo "amfList" = .ok amfs →
        ∀ amf ∈ Y.children amfs, Succeeds (amfEntry Y amf) := by
  constructor
  · rintro ⟨set, h⟩
    obtain ⟨h1, h2, h3, amfs, h4, hall, -⟩ := amfSetEntry_eq_ok_iff.mp h
    refine ⟨⟨⟨_, h1⟩, ⟨_, h2⟩, ⟨_, h3⟩, ⟨_, h4⟩⟩, ?_⟩
    intro amfs' h4'
    rw [h4] at h4'
    cases h4'
    exact hall
  · rintro ⟨⟨⟨target, h1⟩, ⟨nrf, h2⟩, ⟨mgt, h3⟩, ⟨amfs, h4⟩⟩, hall⟩
    exact ⟨⟨target, nrf, mgt, goodPrefix (amfEntry Y) (Y.children amfs)⟩,
      amfSetEntry_eq_ok_iff.mpr ⟨h1, h2, h3, amfs, h4, hall amfs h4, rfl⟩⟩

/-! ## The document -/

/-- The document has the three sections, at these nodes. -/
structure HasSections (Y : Yaml Node) (config nsi ta amf : Node) : Prop where
  nsi_eq : configSection Y config "nsiInfoList" = .ok nsi
  nsi_isDefined : Y.isDefined nsi = true
  ta_eq : configSection Y config "taInfoList" = .ok ta
  ta_isDefined : Y.isDefined ta = true
  amf_eq : configSection Y config "amfInfoList" = .ok amf
  amf_isDefined : Y.isDefined amf = true

theorem parseNsiInfo_snd (conf : Node) (nsiInfoList : List NsiInfo) :
    (parseNsiInfo Y conf nsiInfoList).2 =
      nsiInfoList ++ goodPrefix (nsiEntry Y) (Y.children conf) :=
  pushEach_snd _ _

theorem parseTaInfo_snd (conf : Node) (taInfoList : List TaInfo) :
    (parseTaInfo Y conf taInfoList).2 =
      taInfoList ++ goodPrefix (taEntry Y) (Y.children conf) :=
  pushEach_snd _ _

theorem parseAmfInfo_snd (conf : Node) (amfInfoList : List AmfInfo) :
    (parseAmfInfo Y conf amfInfoList).2 =
      amfInfoList ++ goodPrefix (amfSetEntry Y) (Y.children conf) :=
  pushEach_snd _ _

/-- With the three sections, `parse_config` returns `true`, and each list has grown by
    the good prefix of its section. -/
theorem parseConfig_eq {config nsi ta amf : Node} (h : HasSections Y config nsi ta amf)
    (cfg : NssfConfig) :
    parseConfig Y (.ok config) cfg = .ok (true,
      { nsiInfoList := cfg.nsiInfoList ++ goodPrefix (nsiEntry Y) (Y.children nsi)
        taInfoList := cfg.taInfoList ++ goodPrefix (taEntry Y) (Y.children ta)
        amfInfoList := cfg.amfInfoList ++ goodPrefix (amfSetEntry Y) (Y.children amf) }) := by
  unfold parseConfig
  simp only [h.nsi_eq, h.ta_eq, h.amf_eq, ok_bind, h.nsi_isDefined, h.ta_isDefined, h.amf_isDefined,
    if_true]
  rw [← parseNsiInfo_snd, ← parseTaInfo_snd, ← parseAmfInfo_snd]
  rfl

/-- On any document, `parse_config` leaves the AMF sets alone or appends the good prefix
    of the section. -/
theorem parseConfig_amfInfoList {config : Node} {cfg cfg' : NssfConfig} {accepted : Bool}
    (h : parseConfig Y (.ok config) cfg = .ok (accepted, cfg')) :
    cfg'.amfInfoList = cfg.amfInfoList ∨
      ∃ amf, configSection Y config "amfInfoList" = .ok amf ∧
        cfg'.amfInfoList = cfg.amfInfoList ++ goodPrefix (amfSetEntry Y) (Y.children amf) := by
  unfold parseConfig at h
  simp only [Decoding.bind_eq_ok_iff] at h
  obtain ⟨nsi, -, h⟩ := h
  split_ifs at h
  swap
  · cases h
    exact Or.inl rfl
  simp only [Decoding.bind_eq_ok_iff] at h
  obtain ⟨ta, -, h⟩ := h
  split_ifs at h
  swap
  · cases h
    exact Or.inl rfl
  simp only [Decoding.bind_eq_ok_iff] at h
  obtain ⟨amf, hamf, h⟩ := h
  split_ifs at h
  swap
  · cases h
    exact Or.inl rfl
  cases h
  exact Or.inr ⟨amf, hamf, parseAmfInfo_snd amf _⟩

end OaiNssf.Config
