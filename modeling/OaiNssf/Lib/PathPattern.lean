import Mathlib.Data.List.Basic

/-!
# Path patterns with parameters

A route of a REST router is registered under a pattern such as `/users/:id`. A path is read
as its segments, empty ones dropped; a pattern matches a path of the same number of segments
and binds each `:name` to the segment in its place.

A path is a string of bytes, one for each character. Some routers read it as it was sent, others
with its percent-escapes resolved.

* `segments_append`: the segments of a path that is put together from parts.
* `IsDecoding`, `percentDecode`: what resolving the escapes does to a path.
* `length_of_bindings`: which paths a pattern can match.
* `IsRouter`, `IsMux`: what a router over a table of patterns promises.
-/

namespace PathPattern

/-! ## Segments -/

/-- The parts of a path between its slashes, without the empty ones. -/
def segments (path : String) : List String :=
  ((path.toList.splitOn '/').filter (· ≠ [])).map String.ofList

/-- The part put after another begins with a slash. -/
theorem segments_append (path rest : String) :
    segments (path ++ "/" ++ rest) = segments path ++ segments rest := by
  have htoList : (path ++ "/" ++ rest).toList = path.toList ++ '/' :: rest.toList := by
    simp [String.toList_append]
  unfold segments
  rw [htoList, List.splitOn_append_cons_self, List.filter_append, List.map_append]

theorem segments_append_slash (path : String) : segments (path ++ "/") = segments path := by
  have h := segments_append path ""
  rwa [String.append_empty, show segments "" = [] from rfl, List.append_nil] at h

/-- A text without slashes is one segment. -/
theorem segments_eq_singleton {text : String} (hne : text ≠ "") (h : '/' ∉ text.toList) :
    segments text = [text] := by
  have hnil : text.toList ≠ [] := fun hnil => hne (String.toList_eq_nil_iff.mp hnil)
  unfold segments
  rw [List.splitOn_eq_singleton h]
  simp [hnil]

theorem getLast_suffix_intercalate (sep : List Char) {parts : List (List Char)} (h : parts ≠ []) :
    parts.getLast h <:+ sep.intercalate parts := by
  induction parts with
  | nil => exact (h rfl).elim
  | cons part parts ih =>
    by_cases hnil : parts = []
    · subst hnil
      simp
    · rw [List.getLast_cons hnil, List.intercalate_cons_of_ne_nil hnil]
      exact (ih hnil).trans (List.suffix_append _ _)

/-- What follows the last slash ends the path. -/
theorem getLast_splitOn_suffix (path : List Char) :
    (path.splitOn '/').getLast (List.splitOn_ne_nil _ _) <:+ path := by
  have h := getLast_suffix_intercalate ['/'] (List.splitOn_ne_nil '/' path)
  rwa [List.intercalate_splitOn] at h

theorem ne_of_mem_segments {path s : String} (h : s ∈ segments path) : s ≠ "" := by
  obtain ⟨cs, hcs, rfl⟩ := List.mem_map.mp h
  have hne : cs ≠ [] := by simpa using (List.mem_filter.mp hcs).2
  simpa using hne

/-! ## Percent-escapes -/

/-- The value of a hexadecimal digit. -/
def hexValue (c : Char) : Option ℕ :=
  if '0' ≤ c ∧ c ≤ '9' then some (c.toNat - '0'.toNat)
  else if 'a' ≤ c ∧ c ≤ 'f' then some (c.toNat - 'a'.toNat + 10)
  else if 'A' ≤ c ∧ c ≤ 'F' then some (c.toNat - 'A'.toNat + 10)
  else none

/-- The byte that the escape with these two digits stands for. -/
def escaped (high low : Char) : Option Char :=
  match hexValue high, hexValue low with
  | some h, some l => some (Char.ofNat (16 * h + l))
  | _, _ => none

/-- Resolves the escapes from left to right; a `%` without two digits is kept. -/
def decodeChars : List Char → List Char
  | '%' :: high :: low :: cs =>
    match escaped high low with
    | some c => c :: decodeChars cs
    | none => '%' :: decodeChars (high :: low :: cs)
  | c :: cs => c :: decodeChars cs
  | [] => []

def percentDecode (s : String) : String := String.ofList (decodeChars s.toList)

/-- A character that begins no escape is kept. -/
theorem decodeChars_cons {c : Char} {cs : List Char}
    (h : ∀ high low rest, c = '%' → cs = high :: low :: rest → escaped high low = none) :
    decodeChars (c :: cs) = c :: decodeChars cs := by
  by_cases hc : c = '%'
  · subst hc
    match cs, h with
    | [], _ => rfl
    | [_], _ => rfl
    | high :: low :: rest, h => rw [decodeChars, h high low rest rfl rfl]
  · rw [decodeChars]
    intro high low rest heq
    exact absurd heq hc

/-- A slash is no digit. -/
theorem escaped_slash_left (low : Char) : escaped '/' low = none := rfl

theorem escaped_slash_right (high : Char) : escaped high '/' = none := by
  unfold escaped
  cases hexValue high <;> rfl

/-- No escape goes past a slash. -/
theorem decodeChars_append_slash (as bs : List Char) :
    decodeChars (as ++ '/' :: bs) = decodeChars as ++ '/' :: decodeChars bs := by
  fun_induction decodeChars as with
  | case1 high low cs c hescaped ih =>
    simp only [List.cons_append, decodeChars, hescaped]
    rw [ih]
  | case2 high low cs hescaped ih =>
    simp only [List.cons_append, decodeChars, hescaped]
    rw [← ih]
    rfl
  | case3 c cs hno ih =>
    rw [List.cons_append, decodeChars_cons, ih, List.cons_append]
    intro high low rest hc heq
    -- what is left of the slash is too short for an escape
    match cs, hno with
    | [], _ =>
      obtain ⟨rfl, -⟩ := List.cons.inj heq
      exact escaped_slash_left low
    | [_], _ =>
      obtain ⟨-, heq⟩ := List.cons.inj heq
      obtain ⟨rfl, -⟩ := List.cons.inj heq
      exact escaped_slash_right high
    | c₁ :: c₂ :: cs', hno => exact (hno c₁ c₂ cs' hc rfl).elim
  | case4 => exact decodeChars_cons fun _ _ _ hc => absurd hc (by decide)

theorem length_decodeChars_le (cs : List Char) : (decodeChars cs).length ≤ cs.length := by
  fun_induction decodeChars cs with
  | case1 high low cs c hescaped ih =>
    simp only [List.length_cons]
    omega
  | case2 high low cs hescaped ih => exact Nat.succ_le_succ ih
  | case3 c cs hno ih => exact Nat.succ_le_succ ih
  | case4 => exact Nat.le_refl _

/-- An escape makes a text shorter. -/
theorem decodeChars_eq_self {cs : List Char} (h : (decodeChars cs).length = cs.length) :
    decodeChars cs = cs := by
  fun_induction decodeChars cs with
  | case1 high low cs c hescaped ih =>
    have hle := length_decodeChars_le cs
    simp only [List.length_cons] at h
    omega
  | case2 high low cs hescaped ih => rw [ih (Nat.succ.inj h)]
  | case3 c cs hno ih => rw [ih (Nat.succ.inj h)]
  | case4 => rfl

/-- How escapes are resolved, as far as the slashes and the length of a path can tell. -/
structure IsDecoding (decode : String → String) : Prop where
  append_slash : ∀ a b, decode (a ++ "/" ++ b) = decode a ++ "/" ++ decode b
  length_le : ∀ s, (decode s).length ≤ s.length
  eq_self : ∀ {s}, (decode s).length = s.length → decode s = s

theorem percentDecode_isDecoding : IsDecoding percentDecode where
  append_slash := by
    intro a b
    have htoList : (a ++ "/" ++ b).toList = a.toList ++ '/' :: b.toList := by
      simp [String.toList_append]
    apply String.toList_inj.mp
    rw [percentDecode, htoList, decodeChars_append_slash]
    simp [percentDecode, String.toList_append]
  length_le := by
    intro s
    rw [percentDecode, String.length_ofList]
    exact length_decodeChars_le s.toList
  eq_self := by
    intro s h
    rw [percentDecode, String.length_ofList] at h
    rw [percentDecode, decodeChars_eq_self h, String.ofList_toList]

/-- A text without characters has no escape. -/
theorem IsDecoding.empty {decode : String → String} (h : IsDecoding decode) : decode "" = "" :=
  h.eq_self (Nat.le_zero.mp (h.length_le ""))

/-! ## Patterns -/

/-- A segment of a pattern: a fixed text, or a parameter with its name. -/
inductive Segment where
  | fixed (text : String)
  | param (name : String)
  deriving DecidableEq, Repr

abbrev Pattern := List Segment

/-- A segment that begins with a colon is a parameter; the colon is part of its name. -/
def Segment.ofString (s : String) : Segment :=
  if s.toList.head? = some ':' then .param s else .fixed s

/-- The pattern that a path stands for when it is registered. -/
def pattern (path : String) : Pattern := (segments path).map Segment.ofString

/-- The values of the parameters of a pattern, by their names. -/
abbrev Params := List (String × String)

/-- Matches the segments of a path against a pattern. -/
def bindings : Pattern → List String → Option Params
  | [], [] => some []
  | .fixed text :: p, s :: path => if text = s then bindings p path else none
  | .param name :: p, s :: path => (bindings p path).map fun params => (name, s) :: params
  | _, _ => none

/-- A pattern matches only paths of its own length. -/
theorem length_of_bindings {p : Pattern} {path : List String} {params : Params}
    (h : bindings p path = some params) : path.length = p.length := by
  induction p generalizing path params with
  | nil =>
    cases path with
    | nil => rfl
    | cons s path => cases h
  | cons segment p ih =>
    cases path with
    | nil => cases segment <;> cases h
    | cons s path =>
      cases segment with
      | fixed text =>
        rw [bindings] at h
        split_ifs at h
        rw [List.length_cons, List.length_cons, ih h]
      | param name =>
        rw [bindings] at h
        obtain ⟨params', h', -⟩ := Option.map_eq_some_iff.mp h
        rw [List.length_cons, List.length_cons, ih h']

/-- A pattern of fixed texts and one parameter at the end binds the last segment. -/
theorem bindings_concat_param {p : Pattern} (hfixed : ∀ segment ∈ p, ∃ text, segment = .fixed text)
    {name : String} {path : List String} {params : Params}
    (h : bindings (p ++ [.param name]) path = some params) :
    ∃ before s, path = before ++ [s] ∧ params = [(name, s)] := by
  induction p generalizing path with
  | nil =>
    cases path with
    | nil => cases h
    | cons s path =>
      cases path with
      | nil => exact ⟨[], s, rfl, (Option.some_inj.mp h).symm⟩
      | cons s' path => cases h
  | cons segment p ih =>
    obtain ⟨text, rfl⟩ := hfixed _ List.mem_cons_self
    cases path with
    | nil => cases h
    | cons s path =>
      rw [List.cons_append, bindings] at h
      split_ifs at h
      obtain ⟨before, s', rfl, hparams⟩ :=
        ih (fun segment hmem => hfixed segment (List.mem_cons_of_mem _ hmem)) h
      exact ⟨s :: before, s', rfl, hparams⟩

/-! ## Routers -/

variable {H : Type*}

/-- `find` looks a path up in a table of patterns: it takes an entry that matches, with the
    bindings of its pattern, and gives up only when none does. -/
structure IsRouter (find : List (Pattern × H) → List String → Option (H × Params)) : Prop where
  found : ∀ {table path h params}, find table path = some (h, params) →
    ∃ entry ∈ table, entry.2 = h ∧ bindings entry.1 path = some params
  notFound : ∀ {table path}, find table path = none →
    ∀ entry ∈ table, bindings entry.1 path = none

/-- The router that takes the first entry that matches. -/
def findFirst : List (Pattern × H) → List String → Option (H × Params)
  | [], _ => none
  | entry :: table, path =>
    match bindings entry.1 path with
    | some params => some (entry.2, params)
    | none => findFirst table path

theorem findFirst_isRouter : IsRouter (H := H) findFirst where
  found := by
    intro table path h params hfind
    induction table with
    | nil => cases hfind
    | cons entry table ih =>
      unfold findFirst at hfind
      cases hbind : bindings entry.1 path with
      | some params' =>
        rw [hbind] at hfind
        cases hfind
        exact ⟨entry, List.mem_cons_self, rfl, hbind⟩
      | none =>
        rw [hbind] at hfind
        obtain ⟨entry', hmem, hentry⟩ := ih hfind
        exact ⟨entry', List.mem_cons_of_mem entry hmem, hentry⟩
  notFound := by
    intro table path hfind
    induction table with
    | nil => exact fun entry h => absurd h List.not_mem_nil
    | cons entry table ih =>
      unfold findFirst at hfind
      cases hbind : bindings entry.1 path with
      | some params' =>
        rw [hbind] at hfind
        cases hfind
      | none =>
        rw [hbind] at hfind
        exact List.forall_mem_cons.mpr ⟨hbind, ih hfind⟩

/-- A path that one entry alone matches is routed to it. -/
theorem IsRouter.find_eq {find : List (Pattern × H) → List String → Option (H × Params)}
    (hfind : IsRouter find) {table : List (Pattern × H)} {path : List String} {h : H}
    {params : Params} (hmem : ∃ entry ∈ table, entry.2 = h ∧ bindings entry.1 path = some params)
    (honly : ∀ entry ∈ table, bindings entry.1 path ≠ none →
      entry.2 = h ∧ bindings entry.1 path = some params) :
    find table path = some (h, params) := by
  cases hres : find table path with
  | none =>
    obtain ⟨entry, hentry, -, hbind⟩ := hmem
    have hnone := hfind.notFound hres entry hentry
    rw [hnone] at hbind
    cases hbind
  | some res =>
    obtain ⟨h', params'⟩ := res
    obtain ⟨entry, hentry, hh, hbind⟩ := hfind.found hres
    obtain ⟨honlyh, honlyb⟩ := honly entry hentry (by rw [hbind]; exact Option.some_ne_none _)
    rw [hbind, Option.some.injEq] at honlyb
    rw [← hh, honlyh, honlyb]

/-- A path that no entry matches is not routed. -/
theorem IsRouter.find_eq_none {find : List (Pattern × H) → List String → Option (H × Params)}
    (hfind : IsRouter find) {table : List (Pattern × H)} {path : List String}
    (h : ∀ entry ∈ table, bindings entry.1 path = none) : find table path = none := by
  cases hres : find table path with
  | none => rfl
  | some res =>
    obtain ⟨entry, hentry, -, hbind⟩ := hfind.found hres
    rw [h entry hentry] at hbind
    cases hbind

/-! ## Subtrees -/

/-- A plain pattern names a path or, if it ends with a slash, all paths that begin with it. -/
def Names (plain path : String) : Prop :=
  plain = path ∨ (plain.toList.getLast? = some '/' ∧ plain.toList <+: path.toList)

instance (plain path : String) : Decidable (Names plain path) :=
  inferInstanceAs
    (Decidable (plain = path ∨ (plain.toList.getLast? = some '/' ∧ plain.toList <+: path.toList)))

/-- A path from the root without an empty segment before its end, and without `.` and `..`. -/
def Clean (path : String) : Prop :=
  path.toList.head? = some '/' ∧ [] ∉ (path.toList.splitOn '/').tail.dropLast ∧
    ['.'] ∉ path.toList.splitOn '/' ∧ ['.', '.'] ∉ path.toList.splitOn '/'

instance (path : String) : Decidable (Clean path) :=
  inferInstanceAs (Decidable (_ ∧ _ ∧ _ ∧ _))

/-- A path that only lacks the slash of a plain pattern. -/
def LacksSlash (table : List (String × H)) (path : String) : Prop :=
  (∀ entry ∈ table, entry.1 ≠ path) ∧ ∃ entry ∈ table, entry.1 = path ++ "/"

instance (table : List (String × H)) (path : String) : Decidable (LacksSlash table path) :=
  inferInstanceAs (Decidable (_ ∧ _))

/-- The paths that a mux looks up; it redirects the others. -/
def Served (table : List (String × H)) (path : String) : Prop :=
  Clean path ∧ ¬LacksSlash table path

instance (table : List (String × H)) (path : String) : Decidable (Served table path) :=
  inferInstanceAs (Decidable (_ ∧ _))

/-- `mux` looks a path up in a table of plain patterns: of a path that is not redirected, it
    takes the longest that names it, and gives up only when none does. -/
structure IsMux (mux : List (String × H) → String → Option H) : Prop where
  found : ∀ {table path h}, Served table path → mux table path = some h →
    ∃ entry ∈ table, entry.2 = h ∧ Names entry.1 path ∧
      ∀ entry' ∈ table, Names entry'.1 path → entry'.1.length ≤ entry.1.length
  notFound : ∀ {table path}, Served table path → mux table path = none →
    ∀ entry ∈ table, ¬Names entry.1 path

/-- The entry with the longest pattern that names the path, the last one of that length. -/
def longestEntry : List (String × H) → String → Option (String × H)
  | [], _ => none
  | entry :: table, path =>
    match longestEntry table path with
    | none => if Names entry.1 path then some entry else none
    | some best =>
      if Names entry.1 path ∧ best.1.length < entry.1.length then some entry else some best

/-- The mux that takes this entry. -/
def findLongest (table : List (String × H)) (path : String) : Option H :=
  (longestEntry table path).map Prod.snd

theorem longestEntry_eq_none {table : List (String × H)} {path : String}
    (h : longestEntry table path = none) : ∀ entry ∈ table, ¬Names entry.1 path := by
  induction table with
  | nil => exact fun entry hentry => absurd hentry List.not_mem_nil
  | cons entry table ih =>
    unfold longestEntry at h
    cases hrest : longestEntry table path with
    | none =>
      rw [hrest] at h
      have hnot : ¬Names entry.1 path := by simpa using h
      exact List.forall_mem_cons.mpr ⟨hnot, ih hrest⟩
    | some best =>
      rw [hrest] at h
      dsimp only at h
      split_ifs at h

theorem longestEntry_eq_some {table : List (String × H)} {path : String} {best : String × H}
    (h : longestEntry table path = some best) :
    best ∈ table ∧ Names best.1 path ∧
      ∀ entry ∈ table, Names entry.1 path → entry.1.length ≤ best.1.length := by
  induction table generalizing best with
  | nil => cases h
  | cons entry table ih =>
    unfold longestEntry at h
    cases hrest : longestEntry table path with
    | none =>
      have hnone := longestEntry_eq_none hrest
      rw [hrest] at h
      dsimp only at h
      split_ifs at h with hnames
      cases h
      refine ⟨List.mem_cons_self, hnames, List.forall_mem_cons.mpr ⟨fun _ => Nat.le_refl _, ?_⟩⟩
      exact fun entry' hentry' hnames' => absurd hnames' (hnone entry' hentry')
    | some best' =>
      obtain ⟨hmem, hnames', hlongest⟩ := ih hrest
      rw [hrest] at h
      dsimp only at h
      split_ifs at h with hbetter
      · cases h
        refine ⟨List.mem_cons_self, hbetter.1,
          List.forall_mem_cons.mpr ⟨fun _ => Nat.le_refl _, ?_⟩⟩
        intro entry' hentry' hnamed
        have hle := hlongest entry' hentry' hnamed
        have hlt := hbetter.2
        omega
      · cases h
        refine ⟨List.mem_cons_of_mem _ hmem, hnames', List.forall_mem_cons.mpr ⟨?_, hlongest⟩⟩
        intro hnamed
        have hnot : ¬best.1.length < entry.1.length := fun hlt => hbetter ⟨hnamed, hlt⟩
        omega

theorem findLongest_isMux : IsMux (H := H) findLongest where
  found := by
    intro table path h _ hfind
    obtain ⟨entry, hentry, rfl⟩ := Option.map_eq_some_iff.mp hfind
    obtain ⟨hmem, hnames, hlongest⟩ := longestEntry_eq_some hentry
    exact ⟨entry, hmem, rfl, hnames, hlongest⟩
  notFound := by
    intro table path _ hfind
    exact longestEntry_eq_none (Option.map_eq_none_iff.mp hfind)

/-- The root names every path. -/
theorem names_root {path : String} (h : path.toList.head? = some '/') : Names "/" path := by
  refine Or.inr ⟨rfl, ?_⟩
  obtain ⟨rest, hrest⟩ := List.head?_eq_some_iff.mp h
  exact ⟨rest, hrest.symm⟩

/-- A path is given to an entry that names it if no other entry as long as this one does. -/
theorem IsMux.mux_eq {mux : List (String × H) → String → Option H} (hmux : IsMux mux)
    {table : List (String × H)} {path : String} (hserved : Served table path)
    {entry : String × H} (hentry : entry ∈ table) (hnames : Names entry.1 path)
    (hlongest : ∀ entry' ∈ table, Names entry'.1 path → entry.1.length ≤ entry'.1.length →
      entry'.2 = entry.2) :
    mux table path = some entry.2 := by
  cases hres : mux table path with
  | none => exact absurd hnames (hmux.notFound hserved hres entry hentry)
  | some h =>
    obtain ⟨entry', hentry', rfl, hnames', hbest⟩ := hmux.found hserved hres
    rw [hlongest entry' hentry' hnames' (hbest entry hentry hnames)]

end PathPattern
