import Mathlib.Data.List.Basic

/-!
# Command lines as `getopt_long` reads them

The documented behaviour of `getopt_long` of the C library, as a machine that reads the
elements of `argv` after the program name: what its calls return, in order, until one
returns -1. Operands are skipped, since the library moves them behind the options; it does so
unless `POSIXLY_CORRECT` is set. The elements are strings of bytes: a `Char` of one stands for
a byte, also where the bytes encode other characters.

* `step`: what one element gives, and how the next one is read.
* `scanFrom_append`: a command line is read part by part.
* `scan_flatMap`: a command line made of words that each give their own events.
* `long_append`, `findLong_of_prefix`: long options and their abbreviations.
-/

namespace GetOpt

/-! ## The machine -/

/-- `has_arg`: whether an option takes an argument. -/
inductive HasArg where
  | noArgument
  | requiredArgument
  deriving DecidableEq, Repr

/-- An entry of the table of long options, with `flag` unset. -/
structure LongOption where
  name : String
  hasArg : HasArg
  val : Char
  deriving DecidableEq, Repr

/-- The options that a program declares. -/
structure Spec where
  short : Char → Option HasArg
  longs : List LongOption

/-- What a call returns: an option with `optarg`, or `'?'` with `optopt`, which is unset when
    a long option is not recognised. -/
inductive Event where
  | option (val : Char) (arg : Option String)
  | unknown (optopt : Option Char)
  deriving DecidableEq, Repr

/-- The option that a call returns, if it is not `'?'`. -/
def Event.val : Event → Option Char
  | .option val _ => some val
  | .unknown _ => none

/-- How the next element is read: as an option or an operand, as the argument of the option
    before it, or, after `--`, as an operand. -/
inductive Mode where
  | options
  | argument (val : Char)
  | operands
  deriving DecidableEq, Repr

variable (S : Spec)

/-- An element of short options. An option with an argument takes the rest of the element, or
    the next element if nothing is left. -/
def Spec.cluster : List Char → List Event × Mode
  | [] => ([], .options)
  | c :: rest =>
    match S.short c with
    | none => (.unknown (some c) :: (Spec.cluster rest).1, (Spec.cluster rest).2)
    | some .noArgument => (.option c none :: (Spec.cluster rest).1, (Spec.cluster rest).2)
    | some .requiredArgument =>
      if rest = [] then ([], .argument c)
      else ([.option c (some (String.ofList rest))], .options)

/-- The long option of a name: the one that is called so, else the one that the name
    abbreviates. The options that it abbreviates must have the same effect. -/
def Spec.findLong (name : List Char) : Option LongOption :=
  match S.longs.find? fun o => o.name.toList = name with
  | some o => some o
  | none =>
    match S.longs.filter fun o => name.isPrefixOf o.name.toList with
    | [] => none
    | o :: rest =>
      if rest.all fun o' => o'.hasArg = o.hasArg ∧ o'.val = o.val then some o else none

/-- What a long option gives, with the rest of its element: nothing or `=value`. -/
def LongOption.given (o : LongOption) (value : List Char) : List Event × Mode :=
  match o.hasArg, value with
  | .noArgument, [] => ([.option o.val none], .options)
  | .noArgument, _ :: _ => ([.unknown (some o.val)], .options)
  | .requiredArgument, [] => ([], .argument o.val)
  | .requiredArgument, _ :: arg => ([.option o.val (some (String.ofList arg))], .options)

/-- A long option, after its dashes: `name` or `name=value`. -/
def Spec.long (body : List Char) : List Event × Mode :=
  match S.findLong (body.takeWhile (· ≠ '=')) with
  | none => ([.unknown none], .options)
  | some o => o.given (body.dropWhile (· ≠ '='))

/-- An element where an option may stand. A single dash is an operand. -/
def Spec.element (arg : List Char) : List Event × Mode :=
  match arg with
  | ['-', '-'] => ([], .operands)
  | '-' :: '-' :: body => S.long body
  | '-' :: c :: rest => S.cluster (c :: rest)
  | _ => ([], .options)

/-- What one element gives, and how the next one is read. -/
def Spec.step : Mode → String → List Event × Mode
  | .options, arg => S.element arg.toList
  | .argument val, arg => ([.option val (some arg)], .options)
  | .operands, _ => ([], .operands)

/-- What the end of the command line gives. -/
def Mode.finish : Mode → List Event
  | .argument val => [.unknown (some val)]
  | _ => []

/-- What the calls return on the elements that are left. -/
def Spec.scanFrom : Mode → List String → List Event
  | mode, [] => mode.finish
  | mode, arg :: args => (S.step mode arg).1 ++ Spec.scanFrom (S.step mode arg).2 args

/-- What the calls return on a command line. -/
def Spec.scan (args : List String) : List Event := S.scanFrom .options args

/-- How the element after these is read. -/
def Spec.modeAfter (mode : Mode) (args : List String) : Mode :=
  args.foldl (fun mode arg => (S.step mode arg).2) mode

/-- What the calls return on these elements, without the end. -/
def Spec.emitted : Mode → List String → List Event
  | _, [] => []
  | mode, arg :: args => (S.step mode arg).1 ++ Spec.emitted (S.step mode arg).2 args

/-! ## Reading part by part -/

variable {S}

theorem scanFrom_append (mode : Mode) (before after : List String) :
    S.scanFrom mode (before ++ after) =
      S.emitted mode before ++ S.scanFrom (S.modeAfter mode before) after := by
  induction before generalizing mode with
  | nil => rfl
  | cons arg before ih =>
    show (S.step mode arg).1 ++ S.scanFrom (S.step mode arg).2 (before ++ after) = _
    rw [ih, ← List.append_assoc]
    rfl

/-- Elements that leave no argument open give these events, wherever they stand. -/
structure IsWord (S : Spec) (args : List String) (events : List Event) : Prop where
  emitted_eq : S.emitted .options args = events
  modeAfter_eq : S.modeAfter .options args = .options

theorem IsWord.scan_append {args : List String} {events : List Event} (h : IsWord S args events)
    (rest : List String) : S.scan (args ++ rest) = events ++ S.scan rest := by
  rw [Spec.scan, scanFrom_append, h.emitted_eq, h.modeAfter_eq]
  rfl

/-- A command line made of words. -/
theorem scan_flatMap {ω : Type} {write : ω → List String} {read : ω → List Event}
    {words : List ω} (h : ∀ w ∈ words, IsWord S (write w) (read w)) :
    S.scan (words.flatMap write) = words.flatMap read := by
  induction words with
  | nil => rfl
  | cons w words ih =>
    have hrest := ih fun w' hw' => h w' (List.mem_cons_of_mem w hw')
    rw [List.flatMap_cons, (h w List.mem_cons_self).scan_append, hrest, List.flatMap_cons]

/-- An element whose reading leaves no argument open. -/
theorem isWord_singleton {arg : String} {events : List Event}
    (h : S.element arg.toList = (events, .options)) : IsWord S [arg] events := by
  constructor
  · show (S.element arg.toList).1 ++ [] = events
    rw [h, List.append_nil]
  · show (S.element arg.toList).2 = .options
    rw [h]

/-- An element whose option takes the next one as its argument. -/
theorem isWord_pair {arg value : String} {events : List Event} {val : Char}
    (h : S.element arg.toList = (events, .argument val)) :
    IsWord S [arg, value] (events ++ [.option val (some value)]) := by
  have hsnd : (S.element arg.toList).2 = .argument val := by rw [h]
  constructor
  · show (S.element arg.toList).1 ++ ((S.step (S.element arg.toList).2 value).1 ++ []) = _
    rw [hsnd, h, List.append_nil]
    rfl
  · show (S.step (S.element arg.toList).2 value).2 = .options
    rw [hsnd]
    rfl

/-- An operand gives nothing. -/
theorem element_of_head {arg : List Char} (h : arg.head? ≠ some '-') :
    S.element arg = ([], .options) := by
  unfold Spec.element
  split
  · simp at h
  · simp at h
  · simp at h
  · rfl

/-! ## Long options -/

/-- A name without `=`, followed by nothing or by `=value`. -/
theorem long_append {name value : List Char} {o : LongOption} (hname : '=' ∉ name)
    (hvalue : ∀ c ∈ value.head?, c = '=') (ho : S.findLong name = some o) :
    S.long (name ++ value) = o.given value := by
  have hmem : ∀ c ∈ name, decide (c ≠ '=') = true := by
    intro c hc
    rw [decide_eq_true_iff]
    rintro rfl
    exact hname hc
  have hhead : value.takeWhile (· ≠ '=') = [] ∧ value.dropWhile (· ≠ '=') = value := by
    cases value with
    | nil => exact ⟨rfl, rfl⟩
    | cons c rest =>
      have hc : c = '=' := hvalue c rfl
      simp [hc]
  unfold Spec.long
  rw [List.takeWhile_append_of_pos hmem, List.dropWhile_append_of_pos hmem, hhead.1, hhead.2,
    List.append_nil, ho]

/-- A long option whose first letter is no other's can be abbreviated to any part of its
    name. -/
theorem findLong_of_prefix {o : LongOption} {name : List Char} (ho : o ∈ S.longs)
    (hfirst : ∀ o' ∈ S.longs, o'.name.toList.head? = o.name.toList.head? → o' = o)
    (hname : name ≠ []) (hpre : name <+: o.name.toList) : S.findLong name = some o := by
  have honly : ∀ o' ∈ S.longs, name <+: o'.name.toList → o' = o := by
    intro o' ho' hpre'
    apply hfirst o' ho'
    obtain ⟨c, rest, rfl⟩ := List.exists_cons_of_ne_nil hname
    obtain ⟨left', hleft'⟩ := hpre'
    obtain ⟨left, hleft⟩ := hpre
    rw [← hleft', ← hleft]
    rfl
  unfold Spec.findLong
  cases hfind : S.longs.find? fun o => o.name.toList = name with
  | some o' =>
    have hexact : o'.name.toList = name := by simpa using List.find?_some hfind
    have hpre' : name <+: o'.name.toList := hexact ▸ List.prefix_refl name
    rw [honly o' (List.mem_of_find?_eq_some hfind) hpre']
  | none =>
    have hcandidate : ∀ o', o' ∈ S.longs.filter (fun o => name.isPrefixOf o.name.toList) →
        o' = o := by
      intro o' ho'
      obtain ⟨hmem, hpre'⟩ := List.mem_filter.mp ho'
      exact honly o' hmem (List.isPrefixOf_iff_prefix.mp hpre')
    have hself : o ∈ S.longs.filter (fun o => name.isPrefixOf o.name.toList) :=
      List.mem_filter.mpr ⟨ho, List.isPrefixOf_iff_prefix.mpr hpre⟩
    dsimp only
    cases hfilter : S.longs.filter fun o => name.isPrefixOf o.name.toList with
    | nil => simp [hfilter] at hself
    | cons o' rest =>
      rw [hfilter] at hcandidate
      have hall : ∀ o'' ∈ o' :: rest, o'' = o := hcandidate
      rw [hall o' List.mem_cons_self]
      have heffect : rest.all fun o'' => o''.hasArg = o.hasArg ∧ o''.val = o.val := by
        rw [List.all_eq_true]
        intro o'' ho''
        rw [hall o'' (List.mem_cons_of_mem _ ho'')]
        simp
      exact if_pos heffect

end GetOpt
