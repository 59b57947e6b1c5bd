import Stencil.Proofs.Percent.Spelling

/-!
# Fields with sizes

A rule that reads sizes looks at the type of the argument first and then at the digits, in an order of its
own. It refuses a directive with a size that is too large or is not written with ASCII digits, and uses all
other sizes for what they denote.

* `SizedRule.lay`: the text of a rule for sizes that are numbers.
* `SizedRule.textOf_eq`: the text of a rule, from what its digits are read as.
* `SizedRule.readSizes_cases`: the digits are read as numbers, or one of them is the fault.
* `SizedRule.Obeys`: what comes out for a directive.
* `SizedRule.substitute_sizes`: the main result.
-/

namespace Stencil.Directive

open Number Padding Percent

namespace SizedRule

/-! ## Texts -/

/-- The argument is of the type that the rule takes. -/
def Accepts : SizedRule → Value → Prop
  | text, arg | cutText, arg => ∃ t, arg = .text t
  | integer, arg | exponential, arg | fixed, arg => arg.number?.isSome = true

/-- The name of this type in errors. -/
def expected : SizedRule → String
  | text | cutText => "a string"
  | integer | exponential | fixed => "an integer"

/-- A number with an exponent in a field. With both sizes it is padded, and with a width alone fitted. -/
def exponentialField (fill : Fill) (negative : Bool) (x : Magnitude) :
    Option Nat → Option Nat → Except Error (List Char)
  | none, precision => .ok (Real.exponentialText negative x precision)
  | some width, none =>
    let cs := Real.exponentialText negative x none
    orTooNarrow width cs (Real.fitExponential? cs width)
  | some width, some places =>
    let cs := Real.exponentialText negative x (some places)
    orTooNarrow width cs (if width < cs.length then none else some (fill.insert (width - cs.length) cs))

/-- A number without an exponent in a field. -/
def fixedField (fill : Fill) (negative : Bool) (x : Magnitude) :
    Option Nat → Option Nat → Except Error (List Char)
  | none, places => .ok (Real.fixedText negative x (places.getD 6))
  | some width, none =>
    orTooNarrow width (Binary64.finite negative x).plainText (Real.fitFixed? negative x width)
  | some width, some places =>
    let cs := Real.fixedText negative x places
    .ok (fill.insert (width - cs.length) cs)

/-- The text that stands in place of a directive with these sizes. -/
def lay (r : SizedRule) (fill : Fill) (width precision : Option Nat) (heap : Heap) (arg : Value) :
    Except Error (List Char) :=
  match r with
  | integer => (numberOf heap arg).map fun _ => place fill (arg.display heap).toList (width.getD 0)
  | text => (Directive.textOf heap arg).map fun cs => place fill cs (width.getD 0)
  | cutText =>
    (Directive.textOf heap arg).map fun cs => place fill (cs.take (precision.getD 0)) (width.getD 0)
  | exponential => do
    let (negative, x) ← numberOf heap arg
    exponentialField fill negative x width precision
  | fixed => do
    let (negative, x) ← numberOf heap arg
    fixedField fill negative x width precision

/-- The sizes in the order in which the rule reads them. -/
def readSizes : SizedRule → Sizes → Except Error (Option Nat × Option Nat)
  | cutText, s => do
    let precision ← readSize s.precision
    let width ← readSize s.width
    pure (width, precision)
  | _, s => do
    let width ← readSize s.width
    let precision ← readSize s.precision
    pure (width, precision)

section Texts

variable {r : SizedRule} {s : Sizes} {d : Directive} {heap : Heap} {arg : Value}

theorem numberOf_of_isSome (h : arg.number?.isSome = true) (heap : Heap) :
    ∃ y, numberOf heap arg = .ok y := by
  obtain ⟨y, hy⟩ := Option.isSome_iff_exists.mp h
  obtain ⟨negative, x, rfl⟩ := Binary64.exists_of_isFinite (Value.isFinite_of_number? hy)
  exact ⟨_, numberOf_eq hy⟩

theorem numberOf_of_not_isSome (h : ¬ arg.number?.isSome = true) :
    numberOf heap arg = .error (notANumber heap arg) := by
  rw [numberOf, Option.not_isSome_iff_eq_none.mp h]

theorem textOf_of_ne (h : ¬ ∃ t, arg = .text t) : Directive.textOf heap arg = .error (notAText heap arg) := by
  rw [Directive.textOf]
  intro t ht
  exact h ⟨t, ht⟩

/-- The type of the argument comes before all sizes. -/
theorem textOf_of_not_accepts (h : ¬ r.Accepts arg) (d : Directive) (heap : Heap) :
    r.textOf d heap arg = .error (.typeMismatch r.expected (arg.display heap)) := by
  cases r with
  | integer => rw [textOf, paddedIntegerText, numberOf_of_not_isSome h]; rfl
  | text => rw [textOf, paddedTextText, textOf_of_ne h]; rfl
  | cutText => rw [textOf, cutTextText, textOf_of_ne h]; rfl
  | exponential => rw [textOf, exponentialText, numberOf_of_not_isSome h]; rfl
  | fixed => rw [textOf, fixedText, numberOf_of_not_isSome h]; rfl

theorem lay_of_not_accepts (h : ¬ r.Accepts arg) (fill : Fill) (width precision : Option Nat) (heap : Heap) :
    r.lay fill width precision heap arg = .error (.typeMismatch r.expected (arg.display heap)) := by
  cases r with
  | integer | exponential | fixed => rw [lay, numberOf_of_not_isSome h]; rfl
  | text | cutText => rw [lay, textOf_of_ne h]; rfl

theorem part_captured (body : String) (start stop : Nat) (parts : List (Option (List Char))) (i : Nat) :
    (⟨body, start, stop, captured body parts⟩ : Directive).part (i + 1) = (parts[i]?.join).getD [] := by
  simp only [part, Directive.group, captured, List.getElem?_cons_succ, List.getElem?_map]
  rcases parts[i]? with _ | _ | cs
  · rfl
  · rfl
  · exact String.toList_ofList

/-- The directive for a body with these sizes, as the rule sees it. -/
def directive (r : SizedRule) (s : Sizes) (body : String) (start stop : Nat) : Directive :=
  ⟨body, start, stop, captured body (r.parts s)⟩

theorem decide_flagOf (fill : Fill) : decide (flagOf fill = ['-']) = decide (fill = .after) := by
  cases fill <;> rfl

theorem pad_eq_insert {fill : Fill} (h : fill ≠ .zeros) (cs : List Char) (width : Nat) :
    pad cs width ' ' (decide (fill = .after)) = fill.insert (width - cs.length) cs := by
  cases fill with
  | before => rfl
  | after => rfl
  | zeros => exact absurd rfl h

theorem fit_eq_place {fill : Fill} (h : fill ≠ .zeros) (cs : List Char) (width : Nat) :
    fit cs width ' ' (decide (fill = .after)) = place fill cs width := by
  cases fill with
  | before => rfl
  | after => rfl
  | zeros => exact absurd rfl h

theorem splitFlag_flagOf {fill : Fill} {rest : List Char} (h : fill ≠ .zeros)
    (hrest : ∀ more, rest ≠ '-' :: more) :
    Field.splitFlag (flagOf fill ++ rest) = (decide (fill = .after), rest) := by
  have hsplit := Field.splitFlag_append (f := ⟨decide (fill = .after), [], none, 's'⟩) hrest
  cases fill with
  | before => exact hsplit
  | after => exact hsplit
  | zeros => exact absurd rfl h

section Reading

variable {fill : Fill} {digits : List Char} {width precision : Option (List Char)}

theorem paddedIntegerText_eq_lay (hflag : d.part 1 = flagOf fill) (hdigits : d.part 2 = digits)
    (harg : integer.Accepts arg) (heap : Heap) :
    paddedIntegerText d heap arg = integer.readSizes ⟨fill, some digits, none⟩ >>= fun sizes =>
      integer.lay fill sizes.1 sizes.2 heap arg := by
  obtain ⟨y, hy⟩ := numberOf_of_isSome harg heap
  simp only [paddedIntegerText, readSizes, readSize, lay, hy, hflag, hdigits]
  cases fieldSize digits with
  | error => rfl
  | ok n => cases fill <;> rfl

theorem paddedTextText_eq_lay (hfill : fill ≠ .zeros) (hflag : d.part 1 = flagOf fill)
    (hdigits : d.part 2 = digits) (harg : text.Accepts arg) (heap : Heap) :
    paddedTextText d heap arg = text.readSizes ⟨fill, some digits, none⟩ >>= fun sizes =>
      text.lay fill sizes.1 sizes.2 heap arg := by
  obtain ⟨t, rfl⟩ := harg
  simp only [paddedTextText, readSizes, readSize, lay, hflag, hdigits, decide_flagOf, fit_eq_place hfill]
  cases fieldSize digits <;> rfl

theorem cutTextText_eq_lay (hfill : fill ≠ .zeros) (hflag : d.part 1 = flagOf fill ++ width.getD [])
    (hdigits : d.part 2 = digits) (hwidth : ∀ ds, width = some ds → ds ≠ [])
    (hminus : ∀ more, width.getD [] ≠ '-' :: more) (harg : cutText.Accepts arg) (heap : Heap) :
    cutTextText d heap arg = cutText.readSizes ⟨fill, width, some digits⟩ >>= fun sizes =>
      cutText.lay fill sizes.1 sizes.2 heap arg := by
  obtain ⟨t, rfl⟩ := harg
  simp only [cutTextText, readSizes, readSize, lay, hflag, hdigits, splitFlag_flagOf hfill hminus,
    fit_eq_place hfill]
  cases fieldSize digits with
  | error => rfl
  | ok count =>
    cases width with
    | none => exact congrArg Except.ok (place_zero fill _).symm
    | some ds =>
      simp only [Option.getD_some, if_neg (hwidth ds rfl)]
      cases fieldSize ds <;> rfl

theorem exponentialText_eq_lay (hfill : fill ≠ .zeros) (hflag : d.part 1 = flagOf fill)
    (hwidth : optionalSize d 2 = readSize width) (hprecision : optionalSize d 3 = readSize precision)
    (harg : exponential.Accepts arg) (heap : Heap) :
    exponentialText d heap arg = exponential.readSizes ⟨fill, width, precision⟩ >>= fun sizes =>
      exponential.lay fill sizes.1 sizes.2 heap arg := by
  obtain ⟨⟨negative, x⟩, hy⟩ := numberOf_of_isSome harg heap
  simp only [exponentialText, readSizes, lay, hy, hflag, hwidth, hprecision, decide_flagOf,
    pad_eq_insert hfill]
  -- Either size may be refused, missing or a number.
  rcases readSize width with _ | _ | width <;> rcases readSize precision with _ | _ | places <;> rfl

theorem fixedText_eq_lay (hfill : fill ≠ .zeros) (hflag : d.part 1 = flagOf fill)
    (hwidth : optionalSize d 2 = readSize width) (hprecision : optionalSize d 3 = readSize precision)
    (harg : fixed.Accepts arg) (heap : Heap) :
    fixedText d heap arg = fixed.readSizes ⟨fill, width, precision⟩ >>= fun sizes =>
      fixed.lay fill sizes.1 sizes.2 heap arg := by
  obtain ⟨⟨negative, x⟩, hy⟩ := numberOf_of_isSome harg heap
  simp only [fixedText, readSizes, lay, hy, hflag, hwidth, hprecision, decide_flagOf, pad_eq_insert hfill]
  rcases readSize width with _ | _ | width <;> rcases readSize precision with _ | _ | places <;> rfl

end Reading

theorem Spells.width_ne_minus {body : List Char} (h : r.Spells s body) (more : List Char) :
    s.width.getD [] ≠ '-' :: more := by
  intro hmore
  cases hwidth : s.width with
  | none =>
    rw [hwidth] at hmore
    cases hmore
  | some ds =>
    rw [hwidth, Option.getD_some] at hmore
    have hdigit := (h.digits_width hwidth).2 '-' (by rw [hmore]; exact List.mem_cons_self)
    exact absurd hdigit (by decide)

/-- The text of a rule for an argument of the right type, from what the digits are read as. -/
theorem textOf_eq {body : String} (h : r.Spells s body.toList) (harg : r.Accepts arg) (start stop : Nat)
    (heap : Heap) :
    r.textOf (r.directive s body start stop) heap arg =
      r.readSizes s >>= fun sizes => r.lay s.fill sizes.1 sizes.2 heap arg := by
  have hwidth : ∀ ds, s.width = some ds → ds ≠ [] := fun ds hds => (h.digits_width hds).1
  have hprecision : ∀ ds, s.precision = some ds → ds ≠ [] := fun ds hds => (h.digits_precision hds).1
  have hpart := part_captured body start stop (r.parts s)
  have hzeros : r ≠ integer → s.fill ≠ .zeros := fun hr hfill => hr (h.zeros.mp hfill).1
  -- Each rule has its own text; what they share is that the captures are the parts of the body.
  cases r with
  | integer =>
    obtain ⟨digits, hs⟩ := h.exists_width rfl
    rw [hs] at hpart ⊢
    exact paddedIntegerText_eq_lay (hpart 0) (hpart 1) harg heap
  | text =>
    obtain ⟨digits, hs⟩ := h.exists_width rfl
    rw [hs] at hpart ⊢
    exact paddedTextText_eq_lay (hzeros nofun) (hpart 0) (hpart 1) harg heap
  | cutText =>
    have hminus := h.width_ne_minus
    obtain ⟨digits, hdigits⟩ := Option.isSome_iff_exists.mp h.precision
    obtain ⟨fill, width, _⟩ := s
    obtain rfl := hdigits
    exact cutTextText_eq_lay (hzeros nofun) (hpart 0) (hpart 1) hwidth hminus harg heap
  | exponential =>
    exact exponentialText_eq_lay (hzeros nofun) (hpart 0) (optionalSize_eq_readSize hwidth (hpart 1))
      (optionalSize_eq_readSize hprecision (hpart 2)) harg heap
  | fixed =>
    exact fixedText_eq_lay (hzeros nofun) (hpart 0) (optionalSize_eq_readSize hwidth (hpart 1))
      (optionalSize_eq_readSize hprecision (hpart 2)) harg heap

theorem readSizes_of_denotes {width precision : Option Nat} (h : s.Denotes width precision) :
    r.readSizes s = .ok (width, precision) := by
  cases r <;> simp only [readSizes, readSize_of_rel h.width, readSize_of_rel h.precision] <;> rfl

/-- A refused size is the fault. If both are, it is the one that is read first. -/
theorem readSizes_cases {body : List Char} (h : r.Spells s body) :
    (∃ ds ∈ s.digits, Oversized ds ∧ r.readSizes s = .error (.range (.fieldSize (String.ofList ds)))) ∨
      ∃ width precision, s.Denotes width precision := by
  have hwidth_mem : ∀ {ds}, s.width = some ds → ds ∈ s.digits := fun h => by simp [Sizes.digits, h]
  have hprecision_mem : ∀ {ds}, s.precision = some ds → ds ∈ s.digits := fun h => by
    simp [Sizes.digits, h]
  rcases readSize_cases fun _ hds => (h.digits_width hds).1 with ⟨ds, hds, hover, herr⟩ | ⟨width, hwidth⟩
  · rcases readSize_cases fun _ hds => (h.digits_precision hds).1 with
      ⟨es, hes, hover', herr'⟩ | ⟨precision, hprecision⟩
    · by_cases hr : r = cutText
      · obtain rfl := hr
        refine .inl ⟨es, hprecision_mem hes, hover', ?_⟩
        rw [readSizes, herr']
        rfl
      · refine .inl ⟨ds, hwidth_mem hds, hover, ?_⟩
        rw [readSizes, herr]
        · rfl
        · exact hr
    · refine .inl ⟨ds, hwidth_mem hds, hover, ?_⟩
      cases r <;> simp only [readSizes, herr, readSize_of_rel hprecision] <;> rfl
  · rcases readSize_cases fun _ hds => (h.digits_precision hds).1 with
      ⟨es, hes, hover, herr⟩ | ⟨precision, hprecision⟩
    · refine .inl ⟨es, hprecision_mem hes, hover, ?_⟩
      cases r <;> simp only [readSizes, herr, readSize_of_rel hwidth] <;> rfl
    · exact .inr ⟨width, precision, hwidth, hprecision⟩

theorem orTooNarrow_ne_fieldSize (width : Nat) (number : List Char) (field : Option (List Char))
    (digits : String) : orTooNarrow width number field ≠ .error (.range (.fieldSize digits)) := by
  cases field <;> nofun

/-- Sizes that are numbers are no fault. -/
theorem lay_ne_fieldSize (r : SizedRule) (fill : Fill) (width precision : Option Nat) (heap : Heap)
    (arg : Value) (digits : String) :
    r.lay fill width precision heap arg ≠ .error (.range (.fieldSize digits)) := by
  by_cases harg : r.Accepts arg
  · cases r with
    | integer =>
      obtain ⟨y, hy⟩ := numberOf_of_isSome harg heap
      rw [lay, hy]
      nofun
    | text | cutText =>
      obtain ⟨t, rfl⟩ := harg
      nofun
    | exponential =>
      obtain ⟨y, hy⟩ := numberOf_of_isSome harg heap
      rw [lay, hy]
      rcases width with _ | width
      · nofun
      · cases precision <;> exact orTooNarrow_ne_fieldSize _ _ _ _
    | fixed =>
      obtain ⟨y, hy⟩ := numberOf_of_isSome harg heap
      rw [lay, hy]
      rcases width with _ | width <;> rcases precision with _ | places
      · nofun
      · nofun
      · exact orTooNarrow_ne_fieldSize _ _ _ _
      · nofun
  · rw [lay_of_not_accepts harg]
    nofun

theorem run_substitute (r : SizedRule) (d : Directive) (line : String) (arg : Value) (store : Store) :
    (r.rule.substitute d line arg).run store =
      ((r.textOf d store.heap arg).map fun cs => d.splice line (String.ofList cs), store) := by
  simp only [rule, DirectiveRule.builtin, DirectiveRule.ofText]
  rw [Action.run_bind_ok (Action.run_get store)]
  cases r.textOf d store.heap arg <;> rfl

end Texts

/-! ## The main result -/

/-- What comes out for a directive of these sizes, a line, an argument and a store. -/
structure Obeys (r : SizedRule) (s : Sizes) (d : Directive) (line : String) (arg : Value) (store : Store)
    (outcome : Except Error String × Store) : Prop where
  /-- An argument of another type is refused. -/
  mismatch : ¬ r.Accepts arg →
    outcome = (.error (.typeMismatch r.expected (arg.display store.heap)), store)
  /-- So is a size that is too large or no number in ASCII digits. -/
  oversized : s.Oversized → r.Accepts arg → ∃ ds ∈ s.digits, Oversized ds ∧
    outcome = (.error (.range (.fieldSize (String.ofList ds))), store)
  /-- All other sizes are used as they are, and are no fault. -/
  sizes : ∀ width precision, s.Denotes width precision →
    outcome = ((r.lay s.fill width precision store.heap arg).map fun cs => d.splice line (String.ofList cs),
      store)
  accepted : ∀ width precision, s.Denotes width precision →
    ∀ digits, outcome.1 ≠ .error (.range (.fieldSize digits))

variable {r : SizedRule} {s : Sizes}

theorem obeys {body : String} (h : r.Spells s body.toList) (start stop : Nat) (line : String) (arg : Value)
    (store : Store) :
    let d := r.directive s body start stop
    r.Obeys s d line arg store ((r.rule.substitute d line arg).run store) := by
  intro d
  -- Once all sizes are numbers, the rule lays out the argument, or refuses it as `lay` does.
  have hlay : ∀ {width precision}, s.Denotes width precision →
      r.textOf d store.heap arg = r.lay s.fill width precision store.heap arg := by
    intro width precision hsizes
    by_cases harg : r.Accepts arg
    · rw [textOf_eq h harg, readSizes_of_denotes hsizes]
      rfl
    · rw [textOf_of_not_accepts harg, lay_of_not_accepts harg]
  rw [run_substitute]
  constructor
  case mismatch =>
    intro harg
    rw [textOf_of_not_accepts harg]
    rfl
  case oversized =>
    intro hover harg
    rcases readSizes_cases h with ⟨ds, hds, hfault, herr⟩ | ⟨width, precision, hsizes⟩
    · refine ⟨ds, hds, hfault, ?_⟩
      rw [textOf_eq h harg, herr]
      rfl
    · exact absurd hsizes hover.not_denotes
  case sizes =>
    intro width precision hsizes
    rw [hlay hsizes]
  case accepted =>
    intro width precision hsizes digits hmap
    have hne := lay_ne_fieldSize r s.fill width precision store.heap arg digits
    rw [hlay hsizes] at hmap
    generalize r.lay s.fill width precision store.heap arg = x at hne hmap
    cases x with
    | error e => exact hne (by rw [Except.error.inj hmap])
    | ok cs => cases hmap

/-- **Sizes of fields.** Take a body that the pattern of a rule with sizes matches, and what the groups of
the pattern have in it. This is what the rule captures, and the body is written with sizes in one way only,
where a zero in front of a width of `%05d` is the flag exactly if another digit follows it. Some size is
too large or not written with ASCII digits, or all of them denote numbers up to 100. In the first case the
rule refuses the directive, for the argument if this is of the wrong type and for a size otherwise. In the
second case it uses just these numbers, and fails for none of them. -/
theorem substitute_sizes (r : SizedRule) {body : String} {m : Match}
    (h : r.pattern.whole? body.toList = some m) :
    let captures := captured body (r.groups.map m.group)
    (r.name, r.rule) ∈ builtinRules ∧ r.rule.recognize body = some captures ∧
      (∃! s, r.Spells s body.toList) ∧
      ∀ s, r.Spells s body.toList →
        (s.Oversized ∨ ∃ width precision, s.Denotes width precision) ∧
        ∀ (start stop : Nat) (line : String) (arg : Value) (store : Store),
          let d : Directive := ⟨body, start, stop, captures⟩
          r.Obeys s d line arg store ((r.rule.substitute d line arg).run store) := by
  intro captures
  have hcaptures : r.recognize body = some captures := by
    rw [r.capturesAs body, h]
    rfl
  have hbody : HasForm r.form body :=
    (r.recognizes body).1.mp (by rw [hcaptures]; rfl)
  refine ⟨r.mem_builtinRules, hcaptures, existsUnique_spells hbody, fun s hs => ⟨?_, ?_⟩⟩
  · rcases readSizes_cases hs with ⟨ds, hds, hfault, -⟩ | hsizes
    · exact .inl ⟨ds, hds, hfault⟩
    · exact .inr hsizes
  · intro start stop line arg store
    have hparts : captured body (r.parts s) = captures :=
      Option.some.inj ((recognize_eq hs).symm.trans hcaptures)
    have hobeys := obeys hs start stop line arg store
    rwa [directive, hparts] at hobeys

/-- A width and a precision with zeros in front are used as the numbers that they denote. A width that is one
more than the number of machine words is not taken for 1: the directive is refused, for the argument if this is
of the wrong type. Of the zeros in front of it the first is the flag, and the second a digit. -/
theorem substitute_sizes_word :
    let body := String.ofList ['-', '0', '0', '5', '.', '0', '2', 's']
    let captures := [some body, some "-005", some "02"]
    let d : Directive := ⟨body, 0, 9, captures⟩
    let m : Match := ⟨['-', '0', '0', '5', '.', '0', '2', 's'],
      [(1, ['-', '0', '0', '5']), (2, ['0', '2'])], []⟩
    let wide := '0' :: numeral 10 (2 ^ 64 + 1)
    let wideBody := String.ofList ('0' :: (wide ++ ['d']))
    let wideCaptures := [some wideBody, some "0", some (String.ofList wide)]
    let wideD : Directive := ⟨wideBody, 0, 24, wideCaptures⟩
    let wideM : Match := ⟨'0' :: (wide ++ ['d']), [(1, ['0']), (2, wide)], []⟩
    cutText.pattern.whole? body.toList = some m ∧ cutText.rule.recognize body = some captures ∧
      (cutText.rule.substitute d ("%" ++ body ++ "|") (.text "abc")).run Store.empty =
        (.ok "ab   |", Store.empty) ∧
      integer.pattern.whole? wideBody.toList = some wideM ∧
      integer.rule.recognize wideBody = some wideCaptures ∧
      (integer.rule.substitute wideD ("%" ++ wideBody) (.integer 7)).run Store.empty =
        (.error (.range (.fieldSize (String.ofList wide))), Store.empty) ∧
      (integer.rule.substitute wideD ("%" ++ wideBody) (.bool true)).run Store.empty =
        (.error (.typeMismatch "an integer" "true"), Store.empty) := by
  intro body captures d m wide wideBody wideCaptures wideD wideM
  -- The sizes that are used.
  have hbody : body.toList = ['-', '0', '0', '5', '.', '0', '2', 's'] := String.toList_ofList
  have hm : cutText.pattern.whole? body.toList = some m := by
    rw [hbody]
    have hf : Field.WellFormed ⟨true, ['0', '0', '5'], some ['0', '2'], 's'⟩ :=
      ⟨List.all_eq_true.mp rfl,
        fun ds hds => Option.some.inj hds ▸ ⟨List.cons_ne_nil _ _, List.all_eq_true.mp rfl⟩, rfl⟩
    exact whole?_cutTextPattern hf
  obtain ⟨-, hcaptures, -, hall⟩ := substitute_sizes cutText hm
  have hspells : cutText.Spells ⟨.after, some ['0', '0', '5'], some ['0', '2']⟩ body.toList := by
    rw [hbody]
    exact spells_cutText_after ⟨List.cons_ne_nil _ _, List.all_eq_true.mp rfl⟩
      ⟨List.cons_ne_nil _ _, List.all_eq_true.mp rfl⟩
  obtain ⟨-, hobeys⟩ := hall _ hspells
  have hused := (hobeys 0 9 ("%" ++ body ++ "|") (.text "abc") Store.empty).sizes (some 5) (some 2)
    ⟨.some ⟨by decide, by decide⟩, .some ⟨by decide, by decide⟩⟩
  have hlay : cutText.lay .after (some 5) (some 2) Store.empty.heap (.text "abc") =
      .ok ['a', 'b', ' ', ' ', ' '] := rfl
  have hsplice : d.splice ("%" ++ body ++ "|") (String.ofList ['a', 'b', ' ', ' ', ' ']) = "ab   |" := by
    decide +kernel
  rw [hlay, Except.map] at hused
  -- The width that is refused.
  have hwideBody : wideBody.toList = '0' :: (wide ++ ['d']) := String.toList_ofList
  have hnumber : ofNumeral? 10 wide = some (2 ^ 64 + 1) := ofNumeral?_zeros (ofNumeral?_numeral _) 1
  obtain ⟨hne, hascii⟩ := digits_of_ofNumeral? hnumber
  have hdigits : ∀ c ∈ wide, Text.isDecimalDigit c = true := fun c hc =>
    Text.isDecimalDigit_of_isDigit (hascii c hc)
  have hwideM : integer.pattern.whole? wideBody.toList = some wideM := by
    rw [hwideBody]
    exact whole?_paddedIntegerPattern_flag rfl hne hdigits
  obtain ⟨-, hwideCaptures, -, hall⟩ := substitute_sizes integer hwideM
  have hover : Directive.Oversized wide := .inr ⟨2 ^ 64 + 1, hnumber, by decide⟩
  obtain ⟨-, hobeys⟩ := hall _ (hwideBody ▸ spells_integer_zeros hne hdigits)
  obtain ⟨ds, hds, -, hrefused⟩ := (hobeys 0 24 ("%" ++ wideBody) (.integer 7) Store.empty).oversized
    ⟨_, List.mem_singleton_self _, hover⟩ rfl
  rw [List.mem_singleton.mp hds] at hrefused
  exact ⟨hm, hcaptures, hsplice ▸ hused, hwideM, hwideCaptures, hrefused,
    (hobeys 0 24 _ (.bool true) Store.empty).mismatch nofun⟩

end SizedRule

end Stencil.Directive
