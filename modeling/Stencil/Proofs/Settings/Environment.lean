import Stencil.Proofs.Text.Blank
import Stencil.Proofs.Text.Case
import Stencil.Proofs.Text.Split
import Stencil.Settings.Environment

/-!
# Settings from the environment, field by field

Each field has a variable of its own. If the variable is set to a text that can be read, the field is what
the text says, and otherwise it stays as it is.

* `IsFlag`, `flag?_eq_some_iff`: the texts that stand for a truth value.
* `Listing`, `names_eq_iff`: the names that a text lists. Every text lists names, in one way.
* `listing_intercalate`: names with commas between them are listed in their order.
* `Replaces`: what a variable does to its field.
* `override_fields`: what an environment does to settings.
-/

namespace Stencil.Settings

open Text

variable {t : String} {b : Bool} {cs item : List Char} {items : List (List Char)} {names : List String}

/-! ## Truth values -/

/-- The words for a truth value, in lower case. -/
def flagWords : Bool → List String
  | true => ["true", "1", "yes", "on"]
  | false => ["false", "0", "no", "off"]

/-- The text is, without the blanks around it, a word for the truth value in any case. -/
def IsFlag (t : String) (b : Bool) : Prop :=
  ∃ word ∈ flagWords b, ∃ before cs after, Blank before ∧ Blank after ∧
    t.toList = before ++ (cs ++ after) ∧ cs.map Char.toLower = word.toList

theorem isPlainLower_of_mem_flagWords {word : String} (h : word ∈ flagWords b) :
    ∀ c ∈ word.toList, IsPlainLower c ∧ isBlank c = false := by
  have hall : ∀ b, (flagWords b).all (fun word => word.toList.all fun c =>
      decide (IsPlainLower c ∧ isBlank c = false)) = true := by decide
  have hword := List.all_eq_true.mp (hall b) word h
  exact fun c hc => of_decide_eq_true (List.all_eq_true.mp hword c hc)

/-- Blanks have no case. -/
theorem toLower_of_isBlank {c : Char} (h : isBlank c = true) : c.toLower = c := by
  by_cases hc : 0x80 ≤ c.toNat
  · exact toLower_of_le hc
  · have hall : ∀ n < 0x80, isBlank (Char.ofNat n) = true → (Char.ofNat n).toLower = Char.ofNat n := by
      decide +kernel
    simpa [h] using hall c.toNat (by omega)

/-- A word in any case has no blanks. -/
theorem solid_of_map_toLower {word : String} (hword : word ∈ flagWords b)
    (h : cs.map Char.toLower = word.toList) : Solid cs := by
  intro c hc
  by_contra hblank
  rw [Bool.not_eq_false] at hblank
  have hmem : c.toLower ∈ word.toList := h ▸ List.mem_map_of_mem hc
  rw [toLower_of_isBlank hblank] at hmem
  rw [(isPlainLower_of_mem_flagWords hword c hmem).2] at hblank
  cases hblank

theorem lower_trimString_eq_iff {word : String} (hword : word ∈ flagWords b) :
    lower (trimString t) = word ↔ ∃ before cs after, Blank before ∧ Blank after ∧
      t.toList = before ++ (cs ++ after) ∧ cs.map Char.toLower = word.toList := by
  have hplain := fun c hc => (isPlainLower_of_mem_flagWords hword c hc).1
  have hlower : lower (trimString t) = word ↔ (trim t.toList).map Char.toLower = word.toList := by
    have hfrom : lowerFrom [] (trim t.toList) = word.toList ↔ _ := lowerFrom_eq_iff hplain
    rw [← hfrom, lower, trimString, String.toList_ofList, ← String.toList_inj, String.toList_ofList]
  rw [hlower]
  constructor
  · intro h
    obtain ⟨before, after, hbefore, hafter, ht⟩ := exists_margins t.toList
    exact ⟨before, trim t.toList, after, hbefore, hafter, ht, h⟩
  · rintro ⟨before, cs, after, hbefore, hafter, ht, h⟩
    have htrimmed := (solid_of_map_toLower hword h).trimmed
    rw [trim_eq_iff.mpr ⟨htrimmed, before, after, hbefore, hafter, ht⟩, h]

/-- What the words say is read, and nothing else. -/
theorem flag?_eq_some_iff : flag? t = some b ↔ IsFlag t b := by
  have hread : flag? t = some b ↔ lower (trimString t) ∈ flagWords b := by
    have heq : flag? t = if lower (trimString t) ∈ flagWords true then some true
        else if lower (trimString t) ∈ flagWords false then some false else none := rfl
    rw [heq]
    generalize lower (trimString t) = word
    -- No word stands for both, so it does not matter which list is looked into first.
    have hdisjoint : word ∈ flagWords true → word ∉ flagWords false := by
      have hall : ∀ word ∈ flagWords true, word ∉ flagWords false := by decide
      exact hall word
    by_cases htrue : word ∈ flagWords true
    · have hfalse := hdisjoint htrue
      rw [if_pos htrue]
      cases b <;> simp [htrue, hfalse]
    · by_cases hfalse : word ∈ flagWords false
      · rw [if_neg htrue, if_pos hfalse]
        cases b <;> simp [htrue, hfalse]
      · rw [if_neg htrue, if_neg hfalse]
        cases b <;> simp [htrue, hfalse]
  rw [hread, IsFlag]
  constructor
  · intro h
    exact ⟨_, h, (lower_trimString_eq_iff h).mp rfl⟩
  · rintro ⟨word, hword, h⟩
    rwa [(lower_trimString_eq_iff hword).mpr h]

/-! ## Lists of names -/

/-- The text can be listed: it is not empty, and it has no comma and no blank at an end. -/
def IsName (name : String) : Prop := name ≠ "" ∧ ',' ∉ name.toList ∧ Trimmed name.toList

instance (name : String) : Decidable (IsName name) := inferInstanceAs (Decidable (_ ∧ _ ∧ _))

/-- The items are these names in their order, with any blanks around each of them and any blank items
between them. -/
inductive Lists : List (List Char) → List String → Prop where
  | nil : Lists [] []
  | blank {item : List Char} {items : List (List Char)} {names : List String} (hitem : Blank item)
      (hitems : Lists items names) : Lists (item :: items) names
  | name {before after : List Char} {name : String} {items : List (List Char)} {names : List String}
      (hbefore : Blank before) (hname : IsName name) (hafter : Blank after) (hitems : Lists items names) :
      Lists ((before ++ (name.toList ++ after)) :: items) (name :: names)

/-- The text is items with commas between them that list the names. -/
def Listing (t : String) (names : List String) : Prop :=
  ∃ items, t.toList = [','].intercalate items ∧ Lists items names

/-- The names in some items. -/
def namesIn (items : List (List Char)) : List String :=
  (items.map fun item => String.ofList (trim item)).filter (· ≠ "")

theorem names_eq (t : String) : Settings.names t = namesIn (splitOn ',' t.toList) := rfl

@[simp] theorem namesIn_cons_blank (h : Blank item) (items : List (List Char)) :
    namesIn (item :: items) = namesIn items := by
  simp [namesIn, trim_of_blank h]

theorem namesIn_cons_name {name : String} (hname : trim item = name.toList) (hne : name ≠ "")
    (items : List (List Char)) : namesIn (item :: items) = name :: namesIn items := by
  simp [namesIn, hname, hne]

theorem comma_not_mem_of_blank (h : Blank item) : ',' ∉ item := fun hmem => by
  have hcomma := h ',' hmem
  revert hcomma
  decide

theorem Lists.namesIn_eq (h : Lists items names) : namesIn items = names := by
  induction h with
  | nil => rfl
  | blank hitem _ ih => rw [namesIn_cons_blank hitem, ih]
  | name hbefore hname hafter _ ih =>
    have htrim := trim_eq_iff.mpr ⟨hname.2.2, _, _, hbefore, hafter, rfl⟩
    rw [namesIn_cons_name htrim hname.1, ih]

theorem Lists.comma_not_mem (h : Lists items names) : ∀ item ∈ items, ',' ∉ item := by
  induction h with
  | nil => simp
  | blank hitem _ ih => exact List.forall_mem_cons.mpr ⟨comma_not_mem_of_blank hitem, ih⟩
  | name hbefore hname hafter _ ih =>
    refine List.forall_mem_cons.mpr ⟨?_, ih⟩
    simp [comma_not_mem_of_blank hbefore, comma_not_mem_of_blank hafter, hname.2.1]

/-- Items without commas list some names. -/
theorem lists_namesIn (h : ∀ item ∈ items, ',' ∉ item) : Lists items (namesIn items) := by
  induction items with
  | nil => exact .nil
  | cons item items ih =>
    obtain ⟨hitem, hitems⟩ := List.forall_mem_cons.mp h
    by_cases hblank : Blank item
    · rw [namesIn_cons_blank hblank]
      exact .blank hblank (ih hitems)
    -- The name is the item without its margins, which are blank.
    · obtain ⟨before, after, hbefore, hafter, hmargins⟩ := exists_margins item
      have hname : trim item = (String.ofList (trim item)).toList := String.toList_ofList.symm
      have hne : String.ofList (trim item) ≠ "" := by
        intro hempty
        rw [hempty] at hname
        exact hblank (trim_eq_nil_iff.mp hname)
      have hcomma : ',' ∉ trim item := by
        intro hmem
        apply hitem
        rw [hmargins]
        simp [hmem]
      rw [namesIn_cons_name hname hne]
      conv => arg 1; rw [hmargins, hname]
      refine .name hbefore ⟨hne, ?_, ?_⟩ hafter (ih hitems)
      · rwa [← hname]
      · rw [← hname]
        exact trimmed_trim item

/-- Every text lists names, in one way. -/
theorem names_eq_iff : Settings.names t = names ↔ Listing t names := by
  rw [names_eq]
  constructor
  · rintro rfl
    have hsplit := isSplit_splitOn ',' t.toList
    exact ⟨_, hsplit.joined.symm, lists_namesIn hsplit.not_mem⟩
  · rintro ⟨items, ht, hlists⟩
    cases items with
    | nil =>
      -- Nothing is split into one empty item.
      rw [ht, ← hlists.namesIn_eq]
      rfl
    | cons item items =>
      have hsplit : IsSplit ',' (item :: items) t.toList :=
        ⟨List.cons_ne_nil _ _, hlists.comma_not_mem, ht.symm⟩
      rw [← isSplit_iff.mp hsplit, hlists.namesIn_eq]

/-- Names with commas between them are listed in their order. -/
theorem listing_intercalate (h : ∀ name ∈ names, IsName name) :
    Listing (String.ofList ([','].intercalate (names.map String.toList))) names := by
  refine ⟨_, String.toList_ofList, ?_⟩
  induction names with
  | nil => exact .nil
  | cons name names ih =>
    obtain ⟨hname, hnames⟩ := List.forall_mem_cons.mp h
    have hlists : Lists (([] ++ (name.toList ++ [])) :: names.map String.toList) (name :: names) :=
      .name nofun hname nofun (ih hnames)
    simpa using hlists

/-! ## Fields -/

/-- A field whose variable is set to a text that can be read has the value that is read, whatever it was
before. With any other text, or without a variable, it stays as it is. -/
structure Replaces {α : Type} (reads : String → α → Prop) (held : Option String) (old new : α) : Prop where
  set : ∀ t v, held = some t → reads t v → new = v
  kept : (∀ t v, held = some t → ¬ reads t v) → new = old

theorem replaces_bind {α : Type} {read : String → Option α} {reads : String → α → Prop}
    (h : ∀ t v, read t = some v ↔ reads t v) (held : Option String) (old : α) :
    Replaces reads held old ((held.bind read).getD old) := by
  constructor
  · rintro t v rfl hreads
    rw [Option.bind_some, (h t v).mpr hreads, Option.getD_some]
  · intro hkept
    cases hread : held.bind read with
    | none => rfl
    | some v =>
      obtain ⟨t, ht, hv⟩ := Option.bind_eq_some_iff.mp hread
      exact absurd ((h t v).mp hv) (hkept t v ht)

/-- The same of a variable that can always be read. -/
theorem replaces_map {α : Type} {read : String → α} {reads : String → α → Prop}
    (h : ∀ t v, read t = v ↔ reads t v) (held : Option String) (old : α) :
    Replaces reads held old ((held.map read).getD old) := by
  have hsome : ∀ t v, (some ∘ read) t = some v ↔ reads t v := fun t v => Option.some_inj.trans (h t v)
  have hbind := replaces_bind hsome held old
  rwa [Option.map_eq_bind]

theorem getD_getD {α : Type} (o : Option α) (v : α) : o.getD (o.getD v) = o.getD v := by
  cases o <;> rfl

/-- **Overrides from the environment.** Each field is replaced by what its own variable says: the truth
value of a word in any case and with any blanks around it, the text, or the list of names. A field without a
variable, or with one that holds another word, stays as it is, and no other variable matters to it. Overriding
a second time changes nothing. Every text lists names, and names with commas between them are listed in their
order, with any blanks around them and any blank items. -/
theorem override_fields (environment : Environment) (s : Settings) :
    Replaces IsFlag (environment "TEXTFMT_DEBUG") s.debug (s.override environment).debug ∧
    Replaces Eq (environment "TEXTFMT_LOG_LEVEL") s.logLevel (s.override environment).logLevel ∧
    Replaces IsFlag (environment "TEXTFMT_MULTI_FORMATTER_MODE") s.multi (s.override environment).multi ∧
    Replaces Listing (environment "TEXTFMT_FORMATTERS") s.formatters (s.override environment).formatters ∧
    (s.override environment).override environment = s.override environment ∧
    (∀ t, ∃ names, Listing t names) ∧
    ∀ names, (∀ name ∈ names, IsName name) →
      Listing (String.ofList ([','].intercalate (names.map String.toList))) names := by
  have hflag : ∀ t b, flag? t = some b ↔ IsFlag t b := fun _ _ => flag?_eq_some_iff
  refine ⟨replaces_bind hflag _ _, ?_, replaces_bind hflag _ _, ?_, ?_, ?_, ?_⟩
  · have hid : ∀ t v : String, id t = v ↔ t = v := fun _ _ => Iff.rfl
    have hlevel := replaces_map hid (environment "TEXTFMT_LOG_LEVEL") s.logLevel
    rwa [Option.map_id] at hlevel
  · exact replaces_map (fun _ _ => names_eq_iff) _ _
  · simp [override, getD_getD]
  · exact fun t => ⟨_, names_eq_iff.mp rfl⟩
  · exact fun names => listing_intercalate

/-- A list with blank items, a word in capitals between blanks, and a word that stands for nothing. -/
theorem override_fields_listed :
    let names := ["CStyleFormatter", "a b"]
    let environment : Environment := fun key =>
      if key = "TEXTFMT_FORMATTERS" then some " CStyleFormatter, ,\u3000a b\t,,"
      else if key = "TEXTFMT_DEBUG" then some "\u00a0YES "
      else if key = "TEXTFMT_MULTI_FORMATTER_MODE" then some "maybe"
      else none
    (∀ name ∈ names, IsName name) ∧ Listing " CStyleFormatter, ,\u3000a b\t,," names ∧ IsFlag "\u00a0YES " true ∧
      (default.override environment).formatters = names ∧ (default.override environment).debug = true ∧
      (default.override environment).multi = false ∧ (default.override environment).logLevel = "info" ∧
      Listing (String.ofList ([','].intercalate (names.map String.toList))) names := by
  intro names environment
  have hnames : ∀ name ∈ names, IsName name := by decide +kernel
  have hlisting : Listing " CStyleFormatter, ,\u3000a b\t,," names := names_eq_iff.mp (by decide +kernel)
  have hflag : IsFlag "\u00a0YES " true := flag?_eq_some_iff.mp (by decide +kernel)
  have hmaybe : ∀ b, ¬ IsFlag "maybe" b := fun b h => by
    have hread : flag? "maybe" = none := by decide +kernel
    rw [flag?_eq_some_iff.mpr h] at hread
    cases hread
  obtain ⟨hdebug, hlevel, hmulti, hformatters, -, -, hlisted⟩ := override_fields environment default
  refine ⟨hnames, hlisting, hflag, hformatters.set _ _ (by decide) hlisting, hdebug.set _ _ (by decide) hflag,
    hmulti.kept ?_, hlevel.kept ?_, hlisted names hnames⟩
  · intro t b ht
    have htext : environment "TEXTFMT_MULTI_FORMATTER_MODE" = some "maybe" := by decide
    obtain rfl := Option.some.inj (htext.symm.trans ht)
    exact hmaybe b
  · intro t level ht
    have htext : environment "TEXTFMT_LOG_LEVEL" = none := by decide
    rw [htext] at ht
    cases ht

end Stencil.Settings
