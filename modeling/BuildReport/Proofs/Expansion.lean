import BuildReport.Config
import BuildReport.Proofs.References

/-!
# Settings with their references replaced

References are replaced in the settings that a file holds, and not in the file. So what stands in
the environment is never read as a part of the file. It makes no difference to whether the file is
accepted, to what is switched on, or to how many texts there are. It only becomes a part of those
texts that refer to it.

It would come to the same to replace the references in each text of the file, once the file has been
taken apart. For this, no default may have a reference in it, and none has.

- `Environment.Refers`: the names that a text refers to; `expand_congr`: only these matter.
- `Toml.mapStrings`: a file that has been taken apart, with every text in it changed.
- `Config.ofToml?_mapEntries`: the settings in a file whose texts have been expanded.
- `Config.Place`, `Config.textAt?`, `Config.Outline`: the texts in the settings, and what else there
  is.
- `Config.expanded_after_reading`: what all this comes to for the settings in a file.
-/

namespace BuildReport

/-! ## The names that a text refers to -/

namespace Environment

variable {env env' : Environment} {text : String}

/-- The text has a reference with this name in it. The empty name refers to nothing. -/
def Refers (text : String) (name : List Char) : Prop :=
  name ≠ [] ∧ ∃ parts plain, TakenApart text.toList parts ∧ (plain, name) ∈ parts.references

/-- **What a text is expanded to depends on the names it refers to**, and on nothing else. -/
theorem expand_congr (h : ∀ name, Refers text name → env.value? name = env'.value? name) :
    env.expand text = env'.expand text := by
  obtain ⟨parts, hparts⟩ := exists_takenApart text.toList
  have hwrite : parts.write env.value? = parts.write env'.value? := by
    refine congrArg (· ++ parts.tail) (List.flatMap_congr fun ⟨plain, name⟩ hmem => ?_)
    by_cases hname : name = []
    · simp only [if_pos hname]
    · simp only [if_neg hname, h name ⟨hname, parts, plain, hparts, hmem⟩]
  rw [expand, expand, hparts.expandChars_eq, hparts.expandChars_eq, hwrite]

theorem expand_eq_self (env : Environment) (h : '$' ∉ text.toList) : env.expand text = text := by
  rw [expand, expand_of_no_dollar env h, String.ofList_toList]

end Environment

/-! ## The texts of a file -/

namespace Toml

mutual

/-- The value with every text in it changed. The keys of a table are not among its texts. -/
def mapStrings (f : String → String) : Toml → Toml
  | .string value => .string (f value)
  | .integer value => .integer value
  | .float tooLarge => .float tooLarge
  | .boolean value => .boolean value
  | .date => .date
  | .array items => .array (mapItems f items)
  | .table entries => .table (mapEntries f entries)

/-- The items of an array with every text in them changed. -/
def mapItems (f : String → String) : List Toml → List Toml
  | [] => []
  | item :: items => mapStrings f item :: mapItems f items

/-- The entries of a table with every text in them changed. -/
def mapEntries (f : String → String) : List (String × Toml) → List (String × Toml)
  | [] => []
  | (key, value) :: entries => (key, mapStrings f value) :: mapEntries f entries

end

variable {f : String → String}

theorem mapItems_eq (items : List Toml) : mapItems f items = items.map (mapStrings f) := by
  induction items with
  | nil => rfl
  | cons item items ih => rw [mapItems, ih, List.map_cons]

theorem mapEntries_eq (entries : List (String × Toml)) :
    mapEntries f entries = entries.map fun (key, value) => (key, value.mapStrings f) := by
  induction entries with
  | nil => rfl
  | cons entry entries ih => rw [mapEntries, ih, List.map_cons]

theorem lookup_mapEntries (entries : List (String × Toml)) (key : String) :
    lookup (mapEntries f entries) key = (lookup entries key).map (mapStrings f) := by
  rw [mapEntries_eq, lookup, lookup, List.find?_map, Option.map_map, Option.map_map]
  rfl

mutual

theorem representable_mapStrings (value : Toml) :
    (value.mapStrings f).representable = value.representable := by
  cases value with
  | array items => exact allRepresentable_mapItems items
  | table entries => exact allEntriesRepresentable_mapEntries entries
  | _ => rfl

theorem allRepresentable_mapItems (items : List Toml) :
    allRepresentable (mapItems f items) = allRepresentable items := by
  cases items with
  | nil => rfl
  | cons item items =>
    rw [mapItems, allRepresentable, allRepresentable, representable_mapStrings item,
      allRepresentable_mapItems items]

theorem allEntriesRepresentable_mapEntries (entries : List (String × Toml)) :
    allEntriesRepresentable (mapEntries f entries) = allEntriesRepresentable entries := by
  match entries with
  | [] => rfl
  | (key, value) :: entries =>
    rw [mapEntries, allEntriesRepresentable, allEntriesRepresentable,
      representable_mapStrings value, allEntriesRepresentable_mapEntries entries]

end

theorem asBool?_mapStrings (value : Toml) : (value.mapStrings f).asBool? = value.asBool? := by
  cases value <;> rfl

theorem asString?_mapStrings (value : Toml) :
    (value.mapStrings f).asString? = value.asString?.map f := by
  cases value <;> rfl

theorem asStrings?_mapStrings (value : Toml) :
    (value.mapStrings f).asStrings? = value.asStrings?.map (·.map f) := by
  cases value with
  | array items =>
    rw [mapStrings, mapItems_eq, asStrings?, asStrings?]
    induction items with
    | nil => rfl
    | cons item items ih =>
      rw [List.map_cons, List.mapM_cons, List.mapM_cons, asString?_mapStrings, ih]
      cases item.asString? with
      | none => rfl
      | some first => cases items.mapM asString? <;> rfl
  | _ => rfl

end Toml

namespace Config

variable {f : String → String} {env env' : Environment} {c d d' : Config}

/-! ## Sections of such a file -/

namespace Section

/-- The section with every text in it changed. -/
def mapStrings (f : String → String) : Section → Section
  | .named entries => .named (Toml.mapEntries f entries)
  | .listed items => .listed (Toml.mapItems f items)

theorem ofEntries?_mapEntries (entries : List (String × Toml)) (key : String) :
    ofEntries? (Toml.mapEntries f entries) key = (ofEntries? entries key).map (mapStrings f) := by
  rw [ofEntries?, ofEntries?, Toml.lookup_mapEntries]
  cases Toml.lookup entries key with
  | none => rfl
  | some value => cases value <;> rfl

theorem get?_mapStrings (s : Section) (key : String) (place : Nat) :
    (s.mapStrings f).get? key place = (s.get? key place).map (Toml.mapStrings f) := by
  cases s with
  | named entries => exact Toml.lookup_mapEntries entries key
  | listed items =>
    show (Toml.mapItems f items)[place]? = items[place]?.map _
    rw [Toml.mapItems_eq, List.getElem?_map]

theorem othersRepresentable_mapStrings (s : Section) (known : List String) :
    (s.mapStrings f).othersRepresentable known = s.othersRepresentable known := by
  cases s with
  | named entries =>
    show (Toml.mapEntries f entries).all _ = entries.all _
    rw [Toml.mapEntries_eq, List.all_map]
    refine congrArg entries.all (funext fun entry => ?_)
    show (_ || (entry.2.mapStrings f).representable) = _
    rw [Toml.representable_mapStrings]
  | listed items => rfl

/-- A setting whose default stays as it is can be changed before it is read or behind. -/
theorem read?_mapStrings {α : Type} {read : Toml → Option α} {g : α → α}
    (hread : ∀ value : Toml, read (value.mapStrings f) = (read value).map g) {fallback : α}
    (hfallback : g fallback = fallback) (s : Section) (key : String) (place : Nat) :
    (s.mapStrings f).read? key place fallback read = (s.read? key place fallback read).map g := by
  rw [read?, read?, get?_mapStrings]
  cases s.get? key place with
  | none => exact congrArg some hfallback.symm
  | some value => exact hread value

theorem read?_switch (s : Section) (key : String) (place : Nat) (fallback : Bool) :
    (s.mapStrings f).read? key place fallback Toml.asBool? =
      s.read? key place fallback Toml.asBool? := by
  have hread (value : Toml) : (value.mapStrings f).asBool? = value.asBool?.map id := by
    rw [Toml.asBool?_mapStrings, Option.map_id, id]
  rw [read?_mapStrings hread rfl, Option.map_id, id]

end Section

/-- What is read behind a condition can be changed when it is read or behind. -/
theorem guard_bind_map {α β : Type} {g : α → β} {p : Prop} [Decidable p] {x : Option β}
    {y : Option α} (h : x = y.map g) :
    (do guard p; x : Option β) = (do guard p; y : Option α).map g := by
  rw [h]
  exact Option.map_bind.symm

/-- No default has a reference in it. -/
theorem expand_defaults (env : Environment) :
    (env.expand default.assembler.command = default.assembler.command ∧
      default.assembler.options.map env.expand = default.assembler.options) ∧
    (env.expand default.linker.command = default.linker.command ∧
      default.linker.options.map env.expand = default.linker.options ∧
      default.linker.includes.map env.expand = default.linker.includes ∧
      default.linker.excludes.map env.expand = default.linker.excludes ∧
      env.expand default.linker.exeName = default.linker.exeName) ∧
    expandPath env default.dir = default.dir := by
  simp [default, expandPath, Environment.expand_eq_self]

theorem assemblerOf?_mapStrings (s : Section) :
    assemblerOf? (s.mapStrings env.expand) = (assemblerOf? s).map fun a =>
      { a with command := env.expand a.command, options := a.options.map env.expand } := by
  obtain ⟨⟨hcommand, hoptions⟩, -, -⟩ := expand_defaults env
  unfold assemblerOf?
  rw [s.othersRepresentable_mapStrings]
  refine guard_bind_map ?_
  simp only [s.read?_switch,
    Section.read?_mapStrings Toml.asString?_mapStrings hcommand,
    Section.read?_mapStrings Toml.asStrings?_mapStrings hoptions, Option.bind_eq_bind,
    Option.bind_map, Option.map_bind, Function.comp_def, Option.pure_def, Option.map_some]

theorem linkerOf?_mapStrings (s : Section) :
    linkerOf? (s.mapStrings env.expand) = (linkerOf? s).map fun l =>
      { l with
        command := env.expand l.command
        options := l.options.map env.expand
        includes := l.includes.map env.expand
        excludes := l.excludes.map env.expand
        exeName := env.expand l.exeName } := by
  obtain ⟨-, ⟨hcommand, hoptions, hincludes, hexcludes, hexe⟩, -⟩ := expand_defaults env
  unfold linkerOf?
  rw [s.othersRepresentable_mapStrings]
  refine guard_bind_map ?_
  simp only [s.read?_switch,
    Section.read?_mapStrings Toml.asString?_mapStrings hcommand,
    Section.read?_mapStrings Toml.asStrings?_mapStrings hoptions,
    Section.read?_mapStrings Toml.asStrings?_mapStrings hincludes,
    Section.read?_mapStrings Toml.asStrings?_mapStrings hexcludes,
    Section.read?_mapStrings Toml.asString?_mapStrings hexe, Option.bind_eq_bind,
    Option.bind_map, Option.map_bind, Function.comp_def, Option.pure_def, Option.map_some]

theorem asPath?_mapStrings (value : Toml) :
    asPath? (value.mapStrings env.expand) = (asPath? value).map (expandPath env) := by
  rw [asPath?, asPath?, Toml.asString?_mapStrings, Option.map_map, Option.map_map]
  rfl

theorem dirOf?_mapStrings (s : Section) :
    dirOf? (s.mapStrings env.expand) = (dirOf? s).map (expandPath env) := by
  obtain ⟨-, -, hdir⟩ := expand_defaults env
  unfold dirOf?
  rw [s.othersRepresentable_mapStrings]
  exact guard_bind_map (Section.read?_mapStrings asPath?_mapStrings hdir s "dir" 0)

theorem helperOf?_mapStrings (s : Section) :
    helperOf? (s.mapStrings env.expand) = (helperOf? s).map (·.map (expandPath env)) := by
  have hread (value : Toml) : (asPath? (value.mapStrings env.expand)).map some =
      ((asPath? value).map some).map (·.map (expandPath env)) := by
    rw [asPath?_mapStrings, Option.map_map, Option.map_map]
    rfl
  unfold helperOf?
  rw [s.othersRepresentable_mapStrings]
  exact guard_bind_map (Section.read?_mapStrings hread rfl s "kill_helper" 0)

/-- **Expanding the texts of a file that has been taken apart** comes to the same as expanding the
texts of the settings that it holds. -/
theorem ofToml?_mapEntries (entries : List (String × Toml)) :
    ofToml? (Toml.mapEntries env.expand entries) = (ofToml? entries).map (expand env) := by
  have hothers (known : List String) :
      Section.othersRepresentable (.named (Toml.mapEntries env.expand entries)) known =
        Section.othersRepresentable (.named entries) known :=
    Section.othersRepresentable_mapStrings (.named entries) known
  unfold ofToml?
  rw [hothers]
  refine guard_bind_map ?_
  simp only [Section.ofEntries?_mapEntries, assemblerOf?_mapStrings, linkerOf?_mapStrings,
    dirOf?_mapStrings, helperOf?_mapStrings, Option.bind_eq_bind, Option.bind_map,
    Option.map_bind, Function.comp_def, Option.pure_def, Option.map_some, expand]

/-! ## Places in the settings -/

/-- Where a text stands in the settings. -/
inductive Place where
  | assemblerCommand
  | assemblerOption (n : Nat)
  | linkerCommand
  | linkerOption (n : Nat)
  | included (n : Nat)
  | excluded (n : Nat)
  | exeName
  | dir
  | helper

/-- The text that stands at a place, if there is one. -/
def textAt? (c : Config) : Place → Option String
  | .assemblerCommand => some c.assembler.command
  | .assemblerOption n => c.assembler.options[n]?
  | .linkerCommand => some c.linker.command
  | .linkerOption n => c.linker.options[n]?
  | .included n => c.linker.includes[n]?
  | .excluded n => c.linker.excludes[n]?
  | .exeName => some c.linker.exeName
  | .dir => some c.dir.text
  | .helper => c.helper.map (·.text)

/-- What there is in settings besides their texts: which tools are enabled, how many texts each list
holds, and whether there is a script that ends tools. -/
structure Outline where
  assemblerEnabled : Bool
  assemblerOptions : Nat
  linkerEnabled : Bool
  linkerOptions : Nat
  includes : Nat
  excludes : Nat
  hasHelper : Bool

/-- What there is in these settings besides their texts. -/
def outline (c : Config) : Outline where
  assemblerEnabled := c.assembler.enabled
  assemblerOptions := c.assembler.options.length
  linkerEnabled := c.linker.enabled
  linkerOptions := c.linker.options.length
  includes := c.linker.includes.length
  excludes := c.linker.excludes.length
  hasHelper := c.helper.isSome

/-- The settings `d` are the settings `c` with the text at every place expanded once. -/
structure IsExpanded (env : Environment) (c d : Config) : Prop where
  /-- Nothing but texts is changed. -/
  outline : d.outline = c.outline
  /-- The same places have a text, and it is the expanded one. -/
  texts : ∀ place, d.textAt? place = (c.textAt? place).map env.expand

/-- **Settings are determined** by the texts at their places and by what there is besides. -/
theorem eq_of_textAt? (houtline : c.outline = d.outline)
    (htexts : ∀ place, c.textAt? place = d.textAt? place) : c = d := by
  obtain ⟨⟨_, _, options⟩, ⟨_, _, linkerOptions, includes, excludes, _⟩, ⟨_⟩, helper⟩ := c
  obtain ⟨⟨_, _, options'⟩, ⟨_, _, linkerOptions', includes', excludes', _⟩, ⟨_⟩, helper'⟩ := d
  obtain rfl := congrArg Outline.assemblerEnabled houtline
  obtain rfl := congrArg Outline.linkerEnabled houtline
  obtain rfl := Option.some.inj (htexts .assemblerCommand)
  obtain rfl := Option.some.inj (htexts .linkerCommand)
  obtain rfl := Option.some.inj (htexts .exeName)
  obtain rfl := Option.some.inj (htexts .dir)
  obtain rfl : options = options' := List.ext_getElem? fun n => htexts (.assemblerOption n)
  obtain rfl : linkerOptions = linkerOptions' :=
    List.ext_getElem? fun n => htexts (.linkerOption n)
  obtain rfl : includes = includes' := List.ext_getElem? fun n => htexts (.included n)
  obtain rfl : excludes = excludes' := List.ext_getElem? fun n => htexts (.excluded n)
  obtain rfl : helper = helper' :=
    Option.map_injective (fun ⟨_⟩ ⟨_⟩ h => congrArg Path.mk h) (htexts .helper)
  rfl

theorem isExpanded_expand (env : Environment) (c : Config) : IsExpanded env c (c.expand env) where
  outline := by simp [Config.outline, expand]
  texts place := by
    cases place with
    | assemblerOption n | linkerOption n | included n | excluded n => exact List.getElem?_map
    | helper =>
      show (c.helper.map (expandPath env)).map (·.text) = (c.helper.map (·.text)).map env.expand
      rw [Option.map_map, Option.map_map]
      rfl
    | _ => rfl

theorem IsExpanded.eq_expand (h : IsExpanded env c d) : d = c.expand env := by
  have hexpand := isExpanded_expand env c
  exact eq_of_textAt? (h.outline.trans hexpand.outline.symm) fun place =>
    (h.texts place).trans (hexpand.texts place).symm

/-- **Another environment makes a difference** only at the places whose text refers to a name that
it changes. -/
theorem IsExpanded.textAt?_congr (h : IsExpanded env c d) (h' : IsExpanded env' c d')
    {place : Place} (hagree : ∀ text ∈ c.textAt? place, ∀ name, Environment.Refers text name →
      env.value? name = env'.value? name) : d.textAt? place = d'.textAt? place := by
  rw [h.texts, h'.texts]
  cases htext : c.textAt? place with
  | none => rfl
  | some text => exact congrArg some (Environment.expand_congr (hagree text htext))

/-! ## The settings in a file -/

theorem ofText?_eq_some_iff {text : List Char} :
    ofText? env text = some d ↔ ∃ c, decode? text = some c ∧ IsExpanded env c d := by
  rw [ofText?, Option.map_eq_some_iff]
  constructor
  · rintro ⟨c, hc, rfl⟩
    exact ⟨c, hc, isExpanded_expand env c⟩
  · rintro ⟨c, hc, h⟩
    exact ⟨c, hc, h.eq_expand.symm⟩

/-- **The settings in a file are expanded once, after it has been read.** A file is accepted if it
can be read, whatever the environment. Its settings are the ones that were read, the defaults among
them, with the text at every place expanded once and with nothing else changed. They are also what
is read from the file if each text in it is expanded as soon as it has been taken apart. And
whatever two environments hold, they make a difference at no place but one whose text, as it was
read, refers to a name for which they hold different values. -/
theorem expanded_after_reading (text : List Char) (env : Environment) :
    ((ofText? env text).isSome ↔ (decode? text).isSome) ∧
    (∀ d, ofText? env text = some d ↔ ∃ c, decode? text = some c ∧ IsExpanded env c d) ∧
    ofText? env text = (Toml.ofText? text).bind (fun entries =>
      ofToml? (Toml.mapEntries env.expand entries)) ∧
    ∀ env' c d d', decode? text = some c → ofText? env text = some d → ofText? env' text = some d' →
      d.outline = d'.outline ∧
      ∀ place, (∀ t ∈ c.textAt? place, ∀ name, Environment.Refers t name →
        env.value? name = env'.value? name) → d.textAt? place = d'.textAt? place := by
  refine ⟨by rw [ofText?, Option.isSome_map], fun d => ofText?_eq_some_iff, ?_, ?_⟩
  · rw [ofText?, decode?, Option.map_bind]
    exact congrArg _ (funext fun entries => (ofToml?_mapEntries entries).symm)
  · intro env' c d d' hc hd hd'
    obtain ⟨_, hread, h⟩ := ofText?_eq_some_iff.mp hd
    obtain rfl := Option.some.inj (hc.symm.trans hread)
    obtain ⟨_, hread', h'⟩ := ofText?_eq_some_iff.mp hd'
    obtain rfl := Option.some.inj (hc.symm.trans hread')
    exact ⟨h.outline.trans h'.outline.symm, fun _ => h.textAt?_congr h'⟩

/-- A value that looks like the end of a text and a further setting stays inside of the text. -/
example : ofText? ⟨[("x", "\"\nenabled = false\n")]⟩ "assembler.command = \"${x}\"".toList =
    some { default with
      assembler := { default.assembler with command := "\"\nenabled = false\n" } } := by
  cbv

end Config

end BuildReport
