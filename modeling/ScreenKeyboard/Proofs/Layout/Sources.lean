import ScreenKeyboard.Proofs.Layout.BuiltIn
import ScreenKeyboard.Proofs.Layout.Reports

namespace ScreenKeyboard

theorem toOption_eq_some {ε α : Type} {result : Except ε α} {a : α} :
    result.toOption = some a ↔ result = .ok a := by
  cases result <;> simp [Except.toOption]

def Files.HavePlainKeysyms (files : Files Id) : Prop :=
  ∀ path text layout, files.readText path = .ok text → Layout.ofText text = .ok layout →
    layout.HasPlainKeysyms

def Files.layoutText? (files : Files Id) (directory name : String) : Option String :=
  let path := Path.join directory (Layout.fileName name)
  if (files.isFile path).run then (files.readText path).run.toOption else none

namespace Layout

def usable? (text : String) : Option LoadedLayout :=
  (load text).toOption

/-- Loading the text does not end at a keysym that cannot be looked up. -/
def IsAnswered (text : String) : Prop :=
  ∀ keysym, load text ≠ .error (.refusedKeysym keysym)

variable {text : String} {loaded : LoadedLayout}

theorem usable?_eq_some : usable? text = some loaded ↔ load text = .ok loaded :=
  toOption_eq_some

theorem sections_ne_nil_of_usable (h : usable? text = some loaded) :
    loaded.layout.sections ≠ [] := by
  rw [usable?_eq_some, load] at h
  cases hlayout : ofText text with
  | ok layout =>
    rw [hlayout] at h
    obtain ⟨hsections, rfl⟩ := eq_of_validate h
    exact hsections
  | error error =>
    rw [hlayout] at h
    cases h

theorem isAnswered_of_usable (h : usable? text = some loaded) : IsAnswered text := by
  intro keysym he
  rw [usable?_eq_some.mp h] at he
  exact nomatch he

theorem isAnswered_of_plain (h : ∀ layout, ofText text = .ok layout → layout.HasPlainKeysyms) :
    IsAnswered text := by
  intro keysym he
  rw [load] at he
  cases hlayout : ofText text with
  | ok layout =>
    simp only [hlayout] at he
    by_cases hsections : layout.sections = []
    · simp [validate, hsections] at he
    · rw [validate_eq_ok hsections (h layout hlayout)] at he
      cases he
  | error error =>
    rw [hlayout] at he
    cases he

end Layout

namespace LayoutSource

variable {files : Files Id}

def text? (files : Files Id) : String × LayoutSource → Option String
  | (name, directory path) => files.layoutText? path name
  | (name, builtIn) => BuiltIn.text? name

/-- The texts for a layout where there are such, the preferred one first. -/
def texts (files : Files Id) (name : String) : Option String → List (Option String)
  | some path =>
    [files.layoutText? path name, BuiltIn.text? name] ++
      if name = "us" then [] else [files.layoutText? path "us", some BuiltIn.usText]
  | none => [BuiltIn.text? name] ++ if name = "us" then [] else [some BuiltIn.usText]

theorem map_candidates (files : Files Id) (name : String) (directory? : Option String) :
    (candidates name directory?).map (text? files) = texts files name directory? := by
  cases directory? <;> by_cases hname : name = "us" <;>
    simp [candidates, named, texts, text?, BuiltIn.name, BuiltIn.text?, hname]

theorem usText_mem_texts (files : Files Id) (name : String) (directory? : Option String) :
    some BuiltIn.usText ∈ texts files name directory? := by
  cases directory? <;> by_cases hname : name = "us" <;>
    simp [texts, BuiltIn.name, BuiltIn.text?, hname]

theorem withPath_eq_refusedKeysym {path keysym : String} {error : LoadError}
    (h : error.withPath path = .refusedKeysym keysym) : error = .refusedKeysym keysym := by
  unfold LoadError.withPath at h
  split at h
  next => exact nomatch h
  next => exact nomatch h
  next => exact h

theorem load_directory (files : Files Id) (path name : String) :
    (directory path).load files name =
      if (files.isFile (Path.join path (Layout.fileName name))).run then
        Layout.loadFile files (Path.join path (Layout.fileName name))
      else .error (.unknown name (sortNames ((files.list path).run.filterMap layoutName?))) :=
  rfl

theorem loadFile_eq (files : Files Id) (path : String) :
    Layout.loadFile files path =
      match (files.readText path).run with
      | .error fault => .error (.unreadable fault (some path))
      | .ok text => (Layout.load text).mapError (LoadError.withPath path) :=
  rfl

theorem load_builtIn (files : Files Id) (name : String) :
    builtIn.load files name =
      match BuiltIn.text? name with
      | some text => (Layout.load text).mapError (LoadError.withPath ("builtin:" ++ name))
      | none => .error (.unknown name BuiltIn.names) :=
  rfl

theorem exists_load_eq (files : Files Id) (name : String) (source : LayoutSource) :
    ∃ path error,
      (source.load files name =
        match text? files (name, source) with
        | some text => (Layout.load text).mapError (LoadError.withPath path)
        | none => .error error) ∧
      ∀ keysym, error ≠ .refusedKeysym keysym := by
  cases source with
  | directory path =>
    rw [load_directory, text?, Files.layoutText?]
    split
    next =>
      rw [loadFile_eq]
      cases (files.readText (Path.join path (Layout.fileName name))).run with
      | error fault => exact ⟨path, _, rfl, nofun⟩
      | ok text => exact ⟨_, .unknown name [], rfl, nofun⟩
    next => exact ⟨path, _, rfl, nofun⟩
  | builtIn => exact ⟨_, _, load_builtIn files name, nofun⟩

theorem load_of_usable {name text : String} {source : LayoutSource} {loaded : LoadedLayout}
    (ht : text? files (name, source) = some text) (hu : Layout.usable? text = some loaded) :
    source.load files name = .ok loaded := by
  obtain ⟨path, error, hload, _⟩ := exists_load_eq files name source
  simp only [ht, Layout.usable?_eq_some.mp hu] at hload
  exact hload

theorem load_of_unusable {name : String} {source : LayoutSource}
    (h : ∀ text, text? files (name, source) = some text →
      Layout.usable? text = none ∧ Layout.IsAnswered text) :
    ∃ error, source.load files name = .error error ∧ ∀ keysym, error ≠ .refusedKeysym keysym := by
  obtain ⟨path, error, hload, herror⟩ := exists_load_eq files name source
  cases ht : text? files (name, source) with
  | none =>
    simp only [ht] at hload
    exact ⟨error, hload, herror⟩
  | some text =>
    obtain ⟨hu, ha⟩ := h text ht
    cases hl : Layout.load text with
    | error error =>
      simp only [ht, hl] at hload
      refine ⟨error.withPath path, hload, fun keysym he => ha keysym ?_⟩
      rw [hl, withPath_eq_refusedKeysym he]
    | ok loaded => exact nomatch hu.symm.trans (Layout.usable?_eq_some.mpr hl)

theorem loadFirst_cons (files : Files Id) (error : LoadError) (name : String)
    (source : LayoutSource) (rest : List (String × LayoutSource)) :
    loadFirst files error ((name, source) :: rest) =
      match (source.load files name).run with
      | .ok loaded => .ok loaded
      | .error (.refusedKeysym keysym) => .error (.refusedKeysym keysym)
      | .error error => loadFirst files error rest :=
  rfl

theorem loadFirst_of_ok {name : String} {source : LayoutSource} {loaded : LoadedLayout}
    (h : source.load files name = .ok loaded) (error : LoadError)
    (rest : List (String × LayoutSource)) :
    loadFirst files error ((name, source) :: rest) = .ok loaded := by
  rw [loadFirst_cons, h]
  rfl

theorem loadFirst_of_error {name : String} {source : LayoutSource} {next : LoadError}
    (h : source.load files name = .error next) (hnext : ∀ keysym, next ≠ .refusedKeysym keysym)
    (error : LoadError) (rest : List (String × LayoutSource)) :
    loadFirst files error ((name, source) :: rest) = loadFirst files next rest := by
  rw [loadFirst_cons, h]
  cases next with
  | refusedKeysym keysym => exact absurd rfl (hnext keysym)
  | _ => rfl

theorem loadFirst_eq_ok {sources : List (String × LayoutSource)}
    {before after : List (Option String)} {text : String} {loaded : LoadedLayout}
    (hs : sources.map (text? files) = before ++ some text :: after)
    (hb : ∀ other, some other ∈ before → Layout.usable? other = none ∧ Layout.IsAnswered other)
    (hu : Layout.usable? text = some loaded) (error : LoadError) :
    loadFirst files error sources = .ok loaded := by
  induction before generalizing sources error with
  | nil =>
    obtain ⟨⟨name, source⟩, rest, rfl, ht, _⟩ := List.map_eq_cons_iff.mp hs
    exact loadFirst_of_ok (load_of_usable ht hu) error rest
  | cons other before ih =>
    obtain ⟨⟨name, source⟩, rest, rfl, ht, hrest⟩ := List.map_eq_cons_iff.mp hs
    have hother : ∀ text, text? files (name, source) = some text →
        Layout.usable? text = none ∧ Layout.IsAnswered text := by
      intro text htext
      apply hb
      rw [← htext, ht]
      exact List.mem_cons_self
    obtain ⟨next, hload, hnext⟩ := load_of_unusable hother
    rw [loadFirst_of_error hload hnext]
    exact ih hrest (fun other hm => hb other (List.mem_cons_of_mem _ hm)) next

theorem isAnswered_of_mem_texts (hplain : files.HavePlainKeysyms) {name text : String}
    {directory? : Option String} (h : some text ∈ texts files name directory?) :
    Layout.IsAnswered text := by
  rw [← map_candidates] at h
  obtain ⟨⟨name, source⟩, _, ht⟩ := List.mem_map.mp h
  cases source with
  | directory path =>
    rw [text?, Files.layoutText?] at ht
    split at ht
    next =>
      have hread := toOption_eq_some.mp ht
      exact Layout.isAnswered_of_plain fun layout => hplain _ text layout hread
    next => exact nomatch ht
  | builtIn =>
    obtain ⟨loaded, hload⟩ := BuiltIn.exists_load_usText
    obtain ⟨_, he⟩ := Option.ite_none_right_eq_some.mp ht
    rw [Option.some.inj he] at hload
    exact Layout.isAnswered_of_usable (Layout.usable?_eq_some.mpr hload)

theorem exists_first_usable {texts : List (Option String)} {text : String} {loaded : LoadedLayout}
    (hm : some text ∈ texts) (hu : Layout.usable? text = some loaded) :
    ∃ before first after loaded, texts = before ++ some first :: after ∧
      (∀ other, some other ∈ before → Layout.usable? other = none) ∧
      Layout.usable? first = some loaded := by
  have hsome : (texts.find? fun t => (t.bind Layout.usable?).isSome).isSome := by
    rw [List.find?_isSome]
    exact ⟨some text, hm, by simp [hu]⟩
  obtain ⟨first, hfirst⟩ := Option.isSome_iff_exists.mp hsome
  obtain ⟨hp, before, after, ht, hb⟩ := List.find?_eq_some_iff_append.mp hfirst
  obtain ⟨loaded, hl⟩ := Option.isSome_iff_exists.mp hp
  obtain ⟨first, rfl, hl⟩ := Option.bind_eq_some_iff.mp hl
  refine ⟨before, first, after, loaded, ht, fun other hm => ?_, hl⟩
  simpa using hb (some other) hm

/-- Loading always ends with a layout that has sections: that of the first text that can be used.
What the sources after it have makes no difference. -/
theorem loadBest_eq_first_usable (hplain : files.HavePlainKeysyms) (name : String)
    (directory? : Option String) :
    ∃ before text after loaded,
      texts files name directory? = before ++ some text :: after ∧
      (∀ other, some other ∈ before → Layout.usable? other = none) ∧
      Layout.usable? text = some loaded ∧
      loadBest files name directory? = .ok loaded ∧
      loaded.layout.sections ≠ [] ∧
      ∀ (files' : Files Id) (name' : String) (directory'? : Option String)
        (after' : List (Option String)),
        texts files' name' directory'? = before ++ some text :: after' →
          loadBest files' name' directory'? = .ok loaded := by
  obtain ⟨us, hus⟩ := BuiltIn.exists_load_usText
  obtain ⟨before, text, after, loaded, ht, hb, hu⟩ :=
    exists_first_usable (usText_mem_texts files name directory?) (Layout.usable?_eq_some.mpr hus)
  have hfirst : ∀ (files' : Files Id) (name' : String) (directory'? : Option String)
      (after' : List (Option String)),
      texts files' name' directory'? = before ++ some text :: after' →
        loadBest files' name' directory'? = .ok loaded := by
    intro files' name' directory'? after' ht'
    rw [← map_candidates] at ht'
    refine loadFirst_eq_ok ht' (fun other hm => ⟨hb other hm, ?_⟩) hu _
    exact isAnswered_of_mem_texts hplain (ht ▸ List.mem_append_left _ hm)
  exact ⟨before, text, after, loaded, ht, hb, hu, hfirst files name directory? after ht,
    Layout.sections_ne_nil_of_usable hu, hfirst⟩

def cutOff : Files Id where
  readText _ := .ok "\x7b"
  isPresent _ := true
  isFile _ := true
  list _ := []

theorem loadBest_eq_first_usable_cutOff :
    ∃ loaded, Layout.usable? BuiltIn.usText = some loaded ∧
      loadBest cutOff "de" (some "layouts") = .ok loaded := by
  have hcut : (Layout.ofText "\x7b").toOption = none := by decide +kernel
  have hunusable : Layout.usable? "\x7b" = none := by decide +kernel
  have hplain : cutOff.HavePlainKeysyms := by
    intro path text layout htext hlayout
    obtain rfl : "\x7b" = text := Except.ok.inj htext
    exact nomatch hcut.symm.trans (toOption_eq_some.mpr hlayout)
  obtain ⟨before, text, after, loaded, ht, _, hu, hload, _⟩ :=
    loadBest_eq_first_usable hplain "de" (some "layouts")
  have hm : some text ∈ [some "\x7b", none, some "\x7b", some BuiltIn.usText] := by
    change some text ∈ texts cutOff "de" (some "layouts")
    rw [ht]
    exact List.mem_append_right _ List.mem_cons_self
  have hus : text = BuiltIn.usText := by
    have hne : text ≠ "\x7b" := by
      rintro rfl
      exact nomatch hunusable.symm.trans hu
    simpa [hne] using hm
  exact ⟨loaded, hus ▸ hu, hload⟩

end LayoutSource

end ScreenKeyboard
