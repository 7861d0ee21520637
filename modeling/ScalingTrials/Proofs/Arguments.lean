import ScalingTrials.CommandLine.Arguments

/-! # Reading arguments

Options in front of other arguments are read apart from them. Replacements that are set there come
first, in their order, and change nothing else. -/

namespace ScalingTrials.CommandLine

/-- An option together with its value. -/
def assigning (name value : String) : String := "--" ++ name ++ "=" ++ value

/-- A replacement as it is given. -/
def line (e : String × String) : String := e.1 ++ "=" ++ e.2

/-- What may stand behind the command to render. -/
def renderForm : Form := ⟨["resource-dir", "name", "set"], [], false⟩

/-- Arguments that set replacements, in order. -/
def setting (lines : List String) : List String := lines.flatMap fun l => ["--set", l]

/-- Steps that follow each other succeed where each of them does. -/
theorem bind_eq_ok_iff {α β : Type} {x : Except Stop α} {f : α → Except Stop β} {b : β} :
    x >>= f = .ok b ↔ ∃ a, x = .ok a ∧ f a = .ok b := by
  cases x <;> simp [bind, Except.bind]

/-! ### Single arguments -/

/-- A text is cut at its first equals sign, so only the key may hold none. -/
theorem splitEquals_append {k : List Char} (hk : '=' ∉ k) (v : List Char) :
    splitEquals (k ++ '=' :: v) = (String.ofList k, some (String.ofList v)) := by
  have hall : ∀ c ∈ k, decide (c ≠ '=') = true := by
    intro c hc
    simpa using ne_of_mem_of_not_mem hc hk
  have hkey : (k ++ '=' :: v).takeWhile (· ≠ '=') = k := by
    rw [List.takeWhile_append_of_pos hall]
    simp
  rw [splitEquals, hkey, List.drop_left]

theorem look_assigning {name : String} (hname : '=' ∉ name.toList) (v : String) :
    look (assigning name v) = .long name (some v) := by
  have htext : (assigning name v).toList = '-' :: '-' :: (name.toList ++ '=' :: v.toList) := by
    simp [assigning]
  obtain ⟨c, cs, hcs⟩ := List.exists_cons_of_ne_nil
    (show name.toList ++ '=' :: v.toList ≠ [] by simp)
  have hsplit : splitEquals (c :: cs) = (name, some v) := by
    rw [← hcs, splitEquals_append hname, String.ofList_toList, String.ofList_toList]
  simp only [look, htext, hcs, hsplit]

theorem look_plain {a : String} (ha : a.toList.head? ≠ some '-') : look a = .plain := by
  cases h : a.toList with
  | nil => simp [look, h]
  | cons c cs =>
      have hc : c ≠ '-' := by
        rintro rfl
        simp [h] at ha
      simp only [look, h]
      split <;> simp_all

theorem look_line {e : String × String} (hkey : e.1.toList.head? ≠ some '-') :
    look (line e) = .plain := by
  apply look_plain
  cases h : e.1.toList with
  | nil => simp [line, h]
  | cons c cs => simpa [line, h] using hkey

/-- Any value may be set for a key without equals signs. -/
theorem replacement_line {e : String × String} (hkey : '=' ∉ e.1.toList) :
    replacement (line e) = .ok e := by
  have htext : (line e).toList = e.1.toList ++ '=' :: e.2.toList := by simp [line]
  rw [replacement, htext, splitEquals_append hkey]
  simp

theorem replacements_lines {es : List (String × String)} (hkeys : ∀ e ∈ es, '=' ∉ e.1.toList) :
    replacements (es.map line) = .ok es := by
  induction es with
  | nil => rfl
  | cons e es ih =>
      rw [List.map_cons, replacements, replacement_line (hkeys e (by simp)),
        ih fun f hf => hkeys f (by simp [hf])]
      rfl

theorem replacements_cons_iff {l : String} {lines : List String} {es : List (String × String)} :
    replacements (l :: lines) = .ok es ↔
      ∃ e rest, replacement l = .ok e ∧ replacements lines = .ok rest ∧ e :: rest = es := by
  simp only [replacements, bind_eq_ok_iff, exists_and_left, Except.ok.injEq]

theorem replacements_append {lines : List String} {es : List (String × String)}
    (h : replacements lines = .ok es) (more : List String) :
    replacements (lines ++ more) = (replacements more).map (es ++ ·) := by
  induction lines generalizing es with
  | nil =>
      cases h
      cases hmore : replacements more <;> simp [Except.map, hmore]
  | cons l lines ih =>
      obtain ⟨e, rest, hl, hlines, rfl⟩ := replacements_cons_iff.mp h
      rw [List.cons_append, replacements, hl, ih hlines]
      cases replacements more <;> rfl

/-- Set in another order, the same replacements come in that order. -/
theorem replacements_perm {lines lines' : List String} (h : lines.Perm lines')
    {es' : List (String × String)} (hes' : replacements lines' = .ok es') :
    ∃ es, replacements lines = .ok es ∧ es.Perm es' := by
  induction h generalizing es' with
  | nil => exact ⟨es', hes', .refl es'⟩
  | cons l _ ih =>
      obtain ⟨e, rest', hl, hrest', rfl⟩ := replacements_cons_iff.mp hes'
      obtain ⟨rest, hrest, hperm⟩ := ih hrest'
      exact ⟨e :: rest, replacements_cons_iff.mpr ⟨e, rest, hl, hrest, rfl⟩, hperm.cons e⟩
  | swap l l' lines =>
      obtain ⟨e, tail, hl, htail, rfl⟩ := replacements_cons_iff.mp hes'
      obtain ⟨e', rest, hl', hrest, rfl⟩ := replacements_cons_iff.mp htail
      have hone : replacements (l :: lines) = .ok (e :: rest) :=
        replacements_cons_iff.mpr ⟨e, rest, hl, hrest, rfl⟩
      exact ⟨e' :: e :: rest, replacements_cons_iff.mpr ⟨e', e :: rest, hl', hone, rfl⟩,
        .swap e e' rest⟩
  | trans _ _ ihfirst ihsecond =>
      obtain ⟨middle, hmiddle, hsecond⟩ := ihsecond hes'
      obtain ⟨es, hes, hfirst⟩ := ihfirst hmiddle
      exact ⟨es, hes, hfirst.trans hsecond⟩

/-! ### Arguments in their roles -/

/-- An option with its value behind it takes the value. -/
theorem items_valued {f : Form} {a name v : String} (ha : look a = .long name none)
    (hitem : optionItem f name none = .ok (.lacking name)) (hv : look v = .plain)
    (rest : List String) :
    items f (a :: v :: rest) = (items f rest).map (.valued name v :: ·) := by
  simp [items, ha, hitem, hv]

theorem items_assigning {f : Form} {name : String} (hname : '=' ∉ name.toList)
    (hf : name ∈ f.valued) (v : String) (rest : List String) :
    items f (assigning name v :: rest) = (items f rest).map (.valued name v :: ·) := by
  have hitem : optionItem f name (some v) = .ok (.valued name v) := by simp [optionItem, hf]
  simp [items, look_assigning hname, hitem]

theorem items_assigning_all {f : Form} {name : String} (hname : '=' ∉ name.toList)
    (hf : name ∈ f.valued) (vs rest : List String) :
    items f (vs.map (assigning name) ++ rest) =
      (items f rest).map (vs.map (.valued name) ++ ·) := by
  induction vs with
  | nil => cases h : items f rest <;> simp [Except.map, h]
  | cons v vs ih =>
      rw [List.map_cons, List.cons_append, items_assigning hname hf, ih]
      cases items f rest <;> rfl

theorem items_setting {f : Form} (hf : "set" ∈ f.valued) {lines : List String}
    (hlines : ∀ l ∈ lines, look l = .plain) (rest : List String) :
    items f (setting lines ++ rest) = (items f rest).map (lines.map (.valued "set") ++ ·) := by
  have hitem : optionItem f "set" none = .ok (.lacking "set") := by simp [optionItem, hf]
  induction lines with
  | nil => cases h : items f rest <;> simp [setting, Except.map, h]
  | cons l lines ih =>
      have hcons : setting (l :: lines) ++ rest = "--set" :: l :: (setting lines ++ rest) := rfl
      rw [hcons, items_valued rfl hitem (hlines l (by simp)),
        ih fun m hm => hlines m (by simp [hm])]
      cases items f rest <;> rfl

/-! ### Values and operands -/

theorem operand_valued (name : String) (vs : List String) (is : List Item) :
    operand (vs.map (.valued name) ++ is) = operand is := by
  have hnone : operands (vs.map (.valued name)) = [] := by
    simp [operands, List.filterMap_map]
  have hmore : operands (vs.map (.valued name) ++ is) = operands is := by
    rw [operands, List.filterMap_append, ← operands, ← operands, hnone, List.nil_append]
  rw [operand, operand, hmore]

/-- Values of one option come first there, and are none of another. -/
theorem valuesOf_valued (name other : String) (vs : List String) (is : List Item) :
    valuesOf (vs.map (.valued name) ++ is) other =
      (valuesOf is other).map ((if name = other then vs else []) ++ ·) := by
  have hlacking : (vs.map (Item.valued name)).any (· == .lacking other) = false := by
    simp
  simp only [valuesOf, List.any_append, hlacking, Bool.false_or, List.filterMap_append,
    List.filterMap_map]
  split
  · rfl
  · by_cases h : name = other
    · simp only [h, Except.map, Function.comp_def, if_true, List.filterMap_some]
    · simp [Except.map, h]

theorem valueOf_valued {name other : String} (h : name ≠ other) (vs : List String)
    (is : List Item) : valueOf (vs.map (.valued name) ++ is) other = valueOf is other := by
  have hsame : valuesOf (vs.map (.valued name) ++ is) other = valuesOf is other := by
    rw [valuesOf_valued, if_neg h]
    cases valuesOf is other <;> rfl
  rw [valueOf, hsame, valueOf]

/-! ### Whole commands -/

/-- Replacements that are set in front are taken before all others, and nothing else depends on
them. -/
theorem readRender_setting {lines : List String} (hlines : ∀ l ∈ lines, look l = .plain)
    {es : List (String × String)} (hes : replacements lines = .ok es) (rest : List String) :
    (∃ stop, readRender rest = .error stop ∧ readRender (setting lines ++ rest) = .error stop) ∨
      ∃ template dir name values, readRender rest = .ok (.render template dir name values) ∧
        readRender (setting lines ++ rest) = .ok (.render template dir name (es ++ values)) := by
  have hitems := items_setting (f := ⟨["resource-dir", "name", "set"], [], false⟩) (by decide)
    hlines rest
  simp only [readRender, hitems, bind, Except.bind]
  -- Each step but the last gives the same with and without the replacements.
  rcases items ⟨["resource-dir", "name", "set"], [], false⟩ rest with stop | is
  · exact .inl ⟨stop, rfl, rfl⟩
  simp only [Except.map, operand_valued, valueOf_valued (show "set" ≠ "resource-dir" by decide),
    valueOf_valued (show "set" ≠ "name" by decide), valuesOf_valued, if_true]
  rcases operand is with stop | template
  · exact .inl ⟨stop, rfl, rfl⟩
  rcases valueOf is "resource-dir" with stop | dir
  · exact .inl ⟨stop, rfl, rfl⟩
  rcases valueOf is "name" with stop | name
  · exact .inl ⟨stop, rfl, rfl⟩
  rcases valuesOf is "set" with stop | more
  · exact .inl ⟨stop, rfl, rfl⟩
  simp only [Except.map, replacements_append hes]
  rcases replacements more with stop | values
  · exact .inl ⟨stop, rfl, rfl⟩
  · exact .inr ⟨_, _, _, values, rfl, rfl⟩

/-- A template, its directory, a name and replacements can all be given, whatever they are. -/
theorem readRender_telling (template dir name : String) {lines : List String}
    {es : List (String × String)} (hes : replacements lines = .ok es) :
    ∃ is,
      items renderForm
        (assigning "resource-dir" dir :: assigning "name" name ::
          (lines.map (assigning "set") ++ ["--", template])) = .ok is ∧
      valuesOf is "set" = .ok lines ∧
      readRender (assigning "resource-dir" dir :: assigning "name" name ::
        (lines.map (assigning "set") ++ ["--", template])) =
          .ok (.render template dir (some name) es) := by
  let is : List Item := [dir].map (.valued "resource-dir") ++ ([name].map (.valued "name") ++
    (lines.map (.valued "set") ++ [.operand template]))
  have hend : items renderForm ["--", template] = .ok [.operand template] := rfl
  have hitems : items renderForm
      (assigning "resource-dir" dir :: assigning "name" name ::
        (lines.map (assigning "set") ++ ["--", template])) = .ok is := by
    rw [items_assigning (by decide) (by decide), items_assigning (by decide) (by decide),
      items_assigning_all (by decide) (by decide), hend]
    rfl
  have hoperand : operand is = .ok (some template) := by
    rw [operand_valued, operand_valued, operand_valued]
    rfl
  have hvalues : ∀ other, valuesOf is other = .ok ((if "resource-dir" = other then [dir] else []) ++
      ((if "name" = other then [name] else []) ++ if "set" = other then lines else [])) := by
    intro other
    rw [valuesOf_valued, valuesOf_valued, valuesOf_valued]
    simp [valuesOf, Except.map]
  have hlines : valuesOf is "set" = .ok lines := by simp [hvalues]
  have hdir : valueOf is "resource-dir" = .ok (some dir) := by simp [valueOf, hvalues]
  have hname : valueOf is "name" = .ok (some name) := by simp [valueOf, hvalues]
  refine ⟨is, hitems, hlines, ?_⟩
  rw [readRender, ← renderForm, hitems]
  simp only [hoperand, hdir, hname, hlines, hes, bind, Except.bind]
  rfl

/-- A template, its directory and a name can all be given, whatever they are. -/
theorem readRender_assigning (template dir name : String) :
    readRender [assigning "resource-dir" dir, assigning "name" name, "--", template] =
      .ok (.render template dir (some name) []) := by
  obtain ⟨_, -, -, hread⟩ := readRender_telling template dir name
    (show replacements [] = .ok [] from rfl)
  exact hread

/-- An option may stand in front of a command. -/
theorem frontItems_assigning {name : String} (hname : look name = .plain) (dir : String)
    (rest : List String) :
    frontItems frontForm (assigning "bootstrap-dir" dir :: name :: rest) =
      .ok ([.valued "bootstrap-dir" dir], some (name, rest)) := by
  have hlook := look_assigning (show '=' ∉ "bootstrap-dir".toList by decide) dir
  have hitem : optionItem frontForm "bootstrap-dir" (some dir) =
      .ok (.valued "bootstrap-dir" dir) := by
    simp [optionItem, frontForm]
  simp [frontItems, hlook, hitem, hname, Except.map]

theorem read_assigning {name : String} (hname : look name = .plain) (dir : String)
    (rest : List String) (env : Environment) :
    read (assigning "bootstrap-dir" dir :: name :: rest) env =
      (readCommand name rest).map fun c => (⟨none, dir, env.get? regionVariable⟩, c) := by
  have hoptions : readOptions [.valued "bootstrap-dir" dir] env =
      .ok ⟨none, dir, env.get? regionVariable⟩ := by
    simp [readOptions, valueOf, valuesOf, checkLogLevel, bind, Except.bind]
  rw [read, frontItems_assigning hname]
  cases h : readCommand name rest <;> simp [bind, Except.bind, Except.map, h, hoptions]

/-! ### What was read -/

variable {template dir : String} {name : Option String} {arguments rest : List String}
  {es : List (String × String)} {env : Environment} {o : Options}

theorem readRender_eq_ok (h : readRender rest = .ok (.render template dir name es)) :
    ∃ is lines, items renderForm rest = .ok is ∧ valuesOf is "set" = .ok lines ∧
      replacements lines = .ok es := by
  simp only [readRender, bind_eq_ok_iff] at h
  obtain ⟨is, hitems, _, -, _, -, _, -, lines, hlines, _, hes, hcommand⟩ := h
  cases hcommand
  exact ⟨is, lines, hitems, hlines, hes⟩

/-- No other command asks for a rendering. -/
theorem readRender_of_readCommand {command : String}
    (h : readCommand command rest = .ok (.render template dir name es)) :
    command = "render" ∧ readRender rest = .ok (.render template dir name es) := by
  unfold readCommand at h
  split at h
  · simp only [readBootstrap, bind_eq_ok_iff] at h
    obtain ⟨_, -, _, -, h⟩ := h
    split at h <;> cases h
  split at h
  · simp only [readCleanup, bind_eq_ok_iff] at h
    obtain ⟨_, -, _, -, h⟩ := h
    split at h <;> cases h
  split at h
  · simp only [readReplacements, bind_eq_ok_iff] at h
    obtain ⟨_, -, _, -, h⟩ := h
    split at h <;> cases h
  split at h
  · exact ⟨‹_›, h⟩
  split at h
  · simp only [readWait, bind_eq_ok_iff] at h
    obtain ⟨_, -, _, -, _, -, _, -, _, -, _, -, _, -, _, -, _, -, h⟩ := h
    split at h <;> cases h
  split at h <;> cases h

/-- A command stands behind the options in front of it. -/
theorem read_eq_ok {c : Command} (h : read arguments env = .ok (o, c)) :
    ∃ front command rest, frontItems frontForm arguments = .ok (front, some (command, rest)) ∧
      readCommand command rest = .ok c := by
  simp only [read, bind_eq_ok_iff] at h
  obtain ⟨⟨front, _ | ⟨command, rest⟩⟩, hfront, h⟩ := h
  · cases h
  · simp only [bind_eq_ok_iff] at h
    obtain ⟨_, hcommand, _, -, hboth⟩ := h
    cases hboth
    exact ⟨front, command, rest, hfront, hcommand⟩

end ScalingTrials.CommandLine
