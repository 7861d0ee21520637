import Mathlib.Data.List.Induction
import ScalingTrials.CommandLine
import ScalingTrials.Proofs.Arguments
import ScalingTrials.Proofs.Placeholder
import ScalingTrials.Proofs.Replacements

/-! # What goes first in a manifest

The values of a record come last, then the name, and before both the values that are set. Of those
with one key the last is taken. -/

namespace ScalingTrials.CommandLine

open Manifest (AsksFor Cuts EndsName Piece bodyOf valueFor)

/-! ### Lines that set values -/

/-- A line gives a value to a key. It is cut at its first equals sign. -/
def Sets (l key value : String) : Prop := '=' ∉ key.toList ∧ l = line (key, value)

variable {l key value : String} {lines : List String} {es : List (String × String)}

theorem exists_sets (h : '=' ∈ l.toList) : ∃ key value, Sets l key value := by
  obtain ⟨k, v, hsplit, hkey⟩ := List.eq_append_cons_of_mem h
  refine ⟨String.ofList k, String.ofList v, by rwa [String.toList_ofList], ?_⟩
  apply String.toList_injective
  simp [line, hsplit]

theorem replacement_of_notMem (h : '=' ∉ l.toList) : replacement l = .error .misused := by
  have hwhole : l.toList.takeWhile (· ≠ '=') = l.toList := by
    apply List.takeWhile_eq_self_iff.mpr
    intro c hc
    simpa using ne_of_mem_of_not_mem hc h
  rw [replacement, splitEquals, hwhole, List.drop_length]

theorem replacement_eq_ok_iff {e : String × String} : replacement l = .ok e ↔ Sets l e.1 e.2 := by
  constructor
  · intro h
    by_cases hmem : '=' ∈ l.toList
    · obtain ⟨key, value, hkey, rfl⟩ := exists_sets hmem
      rw [replacement_line hkey] at h
      cases h
      exact ⟨hkey, rfl⟩
    · rw [replacement_of_notMem hmem] at h
      cases h
  · intro h
    rw [h.2]
    exact replacement_line h.1

theorem Sets.unique {key' value' : String} (h : Sets l key value) (h' : Sets l key' value') :
    key = key' ∧ value = value' := by
  have hfirst := (replacement_eq_ok_iff (e := (key, value))).mpr h
  rw [(replacement_eq_ok_iff (e := (key', value'))).mpr h'] at hfirst
  cases hfirst
  exact ⟨rfl, rfl⟩

/-- The lines of replacements are those that set just them. -/
theorem replacements_eq_ok_iff :
    replacements lines = .ok es ↔ lines = es.map line ∧ ∀ e ∈ es, '=' ∉ e.1.toList := by
  constructor
  · intro h
    induction lines generalizing es with
    | nil =>
        cases h
        exact ⟨rfl, by simp⟩
    | cons l lines ih =>
        obtain ⟨e, rest, hl, hlines, rfl⟩ := replacements_cons_iff.mp h
        obtain ⟨hkey, rfl⟩ := replacement_eq_ok_iff.mp hl
        obtain ⟨rfl, hkeys⟩ := ih hlines
        exact ⟨rfl, List.forall_mem_cons.mpr ⟨hkey, hkeys⟩⟩
  · rintro ⟨rfl, hkeys⟩
    exact replacements_lines hkeys

theorem exists_replacements (h : ∀ l ∈ lines, '=' ∈ l.toList) :
    ∃ es, replacements lines = .ok es := by
  induction lines with
  | nil => exact ⟨[], rfl⟩
  | cons l lines ih =>
      obtain ⟨key, value, hl⟩ := exists_sets (h l (by simp))
      obtain ⟨es, hes⟩ := ih fun m hm => h m (by simp [hm])
      exact ⟨(key, value) :: es,
        replacements_cons_iff.mpr ⟨_, es, replacement_eq_ok_iff.mpr hl, hes, rfl⟩⟩

/-! ### The last line with a key -/

/-- The last of the lines that give any value to the key gives it this one. -/
def LastSet (lines : List String) (key value : String) : Prop :=
  ∃ before l after, lines = before ++ l :: after ∧ Sets l key value ∧
    ∀ m ∈ after, ∀ other, ¬Sets m key other

/-- No line gives any value to the key. -/
def Unset (lines : List String) (key : String) : Prop := ∀ l ∈ lines, ∀ value, ¬Sets l key value

theorem not_lastSet_nil : ¬LastSet [] key value := by
  intro ⟨before, l, after, heq, _⟩
  simp at heq

theorem lastSet_concat_iff :
    LastSet (lines ++ [l]) key value ↔
      Sets l key value ∨ (∀ other, ¬Sets l key other) ∧ LastSet lines key value :=
  exists_last_concat_iff

theorem unset_concat_iff :
    Unset (lines ++ [l]) key ↔ Unset lines key ∧ ∀ other, ¬Sets l key other := by
  simp [Unset, or_imp, forall_and]

theorem unset_or_lastSet (lines : List String) (key : String) :
    Unset lines key ∨ ∃ value, LastSet lines key value := by
  induction lines using List.reverseRecOn with
  | nil => exact .inl (by simp [Unset])
  | append_singleton lines l ih =>
      simp only [unset_concat_iff, lastSet_concat_iff]
      by_cases hsets : ∃ value, Sets l key value
      · obtain ⟨value, hvalue⟩ := hsets
        exact .inr ⟨value, .inl hvalue⟩
      · have hnone := not_exists.mp hsets
        rcases ih with hunset | ⟨value, hlast⟩
        · exact .inl ⟨hunset, hnone⟩
        · exact .inr ⟨value, .inr ⟨hnone, hlast⟩⟩

theorem Unset.not_lastSet (h : Unset lines key) : ¬LastSet lines key value := by
  rintro ⟨before, l, after, rfl, hsets, -⟩
  exact h l (by simp) value hsets

theorem unset_iff : Unset lines key ↔ ∀ value, ¬LastSet lines key value := by
  constructor
  · intro h value
    exact h.not_lastSet
  · intro h
    rcases unset_or_lastSet lines key with hunset | ⟨value, hlast⟩
    · exact hunset
    · exact absurd hlast (h value)

theorem lastSet_append_iff {more : List String} :
    LastSet (lines ++ more) key value ↔
      LastSet more key value ∨ Unset more key ∧ LastSet lines key value := by
  induction more using List.reverseRecOn with
  | nil => simp [not_lastSet_nil, Unset]
  | append_singleton more l ih =>
      rw [← List.append_assoc, lastSet_concat_iff, lastSet_concat_iff, unset_concat_iff, ih]
      tauto

/-- A line makes no difference to a key that it does not set or that is set again behind it. -/
theorem lastSet_remove_iff {before after : List String}
    (h : ∀ other, Sets l key other → ¬Unset after key) :
    LastSet (before ++ l :: after) key value ↔ LastSet (before ++ after) key value := by
  have hcut : before ++ l :: after = (before ++ [l]) ++ after := by simp
  rw [hcut, lastSet_append_iff, lastSet_concat_iff, lastSet_append_iff]
  by_cases hafter : Unset after key
  · have hnone : ∀ other, ¬Sets l key other := fun other hsets => h other hsets hafter
    simp [hnone]
  · simp [hafter]

/-- What is set in the end is what the last line with the key sets, on top of what was there. -/
theorem get?_insertAll_iff (hkeys : ∀ e ∈ es, '=' ∉ e.1.toList) (d : Dictionary) :
    (d.insertAll es).get? key = some value ↔
      LastSet (es.map line) key value ∨
        Unset (es.map line) key ∧ d.get? key = some value := by
  -- Insertions are taken off the end, as the last one of a key counts.
  induction es using List.reverseRecOn with
  | nil => simp [Dictionary.insertAll, Unset, not_lastSet_nil]
  | append_singleton es e ih =>
      have hsets : Sets (line e) e.1 e.2 := ⟨hkeys e (by simp), rfl⟩
      have hinsert : d.insertAll (es ++ [e]) = (d.insertAll es).insert e.1 e.2 := by
        simp [Dictionary.insertAll]
      rw [hinsert, Dictionary.get?_insert, List.map_append, List.map_singleton,
        lastSet_concat_iff, unset_concat_iff]
      by_cases hkey : key = e.1
      · subst hkey
        have hother : ∀ value, Sets (line e) e.1 value ↔ e.2 = value := by
          intro value
          constructor
          · intro h
            exact (hsets.unique h).2
          · rintro rfl
            exact hsets
        simp [hother]
      · have hother : ∀ value, ¬Sets (line e) key value := fun value h =>
          hkey (h.unique hsets).1
        rw [if_neg hkey, ih fun f hf => hkeys f (by simp [hf])]
        simp [hother]

/-! ### What a key stands for -/

/-- The descriptor of a directory or, where none can be used, one with hardly anything in it. -/
def usable (fs : Files) (dir : String) : Descriptor :=
  match Descriptor.load fs dir with
  | .ok d => d
  | .error _ => ⟨"", "", "us-west-2a", ""⟩

/-- The values that a descriptor gives to keys. -/
def recorded (d : Descriptor) : List (String × String) :=
  [("LAUNCH_TEMPLATE_ID", d.templateId), ("LAUNCH_TEMPLATE_VERSION", "$Latest"),
    ("AVAILABILITY_ZONE_1", d.zone), ("VPC_ZONE_IDENTIFIER", d.subnets)]

/-- What takes the place of a key: the value that is set last, or else the name, or else the value
that is recorded. A key that has none of them stays. -/
inductive StandsFor (d : Descriptor) (name : String) (lines : List String) (key : String) :
    String → Prop where
  | set {value : String} : LastSet lines key value → StandsFor d name lines key value
  | name : Unset lines key → key = "ASG_NAME" → StandsFor d name lines key name
  | recorded {value : String} : Unset lines key → key ≠ "ASG_NAME" →
      (key, value) ∈ recorded d → StandsFor d name lines key value
  | itself : Unset lines key → key ≠ "ASG_NAME" → (∀ value, (key, value) ∉ recorded d) →
      StandsFor d name lines key ("$" ++ key)

variable {d : Descriptor} {fs : Files} {dir template name text : String}

/-- What a key stands for depends only on the line that sets it last. -/
theorem StandsFor.of_lastSet_iff {lines' : List String}
    (hlast : ∀ value, LastSet lines key value ↔ LastSet lines' key value)
    (h : StandsFor d name lines key text) : StandsFor d name lines' key text := by
  have hunset : Unset lines key ↔ Unset lines' key := by simp only [unset_iff, hlast]
  cases h with
  | set h => exact .set ((hlast _).mp h)
  | name h hname => exact .name (hunset.mp h) hname
  | recorded h hname hvalue => exact .recorded (hunset.mp h) hname hvalue
  | itself h hname hnone => exact .itself (hunset.mp h) hname hnone

theorem StandsFor.rename (hset : ¬Unset lines "ASG_NAME") (other : String)
    (h : StandsFor d name lines key text) : StandsFor d other lines key text := by
  cases h with
  | set h => exact .set h
  | name h hname =>
      subst hname
      exact absurd h hset
  | recorded h hname hvalue => exact .recorded h hname hvalue
  | itself h hname hnone => exact .itself h hname hnone

/-- What can be left out or changed, as far as keys are concerned that are asked for: a line whose
key is set again behind it or not asked for, and the name where a line sets it. -/
inductive Spares (asked : String → Prop) :
    Option String → List String → Option String → List String → Prop where
  | overridden {given : Option String} {before after : List String} {l key value : String} :
      Sets l key value → ¬Unset after key →
      Spares asked given (before ++ l :: after) given (before ++ after)
  | unasked {given : Option String} {before after : List String} {l key value : String} :
      Sets l key value → ¬asked key →
      Spares asked given (before ++ l :: after) given (before ++ after)
  | named {lines : List String} {given given' : Option String} {value : String} :
      LastSet lines "ASG_NAME" value → Spares asked given lines given' lines

theorem Spares.standsFor {asked : String → Prop} {given given' : Option String}
    {lines' : List String} (h : Spares asked given lines given' lines') (hasked : asked key)
    (default : String) (hstands : StandsFor d (given.getD default) lines key text) :
    StandsFor d (given'.getD default) lines' key text := by
  cases h with
  | overridden hsets hagain =>
      refine hstands.of_lastSet_iff fun _ => lastSet_remove_iff fun _ hkey => ?_
      rwa [← (hsets.unique hkey).1]
  | unasked hsets hnot =>
      refine hstands.of_lastSet_iff fun _ => lastSet_remove_iff fun _ hkey => ?_
      rw [(hsets.unique hkey).1] at hnot
      exact absurd hasked hnot
  | named hlast => exact hstands.rename (fun hunset => hunset.not_lastSet hlast) _

theorem get?_resolve_iff :
    (Replacements.resolve fs dir).values.get? key = some value ↔
      (key, value) ∈ recorded (usable fs dir) := by
  have hentries : (Replacements.resolve fs dir).values =
      Replacements.valuesOf (usable fs dir).templateId (usable fs dir).zone
        (usable fs dir).subnets := by
    cases hload : Descriptor.load fs dir with
    | ok d =>
        rw [Replacements.resolve_of_load hload]
        simp [Replacements.ofDescriptor, usable, hload]
    | error e =>
        rw [Replacements.resolve_of_error hload]
        simp [Replacements.defaults, usable, hload, Replacements.defaultZone]
  rw [hentries, Dictionary.get?_eq_some_iff, Replacements.entries_valuesOf]
  simp only [recorded, List.mem_cons, List.not_mem_nil, or_false]
  tauto

theorem get?_manifestOf_iff (hkeys : ∀ e ∈ es, '=' ∉ e.1.toList) :
    (manifestOf template (Replacements.resolve fs dir).values name es).values.get? key =
        some value ↔
      LastSet (es.map line) key value ∨ Unset (es.map line) key ∧
        if key = "ASG_NAME" then name = value else (key, value) ∈ recorded (usable fs dir) := by
  simp only [manifestOf, Manifest.withValues, Manifest.withValue, Manifest.named,
    Dictionary.insertAll_entries]
  rw [get?_insertAll_iff hkeys, Dictionary.get?_insert, Replacements.groupNameKey]
  split
  · rw [Option.some.injEq]
  · rw [get?_resolve_iff]

/-- Each key stands for just one text: the one for it under values that have those layers. -/
theorem standsFor_iff {values : Dictionary}
    (hget : ∀ value, values.get? key = some value ↔
      LastSet lines key value ∨ Unset lines key ∧
        if key = "ASG_NAME" then name = value else (key, value) ∈ recorded d) :
    StandsFor d name lines key text ↔ text = valueFor values key := by
  constructor
  · intro h
    cases h with
    | set hlast => simp [valueFor, (hget _).mpr (.inl hlast)]
    | name hunset hname => simp [valueFor, (hget name).mpr (.inr ⟨hunset, by simp [hname]⟩)]
    | recorded hunset hname hvalue =>
        simp [valueFor, (hget text).mpr (.inr ⟨hunset, by simpa [hname] using hvalue⟩)]
    | itself hunset hname hnone =>
        have hmissing : values.get? key = none := by
          apply Option.eq_none_iff_forall_ne_some.mpr
          intro value hvalue
          rcases (hget value).mp hvalue with hlast | ⟨-, hvalue⟩
          · exact hunset.not_lastSet hlast
          · rw [if_neg hname] at hvalue
            exact hnone value hvalue
        simp [valueFor, hmissing]
  · intro htext
    subst htext
    rcases unset_or_lastSet lines key with hunset | ⟨value, hlast⟩
    · by_cases hname : key = "ASG_NAME"
      · rw [valueFor, (hget name).mpr (.inr ⟨hunset, by simp [hname]⟩)]
        exact .name hunset hname
      · have hrecorded : ∀ value, values.get? key = some value ↔ (key, value) ∈ recorded d := by
          intro value
          rw [hget, if_neg hname]
          simp [hunset, hunset.not_lastSet]
        cases hvalue : values.get? key with
        | none =>
            rw [valueFor, hvalue]
            refine .itself hunset hname ?_
            intro value hmem
            simp [(hrecorded value).mpr hmem] at hvalue
        | some value =>
            rw [valueFor, hvalue]
            exact .recorded hunset hname ((hrecorded value).mp hvalue)
    · rw [valueFor, (hget value).mpr (.inl hlast)]
      exact .set hlast

theorem standsFor_manifestOf_iff (hkeys : ∀ e ∈ es, '=' ∉ e.1.toList) (fs : Files)
    (dir template name : String) :
    StandsFor (usable fs dir) name (es.map line) key text ↔
      text = valueFor (manifestOf template (Replacements.resolve fs dir).values name es).values
        key :=
  standsFor_iff fun _ => get?_manifestOf_iff hkeys

/-! ### What is rendered -/

/-- The text of a piece whose placeholder stands for a text. -/
def replaced (stands : String → String) : Piece → List Char
  | .literal c => [c]
  | .placeholder name => (stands (String.ofList name)).toList

theorem fill_eq_replaced (values : Dictionary) :
    Piece.fill values = replaced (valueFor values) := by
  funext piece
  cases piece with
  | literal c => rfl
  | placeholder name => rw [replaced, ← Manifest.fill_key, String.toList_ofList]

/-- What is told of a rendering: the body, or why there is none. -/
def told (template : String) : Except Manifest.Failure Json → Outcome
  | .ok body => success (body.pretty ++ "\n")
  | .error e =>
    failure failureStatus "" (("Unable to render '" ++ template ++ "'") :: manifestChain e)

theorem runRender_eq (template manifests name : String) (es : List (String × String)) (fs : Files)
    (dir : String) :
    runRender template manifests name es fs dir =
      told template ((manifestOf template (Replacements.resolve fs dir).values name es).render fs
        manifests) := by
  unfold runRender told
  rfl

theorem runRender_of_readText {manifests : String}
    (h : fs.readText (Files.join manifests (template ++ ".yaml")) = .ok text) :
    runRender template manifests name es fs dir =
      told template (bodyOf template (Manifest.fill
        (manifestOf template (Replacements.resolve fs dir).values name es).values text)) := by
  have hpath : fs.readText ((manifestOf template (Replacements.resolve fs dir).values name
      es).pathIn manifests) = .ok text := h
  rw [runRender_eq]
  unfold Manifest.render
  dsimp only
  rw [hpath]
  rfl

theorem runRender_of_error {manifests : String} {e : Files.Failure}
    (h : fs.readText (Files.join manifests (template ++ ".yaml")) = .error e) :
    runRender template manifests name es fs dir =
      told template (.error (.unreadable (Files.join manifests (template ++ ".yaml")) e)) := by
  have hpath : fs.readText ((manifestOf template (Replacements.resolve fs dir).values name
      es).pathIn manifests) = .error e := h
  rw [runRender_eq]
  unfold Manifest.render
  dsimp only
  rw [hpath]
  rfl

/-! ### Arguments -/

/-- Arguments that ask for a rendering, in which these lines are set in order. -/
structure Asks (arguments : List String) (env : Environment) (o : Options)
    (template manifests : String) (name : Option String) (lines : List String) : Prop where
  reads : ∃ values, read arguments env = .ok (o, .render template manifests name values)
  sets : ∃ front rest is, frontItems frontForm arguments = .ok (front, some ("render", rest)) ∧
    items renderForm rest = .ok is ∧ valuesOf is "set" = .ok lines

variable {arguments : List String} {env : Environment} {o : Options} {manifests : String}
  {given : Option String}

/-- A rendering is carried out with the values that its lines set. -/
theorem Asks.execute (h : Asks arguments env o template manifests given lines) (fs : Files)
    (draws : Nat → Naming.Draw) (connector : Connector) :
    ∃ es, replacements lines = .ok es ∧
      execute arguments env fs draws connector =
        .done (runRender template manifests (given.getD (freshName draws)) es fs o.recordDir,
          fs) := by
  obtain ⟨es, hread⟩ := h.reads
  obtain ⟨front, rest, is, hfront, hitems, hlines⟩ := h.sets
  obtain ⟨_, _, _, hfront', hcommand⟩ := read_eq_ok hread
  cases hfront.symm.trans hfront'
  obtain ⟨_, _, hitems', hlines', hes⟩ := readRender_eq_ok hcommand
  cases hitems.symm.trans hitems'
  cases hlines.symm.trans hlines'
  refine ⟨es, hes, ?_⟩
  rw [CommandLine.execute, hread]
  rfl

/-- Any values can be asked for. -/
def telling (dir template manifests name : String) (lines : List String) : List String :=
  assigning "bootstrap-dir" dir :: "render" :: assigning "resource-dir" manifests ::
    assigning "name" name :: (lines.map (assigning "set") ++ ["--", template])

theorem asks_telling (dir template manifests name : String) (h : ∀ l ∈ lines, '=' ∈ l.toList)
    (env : Environment) :
    ∃ o, o.recordDir = dir ∧
      Asks (telling dir template manifests name lines) env o template manifests (some name)
        lines := by
  obtain ⟨es, hes⟩ := exists_replacements h
  obtain ⟨is, hitems, hlines, hrender⟩ := readRender_telling template manifests name hes
  have hcommand : readCommand "render" (assigning "resource-dir" manifests ::
      assigning "name" name :: (lines.map (assigning "set") ++ ["--", template])) =
        .ok (.render template manifests (some name) es) := hrender
  refine ⟨⟨none, dir, env.get? regionVariable⟩, rfl, ⟨es, ?_⟩, ?_⟩
  · rw [telling, read_assigning (by decide), hcommand]
    rfl
  · exact ⟨_, _, is, frontItems_assigning (by decide) dir _, hitems, hlines⟩

theorem exists_asks_of_read
    (h : read arguments env = .ok (o, .render template manifests given es)) :
    ∃ lines, Asks arguments env o template manifests given lines ∧
      ∀ l ∈ lines, '=' ∈ l.toList := by
  obtain ⟨front, command, rest, hfront, hcommand⟩ := read_eq_ok h
  obtain ⟨rfl, hrender⟩ := readRender_of_readCommand hcommand
  obtain ⟨is, lines, hitems, hlines, hes⟩ := readRender_eq_ok hrender
  refine ⟨lines, ⟨⟨es, h⟩, front, rest, is, hfront, hitems, hlines⟩, ?_⟩
  obtain ⟨rfl, -⟩ := replacements_eq_ok_iff.mp hes
  intro l hl
  obtain ⟨e, -, rfl⟩ := List.mem_map.mp hl
  simp [line]

/-! ### What goes first -/

variable {arguments' : List String} {env' : Environment} {o' : Options} {given' : Option String}
  {lines' : List String} {draws : Nat → Naming.Draw} {connector : Connector}

theorem execute_congr (h : Asks arguments env o template manifests given lines)
    (h' : Asks arguments' env' o' template manifests given' lines')
    (hdir : o'.recordDir = o.recordDir)
    (halike : ∀ text, fs.readText (Files.join manifests (template ++ ".yaml")) = .ok text →
      ∀ key, AsksFor text key → ∀ value,
        StandsFor (usable fs o.recordDir) (given.getD (freshName draws)) lines key value →
        StandsFor (usable fs o.recordDir) (given'.getD (freshName draws)) lines' key value) :
    execute arguments env fs draws connector = execute arguments' env' fs draws connector := by
  obtain ⟨es, hes, hexecute⟩ := h.execute fs draws connector
  obtain ⟨es', hes', hexecute'⟩ := h'.execute fs draws connector
  obtain ⟨rfl, hkeys⟩ := replacements_eq_ok_iff.mp hes
  obtain ⟨rfl, hkeys'⟩ := replacements_eq_ok_iff.mp hes'
  rw [hexecute, hexecute', hdir]
  cases hread : fs.readText (Files.join manifests (template ++ ".yaml")) with
  | error e => rw [runRender_of_error hread, runRender_of_error hread]
  | ok text =>
      rw [runRender_of_readText hread, runRender_of_readText hread, Manifest.fill_congr_valueFor]
      intro key hasks
      -- A key stands for just one text, so it is enough that this one stands for it there as well.
      apply (standsFor_manifestOf_iff hkeys' fs o.recordDir template _).mp
      apply halike text hread key hasks
      exact (standsFor_manifestOf_iff hkeys fs o.recordDir template _).mpr rfl

/-- The last line that sets a key goes before the name, the name before the record and the record
before the placeholder itself. -/
theorem render_goes_by_precedence (fs : Files) (draws : Nat → Naming.Draw)
    (connector : Connector) :
    (∀ dir template manifests name lines, (∀ l ∈ lines, '=' ∈ l.toList) →
      ∃ arguments, ∀ env, ∃ o, o.recordDir = dir ∧
        Asks arguments env o template manifests (some name) lines) ∧
    (∀ arguments env o template manifests given values,
      read arguments env = .ok (o, .render template manifests given values) →
      ∃ lines, Asks arguments env o template manifests given lines ∧
        ∀ l ∈ lines, '=' ∈ l.toList) ∧
    ∀ arguments env o template manifests given lines,
      Asks arguments env o template manifests given lines →
      (∀ text, fs.readText (Files.join manifests (template ++ ".yaml")) = .ok text →
        ∃ (stands : String → String) (pieces : List Piece) (filled : String)
            (values : List (String × String)),
          (∀ key value, StandsFor (usable fs o.recordDir) (given.getD (freshName draws)) lines key
            value ↔ value = stands key) ∧
          (∀ pieces', Cuts text.toList pieces' ↔ pieces' = pieces) ∧
          filled.toList = pieces.flatMap (replaced stands) ∧
          replacements lines = .ok values ∧
          Manifest.fill (manifestOf template (Replacements.resolve fs o.recordDir).values
            (given.getD (freshName draws)) values).values text = filled ∧
          execute arguments env fs draws connector =
            .done (told template (bodyOf template filled), fs)) ∧
      ∀ arguments' env' o' given' lines',
        Asks arguments' env' o' template manifests given' lines' → o'.recordDir = o.recordDir →
        Spares (fun key => ∃ text, fs.readText (Files.join manifests (template ++ ".yaml")) =
          .ok text ∧ AsksFor text key) given lines given' lines' →
        execute arguments env fs draws connector = execute arguments' env' fs draws connector := by
  refine ⟨?_, fun _ _ _ _ _ _ _ h => exists_asks_of_read h, ?_⟩
  · intro dir template manifests name lines h
    exact ⟨telling dir template manifests name lines, asks_telling dir template manifests name h⟩
  intro arguments env o template manifests given lines h
  constructor
  · intro text hread
    obtain ⟨es, hes, hexecute⟩ := h.execute fs draws connector
    obtain ⟨rfl, hkeys⟩ := replacements_eq_ok_iff.mp hes
    refine ⟨_, Piece.cut text.toList, _, es,
      fun key value => standsFor_manifestOf_iff hkeys fs o.recordDir template _,
      fun pieces' => Manifest.cuts_iff.trans eq_comm, ?_, hes, rfl, ?_⟩
    · rw [Manifest.toList_fill, Manifest.fillText, fill_eq_replaced]
    · rw [hexecute, runRender_of_readText hread]
  · intro arguments' env' o' given' lines' h' hdir hspares
    refine execute_congr h h' hdir fun text hread key hasks value hstands => ?_
    exact hspares.standsFor ⟨text, hread, hasks⟩ _ hstands

/-- A directory with a manifest in it and no record. -/
def unrecorded : Files :=
  { here := []
    node? := fun l =>
      if l = ["group.yaml"] then
        some (.file "$ASG_NAME: $A_B/$A, $AVAILABILITY_ZONE_1".toUTF8)
      else none }

theorem readText_unrecorded :
    unrecorded.readText (Files.join "" "group.yaml") =
      .ok "$ASG_NAME: $A_B/$A, $AVAILABILITY_ZONE_1" := by
  have hpath : Files.join "" "group.yaml" = "group.yaml" := by simp [Files.join]
  have hlocate : unrecorded.locate "group.yaml" = .ok ["group.yaml"] := rfl
  rw [hpath]
  exact Files.readText_of_at? hlocate (by simp [Files.at?, unrecorded]) rfl

/-- A value that is set again, and one that is set for the name. -/
def overriding : List String := ["A=x=$ASG_NAME", "ASG_NAME=$A", "A=1"]

theorem sets_overriding :
    Sets "A=x=$ASG_NAME" "A" "x=$ASG_NAME" ∧ Sets "ASG_NAME=$A" "ASG_NAME" "$A" ∧
      Sets "A=1" "A" "1" :=
  ⟨⟨by decide, rfl⟩, ⟨by decide, rfl⟩, ⟨by decide, rfl⟩⟩

theorem unset_overriding (hkey : key ≠ "A") (hname : key ≠ "ASG_NAME") : Unset overriding key := by
  obtain ⟨hfirst, hgroup, hlast⟩ := sets_overriding
  intro l hl value hsets
  simp only [overriding, List.mem_cons, List.not_mem_nil, or_false] at hl
  rcases hl with rfl | rfl | rfl
  · exact hkey (hsets.unique hfirst).1
  · exact hname (hsets.unique hgroup).1
  · exact hkey (hsets.unique hlast).1

theorem standsFor_overriding (name : String) :
    StandsFor (usable unrecorded "") name overriding "A" "1" ∧
      StandsFor (usable unrecorded "") name overriding "ASG_NAME" "$A" ∧
      StandsFor (usable unrecorded "") name overriding "A_B" "$A_B" ∧
      StandsFor (usable unrecorded "") name overriding "AVAILABILITY_ZONE_1" "us-west-2a" := by
  obtain ⟨hfirst, hgroup, hlast⟩ := sets_overriding
  have husable : usable unrecorded "" = ⟨"", "", "us-west-2a", ""⟩ := rfl
  refine ⟨.set ⟨["A=x=$ASG_NAME", "ASG_NAME=$A"], _, [], rfl, hlast, by simp⟩,
    .set ⟨["A=x=$ASG_NAME"], _, ["A=1"], rfl, hgroup, ?_⟩,
    .itself (unset_overriding (by decide) (by decide)) (by decide) (by simp [recorded]),
    .recorded (unset_overriding (by decide) (by decide)) (by decide) (by simp [recorded, husable])⟩
  intro l hl other hsets
  rw [List.mem_singleton.mp hl] at hsets
  exact absurd (hsets.unique hlast).1 (by decide)

/-- What is set goes before the name and the fallback, and is not looked at again. -/
theorem render_goes_by_precedence_overriding :
    execute (telling "" "group" "" "web" overriding) [] unrecorded (fun _ => 0) =
      .done (told "group" (bodyOf "group" "$A: $A_B/1, us-west-2a"), unrecorded) ∧
    execute (telling "" "group" "" "web" overriding) [] unrecorded (fun _ => 0) =
      execute (telling "" "group" "" "web" ["ASG_NAME=$A", "A=1"]) [] unrecorded (fun _ => 0) := by
  obtain ⟨o, hdir, hasks⟩ := asks_telling "" "group" "" "web"
    (show ∀ l ∈ overriding, '=' ∈ l.toList by decide) []
  obtain ⟨o', hdir', hasks'⟩ := asks_telling "" "group" "" "web"
    (show ∀ l ∈ ["ASG_NAME=$A", "A=1"], '=' ∈ l.toList by decide) []
  obtain ⟨hrender, hspares⟩ :=
    (render_goes_by_precedence unrecorded (fun _ => 0) .byFiles).2.2 _ _ _ _ _ _ _ hasks
  constructor
  · obtain ⟨stands, pieces, filled, values, hstands, hcut, hfilled, -, -, hexecute⟩ :=
      hrender _ readText_unrecorded
    rw [hdir] at hstands
    obtain ⟨hA, hname, hother, hzone⟩ := standsFor_overriding "web"
    have hpieces := (hcut _).mp (Manifest.cuts_cut _)
    have htext : filled = "$A: $A_B/1, us-west-2a" := by
      apply String.toList_injective
      have hcuts : Piece.cut "$ASG_NAME: $A_B/$A, $AVAILABILITY_ZONE_1".toList =
          [.placeholder "ASG_NAME".toList, .literal ':', .literal ' ', .placeholder "A_B".toList,
            .literal '/', .placeholder "A".toList, .literal ',', .literal ' ',
            .placeholder "AVAILABILITY_ZONE_1".toList] := by decide
      simp only [hfilled, ← hpieces, hcuts, List.flatMap_cons, List.flatMap_nil, replaced,
        String.ofList_toList, ← (hstands _ _).mp hA, ← (hstands _ _).mp hname,
        ← (hstands _ _).mp hother, ← (hstands _ _).mp hzone]
      rfl
    rw [hexecute, htext]
  · obtain ⟨hfirst, -, hlast⟩ := sets_overriding
    have hagain : ¬Unset ["ASG_NAME=$A", "A=1"] "A" := fun hunset =>
      hunset "A=1" (by simp) "1" hlast
    refine hspares _ _ _ _ _ hasks' (hdir'.trans hdir.symm) ?_
    exact @Spares.overridden _ _ [] _ _ _ _ hfirst hagain

end ScalingTrials.CommandLine
