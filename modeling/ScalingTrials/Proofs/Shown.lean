import ScalingTrials.CommandLine
import ScalingTrials.Proofs.Arguments
import ScalingTrials.Proofs.Replacements

/-! # Values that are shown can be set

Each value is shown on a line of its own, and each of the lines can be set as it stands. A manifest
that is rendered with all of them set does not depend on the record any more. -/

namespace ScalingTrials.CommandLine

open Replacements (resolve)

/-! ### The lines that are shown -/

/-- The lines of a text in which each line is ended. -/
def linesOf (text : String) : List String :=
  (Text.split '\n' text.toList).dropLast.map String.ofList

theorem split_ended {ls : List String} (hls : ∀ l ∈ ls, '\n' ∉ l.toList) :
    Text.split '\n' (String.join (ls.map (· ++ "\n"))).toList = ls.map String.toList ++ [[]] := by
  induction ls with
  | nil => rfl
  | cons l ls ih =>
      have htext : (String.join ((l :: ls).map (· ++ "\n"))).toList =
          l.toList ++ '\n' :: (String.join (ls.map (· ++ "\n"))).toList := by
        simp
      rw [htext, Text.split_append (hls l (by simp)), ih fun m hm => hls m (by simp [hm])]
      rfl

theorem linesOf_ended {ls : List String} (hls : ∀ l ∈ ls, '\n' ∉ l.toList) :
    linesOf (String.join (ls.map (· ++ "\n"))) = ls := by
  rw [linesOf, split_ended hls, List.dropLast_concat]
  simp

/-- A key of a record keeps to its line, ends at the first equals sign behind it and is not taken
for an option. -/
theorem key_of_mem_resolve {fs : Files} {dir : String} {e : String × String}
    (he : e ∈ (resolve fs dir).values.entries) :
    '\n' ∉ e.1.toList ∧ '=' ∉ e.1.toList ∧ e.1.toList.head? ≠ some '-' := by
  have hall : ∀ k ∈ (resolve fs dir).values.entries.map Prod.fst,
      '\n' ∉ k.toList ∧ '=' ∉ k.toList ∧ k.toList.head? ≠ some '-' := by
    rw [Replacements.keys_resolve]
    decide
  exact hall e.1 (List.mem_map_of_mem he)

theorem linesOf_shown {fs : Files} {dir : String}
    (hvalues : ∀ e ∈ (resolve fs dir).values.entries, '\n' ∉ e.2.toList) :
    linesOf (runReplacements false fs dir).output = (resolve fs dir).values.entries.map line := by
  have hlines : ∀ l ∈ (resolve fs dir).values.entries.map line, '\n' ∉ l.toList := by
    intro l hl
    obtain ⟨e, he, rfl⟩ := List.mem_map.mp hl
    simp [line, (key_of_mem_resolve he).1, hvalues e he]
  have htext : (runReplacements false fs dir).output =
      String.join (((resolve fs dir).values.entries.map line).map (· ++ "\n")) := by
    simp [runReplacements, valueLines, line, Function.comp_def]
  rw [htext, linesOf_ended hlines]

/-! ### The manifest -/

/-- Values that are set for all keys of a record leave nothing of another record. The name stays, as
it is not among them. -/
theorem manifestOf_set {recorded other : Dictionary} {es : List (String × String)}
    (hes : es.Perm recorded.entries)
    (hkeys : other.entries.map Prod.fst = recorded.entries.map Prod.fst)
    (hname : Replacements.groupNameKey ∉ recorded.entries.map Prod.fst)
    (template name : String) (values : List (String × String)) :
    manifestOf template other name (es ++ values) = manifestOf template recorded name values := by
  have hset := Dictionary.insert_insertAll hes hkeys hname name
  simp only [manifestOf, Manifest.withValues, Manifest.withValue, Manifest.named,
    Dictionary.insertAll_entries]
  rw [← hset]
  simp [Dictionary.insertAll]

theorem runRender_set {fs : Files} {dir : String} {es : List (String × String)}
    (hes : es.Perm (resolve fs dir).values.entries) (elsewhere template manifests name : String)
    (values : List (String × String)) :
    runRender template manifests name (es ++ values) fs elsewhere =
      runRender template manifests name values fs dir := by
  have hname : Replacements.groupNameKey ∉ (resolve fs dir).values.entries.map Prod.fst := by
    rw [Replacements.keys_resolve]
    decide
  have hkeys : (resolve fs elsewhere).values.entries.map Prod.fst =
      (resolve fs dir).values.entries.map Prod.fst := by
    rw [Replacements.keys_resolve, Replacements.keys_resolve]
  unfold runRender
  rw [manifestOf_set hes hkeys hname]

/-! ### The commands -/

variable {env : Environment} {fs : Files} {draws : Nat → Naming.Draw} {connector : Connector}
  {dir : String} {rest : List String}

theorem execute_replacements :
    execute [assigning "bootstrap-dir" dir, "replacements"] env fs draws connector =
      .done (runReplacements false fs dir, fs) := by
  rw [execute, read_assigning (by decide)]
  rfl

theorem execute_render {template manifests : String} {name : Option String}
    {values : List (String × String)}
    (h : readRender rest = .ok (.render template manifests name values)) :
    execute (assigning "bootstrap-dir" dir :: "render" :: rest) env fs draws connector =
      .done (runRender template manifests (name.getD (freshName draws)) values fs dir, fs) := by
  have hcommand : readCommand "render" rest = readRender rest := rfl
  rw [execute, read_assigning (by decide), hcommand, h]
  rfl

theorem execute_render_of_error {stop : Stop} (h : readRender rest = .error stop) :
    execute (assigning "bootstrap-dir" dir :: "render" :: rest) env fs draws connector =
      .done (stopped stop, fs) := by
  have hcommand : readCommand "render" rest = readRender rest := rfl
  rw [execute, read_assigning (by decide), hcommand, h]
  rfl

/-- Whatever else is asked of a rendering, with all values of a record set it goes elsewhere as it
goes with the record. -/
theorem execute_render_set {lines : List String}
    (hlines : lines.Perm ((resolve fs dir).values.entries.map line)) (elsewhere : String)
    (rest : List String) :
    ∃ outcome,
      execute (assigning "bootstrap-dir" dir :: "render" :: rest) env fs draws connector =
        .done (outcome, fs) ∧
      execute (assigning "bootstrap-dir" elsewhere :: "render" :: (setting lines ++ rest)) env fs
        draws connector = .done (outcome, fs) ∧
      ∀ template manifests name values,
        readRender rest = .ok (.render template manifests name values) →
          outcome = runRender template manifests (name.getD (freshName draws)) values fs dir := by
  have hplain : ∀ l ∈ lines, look l = .plain := by
    intro l hl
    obtain ⟨e, he, rfl⟩ := List.mem_map.mp (hlines.mem_iff.mp hl)
    exact look_line (key_of_mem_resolve he).2.2
  obtain ⟨es, hset, hes⟩ := replacements_perm hlines
    (replacements_lines fun e he => (key_of_mem_resolve he).2.1)
  rcases readRender_setting hplain hset rest with
    ⟨stop, hrest, hmore⟩ | ⟨template, manifests, name, values, hrest, hmore⟩
  · refine ⟨stopped stop, execute_render_of_error hrest, execute_render_of_error hmore, ?_⟩
    intro _ _ _ _ hok
    rw [hrest] at hok
    cases hok
  · refine ⟨runRender template manifests (name.getD (freshName draws)) values fs dir,
      execute_render hrest, ?_, ?_⟩
    · rw [execute_render hmore, runRender_set hes]
    · intro _ _ _ _ hok
      rw [hrest] at hok
      cases hok
      rfl

/-- The values of a record that keep to their lines are shown as lines that set exactly them. With
the lines set in any order, a manifest is rendered elsewhere just as with the record. -/
theorem shown_values_render_alike (env : Environment) (fs : Files) (draws : Nat → Naming.Draw)
    (connector : Connector) (dir elsewhere : String)
    (hvalues : ∀ e ∈ (resolve fs dir).values.entries, '\n' ∉ e.2.toList) :
    ∃ shown,
      execute [assigning "bootstrap-dir" dir, "replacements"] env fs draws connector =
        .done (shown, fs) ∧
      replacements (linesOf shown.output) = .ok (resolve fs dir).values.entries ∧
      ∀ lines, lines.Perm (linesOf shown.output) → ∀ rest, ∃ outcome,
        execute (assigning "bootstrap-dir" dir :: "render" :: rest) env fs draws connector =
          .done (outcome, fs) ∧
        execute (assigning "bootstrap-dir" elsewhere :: "render" :: (setting lines ++ rest)) env fs
          draws connector = .done (outcome, fs) ∧
        ∀ template manifests name values,
          readRender rest = .ok (.render template manifests name values) →
            outcome =
              runRender template manifests (name.getD (freshName draws)) values fs dir := by
  refine ⟨runReplacements false fs dir, execute_replacements, ?_, ?_⟩
  · rw [linesOf_shown hvalues]
    exact replacements_lines fun e he => (key_of_mem_resolve he).2.1
  · intro lines hlines rest
    rw [linesOf_shown hvalues] at hlines
    exact execute_render_set hlines elsewhere rest

/-- A descriptor whose values look like options, lines and placeholders. -/
def confusable : Descriptor := ⟨"lt=$A, 'b' =\"", "~", "", "--set=$ASG_NAME"⟩

theorem shown_values_render_alike_confusable :
    let saved := (confusable.save Descriptor.spoilt "out").2
    ∃ shown,
      execute [assigning "bootstrap-dir" "out", "replacements"] [] saved (fun _ => 0) =
        .done (shown, saved) ∧
      replacements (linesOf shown.output) =
        .ok [("AVAILABILITY_ZONE_1", ""), ("LAUNCH_TEMPLATE_ID", "lt=$A, 'b' =\""),
          ("LAUNCH_TEMPLATE_VERSION", "$Latest"), ("VPC_ZONE_IDENTIFIER", "--set=$ASG_NAME")] ∧
      execute (assigning "bootstrap-dir" "elsewhere" :: "render" ::
        (setting (linesOf shown.output).reverse ++
          [assigning "resource-dir" "", assigning "name" "--name", "--", "-"])) [] saved
        (fun _ => 0) = .done (runRender "-" "" "--name" [] saved "out", saved) := by
  have hload : Descriptor.load (confusable.save Descriptor.spoilt "out").2 "out" = .ok confusable :=
    Descriptor.load_of_save (Descriptor.save_in_spoilt confusable)
  generalize (confusable.save Descriptor.spoilt "out").2 = files at hload ⊢
  have hentries : (resolve files "out").values.entries =
      [("AVAILABILITY_ZONE_1", ""), ("LAUNCH_TEMPLATE_ID", "lt=$A, 'b' =\""),
        ("LAUNCH_TEMPLATE_VERSION", "$Latest"), ("VPC_ZONE_IDENTIFIER", "--set=$ASG_NAME")] := by
    rw [Replacements.resolve_of_load hload, Replacements.ofDescriptor,
      Replacements.entries_valuesOf]
    rfl
  have hvalues : ∀ e ∈ (resolve files "out").values.entries, '\n' ∉ e.2.toList := by
    rw [hentries]
    decide
  obtain ⟨shown, hshown, hset, halike⟩ :=
    shown_values_render_alike [] files (fun _ => 0) .byFiles "out" "elsewhere" hvalues
  obtain ⟨outcome, -, hrender, houtcome⟩ := halike _ (List.reverse_perm _)
    [assigning "resource-dir" "", assigning "name" "--name", "--", "-"]
  obtain rfl := houtcome _ _ _ _ (readRender_assigning "-" "" "--name")
  exact ⟨shown, hshown, hentries ▸ hset, hrender⟩

end ScalingTrials.CommandLine
