import ScalingTrials.Descriptor.Record
import ScalingTrials.Lookup
import ScalingTrials.Proofs.Files
import ScalingTrials.Proofs.Yaml.Mapping

/-! # The record of a descriptor

Every descriptor comes back from its record, whatever characters its fields
hold. Saving and discarding a record leave the content of all other files alone. -/

namespace ScalingTrials.Descriptor

open Yaml (Node Path Reading Source documentText entryNodes)
open Yaml.Scanner (IsKey)

/-! ### The text of a record -/

/-- The fields of a descriptor by name, in the order in which they are written. -/
def entries (d : Descriptor) : List (String × String) :=
  Field.all.map fun f => (f.name, d.get f)

theorem record_eq (d : Descriptor) : d.record = String.ofList (documentText d.entries) := by
  apply String.toList_injective
  simp [record, documentText, entries, Field.all, String.join, Yaml.Scanner.entryText]

theorem isKey_name (f : Field) : IsKey f.name := by
  have hplain : ∀ f : Field, Yaml.needsQuotes f.name = false := by
    intro f
    cases f <;> decide +kernel
  have hlen : f.name.toList.length ≤ Yaml.Scanner.keyLength := by
    cases f <;> decide
  exact ⟨Yaml.isPlain_of_needsQuotes_eq_false (hplain f), hlen⟩

theorem ofName?_name (f : Field) : Field.ofName? f.name = some f := by
  cases f <;> rfl

/-! ### Reading it -/

theorem rawText_scalar (src : Source) (p : Path) (plain : Bool) (text expected : String)
    (followed : Nat) :
    Reading.rawText src p (.scalar none none plain text) expected followed =
      .ok (text, followed) := rfl

/-- Each entry of a record gives its field, as long as none is given twice. -/
theorem readEntries_entries (d : Descriptor) (src : Source) (followed : Nat) {fields : List Field}
    (hnodup : fields.Nodup) {found : List (Field × String)}
    (hnew : ∀ f ∈ fields, found.lookup f = none) :
    readEntries src found (fields.map fun f => entryNodes (f.name, d.get f)) followed =
      .ok ((fields.map fun f => (f, d.get f)).reverse ++ found, followed) := by
  induction fields generalizing found with
  | nil => rfl
  | cons f fields ih =>
      obtain ⟨hf, hnodup⟩ := List.nodup_cons.mp hnodup
      have hnone : found.lookup f = none := hnew f (by simp)
      have hrest : ∀ g ∈ fields, ((f, d.get f) :: found).lookup g = none := by
        intro g hg
        have hne : g ≠ f := by
          rintro rfl
          exact hf hg
        rw [lookup_cons_of_ne hne]
        exact hnew g (by simp [hg])
      rw [List.map_cons, entryNodes, readEntries]
      simp only [bind, StateT.bind, rawText_scalar, Except.bind, ofName?_name, hnone,
        Option.isSome_none, Bool.false_eq_true, if_false]
      rw [ih hnodup hrest]
      simp

theorem reading_entries (d : Descriptor) (src : Source) (followed : Nat) :
    reading src (.map none (d.entries.map entryNodes)) followed = .ok (d, followed) := by
  have hread : readEntries src [] (Field.all.map fun f => entryNodes (f.name, d.get f)) followed =
      _ := readEntries_entries d src followed (by decide) fun _ _ => rfl
  have hmap : d.entries.map entryNodes =
      Field.all.map fun f => entryNodes (f.name, d.get f) := by
    simp [entries]
  rw [hmap]
  simp only [reading, bind, StateT.bind, Except.bind, Reading.follow, hread]
  rfl

/-- A record holds its descriptor. -/
theorem ofRecord_record (d : Descriptor) : ofRecord d.record = .ok d := by
  have hkeys : ∀ e ∈ d.entries, IsKey e.1 := by
    intro e he
    obtain ⟨f, -, rfl⟩ := List.mem_map.mp he
    exact isKey_name f
  have hne : d.entries ≠ [] := by simp [entries, Field.all]
  rw [ofRecord, record_eq, Yaml.readWith, Yaml.documents_documentText hne hkeys]
  simp only [bind, Except.bind, reading_entries]
  rfl

/-! ### Saving and loading -/

/-- What saving does when it succeeds: the directory is made, and then the record is written. -/
theorem save_eq_ok {d : Descriptor} {fs : Files} {dir path : String}
    (h : (d.save fs dir).1 = .ok path) :
    path = recordIn dir ∧ ∃ made, Files.Grown fs made ∧
      made.writeText (recordIn dir) d.record = .ok (d.save fs dir).2 := by
  have hgrown := Files.makeAll_grown fs dir
  unfold save at h ⊢
  rcases hmake : fs.makeAll dir with ⟨made? | made?, made⟩
  · simp [hmake] at h
  · rw [hmake] at hgrown
    simp only [hmake] at h ⊢
    cases hwrite : made.writeText (recordIn dir) d.record with
    | error e => simp [hwrite] at h
    | ok after =>
        simp only [hwrite, Except.ok.injEq] at h ⊢
        exact ⟨h.symm, made, hgrown, hwrite⟩

/-- Saving makes no difference to what the system refuses. -/
theorem refusal?_save (d : Descriptor) (fs : Files) (dir : String) :
    (d.save fs dir).2.refusal? = fs.refusal? := by
  have hgrown := Files.makeAll_grown fs dir
  unfold save
  rcases hmake : fs.makeAll dir with ⟨e | _, made⟩
  · rw [hmake] at hgrown
    exact hgrown.refusals
  · rw [hmake] at hgrown
    cases hwrite : made.writeText (recordIn dir) d.record with
    | error e => simpa [hwrite] using hgrown.refusals
    | ok after =>
        obtain ⟨l, -, -, -, rfl⟩ := Files.writeText_eq_ok hwrite
        simpa [hwrite] using hgrown.refusals

theorem load_of_readText {fs : Files} {dir : String} {d : Descriptor}
    (h : fs.readText (recordIn dir) = .ok d.record) : load fs dir = .ok d := by
  simp [load, h, ofRecord_record]

theorem load_of_save {d : Descriptor} {fs : Files} {dir path : String}
    (h : (d.save fs dir).1 = .ok path) : load (d.save fs dir).2 dir = .ok d := by
  obtain ⟨-, made, -, hwrite⟩ := save_eq_ok h
  exact load_of_readText (Files.readText_of_writeText hwrite)

/-- Only the file at the path of the record gets another content. -/
theorem file_iff_of_save {d : Descriptor} {fs : Files} {dir path : String}
    (h : (d.save fs dir).1 = .ok path) :
    ∃ l, (d.save fs dir).2.locate (recordIn dir) = .ok l ∧ ∀ m, m ≠ l → ∀ content,
      (d.save fs dir).2.at? m = some (.file content) ↔ fs.at? m = some (.file content) := by
  obtain ⟨-, made, hgrown, hwrite⟩ := save_eq_ok h
  obtain ⟨l, hlocate, hnode, -, hafter⟩ := Files.writeText_eq_ok hwrite
  refine ⟨l, hafter ▸ Files.locate_set hnode _ hlocate, fun m hm content => ?_⟩
  rw [hafter, Files.at?_set_of_ne hm, hgrown.file_iff]

theorem present_of_load {d : Descriptor} {fs : Files} {dir : String} (h : load fs dir = .ok d) :
    fs.present (recordIn dir) = true := by
  unfold load at h
  cases hread : fs.readText (recordIn dir) with
  | error e => simp [hread] at h
  | ok text => exact Files.present_of_readText hread

/-- A record that was loaded can be removed unless the system refuses it. -/
theorem removal_of_load {d : Descriptor} {fs : Files} {dir : String} (h : load fs dir = .ok d) :
    Files.Removal fs (recordIn dir) (fs.remove (recordIn dir)) := by
  unfold load at h
  cases hread : fs.readText (recordIn dir) with
  | error e => simp [hread] at h
  | ok text => exact Files.removal_of_readText hread

/-- A descriptor that was saved is loaded as it was, whatever stood in the record
before, and no other file has changed. -/
theorem saved_descriptor_loads {d : Descriptor} {fs : Files} {dir path : String}
    (h : (d.save fs dir).1 = .ok path) :
    path = recordIn dir ∧ load (d.save fs dir).2 dir = .ok d ∧
      ∃ l, (d.save fs dir).2.locate (recordIn dir) = .ok l ∧ ∀ m, m ≠ l → ∀ content,
        (d.save fs dir).2.at? m = some (.file content) ↔ fs.at? m = some (.file content) :=
  ⟨(save_eq_ok h).1, load_of_save h, file_iff_of_save h⟩

/-- A directory with an unusable record in it. -/
def spoilt : Files :=
  { here := ["tmp"]
    node? := fun l =>
      if l = ["tmp"] ∨ l = ["tmp", "out"] then some .directory
      else if l = ["tmp", "out", "bootstrap.yaml"] then some (.file "[not, a".toUTF8)
      else none }

/-- Values that would be read as something else if they stood plain. -/
def awkward : Descriptor := ⟨" null", "- &a\t*b\r\n---", "", "# \\ \"x\": 0x10\x00 "⟩

theorem save_in_spoilt (d : Descriptor) : (d.save spoilt "out").1 = .ok "out/bootstrap.yaml" := by
  have hroute : spoilt.route "out" = .ok ⟨["tmp"], ["out"], false⟩ := rfl
  have hmake : spoilt.makeAt ["tmp"] ["out"] = .error .occupied := rfl
  have hdir : spoilt.isDirectoryAt ["tmp"] ["out"] = true := rfl
  have hall : spoilt.makeAll "out" = (.ok (), spoilt) := by
    rw [Files.makeAll, if_neg (by decide), hroute]
    simp [Files.makeAllAt, hmake, hdir]
  have hlocate : spoilt.locate (recordIn "out") = .ok ["tmp", "out", "bootstrap.yaml"] := rfl
  have hnode : spoilt.at? ["tmp", "out", "bootstrap.yaml"] =
      some (.file "[not, a".toUTF8) := rfl
  simp only [save, hall, Files.writeText, Files.write, hlocate, hnode]
  rfl

theorem saved_descriptor_loads_awkward :
    (awkward.save spoilt "out").1 = .ok "out/bootstrap.yaml" ∧
      load (awkward.save spoilt "out").2 "out" = .ok awkward :=
  ⟨save_in_spoilt awkward, (saved_descriptor_loads (save_in_spoilt awkward)).2.1⟩

end ScalingTrials.Descriptor
