import ScalingTrials.Cleanup
import ScalingTrials.Proofs.Account
import ScalingTrials.Proofs.Record

/-! # What a cleanup does

A cleanup asks the cloud for one thing at most, and takes the record away only once
nothing that it names is left. Cleanups that are repeated keep the record up to the
first that succeeds, and have nothing to do from then on. Where the system refuses to take
the record away, they keep it and ask again. -/

namespace ScalingTrials.Cleanup

open Cloud (IsGone calls)
open Descriptor (load recordIn)

variable {fs fs' : Files} {dir : String} {es : List (Event calls)} {report : Report}

/-! ### One cleanup -/

/-- What is told of a record that the system refuses to take away. -/
def refusedOutcome (dir : String) (r : Files.Refusal) : Outcome :=
  .failed (.record (.unwritable (recordIn dir) (.refused r)))

/-- What becomes of a record that names nothing any more: it is taken away, or the system refuses
that and it stays. -/
inductive Cleared (fs : Files) (dir : String) : Outcome → Files → Prop where
  | removed {l : Location} : fs.locate (recordIn dir) = .ok l → fs.refusal? .remove l = none →
      (fs.set l none).present (recordIn dir) = false → Cleared fs dir .done (fs.set l none)
  | refused {l : Location} {r : Files.Refusal} : fs.locate (recordIn dir) = .ok l →
      fs.refusal? .remove l = some r → Cleared fs dir (refusedOutcome dir r) fs

/-- The ways in which a cleanup can go: its calls, its report and the files after it. -/
inductive Way (fs : Files) (dir : String) : List (Event calls) → Report → Files → Prop where
  | absent : fs.present (recordIn dir) = false →
      Way fs dir [] ⟨.skipped, .skipped, .skipped⟩ fs
  | unusable {e : Descriptor.RecordError} : fs.present (recordIn dir) = true →
      load fs dir = .error e → Way fs dir [] ⟨.failed (.record e), .skipped, .skipped⟩ fs
  | unnamed {d : Descriptor} {cleared : Outcome} {fs' : Files} : load fs dir = .ok d →
      d.templateId = "" → Cleared fs dir cleared fs' →
      Way fs dir [] ⟨.done, .skipped, cleared⟩ fs'
  | gone {d : Descriptor} {answer : Except Cloud.Error Unit} {cleared : Outcome} {fs' : Files} :
      load fs dir = .ok d → d.templateId ≠ "" → IsGone answer → Cleared fs dir cleared fs' →
      Way fs dir [.asked (.deleteTemplate d.templateId) answer] ⟨.done, .done, cleared⟩ fs'
  | kept {d : Descriptor} {e : Cloud.Error} : load fs dir = .ok d → d.templateId ≠ "" →
      e.code ≠ some Cloud.noTemplateCode →
      Way fs dir [.asked (.deleteTemplate d.templateId) (.error e)]
        ⟨.done, .failed (.cloud e), .skipped⟩ fs

theorem loadStep_of_absent (h : fs.present (recordIn dir) = false) :
    loadStep fs dir = (none, .skipped) := by
  simp [loadStep, h]

theorem loadStep_of_error {e : Descriptor.RecordError} (hpresent : fs.present (recordIn dir) = true)
    (h : load fs dir = .error e) : loadStep fs dir = (none, .failed (.record e)) := by
  simp [loadStep, hpresent, h]

theorem loadStep_of_ok {d : Descriptor} (h : load fs dir = .ok d) :
    loadStep fs dir = (some d, .done) := by
  simp [loadStep, Descriptor.present_of_load h, h]

/-- Only the system can keep a record that was loaded from being taken away. -/
theorem cleared_of_load {d : Descriptor} (h : load fs dir = .ok d) :
    Cleared fs dir (recordStep fs dir).1 (recordStep fs dir).2 := by
  have hpresent : fs.present (recordIn dir) = true := Descriptor.present_of_load h
  have hremoval := Descriptor.removal_of_load h
  cases hremove : fs.remove (recordIn dir) with
  | ok after =>
      have hstep : recordStep fs dir = (.done, after) := by
        simp [recordStep, hpresent, Descriptor.discard, hremove]
      rw [hremove] at hremoval
      rw [hstep]
      cases hremoval with
      | done hlocate hallowed habsent => exact .removed hlocate hallowed habsent
  | error e =>
      have hstep : recordStep fs dir = (.failed (.record (.unwritable (recordIn dir) e)), fs) := by
        simp [recordStep, hpresent, Descriptor.discard, hremove]
      rw [hremove] at hremoval
      rw [hstep]
      cases hremoval with
      | refused hlocate hrefused => exact .refused hlocate hrefused

/-- What becomes of the template that a record names. -/
theorem course_templateStep {d : Descriptor} {outcome : Outcome}
    (hc : (templateStep (some d)).Course es outcome) :
    (d.templateId = "" ∧ es = [] ∧ outcome = .skipped) ∨
      d.templateId ≠ "" ∧ ∃ answer, es = [.asked (.deleteTemplate d.templateId) answer] ∧
        (IsGone answer ∧ outcome = .done ∨
          ∃ e, answer = .error e ∧ e.code ≠ some Cloud.noTemplateCode ∧
            outcome = .failed (.cloud e)) := by
  simp only [templateStep] at hc
  split at hc
  · next hempty =>
      obtain ⟨rfl, rfl⟩ := Task.course_done_iff.mp hc
      exact .inl ⟨hempty, rfl, rfl⟩
  · next hnamed =>
      obtain ⟨answer, rest, rfl, hrest⟩ := Task.course_ask_iff.mp hc
      refine .inr ⟨hnamed, answer, ?_⟩
      cases answer with
      | ok _ =>
          obtain ⟨rfl, rfl⟩ := Task.course_done_iff.mp hrest
          exact ⟨rfl, .inl ⟨.inl rfl, rfl⟩⟩
      | error e =>
          cases hcode : e.hasCode Cloud.noTemplateCode with
          | true =>
              simp only [Task.done_bind, hcode, if_true] at hrest
              obtain ⟨rfl, rfl⟩ := Task.course_done_iff.mp hrest
              exact ⟨rfl, .inl ⟨.inr ⟨e, rfl, Cloud.Error.hasCode_iff.mp hcode⟩, rfl⟩⟩
          | false =>
              simp only [Task.done_bind, hcode, Bool.false_eq_true, if_false] at hrest
              obtain ⟨rfl, rfl⟩ := Task.course_done_iff.mp hrest
              exact ⟨rfl, .inr ⟨e, rfl, Cloud.Error.hasCode_eq_false_iff.mp hcode, rfl⟩⟩

/-- Without a descriptor nothing is asked and nothing is taken away. -/
theorem course_of_loadStep {loaded : Outcome} (h : loadStep fs dir = (none, loaded))
    (hloaded : nothingLeft loaded .skipped = false)
    (hc : (cleanup fs dir).Course es (report, fs')) :
    es = [] ∧ report = ⟨loaded, .skipped, .skipped⟩ ∧ fs' = fs := by
  unfold cleanup at hc
  simp only [h, templateStep, Task.done_bind, hloaded, Bool.false_eq_true, if_false] at hc
  obtain ⟨rfl, hresult⟩ := Task.course_done_iff.mp hc
  exact ⟨rfl, Prod.mk.inj hresult⟩

theorem way_of_course (hc : (cleanup fs dir).Course es (report, fs')) :
    Way fs dir es report fs' := by
  cases hpresent : fs.present (recordIn dir) with
  | false =>
      obtain ⟨rfl, rfl, rfl⟩ := course_of_loadStep (loadStep_of_absent hpresent) rfl hc
      exact .absent hpresent
  | true =>
      cases hload : load fs dir with
      | error e =>
          obtain ⟨rfl, rfl, rfl⟩ := course_of_loadStep (loadStep_of_error hpresent hload) rfl hc
          exact .unusable hpresent hload
      | ok d =>
          have hcleared := cleared_of_load hload
          unfold cleanup at hc
          simp only [loadStep_of_ok hload] at hc
          generalize recordStep fs dir = step at hcleared hc
          obtain ⟨cleared, after⟩ := step
          obtain ⟨outcome, first, second, rfl, htemplate, hrest⟩ := Task.course_bind_iff.mp hc
          rcases course_templateStep htemplate with
            ⟨hempty, rfl, rfl⟩ | ⟨hnamed, answer, rfl, ⟨hgone, rfl⟩ | ⟨e, rfl, hcode, rfl⟩⟩
          · simp only [nothingLeft, if_true] at hrest
            obtain ⟨rfl, hresult⟩ := Task.course_done_iff.mp hrest
            obtain ⟨rfl, rfl⟩ := Prod.mk.inj hresult
            exact .unnamed hload hempty hcleared
          · simp only [nothingLeft, if_true] at hrest
            obtain ⟨rfl, hresult⟩ := Task.course_done_iff.mp hrest
            obtain ⟨rfl, rfl⟩ := Prod.mk.inj hresult
            exact .gone hload hnamed hgone hcleared
          · simp only [nothingLeft, Bool.false_eq_true, if_false] at hrest
            obtain ⟨rfl, hresult⟩ := Task.course_done_iff.mp hrest
            obtain ⟨rfl, rfl⟩ := Prod.mk.inj hresult
            exact .kept hload hnamed hcode

theorem way_of_play {σ : Type} (fs : Files) (dir : String)
    (reply : σ → (q : Cloud.Ask) → Except Cloud.Error q.Result × σ) (s : σ) :
    let p := (cleanup fs dir).play (I := calls) reply s
    Way fs dir p.events p.result.1 p.result.2 := by
  have hcourse := Task.play_course reply (cleanup fs dir) s
  generalize (cleanup fs dir).play (I := calls) reply s = p at hcourse ⊢
  exact way_of_course hcourse

/-- A cleanup with a record asks for the deletion of the template that it names. -/
theorem events_cleanup {d : Descriptor} {σ : Type} (hload : load fs dir = .ok d)
    (hid : d.templateId ≠ "") (reply : σ → (q : Cloud.Ask) → Except Cloud.Error q.Result × σ)
    (s : σ) :
    ((cleanup fs dir).play (I := calls) reply s).events =
      [.asked (.deleteTemplate d.templateId) (reply s (.deleteTemplate d.templateId)).1] := by
  unfold cleanup
  simp only [loadStep_of_ok hload, templateStep, if_neg hid, Cloud.call, Task.bind, Task.play]
  cases (reply s (.deleteTemplate d.templateId)).1 with
  | ok _ => rfl
  | error e => cases hcode : e.hasCode Cloud.noTemplateCode <;> simp [hcode, nothingLeft, Task.play]

/-- The record was loaded, and the cloud said that the template it names is gone, if it
names any. -/
def Released (fs : Files) (dir : String) (es : List (Event calls)) : Prop :=
  ∃ d, load fs dir = .ok d ∧ (d.templateId = "" ∨
    ∃ answer, .asked (.deleteTemplate d.templateId) answer ∈ es ∧ IsGone answer)

/-- A cleanup asks for nothing but the deletion of the template that the record names, takes
nothing away but a record that was released, and reports what is so. Only the system can refuse to
let go of such a record. A record that cannot be seen counts as absent. -/
structure Careful (fs : Files) (dir : String) (es : List (Event calls)) (report : Report)
    (fs' : Files) : Prop where
  calls : es = [] ∨ ∃ d answer, load fs dir = .ok d ∧ d.templateId ≠ "" ∧
    es = [.asked (.deleteTemplate d.templateId) answer]
  cleared : Released fs dir es → Cleared fs dir report.record fs'
  unchanged : ¬Released fs dir es → fs' = fs
  elsewhere : fs'.here = fs.here ∧ fs'.refusal? = fs.refusal? ∧
    ∀ l, fs.locate (recordIn dir) ≠ .ok l → fs'.at? l = fs.at? l
  descriptor_skipped_iff : report.descriptor = .skipped ↔ fs.present (recordIn dir) = false
  descriptor_failed_iff : (∃ cause, report.descriptor = .failed cause) ↔
    fs.present (recordIn dir) = true ∧ ∃ e, load fs dir = .error e
  descriptor_done_iff : report.descriptor = .done ↔ ∃ d, load fs dir = .ok d
  template_done_iff : report.template = .done ↔
    ∃ id answer, .asked (.deleteTemplate id) answer ∈ es ∧ IsGone answer
  record_done_iff : report.record = .done ↔
    fs.present (recordIn dir) = true ∧ fs'.present (recordIn dir) = false
  record_failed_iff : (∃ cause, report.record = .failed cause) ↔ Released fs dir es ∧
    ∃ l r, fs.locate (recordIn dir) = .ok l ∧ fs.refusal? .remove l = some r

/-! What the fate of the record contributes to these: -/

variable {cleared : Outcome}

theorem Cleared.elsewhere (h : Cleared fs dir cleared fs') :
    fs'.here = fs.here ∧ fs'.refusal? = fs.refusal? ∧
      ∀ l, fs.locate (recordIn dir) ≠ .ok l → fs'.at? l = fs.at? l := by
  cases h with
  | @removed l hlocate _ _ =>
      refine ⟨rfl, rfl, fun m hm => Files.at?_set_of_ne ?_ none⟩
      rintro rfl
      exact hm hlocate
  | refused _ _ => exact ⟨rfl, rfl, fun _ _ => rfl⟩

theorem Cleared.done_iff (h : Cleared fs dir cleared fs')
    (hpresent : fs.present (recordIn dir) = true) :
    cleared = .done ↔ fs.present (recordIn dir) = true ∧ fs'.present (recordIn dir) = false := by
  cases h with
  | removed _ _ habsent => exact iff_of_true rfl ⟨hpresent, habsent⟩
  | refused _ _ => simp [refusedOutcome, hpresent]

theorem Cleared.failed_iff (h : Cleared fs dir cleared fs') :
    (∃ cause, cleared = .failed cause) ↔
      ∃ l r, fs.locate (recordIn dir) = .ok l ∧ fs.refusal? .remove l = some r := by
  cases h with
  | removed hlocate hallowed _ => simp [hlocate, hallowed]
  | refused hlocate hrefused => exact iff_of_true ⟨_, rfl⟩ ⟨_, _, hlocate, hrefused⟩

theorem Cleared.unchanged (h : Cleared fs dir cleared fs')
    (hfailed : ∃ cause, cleared = .failed cause) : fs' = fs := by
  cases h with
  | removed _ _ _ => simp at hfailed
  | refused _ _ => rfl

theorem Cleared.eq_of_held {l : Location} {r : Files.Refusal} (h : Cleared fs dir cleared fs')
    (hlocate : fs.locate (recordIn dir) = .ok l) (hheld : fs.refusal? .remove l = some r) :
    cleared = refusedOutcome dir r ∧ fs' = fs := by
  cases h with
  | removed hlocate' hallowed _ =>
      obtain rfl := Except.ok.inj (hlocate.symm.trans hlocate')
      rw [hheld] at hallowed
      cases hallowed
  | refused hlocate' hheld' =>
      obtain rfl := Except.ok.inj (hlocate.symm.trans hlocate')
      obtain rfl := Option.some.inj (hheld.symm.trans hheld')
      exact ⟨rfl, rfl⟩

theorem not_released_of_error {e : Descriptor.RecordError} (h : load fs dir = .error e) :
    ¬Released fs dir es := by
  rintro ⟨d, hload, -⟩
  rw [h] at hload
  cases hload

theorem error_of_absent (hpresent : fs.present (recordIn dir) = false) :
    ∃ e, load fs dir = .error e := by
  cases hload : load fs dir with
  | error e => exact ⟨e, rfl⟩
  | ok d => simp [Descriptor.present_of_load hload] at hpresent

theorem not_gone_of_code {e : Cloud.Error} (h : e.code ≠ some Cloud.noTemplateCode) :
    ¬IsGone (.error e) := by
  rintro (hok | ⟨e', heq, hcode⟩)
  · cases hok
  · cases heq
    exact h hcode

theorem Way.careful (h : Way fs dir es report fs') : Careful fs dir es report fs' := by
  cases h with
  | absent hpresent =>
      obtain ⟨e, hload⟩ := error_of_absent hpresent
      have hkept : ¬Released fs dir [] := not_released_of_error hload
      constructor <;> simp [hpresent, hload, hkept]
  | unusable hpresent hload =>
      have hkept : ¬Released fs dir [] := not_released_of_error hload
      constructor <;> simp [hpresent, hload, hkept]
  | @unnamed d cleared fs' hload hempty hcleared =>
      have hpresent := Descriptor.present_of_load hload
      have hreleased : Released fs dir [] := ⟨d, hload, .inl hempty⟩
      constructor
      case record_done_iff => exact hcleared.done_iff hpresent
      case record_failed_iff => exact hcleared.failed_iff.trans (and_iff_right hreleased).symm
      all_goals simp [hpresent, hload, hreleased, hcleared, hcleared.elsewhere]
      case elsewhere => exact hcleared.elsewhere.2.2
  | @gone d answer cleared fs' hload hnamed hgone hcleared =>
      have hpresent := Descriptor.present_of_load hload
      have hreleased : Released fs dir [.asked (.deleteTemplate d.templateId) answer] :=
        ⟨d, hload, .inr ⟨answer, List.mem_singleton_self _, hgone⟩⟩
      constructor
      case template_done_iff =>
        exact ⟨fun _ => ⟨_, answer, List.mem_singleton_self _, hgone⟩, fun _ => rfl⟩
      case record_done_iff => exact hcleared.done_iff hpresent
      case record_failed_iff => exact hcleared.failed_iff.trans (and_iff_right hreleased).symm
      all_goals simp [hpresent, hload, hreleased, hnamed, hcleared, hcleared.elsewhere]
      case elsewhere => exact hcleared.elsewhere.2.2
  | @kept d e hload hnamed hcode =>
      have hpresent := Descriptor.present_of_load hload
      have hgone : ¬IsGone (.error e) := not_gone_of_code hcode
      have hkept : ¬Released fs dir [.asked (.deleteTemplate d.templateId) (.error e)] := by
        rintro ⟨d', hload', hleft⟩
        rw [hload] at hload'
        cases hload'
        rcases hleft with hempty | ⟨answer, hanswer, hgone'⟩
        · exact hnamed hempty
        · cases List.mem_singleton.mp hanswer
          exact hgone hgone'
      constructor <;> simp [hpresent, hload, hkept, hnamed, hgone]

/-! ### Repeated cleanups -/

/-- Cleanups of a directory in turn, with the reports of all. -/
def repeated (dir : String) : Nat → Files → Task calls (List Report × Files)
  | 0, fs => .done ([], fs)
  | n + 1, fs =>
    (cleanup fs dir).bind fun (report, fs) =>
      (repeated dir n fs).bind fun (reports, fs) => .done (report :: reports, fs)

/-- The question for the deletion of a template, with the answer to it. -/
def deletion (id : String) (answer : Except Cloud.Error Unit) : Event calls :=
  .asked (.deleteTemplate id) answer

/-- The refusal to delete a template. -/
def refused (id : String) (e : Cloud.Error) : Event calls := deletion id (.error e)

/-- The report of a cleanup whose template could not be deleted. -/
def keptReport (e : Cloud.Error) : Report := ⟨.done, .failed (.cloud e), .skipped⟩

def goneReport : Report := ⟨.done, .done, .done⟩

/-- The report of a cleanup that found no record. -/
def idleReport : Report := ⟨.skipped, .skipped, .skipped⟩

/-- The report of a cleanup whose record the system does not let go of, by the answer to its
question. -/
def heldReport (dir : String) (r : Files.Refusal) : Except Cloud.Error Unit → Report
  | .ok _ => ⟨.done, .done, refusedOutcome dir r⟩
  | .error e =>
    if e.code = some Cloud.noTemplateCode then ⟨.done, .done, refusedOutcome dir r⟩
    else keptReport e

/-- How cleanups go from a record that names a template: nothing changes as long as the cloud
refuses, and with the first deletion the record goes and there is nothing more to do. A record that
the system does not let go of stays, and every cleanup asks for the deletion again. -/
inductive Persistent (fs : Files) (dir id : String) :
    Nat → List (Event calls) → List Report → Files → Prop where
  | kept (refusals : List Cloud.Error) : (∀ e ∈ refusals, e.code ≠ some Cloud.noTemplateCode) →
      Persistent fs dir id refusals.length (refusals.map (refused id)) (refusals.map keptReport) fs
  | gone (refusals : List Cloud.Error) (answer : Except Cloud.Error Unit) (l : Location) (k : Nat) :
      (∀ e ∈ refusals, e.code ≠ some Cloud.noTemplateCode) → IsGone answer →
      fs.locate (recordIn dir) = .ok l → fs.refusal? .remove l = none →
      (fs.set l none).present (recordIn dir) = false →
      Persistent fs dir id (refusals.length + (k + 1))
        (refusals.map (refused id) ++ [deletion id answer])
        (refusals.map keptReport ++ goneReport :: List.replicate k idleReport) (fs.set l none)
  | held (answers : List (Except Cloud.Error Unit)) {l : Location} {r : Files.Refusal} :
      fs.locate (recordIn dir) = .ok l → fs.refusal? .remove l = some r →
      Persistent fs dir id answers.length (answers.map (deletion id))
        (answers.map (heldReport dir r)) fs

variable {reports : List Report} {n : Nat}

theorem heldReport_of_gone {answer : Except Cloud.Error Unit} (h : IsGone answer)
    (r : Files.Refusal) : heldReport dir r answer = ⟨.done, .done, refusedOutcome dir r⟩ := by
  rcases h with rfl | ⟨e, rfl, hcode⟩
  · rfl
  · rw [heldReport, if_pos hcode]

theorem heldReport_of_refused {e : Cloud.Error} (h : e.code ≠ some Cloud.noTemplateCode)
    (r : Files.Refusal) : heldReport dir r (.error e) = keptReport e := by
  rw [heldReport, if_neg h]

theorem Way.of_named {d : Descriptor} (h : Way fs dir es report fs') (hload : load fs dir = .ok d)
    (hnamed : d.templateId ≠ "") :
    (∃ answer cleared, IsGone answer ∧ Cleared fs dir cleared fs' ∧
      es = [deletion d.templateId answer] ∧ report = ⟨.done, .done, cleared⟩) ∨
    ∃ e, e.code ≠ some Cloud.noTemplateCode ∧ es = [refused d.templateId e] ∧
      report = keptReport e ∧ fs' = fs := by
  cases h with
  | absent habsent => simp [Descriptor.present_of_load hload] at habsent
  | unusable _ hload' => simp [hload] at hload'
  | unnamed hload' hempty _ =>
      rw [hload] at hload'
      cases hload'
      exact absurd hempty hnamed
  | gone hload' _ hgone hcleared =>
      rw [hload] at hload'
      cases hload'
      exact .inl ⟨_, _, hgone, hcleared, rfl, rfl⟩
  | kept hload' _ hcode =>
      rw [hload] at hload'
      cases hload'
      exact .inr ⟨_, hcode, rfl, rfl, rfl⟩

theorem course_repeated_succ
    (hc : (repeated dir (n + 1) fs).Course es (reports, fs')) :
    ∃ report fs₁ first rest second, es = first ++ second ∧ reports = report :: rest ∧
      Way fs dir first report fs₁ ∧ (repeated dir n fs₁).Course second (rest, fs') := by
  obtain ⟨⟨report, fs₁⟩, first, second, rfl, hfirst, hc⟩ := Task.course_bind_iff.mp hc
  obtain ⟨⟨rest, fs₂⟩, second, last, rfl, hsecond, hlast⟩ := Task.course_bind_iff.mp hc
  obtain ⟨rfl, heq⟩ := Task.course_done_iff.mp hlast
  obtain ⟨rfl, rfl⟩ := Prod.mk.inj heq
  exact ⟨report, fs₁, first, rest, second, by simp, rfl, way_of_course hfirst, hsecond⟩

/-- Where there is no record, cleanups have nothing to do. -/
theorem course_repeated_of_absent (habsent : fs.present (recordIn dir) = false)
    (hc : (repeated dir n fs).Course es (reports, fs')) :
    es = [] ∧ reports = List.replicate n idleReport ∧ fs' = fs := by
  induction n generalizing es reports with
  | zero =>
      obtain ⟨rfl, heq⟩ := Task.course_done_iff.mp hc
      obtain ⟨rfl, rfl⟩ := Prod.mk.inj heq
      exact ⟨rfl, rfl, rfl⟩
  | succ n ih =>
      obtain ⟨report, fs₁, first, rest, second, rfl, rfl, hway, hrest⟩ := course_repeated_succ hc
      obtain ⟨e, hload⟩ := error_of_absent habsent
      cases hway with
      | absent =>
          obtain ⟨rfl, rfl, rfl⟩ := ih hrest
          exact ⟨rfl, rfl, rfl⟩
      | unusable hpresent => simp [habsent] at hpresent
      | unnamed hload' | gone hload' | kept hload' =>
          rw [hload] at hload'
          cases hload'

/-- One more refusal before the others. -/
theorem Persistent.refuse {id : String} {e : Cloud.Error} (he : e.code ≠ some Cloud.noTemplateCode)
    (h : Persistent fs dir id n es reports fs') :
    Persistent fs dir id (n + 1) (refused id e :: es) (keptReport e :: reports) fs' := by
  cases h with
  | kept refusals hrefused => exact .kept (e :: refusals) (List.forall_mem_cons.mpr ⟨he, hrefused⟩)
  | gone refusals answer l k hrefused hgone hlocate hallowed habsent =>
      have hlength : refusals.length + (k + 1) + 1 = (e :: refusals).length + (k + 1) := by
        simp only [List.length_cons]
        omega
      rw [hlength]
      exact .gone (e :: refusals) answer l k (List.forall_mem_cons.mpr ⟨he, hrefused⟩) hgone
        hlocate hallowed habsent
  | @held answers l r hlocate hheld =>
      rw [← heldReport_of_refused he r]
      exact .held (.error e :: answers) hlocate hheld

/-- A record that the system does not let go of stays, whatever the cloud answers. -/
theorem held_of_course {d : Descriptor} {l : Location} {r : Files.Refusal}
    (hload : load fs dir = .ok d) (hnamed : d.templateId ≠ "")
    (hlocate : fs.locate (recordIn dir) = .ok l) (hheld : fs.refusal? .remove l = some r)
    (hc : (repeated dir n fs).Course es (reports, fs')) :
    ∃ answers : List (Except Cloud.Error Unit), n = answers.length ∧
      es = answers.map (deletion d.templateId) ∧ reports = answers.map (heldReport dir r) ∧
      fs' = fs := by
  induction n generalizing es reports with
  | zero =>
      obtain ⟨rfl, heq⟩ := Task.course_done_iff.mp hc
      obtain ⟨rfl, rfl⟩ := Prod.mk.inj heq
      exact ⟨[], rfl, rfl, rfl, rfl⟩
  | succ n ih =>
      obtain ⟨report, fs₁, first, rest, second, rfl, rfl, hway, hrest⟩ := course_repeated_succ hc
      rcases hway.of_named hload hnamed with
        ⟨answer, cleared, hgone, hcleared, rfl, rfl⟩ | ⟨e, hcode, rfl, rfl, rfl⟩
      · obtain ⟨rfl, rfl⟩ := hcleared.eq_of_held hlocate hheld
        obtain ⟨answers, rfl, rfl, rfl, rfl⟩ := ih hrest
        rw [← heldReport_of_gone hgone r]
        exact ⟨answer :: answers, rfl, rfl, rfl, rfl⟩
      · obtain ⟨answers, rfl, rfl, rfl, rfl⟩ := ih hrest
        rw [← heldReport_of_refused hcode r]
        exact ⟨.error e :: answers, rfl, rfl, rfl, rfl⟩

theorem persistent_of_course {d : Descriptor} (hload : load fs dir = .ok d)
    (hnamed : d.templateId ≠ "") (hc : (repeated dir n fs).Course es (reports, fs')) :
    Persistent fs dir d.templateId n es reports fs' := by
  induction n generalizing es reports with
  | zero =>
      obtain ⟨rfl, heq⟩ := Task.course_done_iff.mp hc
      obtain ⟨rfl, rfl⟩ := Prod.mk.inj heq
      exact .kept [] (by simp)
  | succ n ih =>
      obtain ⟨report, fs₁, first, rest, second, rfl, rfl, hway, hrest⟩ := course_repeated_succ hc
      rcases hway.of_named hload hnamed with
        ⟨answer, cleared, hgone, hcleared, rfl, rfl⟩ | ⟨e, hcode, rfl, rfl, rfl⟩
      · cases hcleared with
        | @removed l hlocate hallowed habsent =>
            obtain ⟨rfl, rfl, rfl⟩ := course_repeated_of_absent habsent hrest
            have hlast : Persistent fs dir d.templateId ([].length + (n + 1)) _ _ _ :=
              .gone [] answer l n (by simp) hgone hlocate hallowed habsent
            simpa [goneReport] using hlast
        | refused hlocate hheld =>
            obtain ⟨answers, hlength, hevents, hreports, rfl⟩ :=
              held_of_course hload hnamed hlocate hheld hc
            rw [hlength, hevents, hreports]
            exact .held answers hlocate hheld
      · exact .refuse hcode (ih hrest)

/-- One cleanup is careful whatever the record holds, and repeated ones never lose a template
that the record names. -/
theorem cleanup_spares_what_is_left {σ : Type} (fs : Files) (dir : String)
    (reply : σ → (q : Cloud.Ask) → Except Cloud.Error q.Result × σ) (s : σ) :
    let p := (cleanup fs dir).play (I := calls) reply s
    Careful fs dir p.events p.result.1 p.result.2 ∧
      ∀ d, load fs dir = .ok d → d.templateId ≠ "" → ∀ n,
        let q := (repeated dir n fs).play (I := calls) reply s
        Persistent fs dir d.templateId n q.events q.result.1 q.result.2 := by
  intro p
  constructor
  · exact (way_of_play fs dir reply s).careful
  · intro d hload hnamed n
    have hcourse := Task.play_course reply (repeated dir n fs) s
    generalize (repeated dir n fs).play (I := calls) reply s = q at hcourse ⊢
    exact persistent_of_course hload hnamed hcourse

/-- A cloud that is too busy at first. -/
def busyAtFirst (busy : Bool) (q : Cloud.Ask) : Except Cloud.Error q.Result × Bool :=
  match busy, q with
  | false, .deleteTemplate _ => (.ok (), false)
  | _, _ =>
    (.error ⟨"DeleteLaunchTemplate", some "RequestLimitExceeded", "Request limit exceeded."⟩, false)

/-- A record on a system that can only be read. -/
def mounted : Files :=
  { here := []
    node? := fun l =>
      if l = ["bootstrap.yaml"] then some (.file Descriptor.awkward.record.toUTF8) else none
    refusal? := fun
      | .write, _ | .make, _ | .remove, _ => some .readOnly
      | .enter, _ | .read, _ => none
    readable := fun _ _ => rfl }

theorem load_mounted : load mounted "." = .ok Descriptor.awkward := by
  have hpath : recordIn "." = "./bootstrap.yaml" := rfl
  have hlocate : mounted.locate "./bootstrap.yaml" = .ok ["bootstrap.yaml"] := rfl
  apply Descriptor.load_of_readText
  rw [hpath]
  exact Files.readText_of_at? hlocate rfl rfl

/-- A cleanup that succeeds at its second attempt, and one that cannot take the record away. -/
theorem cleanup_spares_what_is_left_retried :
    let saved := (Descriptor.awkward.save Descriptor.spoilt "out").2
    let q := (repeated "out" 3 saved).play (I := calls) busyAtFirst true
    let p := (cleanup mounted ".").play (I := calls) busyAtFirst false
    load saved "out" = .ok Descriptor.awkward ∧ Descriptor.awkward.templateId ≠ "" ∧
      Persistent saved "out" Descriptor.awkward.templateId 3 q.events q.result.1 q.result.2 ∧
      (∃ cause, p.result.1.record = .failed cause) ∧ p.result.2 = mounted := by
  have hload : load (Descriptor.awkward.save Descriptor.spoilt "out").2 "out" =
      .ok Descriptor.awkward :=
    Descriptor.load_of_save (Descriptor.save_in_spoilt Descriptor.awkward)
  have hnamed : Descriptor.awkward.templateId ≠ "" := by decide
  generalize (Descriptor.awkward.save Descriptor.spoilt "out").2 = files at hload ⊢
  have hpersistent := (cleanup_spares_what_is_left files "out" busyAtFirst true).2
    Descriptor.awkward hload hnamed 3
  obtain ⟨hcareful, -⟩ := cleanup_spares_what_is_left mounted "." busyAtFirst false
  have hevents := events_cleanup load_mounted hnamed busyAtFirst false
  have hreleased : Released mounted "."
      ((cleanup mounted ".").play (I := calls) busyAtFirst false).events := by
    refine ⟨Descriptor.awkward, load_mounted, .inr ⟨.ok (), ?_, .inl rfl⟩⟩
    rw [hevents]
    exact List.mem_singleton_self _
  have hlocate : mounted.locate (recordIn ".") = .ok ["bootstrap.yaml"] := rfl
  have hfailed := hcareful.record_failed_iff.mpr ⟨hreleased, _, .readOnly, hlocate, rfl⟩
  exact ⟨hload, hnamed, hpersistent, hfailed, (hcareful.cleared hreleased).unchanged hfailed⟩

end ScalingTrials.Cleanup
