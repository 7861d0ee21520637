import ScalingTrials.Proofs.Cleanup
import ScalingTrials.Proofs.Custody
import ScalingTrials.Proofs.Precedence
import ScalingTrials.Proofs.Preparation.Breaking
import ScalingTrials.Proofs.Waits

/-! # What the status of a command tells

A preparation that breaks off has a status of its own. A cleanup fails only if it was asked to be
strict, showing values never does, and renderings and waits fail alike. -/

namespace ScalingTrials.CommandLine

open Descriptor (load)
open Preparation (BrokenOff)
open ScalingTrials.Task (answers)

/-! ### Parts of the world -/

section

variable {σ : Type} (reply : σ → (q : Ask) → q.Answer × σ)

/-- The cloud, as a part of what answers a command. -/
def cloudOf : σ → (q : Cloud.Ask) → Except Cloud.Error q.Result × σ := fun s q => reply s (.cloud q)

/-- The site, as a part of what answers a command. -/
def siteOf : σ → (q : Site.Ask) → q.Answer × σ := fun s q => reply s (.site q)

end

def cloudEvent : Event Cloud.calls → Event calls
  | .slept span => .slept span
  | .asked q answer => .asked (.cloud q) answer

def siteEvent : Event Site.calls → Event calls
  | .slept span => .slept span
  | .asked q answer => .asked (.site q) answer

/-- What a command did except for asking at the site. -/
def cloudPart (es : List (Event calls)) : List (Event Cloud.calls) :=
  es.filterMap fun
    | .slept span => some (.slept span)
    | .asked (.cloud q) answer => some (.asked q answer)
    | .asked (.site _) _ => none

theorem cloudPart_map (es : List (Event Cloud.calls)) : cloudPart (es.map cloudEvent) = es := by
  induction es with
  | nil => rfl
  | cons event es ih => cases event <;> exact congrArg (_ :: ·) ih

theorem elapsed_map_siteEvent (es : List (Event Site.calls)) :
    Event.elapsed (es.map siteEvent) = Event.elapsed es := by
  induction es with
  | nil => rfl
  | cons event es ih => cases event <;> simp [siteEvent, Event.elapsed, ih]

variable {σ : Type} (reply : σ → (q : Ask) → q.Answer × σ) (s : σ)

theorem play_onCloud {α : Type} (t : Task Cloud.calls α) :
    (onCloud t).play (I := calls) reply s =
      let p := t.play (I := Cloud.calls) (cloudOf reply) s
      ⟨p.result, p.events.map cloudEvent, p.state⟩ :=
  Task.play_via (fun _ => rfl) (fun _ _ => rfl) t s

theorem play_onSite {α : Type} (t : Site.Work α) :
    (onSite t).play (I := calls) reply s =
      let p := t.play (I := Site.calls) (siteOf reply) s
      ⟨p.result, p.events.map siteEvent, p.state⟩ :=
  Task.play_via (fun _ => rfl) (fun _ _ => rfl) t s

/-! ### Preparing -/

variable {fs : Files} {dir : String} {p : Task.Played calls σ (Outcome × Files)}

/-- The name of the template that is prepared. -/
def templateName (given : Option String) : String := given.getD "ack-test-asg-launch-template"

/-- A preparation fails with its own status exactly if it broke off, and succeeds only with a record
that can be read. -/
structure TellsPrepared (given : Option String) (fs : Files) (dir : String)
    (p : Task.Played calls σ (Outcome × Files)) : Prop where
  failed_iff : p.result.1.status = 254 ↔
    BrokenOff (templateName given) dir fs (cloudPart p.events)
  done_iff : p.result.1.status = 0 ↔ ¬BrokenOff (templateName given) dir fs (cloudPart p.events)
  recorded : p.result.1.status = 0 → ∃ d, load p.result.2 dir = .ok d

theorem play_runBootstrap (given : Option String) (fs : Files) (dir : String) :
    let prepared := (Preparation.prepareIn (templateName given) fs dir).play (I := Cloud.calls)
      (cloudOf reply) s
    let p := (runBootstrap given fs dir).play (I := calls) reply s
    cloudPart p.events = prepared.events ∧ p.result.2 = prepared.result.2 ∧
      (p.result.1.status = 254 ↔ ∃ e, prepared.result.1 = .error e) ∧
      (p.result.1.status = 0 ↔ ¬∃ e, prepared.result.1 = .error e) := by
  have hname : given.getD Preparation.defaultTemplateName = templateName given := rfl
  rw [runBootstrap, hname, Task.play_bind, play_onCloud]
  generalize (Preparation.prepareIn (templateName given) fs dir).play (I := Cloud.calls)
    (cloudOf reply) s = prepared
  obtain ⟨⟨e | path, after⟩, es, s'⟩ := prepared
  · simp [Task.play, cloudPart_map, failure, preparationStatus]
  · simp [Task.play, cloudPart_map, success]

theorem tellsPrepared (given : Option String) (fs : Files) (dir : String) :
    TellsPrepared given fs dir ((runBootstrap given fs dir).play (I := calls) reply s) := by
  obtain ⟨hevents, hfiles, hfailed, hdone⟩ := play_runBootstrap reply s given fs dir
  have hway := Preparation.way_of_play (templateName given) dir fs (cloudOf reply) s
  refine ⟨?_, ?_, fun hstatus => ?_⟩
  · rw [hevents, hfailed, hway.error_iff]
  · rw [hevents, hdone, hway.error_iff]
  · rw [hfiles]
    exact hway.load (hdone.mp hstatus)

/-! ### Cleaning up -/

/-- The lines of a cleanup, one for each step. -/
def stepLines (r : Cleanup.Report) : List String :=
  ["load descriptor: " ++ r.descriptor.text, "delete launch template: " ++ r.template.text,
    "remove descriptor record: " ++ r.record.text]

/-- A line with the word in it, wherever that stands. -/
def SaysFailed (line : String) : Prop := "failed".toList <:+: line.toList

theorem not_saysFailed {line : String} (h : 'f' ∉ line.toList) : ¬SaysFailed line := by
  intro hfailed
  exact h (hfailed.subset (by decide))

/-- No other outcome has a letter that the word begins with. -/
theorem saysFailed_iff (step : String) (hstep : 'f' ∉ step.toList) (outcome : Cleanup.Outcome) :
    SaysFailed (step ++ outcome.text) ↔ outcome.isFailed = true := by
  cases outcome with
  | done =>
      refine iff_of_false (not_saysFailed ?_) Bool.false_ne_true
      simp [Cleanup.Outcome.text, hstep]
  | skipped =>
      refine iff_of_false (not_saysFailed ?_) Bool.false_ne_true
      simp [Cleanup.Outcome.text, hstep]
  | failed cause =>
      refine iff_of_true ⟨step.toList, ": ".toList ++ cause.message.toList, ?_⟩ rfl
      simp [Cleanup.Outcome.text]

theorem reportText_eq (r : Cleanup.Report) :
    reportText r = String.join ((stepLines r).map (· ++ "\n")) := by
  apply String.toList_injective
  simp [reportText, Cleanup.Report.steps, stepLines]

theorem hasFailures_iff (r : Cleanup.Report) :
    r.hasFailures = true ↔ ∃ line ∈ stepLines r, SaysFailed line := by
  have hload := saysFailed_iff "load descriptor: " (by decide) r.descriptor
  have hdelete := saysFailed_iff "delete launch template: " (by decide) r.template
  have hremove := saysFailed_iff "remove descriptor record: " (by decide) r.record
  simp [stepLines, hload, hdelete, hremove, Cleanup.Report.hasFailures, Cleanup.Report.steps]

/-- A cleanup tells of each step in a line of its own. It fails exactly if it is strict and one of
the lines says that a step failed. -/
structure TellsCleaned (strict : Bool) (fs : Files) (dir : String) (report : Cleanup.Report)
    (p : Task.Played calls σ (Outcome × Files)) : Prop where
  way : Cleanup.Way fs dir (cloudPart p.events) report p.result.2
  output_eq : p.result.1.output = String.join ((stepLines report).map (· ++ "\n"))
  failed_iff : p.result.1.status = 1 ↔ strict = true ∧ ∃ line ∈ stepLines report, SaysFailed line
  done_iff : p.result.1.status = 0 ↔ ¬(strict = true ∧ ∃ line ∈ stepLines report, SaysFailed line)
  lenient : strict = false → p.result.1.status = 0

theorem tellsCleaned (strict : Bool) : ∃ report,
    TellsCleaned strict fs dir report ((runCleanup strict fs dir).play (I := calls) reply s) := by
  have hway := Cleanup.way_of_play fs dir (cloudOf reply) s
  rw [runCleanup, Task.play_bind, play_onCloud]
  generalize (Cleanup.cleanup fs dir).play (I := Cloud.calls) (cloudOf reply) s = cleaned
    at hway ⊢
  obtain ⟨⟨report, after⟩, es, s'⟩ := cleaned
  refine ⟨report, ?_⟩
  by_cases hfails : strict = true ∧ ∃ line ∈ stepLines report, SaysFailed line
  · have hif : strict = true ∧ report.hasFailures = true := by rwa [hasFailures_iff]
    constructor <;>
      simp [Task.play, cloudPart_map, hway, hif, hfails, failure, failureStatus, reportText_eq]
  · have hif : ¬(strict = true ∧ report.hasFailures = true) := by rwa [hasFailures_iff]
    constructor <;>
      simp [Task.play, cloudPart_map, hway, hif, hfails, success, reportText_eq]

/-! ### Rendering -/

theorem status_told_iff (template : String) (rendered : Except Manifest.Failure Json) :
    ((told template rendered).status = 0 ↔ ∃ body, rendered = .ok body) ∧
      ((told template rendered).status = 1 ↔ ¬∃ body, rendered = .ok body) := by
  cases rendered <;> simp [told, success, failure, failureStatus]

/-! ### Waiting -/

variable {group : Handle} {condition : Condition}

/-- A connector leads to the cluster: by the file that was named, or else by what it infers. -/
inductive Connected (connector : Connector) (fs : Files) (env : Environment) :
    Option String → Prop where
  | byFile {path : String} : connector.configure fs env path = .ok () →
      connector.connect fs env path = .ok () → Connected connector fs env (some path)
  | inferred : connector.infer fs env = .ok () → Connected connector fs env none

theorem connected_some_iff {connector : Connector} {fs : Files} {env : Environment}
    {path : String} : Connected connector fs env (some path) ↔
      connector.configure fs env path = .ok () ∧ connector.connect fs env path = .ok () :=
  ⟨fun | .byFile hconfigure hconnect => ⟨hconfigure, hconnect⟩,
    fun ⟨hconfigure, hconnect⟩ => .byFile hconfigure hconnect⟩

theorem connected_none_iff {connector : Connector} {fs : Files} {env : Environment} :
    Connected connector fs env none ↔ connector.infer fs env = .ok () :=
  ⟨fun | .inferred hinfer => hinfer, .inferred⟩

theorem checkAccess_eq_ok_iff {connector : Connector} {kubeconfig : Option String} {fs : Files}
    {env : Environment} :
    checkAccess connector kubeconfig fs env = .ok () ↔ Connected connector fs env kubeconfig := by
  cases kubeconfig with
  | none =>
      rw [connected_none_iff, checkAccess]
      cases connector.infer fs env <;> simp
  | some path =>
      rw [connected_some_iff, checkAccess]
      cases connector.configure fs env path with
      | error r => simp
      | ok _ => cases connector.connect fs env path <;> simp

/-- A wait succeeds exactly if it is connected to the cluster and one of the readings that it may
make reports the condition, which is then among those that it made. It never sleeps for longer than
the intervals between these readings. -/
structure TellsWaited (group : Handle) (condition : Condition) (connected : Prop)
    (reply : σ → (q : Ask) → q.Answer × σ) (s : σ)
    (p : Task.Played calls σ (Outcome × Files)) : Prop where
  done_iff : p.result.1.status = 0 ↔ connected ∧ ∃ i < condition.poller.attempts,
    Site.Reports condition (answers (I := Site.calls) (siteOf reply) (.get group) s i)
  failed_iff : p.result.1.status = 1 ↔ p.result.1.status ≠ 0
  seen_iff : p.result.1.status = 0 ↔
    ∃ answer, .asked (.site (.get group)) answer ∈ p.events ∧ Site.Reports condition answer
  in_budget : Event.elapsed p.events ≤
    (condition.poller.attempts - 1) * condition.poller.interval.toNanos

theorem play_runWait (group : Handle) (condition : Condition) :
    (runWait group condition).play (I := calls) reply s =
      let p := (Site.await group condition).play (I := Site.calls) (siteOf reply) s
      ⟨if p.result then
          success (group.display ++ ": " ++ condition.kind ++ "=" ++ condition.status ++ "\n")
        else failure failureStatus ""
          ["Condition '" ++ condition.kind ++ "' of " ++ group.display ++ " did not become '" ++
            condition.status ++ "'"],
        p.events.map siteEvent, p.state⟩ := by
  rw [runWait, Task.play_map, play_onSite]

/-- A wait that was made holds exactly if it has read that the condition is reported. -/
theorem seen_iff_of_await {es : List (Event Site.calls)} {held : Bool}
    (hc : (Site.await group condition).Course es held) :
    held = true ↔ ∃ answer, .asked (.site (.get group)) answer ∈ es.map siteEvent ∧
      Site.Reports condition answer := by
  rcases Site.course_await hc with ⟨rfl, resource, tries, rfl, -, hshows⟩ | ⟨rfl, hreads⟩
  · refine iff_of_true rfl ⟨.ok resource, ?_, Site.reports_iff_shows.mpr hshows⟩
    rw [List.map_append]
    exact List.mem_append_right _ (List.mem_singleton_self _)
  · refine iff_of_false Bool.false_ne_true ?_
    rintro ⟨answer, hmem, hreports⟩
    obtain ⟨event, hevent, heq⟩ := List.mem_map.mp hmem
    rcases hreads event hevent with ⟨span, rfl⟩ | ⟨answer', rfl, hmissed⟩
    · cases heq
    · cases heq
      exact hmissed (Site.reports_iff_shows.mp hreports)

theorem tellsWaited (fs : Files) (group : Handle) (condition : Condition) {connected : Prop}
    (hconnected : connected) : TellsWaited group condition connected reply s
      (((runWait group condition).bind fun outcome => .done (outcome, fs)).play (I := calls) reply
        s) := by
  have hseen := seen_iff_of_await
    (Task.play_course (siteOf reply) (Site.await group condition) s)
  have hwait := Poller.play_await_look (I := Site.calls) (siteOf reply) (.get group)
    condition.poller s (Site.reportedIn condition)
  rw [← Site.await_eq] at hwait
  obtain ⟨k, hfirst, hheld, hevents⟩ := hwait
  simp only [Site.reportedIn_iff, ← Site.reports_iff_shows] at hheld
  have hslept : Event.elapsed ((Site.await group condition).play (I := Site.calls) (siteOf reply)
      s).events ≤ (condition.poller.attempts - 1) * condition.poller.interval.toNanos := by
    rw [hevents, Poller.elapsed_spaced_asks]
    exact Nat.mul_le_mul_right _ (Nat.sub_le_sub_right hfirst.le 1)
  rw [Task.play_map, play_runWait]
  generalize (Site.await group condition).play (I := Site.calls) (siteOf reply) s = waited
    at hseen hheld hslept ⊢
  obtain ⟨held, es, s'⟩ := waited
  rw [← elapsed_map_siteEvent] at hslept
  cases held with
  | true =>
      have hdone := hheld.mp rfl
      exact ⟨iff_of_true rfl ⟨hconnected, hdone⟩, by simp [success], iff_of_true rfl (hseen.mp rfl),
        hslept⟩
  | false =>
      have hmissed := mt hheld.mpr Bool.false_ne_true
      have hunseen := mt hseen.mpr Bool.false_ne_true
      exact ⟨iff_of_false Nat.one_ne_zero fun h => hmissed h.2, by simp [failure, failureStatus],
        iff_of_false Nat.one_ne_zero hunseen, hslept⟩

/-- Without a connection nothing is read. -/
theorem tellsWaited_of_not_connected (fs : Files) (group : Handle) (condition : Condition)
    {connected : Prop} (hconnected : ¬connected) (chain : List String) :
    TellsWaited group condition connected reply s
      ((Task.done (failure failureStatus "" chain, fs)).play (I := calls) reply s) where
  done_iff := iff_of_false Nat.one_ne_zero fun h => hconnected h.1
  failed_iff := by simp [Task.play, failure, failureStatus]
  seen_iff := iff_of_false Nat.one_ne_zero fun ⟨_, hmem, _⟩ => nomatch hmem
  in_budget := Nat.zero_le _

/-! ### Every command -/

/-- What the status of a command tells. -/
def StatusTells (connector : Connector) (o : Options) (env : Environment) (fs : Files)
    (draws : Nat → Naming.Draw) (reply : σ → (q : Ask) → q.Answer × σ) (s : σ)
    (p : Task.Played calls σ (Outcome × Files)) : Command → Prop
  | .bootstrap given => TellsPrepared given fs o.recordDir p
  | .cleanup strict => ∃ report, TellsCleaned strict fs o.recordDir report p
  | .replacements _ => p.result.1.status = 0
  | .render template manifests given values =>
    let rendered := (manifestOf template (Replacements.resolve fs o.recordDir).values
      (given.getD (freshName draws)) values).render fs manifests
    (p.result.1.status = 0 ↔ ∃ body, rendered = .ok body) ∧
      (p.result.1.status = 1 ↔ ¬∃ body, rendered = .ok body)
  | .wait name scope kind status attempts seconds =>
    TellsWaited ((Handle.ofScalingGroup name).within scope)
      ⟨kind, status, ⟨attempts, .ofSeconds (UInt64.ofNat seconds)⟩⟩
      (Connected connector fs env o.kubeconfig) reply s p

variable {connector : Connector}

theorem statusTells_run (connector : Connector) (o : Options) (c : Command) (env : Environment)
    (fs : Files) (draws : Nat → Naming.Draw) :
    StatusTells connector o env fs draws reply s
      ((run connector o c env fs draws).play (I := calls) reply s) c := by
  cases c with
  | bootstrap given => exact tellsPrepared reply s given fs o.recordDir
  | cleanup strict => exact tellsCleaned reply s strict
  | replacements asJson => rfl
  | render template manifests given values =>
      simp only [StatusTells, run, Task.play, runRender_eq]
      exact status_told_iff template _
  | wait name scope kind status attempts seconds =>
      simp only [StatusTells, run]
      cases haccess : checkAccess connector o.kubeconfig fs env with
      | error chain =>
          have hunconnected : ¬Connected connector fs env o.kubeconfig := by
            simp [← checkAccess_eq_ok_iff, haccess]
          exact tellsWaited_of_not_connected reply s fs _ _ hunconnected chain
      | ok _ => exact tellsWaited reply s fs _ _ (checkAccess_eq_ok_iff.mp haccess)

/-- Only a preparation can have another status than these. -/
theorem StatusTells.zero_or_one {o : Options} {c : Command} {env : Environment}
    {draws : Nat → Naming.Draw} {reply : σ → (q : Ask) → q.Answer × σ} {s : σ}
    (h : StatusTells connector o env fs draws reply s p c) (hc : ∀ given, c ≠ .bootstrap given) :
    p.result.1.status = 0 ∨ p.result.1.status = 1 := by
  cases c with
  | bootstrap given => exact absurd rfl (hc given)
  | cleanup strict =>
      obtain ⟨report, htells⟩ := h
      rw [htells.done_iff, htells.failed_iff]
      exact (em _).symm
  | replacements asJson => exact .inl h
  | render template manifests given values =>
      obtain ⟨hdone, hfailed⟩ := h
      rw [hdone, hfailed]
      exact em _
  | wait name scope kind status attempts seconds =>
      rw [h.failed_iff]
      exact em _

theorem execute_of_read {arguments : List String} {env : Environment} {o : Options} {c : Command}
    {draws : Nat → Naming.Draw} (h : read arguments env = .ok (o, c)) :
    execute arguments env fs draws connector = run connector o c env fs draws := by
  rw [execute, h]

/-- Every command that can be asked for ends with a status, and the status tells whether it failed
and whether a preparation did, whatever it takes to be connected to a cluster. -/
theorem status_tells_failures (connector : Connector) (fs : Files) (draws : Nat → Naming.Draw)
    {arguments : List String} {env : Environment} {o : Options} {c : Command}
    (h : read arguments env = .ok (o, c)) :
    let p := (execute arguments env fs draws connector).play (I := calls) reply s
    (p.result.1.status = 254 ↔ ∃ given, c = .bootstrap given ∧
      BrokenOff (templateName given) o.recordDir fs (cloudPart p.events)) ∧
    StatusTells connector o env fs draws reply s p c := by
  intro p
  have htells : StatusTells connector o env fs draws reply s p c := by
    rw [show p = (run connector o c env fs draws).play (I := calls) reply s by
      rw [← execute_of_read h]]
    exact statusTells_run reply s connector o c env fs draws
  refine ⟨?_, htells⟩
  constructor
  · intro hstatus
    by_cases hc : ∃ given, c = .bootstrap given
    · obtain ⟨given, rfl⟩ := hc
      exact ⟨given, rfl, htells.failed_iff.mp hstatus⟩
    · have hother := htells.zero_or_one fun given heq => hc ⟨given, heq⟩
      omega
  · rintro ⟨given, rfl, hbroken⟩
    exact htells.failed_iff.mpr hbroken

/-- A directory in which a record can neither be written nor read. -/
def blocked : Files :=
  { here := [], node? := fun l => if l = ["bootstrap.yaml"] then some .directory else none }

/-- A resource that reports one condition. -/
def reporting (kind status : String) : Json :=
  let condition : Json := .obj [("type", .str kind), ("status", .str status)]
  .obj [("status", .obj [("conditions", .arr [condition])])]

theorem reportedBy_reporting (c : Condition) : c.ReportedBy (reporting c.kind c.status) :=
  ⟨_, [], _, [], rfl, rfl, by simp, rfl, rfl⟩

/-- A cloud that never fails, and a cluster in which every resource is in sync. -/
def answering (_ : Unit) : (q : Ask) → q.Answer × Unit
  | .cloud q => Custody.oblige () q
  | .site (.create _ _) => (.error (.notFound "it"), ())
  | .site (.get _) => (.ok (reporting "ACK.ResourceSynced" "True"), ())
  | .site (.patch _ _) => (.error (.notFound "it"), ())
  | .site (.delete _) => (.error (.notFound "it"), ())
  | .site (.describe _) => (.ok [], ())

/-- A connector that always finds a cluster. -/
def Connector.obliging : Connector :=
  ⟨fun _ _ _ => .ok (), fun _ _ _ => .ok (), fun _ _ => .ok ()⟩

theorem save_in_blocked (d : Descriptor) :
    (d.save blocked ".").1 = .error (.unwritable "./bootstrap.yaml" .isDirectory) := by
  have hroute : blocked.route "." = .ok ⟨[], ["."], false⟩ := rfl
  have hmake : blocked.makeAt [] ["."] = .error .occupied := rfl
  have hdir : blocked.isDirectoryAt [] ["."] = true := rfl
  have hall : blocked.makeAll "." = (.ok (), blocked) := by
    rw [Files.makeAll, if_neg (by decide), hroute]
    simp [Files.makeAllAt, hmake, hdir]
  have hpath : Descriptor.recordIn "." = "./bootstrap.yaml" := rfl
  have hlocate : blocked.locate "./bootstrap.yaml" = .ok ["bootstrap.yaml"] := rfl
  have hnode : blocked.at? ["bootstrap.yaml"] = some .directory := rfl
  simp only [Descriptor.save, hall, hpath, Files.writeText, Files.write, hlocate, hnode]

/-- All calls went well, but what was found cannot be recorded. -/
theorem brokenOff_blocked : BrokenOff "ack-test-asg-launch-template" "." blocked
    ((Preparation.prepare "ack-test-asg-launch-template").play (I := Cloud.calls)
      (cloudOf answering) ()).events := by
  have hfound : Preparation.Found [⟨"subnet-a", some "us-west-2a"⟩] ⟨"ami-1", none⟩
      [.asked .defaultNetworks (.ok ["vpc-1"]),
        .asked (.subnets "vpc-1") (.ok [⟨"subnet-a", some "us-west-2a"⟩]),
        .asked (.images "amazon" "al2023-ami-2023.*-x86_64") (.ok [⟨"ami-1", none⟩])] :=
    .intro (List.cons_ne_nil _ _) (.here rfl)
  exact .record rfl hfound (.made "lt-1") (save_in_blocked _)

/-- A preparation may fail as late as at its record, and a cleanup as late as there too, but only if
it is strict. A wait may fail because nothing leads to the cluster. -/
theorem status_tells_failures_blocked :
    let status := fun connector files arguments =>
      ((execute arguments [] files (fun _ => 0) connector).play (I := calls)
        answering ()).result.1.status
    status .byFiles blocked ["bootstrap"] = 254 ∧
      status .byFiles Cleanup.mounted ["cleanup"] = 0 ∧
      status .byFiles Cleanup.mounted ["cleanup", "--strict"] = 1 ∧
      status .byFiles blocked ["wait", "group"] = 1 ∧
      status .obliging blocked ["wait", "group"] = 0 := by
  intro status
  have hread : read ["bootstrap"] [] = .ok (⟨none, ".", none⟩, .bootstrap none) := rfl
  have hreadLenient : read ["cleanup"] [] = .ok (⟨none, ".", none⟩, .cleanup false) := rfl
  have hreadStrict : read ["cleanup", "--strict"] [] =
      .ok (⟨none, ".", none⟩, .cleanup true) := rfl
  have hreadWait : read ["wait", "group"] [] =
      .ok (⟨none, ".", none⟩, .wait "group" "default" "ACK.ResourceSynced" "True" 3 10) := rfl
  obtain ⟨hprepared, -⟩ :=
    status_tells_failures answering () .byFiles blocked (fun _ => 0) hread
  obtain ⟨-, _, hlenient⟩ :=
    status_tells_failures answering () .byFiles Cleanup.mounted (fun _ => 0) hreadLenient
  obtain ⟨-, report, hstrict⟩ :=
    status_tells_failures answering () .byFiles Cleanup.mounted (fun _ => 0) hreadStrict
  obtain ⟨-, hstranded⟩ :=
    status_tells_failures answering () .byFiles blocked (fun _ => 0) hreadWait
  obtain ⟨-, hwaited⟩ :=
    status_tells_failures answering () .obliging blocked (fun _ => 0) hreadWait
  refine ⟨hprepared.mpr ⟨none, rfl, ?_⟩, hlenient.lenient rfl, hstrict.failed_iff.mpr ⟨rfl, ?_⟩,
    hstranded.failed_iff.mpr fun hdone => ?_, hwaited.done_iff.mpr ⟨.inferred rfl, 0, ?_, ?_⟩⟩
  · obtain ⟨hevents, -⟩ := play_runBootstrap answering () none blocked "."
    rw [execute_of_read hread, run, hevents, Preparation.events_prepareIn]
    exact brokenOff_blocked
  · have hnamed : Descriptor.awkward.templateId ≠ "" := by decide
    rw [← hasFailures_iff]
    rcases hstrict.way.of_named Cleanup.load_mounted hnamed with
      ⟨answer, cleared, -, hcleared, -, hreport⟩ | ⟨e, -, -, hreport, -⟩
    · have hlocate : Cleanup.mounted.locate (Descriptor.recordIn ".") =
          .ok ["bootstrap.yaml"] := rfl
      obtain ⟨cause, rfl⟩ := hcleared.failed_iff.mpr ⟨_, .readOnly, hlocate, rfl⟩
      simp [hreport, Cleanup.Report.hasFailures, Cleanup.Report.steps, Cleanup.Outcome.isFailed]
    · simp [hreport, Cleanup.keptReport, Cleanup.Report.hasFailures, Cleanup.Report.steps,
        Cleanup.Outcome.isFailed]
  · obtain ⟨hconnected, -⟩ := hstranded.done_iff.mp hdone
    have hnowhere : Connector.byFiles.infer blocked [] = .error ⟨"no usable file", []⟩ := rfl
    rw [connected_none_iff, hnowhere] at hconnected
    cases hconnected
  · exact Nat.zero_lt_succ 2
  · exact ⟨_, rfl, reportedBy_reporting _⟩

end ScalingTrials.CommandLine
