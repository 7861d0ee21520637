import ScalingTrials.Proofs.Preparation
import ScalingTrials.Proofs.Record

/-! # Where preparing breaks off

Preparing fails exactly if the last call failed or brought nothing, or if what the calls brought
could not be recorded. Where it does not fail there is a record. -/

namespace ScalingTrials.Preparation

open Cloud (calls)

variable {name dir : String} {fs fs' : Files} {e : Failure} {es first second : List (Event calls)}

/-- An answer with which preparing cannot go on: the call failed or brought nothing. -/
inductive Vain : (q : Cloud.Ask) → Except Cloud.Error q.Result → Prop where
  | failed (q : Cloud.Ask) (e : Cloud.Error) : Vain q (.error e)
  | noNetwork : Vain .defaultNetworks (.ok [])
  | noSubnet (network : String) : Vain (.subnets network) (.ok [])
  | noImage (owner pattern : String) : Vain (.images owner pattern) (.ok [])
  | noTemplate (name : String) : Vain (.templateId name) (.ok none)

/-- The last answer was one with which preparing cannot go on. -/
def EndsInVain (es : List (Event calls)) : Prop :=
  ∃ q answer, es.getLast? = some (.asked q answer) ∧ Vain q answer

/-- Preparing broke off: at a call, or because what it had found could not be recorded. -/
inductive BrokenOff (name dir : String) (fs : Files) (es : List (Event calls)) : Prop where
  | call : EndsInVain es → BrokenOff name dir fs es
  | record {subnets : List Cloud.Subnet} {image : Cloud.Image} {id : String}
      {first second : List (Event calls)} {cause : Descriptor.RecordError} :
      es = first ++ second → Found subnets image first → Supplied name image.id (.ok id) second →
      ((descriptorOf name id subnets).save fs dir).1 = .error cause → BrokenOff name dir fs es

theorem EndsInVain.append (h : EndsInVain es) (first : List (Event calls)) :
    EndsInVain (first ++ es) := by
  obtain ⟨q, answer, hlast, hvain⟩ := h
  exact ⟨q, answer, by rw [List.getLast?_append, hlast, Option.some_or], hvain⟩

theorem endsInVain_singleton {q : Cloud.Ask} {answer : Except Cloud.Error q.Result}
    (h : Vain q answer) : EndsInVain [.asked q answer] := ⟨q, answer, rfl, h⟩

theorem ImageMissed.endsInVain {patterns : List String} (h : ImageMissed patterns e es)
    (hpatterns : patterns ≠ []) : EndsInVain es := by
  induction h with
  | failed cause => exact endsInVain_singleton (.failed _ cause)
  | none => exact absurd rfl hpatterns
  | @later pattern rest _ _ hrest ih =>
      cases rest with
      | nil =>
          cases hrest
          exact endsInVain_singleton (.noImage imageOwner pattern)
      | cons next rest => exact (ih (List.cons_ne_nil next rest)).append [_]

theorem Missed.endsInVain (h : Missed e es) : EndsInVain es := by
  cases h with
  | networks cause => exact endsInVain_singleton (.failed _ cause)
  | noNetwork => exact endsInVain_singleton .noNetwork
  | subnets _ _ cause => exact (endsInVain_singleton (.failed _ cause)).append [_]
  | noSubnets network _ => exact (endsInVain_singleton (.noSubnet network)).append [_]
  | image _ himage => exact (himage.endsInVain (List.cons_ne_nil _ _)).append [_, _]

theorem Supplied.endsInVain {image : String} (h : Supplied name image (.error e) es) :
    EndsInVain es := by
  cases h with
  | refused _ => exact endsInVain_singleton (.failed _ _)
  | notAdopted cause _ => exact (endsInVain_singleton (.failed _ cause)).append [_]
  | missing _ => exact (endsInVain_singleton (.noTemplate name)).append [_]

/-! ### Telling it from the calls -/

/-- An answer that gives the id of a template. -/
inductive Gives (id : String) : (q : Cloud.Ask) → Except Cloud.Error q.Result → Prop where
  | made (request : Cloud.TemplateRequest) : Gives id (.createTemplate request) (.ok id)
  | adopted (name : String) : Gives id (.templateId name) (.ok (some id))

theorem Gives.unique {id id' : String} {q : Cloud.Ask} {answer : Except Cloud.Error q.Result}
    (h : Gives id q answer) (h' : Gives id' q answer) : id = id' := by
  cases h <;> cases h' <;> rfl

theorem Gives.not_vain {id : String} {q : Cloud.Ask} {answer : Except Cloud.Error q.Result}
    (h : Gives id q answer) : ¬Vain q answer := by
  intro hvain
  cases h <;> cases hvain

/-- A template that was come by was given by the last answer. -/
theorem Supplied.getLast? {image id : String} (h : Supplied name image (.ok id) second)
    (first : List (Event calls)) :
    ∃ q answer, (first ++ second).getLast? = some (.asked q answer) ∧ Gives id q answer := by
  cases h with
  | made =>
      refine ⟨_, _, ?_, .made (.make name image instanceName)⟩
      rw [List.getLast?_append]
      rfl
  | adopted _ _ =>
      refine ⟨_, _, ?_, .adopted name⟩
      rw [List.getLast?_append]
      rfl

theorem not_endsInVain {image id : String} (h : Supplied name image (.ok id) second)
    (first : List (Event calls)) : ¬EndsInVain (first ++ second) := by
  obtain ⟨q, answer, hlast, hgives⟩ := h.getLast? first
  rintro ⟨q', answer', hlast', hvain⟩
  rw [hlast] at hlast'
  cases hlast'
  exact hgives.not_vain hvain

/-- What was found and come by can be told from the calls. -/
theorem descriptorOf_unique {subnets subnets' : List Cloud.Subnet} {image image' : Cloud.Image}
    {id id' : String} {first' second' : List (Event calls)} (hfound : Found subnets image first)
    (hsupplied : Supplied name image.id (.ok id) second) (hfound' : Found subnets' image' first')
    (hsupplied' : Supplied name image'.id (.ok id') second')
    (heq : first ++ second = first' ++ second') :
    descriptorOf name id subnets = descriptorOf name id' subnets' := by
  obtain ⟨q, answer, hlast, hgives⟩ := hsupplied.getLast? first
  obtain ⟨q', answer', hlast', hgives'⟩ := hsupplied'.getLast? first'
  rw [heq, hlast'] at hlast
  cases hlast
  obtain rfl := hgives.unique hgives'
  cases hfound with
  | intro _ _ =>
      cases hfound' with
      | intro _ _ =>
          injection heq with _ heq
          injection heq with heq _
          cases heq
          rfl

/-- Preparing fails exactly if it broke off. -/
theorem Way.error_iff {result : Except Failure String} (h : Way name dir fs es result fs') :
    (∃ e, result = .error e) ↔ BrokenOff name dir fs es := by
  cases h with
  | missed hmissed => exact iff_of_true ⟨_, rfl⟩ (.call hmissed.endsInVain)
  | unsupplied _ hsupplied =>
      exact iff_of_true ⟨_, rfl⟩ (.call (hsupplied.endsInVain.append _))
  | unsaved hfound hsupplied hsave =>
      exact iff_of_true ⟨_, rfl⟩ (.record rfl hfound hsupplied (by rw [hsave]))
  | saved hfound hsupplied hsave =>
      refine iff_of_false (fun ⟨_, herror⟩ => nomatch herror) ?_
      rintro (hvain | ⟨heq, hfound', hsupplied', hsave'⟩)
      · exact not_endsInVain hsupplied _ hvain
      · rw [descriptorOf_unique hfound hsupplied hfound' hsupplied' heq] at hsave
        rw [hsave] at hsave'
        cases hsave'

/-- Preparing that does not fail leaves a record that can be read. -/
theorem Way.load {result : Except Failure String} (h : Way name dir fs es result fs')
    (hdone : ¬∃ e, result = .error e) : ∃ d, Descriptor.load fs' dir = .ok d := by
  cases h with
  | missed | unsupplied | unsaved => exact absurd ⟨_, rfl⟩ hdone
  | @saved subnets _ id _ _ _ _ _ _ hsave =>
      have hload : Descriptor.load ((descriptorOf name id subnets).save fs dir).2 dir =
          .ok (descriptorOf name id subnets) := Descriptor.load_of_save (by rw [hsave])
      rw [hsave] at hload
      exact ⟨_, hload⟩

end ScalingTrials.Preparation
