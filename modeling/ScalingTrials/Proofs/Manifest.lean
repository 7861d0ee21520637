import ScalingTrials.Manifest
import ScalingTrials.Proofs.Files
import ScalingTrials.Proofs.Placeholder
import ScalingTrials.Proofs.Yaml.Members

/-! # From a template to a body

A template that is written as a mapping is filled value by value: the keys and the nesting
stay, whatever is filled in. -/

namespace ScalingTrials.Manifest

open Yaml (Line Mapping Written outlineText)

/-! ### Filling a mapping -/

/-- Whether a value stands between its quotes as it is. -/
def Verbatim : Written → Prop
  | .plain _ => True
  | .quoted escaped _ => escaped = fun c => [c]

/-- Only the values of a mapping ask for values, and none is escaped. -/
def Fillable : Mapping → Prop
  | .nil => True
  | .value key w rest => '$' ∉ key.toList ∧ Verbatim w ∧ Fillable rest
  | .mapping key inner rest => '$' ∉ key.toList ∧ Fillable inner ∧ Fillable rest

def fillWritten (values : Dictionary) : Written → Written
  | .plain v => .plain (fill values v)
  | .quoted escaped v => .quoted escaped (fill values v)

/-- A mapping with its values filled. -/
def fillMapping (values : Dictionary) : Mapping → Mapping
  | .nil => .nil
  | .value key w rest => .value key (fillWritten values w) (fillMapping values rest)
  | .mapping key inner rest => .mapping key (fillMapping values inner) (fillMapping values rest)

theorem fillText_written (values : Dictionary) {w : Written} (hw : Verbatim w)
    (rest : List Char) :
    fillText values (w.text ++ '\n' :: rest) =
      (fillWritten values w).text ++ '\n' :: fillText values rest := by
  have hend : fillText values ('\n' :: rest) = '\n' :: fillText values rest :=
    fillText_append_of_notMem values (show '$' ∉ ['\n'] by decide) rest
  cases w with
  | plain v =>
      rw [Written.text, fillText_append_cons values (by decide), hend, fillWritten, Written.text,
        toList_fill]
  | quoted escaped v =>
      obtain rfl : escaped = fun c => [c] := hw
      have hmark : '$' ∉ ['"'] := by decide
      have hopen := fillText_append_of_notMem values hmark (v.toList ++ '"' :: '\n' :: rest)
      have hclose := fillText_append_of_notMem values hmark ('\n' :: rest)
      have hvalue := fillText_append_cons values (show isNameChar '"' = false by decide) v.toList
        ('\n' :: rest)
      simp only [List.singleton_append] at hopen hclose
      rw [hvalue, hclose, hend] at hopen
      simpa [Written.text, Yaml.Scanner.quotedText, fillWritten, toList_fill] using hopen

theorem outlineText_append (ls ls' : List Line) :
    outlineText (ls ++ ls') = outlineText ls ++ outlineText ls' := by
  induction ls with
  | nil => rfl
  | cons l ls ih => simp [outlineText, ih]

theorem dollar_notMem_start (k : Nat) {key : String} (hkey : '$' ∉ key.toList) {between : List Char}
    (hbetween : '$' ∉ between) : '$' ∉ List.replicate k ' ' ++ (key.toList ++ between) := by
  simp [hkey, hbetween, List.mem_replicate]

/-- The keys and the nesting of a template stay when it is filled. -/
theorem fillText_lines (values : Dictionary) {m : Mapping} (hm : Fillable m) (k : Nat)
    (rest : List Char) :
    fillText values (outlineText (m.lines k) ++ rest) =
      outlineText ((fillMapping values m).lines k) ++ fillText values rest := by
  induction m generalizing k rest with
  | nil => rfl
  | value key w next ih =>
      obtain ⟨hkey, hw, hnext⟩ := hm
      have htext : ∀ w next rest, outlineText ((Mapping.value key w next).lines k) ++ rest =
          (List.replicate k ' ' ++ (key.toList ++ [':', ' '])) ++
            (w.text ++ '\n' :: (outlineText (next.lines k) ++ rest)) := by
        intro w next rest
        simp [Mapping.lines, outlineText, Line.text, Line.content]
      rw [htext, fillText_append_of_notMem values (dollar_notMem_start k hkey (by decide)),
        fillText_written values hw, ih hnext, fillMapping, htext]
  | mapping key inner next ihinner ihnext =>
      obtain ⟨hkey, hinner, hnext⟩ := hm
      have htext : ∀ inner next rest,
          outlineText ((Mapping.mapping key inner next).lines k) ++ rest =
          (List.replicate k ' ' ++ (key.toList ++ [':', '\n'])) ++
            (outlineText (inner.lines (k + 2)) ++ (outlineText (next.lines k) ++ rest)) := by
        intro inner next rest
        simp [Mapping.lines, outlineText, outlineText_append, Line.text, Line.content]
      rw [htext, fillText_append_of_notMem values (dollar_notMem_start k hkey (by decide)),
        ihinner hinner, ihnext hnext, fillMapping, htext]

theorem fill_text (values : Dictionary) {m : Mapping} (hm : Fillable m) :
    fill values (String.ofList m.text) = String.ofList (fillMapping values m).text := by
  have hlines := fillText_lines values hm 0 []
  apply String.toList_injective
  rw [toList_fill, String.toList_ofList, String.toList_ofList]
  simpa [Mapping.text, fillText, Piece.cut, Piece.cutFrom, Piece.close] using hlines

/-! ### The body -/

/-- A text that was written as a mapping is the body with its members. -/
theorem bodyOf_text (name : String) {m : Mapping} {entries : List (Yaml.Value × Yaml.Value)}
    {members : List (String × Json)} (hm : m.Readable) (hne : m ≠ .nil)
    (h : m.Means entries members) (hdepth : m.depth < Yaml.Reading.depthLimit) :
    bodyOf name (String.ofList m.text) = .ok (.obj members) := by
  have hmembers := Mapping.entriesToJson_of_means h [] (by simp)
  rw [bodyOf, Mapping.parse_text hm hne h hdepth]
  simp only [Yaml.Value.toJson, hmembers, Except.map, List.nil_append]

end ScalingTrials.Manifest
