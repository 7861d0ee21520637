/-!
Text cut at every occurrence of a separator, and put together again. Main statements: no piece
holds the separator, and pieces without it survive joining.
-/

namespace ScalingTrials.Text

/-- The pieces between separators; there is always one more than there are separators. -/
def split (sep : Char) : List Char → List (List Char)
  | [] => [[]]
  | c :: rest =>
    if c = sep then [] :: split sep rest
    else
      match split sep rest with
      | [] => [[c]]
      | piece :: pieces => (c :: piece) :: pieces

/-- The pieces with a separator between each two. -/
def join (sep : Char) : List (List Char) → List Char
  | [] => []
  | [piece] => piece
  | piece :: pieces => piece ++ sep :: join sep pieces

theorem split_ne_nil (sep : Char) (cs : List Char) : split sep cs ≠ [] := by
  cases cs with
  | nil => simp [split]
  | cons c rest =>
    simp only [split]
    split
    · simp
    · split <;> simp

theorem join_cons {sep : Char} {pieces : List (List Char)} (h : pieces ≠ []) (piece : List Char) :
    join sep (piece :: pieces) = piece ++ sep :: join sep pieces := by
  cases pieces with
  | nil => exact absurd rfl h
  | cons _ _ => rfl

theorem eq_or_mem_of_mem_join {sep c : Char} {pieces : List (List Char)}
    (h : c ∈ join sep pieces) : c = sep ∨ ∃ piece ∈ pieces, c ∈ piece := by
  induction pieces with
  | nil => exact absurd h List.not_mem_nil
  | cons piece pieces ih =>
    cases pieces with
    | nil => exact .inr ⟨piece, List.mem_singleton_self piece, h⟩
    | cons p ps =>
      rw [join_cons (List.cons_ne_nil p ps), List.mem_append, List.mem_cons] at h
      rcases h with hhere | hsep | hlater
      · exact .inr ⟨piece, List.mem_cons_self, hhere⟩
      · exact .inl hsep
      · obtain heq | ⟨q, hq, hc⟩ := ih hlater
        · exact .inl heq
        · exact .inr ⟨q, List.mem_cons_of_mem piece hq, hc⟩

theorem notMem_of_mem_split {sep : Char} {cs piece : List Char} (h : piece ∈ split sep cs) :
    sep ∉ piece := by
  induction cs generalizing piece with
  | nil => simp [split] at h; simp [h]
  | cons c rest ih =>
    simp only [split] at h
    split at h
    · rcases List.mem_cons.1 h with rfl | h
      · simp
      · exact ih h
    · next hc =>
      split at h
      · next h' => exact absurd h' (split_ne_nil sep rest)
      · next p ps h' =>
        rcases List.mem_cons.1 h with rfl | h
        · have := ih (h' ▸ List.mem_cons_self : p ∈ split sep rest)
          simp [this, Ne.symm hc]
        · exact ih (h' ▸ List.mem_cons_of_mem p h : piece ∈ split sep rest)

theorem split_of_notMem {sep : Char} {cs : List Char} (h : sep ∉ cs) : split sep cs = [cs] := by
  induction cs with
  | nil => rfl
  | cons c rest ih =>
    have hc : c ≠ sep := fun hc => h (by simp [hc])
    simp [split, hc, ih fun hr => h (by simp [hr])]

theorem split_append {sep : Char} {cs : List Char} (h : sep ∉ cs) (rest : List Char) :
    split sep (cs ++ sep :: rest) = cs :: split sep rest := by
  induction cs with
  | nil => simp [split]
  | cons c cs ih =>
    have hc : c ≠ sep := fun hc => h (by simp [hc])
    simp [split, hc, ih fun hr => h (by simp [hr])]

theorem split_join {sep : Char} {pieces : List (List Char)} (hne : pieces ≠ [])
    (h : ∀ piece ∈ pieces, sep ∉ piece) : split sep (join sep pieces) = pieces := by
  induction pieces with
  | nil => exact absurd rfl hne
  | cons piece pieces ih =>
    cases pieces with
    | nil => exact split_of_notMem (h piece (by simp))
    | cons p ps =>
      rw [join_cons (by simp), split_append (h piece (by simp)),
        ih (by simp) fun q hq => h q (by simp [hq])]

end ScalingTrials.Text
