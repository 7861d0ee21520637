import ScalingTrials.Manifest.Placeholder

/-! # What filling a template means

A template is cut from the left into characters and placeholders, each with the longest name
that it can have. Filling replaces the placeholders and copies the characters, so it is the one
function that leaves text without placeholders alone and takes what stands before a placeholder,
its value and what stands behind it together. -/

namespace ScalingTrials.Manifest

variable {values : Dictionary} {cs rest : List Char}

/-! ### Where a placeholder begins and ends -/

/-- Text with which no name goes on. -/
def EndsName (cs : List Char) : Prop := ∀ c ∈ cs.head?, isNameChar c = false

/-- Whether a text can be asked for: an upper-case letter, and the characters of names. -/
def isKey (key : String) : Bool :=
  match key.toList with
  | [] => false
  | c :: cs => isUpper c && cs.all isNameChar

theorem isKey_eq_true_iff {key : String} :
    isKey key = true ↔
      ∃ c cs, key.toList = c :: cs ∧ isUpper c = true ∧ ∀ d ∈ cs, isNameChar d = true := by
  unfold isKey
  cases key.toList with
  | nil => simp
  | cons c cs => simp [and_assoc]

theorem not_isUpper_of_not_isNameChar {c : Char} (h : isNameChar c = false) :
    isUpper c = false := by
  simp only [isNameChar, Bool.or_eq_false_iff] at h
  exact h.1.1

/-- No placeholder reaches over a character that no name has. -/
theorem goOn?_eq_none {c : Char} (hc : isNameChar c = false) (begun : Option (List Char)) :
    Piece.goOn? begun c = none := by
  have hupper := not_isUpper_of_not_isNameChar hc
  rcases begun with _ | _ | ⟨d, name⟩ <;> simp [Piece.goOn?, hupper, hc]

/-- What was begun is closed where nothing goes on with it. -/
theorem cutFrom_of_stop {begun : Option (List Char)}
    (h : ∀ c ∈ cs.head?, Piece.goOn? begun c = none) :
    Piece.cutFrom begun cs = Piece.close begun ++ Piece.cutFrom none cs := by
  cases cs with
  | nil => simp [Piece.cutFrom, Piece.close]
  | cons c rest =>
      rw [Piece.cutFrom, Piece.cutFrom, h c rfl]
      rfl

/-- A placeholder takes all characters of its name. -/
theorem cutFrom_name (h : ∀ c ∈ cs, isNameChar c = true) {name : List Char} (hname : name ≠ [])
    (hrest : EndsName rest) :
    Piece.cutFrom (some name) (cs ++ rest) =
      .placeholder (name ++ cs) :: Piece.cutFrom none rest := by
  induction cs generalizing name with
  | nil =>
      rw [List.nil_append, cutFrom_of_stop fun c hc => goOn?_eq_none (hrest c hc) _]
      cases name with
      | nil => exact absurd rfl hname
      | cons d name => simp [Piece.close]
  | cons c cs ih =>
      have hgo : Piece.goOn? (some name) c = some (name ++ [c]) := by
        cases name with
        | nil => exact absurd rfl hname
        | cons d name => simp [Piece.goOn?, h c (by simp)]
      rw [List.cons_append, Piece.cutFrom, hgo]
      simp [ih fun d hd => h d (by simp [hd])]

theorem cut_placeholder {key : String} (hkey : isKey key = true) (hrest : EndsName rest) :
    Piece.cut ('$' :: (key.toList ++ rest)) = .placeholder key.toList :: Piece.cut rest := by
  obtain ⟨c, cs, htext, hc, hcs⟩ := isKey_eq_true_iff.mp hkey
  have hname := cutFrom_name hcs (List.cons_ne_nil c []) hrest
  simpa [Piece.cut, htext, Piece.cutFrom, Piece.goOn?, Piece.close, hc] using hname

/-- A character that begins no placeholder is copied. -/
theorem cut_literal {c : Char} (h : c = '$' → ∀ d ∈ cs.head?, isUpper d = false) :
    Piece.cut (c :: cs) = .literal c :: Piece.cut cs := by
  by_cases hc : c = '$'
  · have hstop : ∀ d ∈ cs.head?, Piece.goOn? (some []) d = none := by
      intro d hd
      simp [Piece.goOn?, h hc d hd]
    simp [Piece.cut, Piece.cutFrom, Piece.goOn?, Piece.close, hc, cutFrom_of_stop hstop]
  · simp [Piece.cut, Piece.cutFrom, Piece.goOn?, Piece.close, hc]

/-- A placeholder does not reach over a character that no name has. -/
theorem cutFrom_append_cons {c : Char} (hc : isNameChar c = false) (begun : Option (List Char))
    (cs rest : List Char) :
    Piece.cutFrom begun (cs ++ c :: rest) =
      Piece.cutFrom begun cs ++ Piece.cutFrom none (c :: rest) := by
  induction cs generalizing begun with
  | nil =>
      have hstop : ∀ d ∈ (c :: rest).head?, Piece.goOn? begun d = none := by
        rintro d ⟨⟩
        exact goOn?_eq_none hc begun
      rw [List.nil_append, cutFrom_of_stop hstop, Piece.cutFrom.eq_1]
  | cons d cs ih =>
      rw [List.cons_append, Piece.cutFrom, Piece.cutFrom]
      split
      · exact ih _
      · split <;> simp [ih]

/-- An upper-case letter begins a key that takes as many characters as it can. -/
theorem exists_key {c : Char} (hc : isUpper c = true) (cs : List Char) :
    ∃ key after, isKey key = true ∧ EndsName after ∧ c :: cs = key.toList ++ after := by
  refine ⟨String.ofList (c :: cs.takeWhile isNameChar), cs.dropWhile isNameChar, ?_, ?_, ?_⟩
  · refine isKey_eq_true_iff.mpr ⟨c, _, String.toList_ofList, hc, ?_⟩
    exact fun d hd => List.all_eq_true.mp List.all_takeWhile d hd
  · intro d hd
    have hstop := List.head?_dropWhile_not isNameChar cs
    rw [Option.mem_def.mp hd] at hstop
    exact hstop
  · rw [String.toList_ofList, List.cons_append, List.takeWhile_append_dropWhile]

/-! ### The pieces of a template -/

/-- The ways to cut a text: a placeholder is a dollar sign and a key with which the rest does
not go on, and a character is copied where no placeholder begins. -/
inductive Cuts : List Char → List Piece → Prop where
  | nil : Cuts [] []
  | placeholder {key : String} {rest : List Char} {pieces : List Piece} : isKey key = true →
      EndsName rest → Cuts rest pieces →
      Cuts ('$' :: (key.toList ++ rest)) (.placeholder key.toList :: pieces)
  | literal {c : Char} {rest : List Char} {pieces : List Piece} :
      (c = '$' → ∀ d ∈ rest.head?, isUpper d = false) → Cuts rest pieces →
      Cuts (c :: rest) (.literal c :: pieces)

theorem Cuts.cut_eq {pieces : List Piece} (h : Cuts cs pieces) : Piece.cut cs = pieces := by
  induction h with
  | nil => rfl
  | placeholder hkey hrest _ ih => rw [cut_placeholder hkey hrest, ih]
  | literal hplain _ ih => rw [cut_literal hplain, ih]

theorem cuts_cut (cs : List Char) : Cuts cs (Piece.cut cs) := by
  induction hn : cs.length using Nat.strongRecOn generalizing cs with
  | ind n ih =>
    cases cs with
    | nil => exact .nil
    | cons c rest =>
        by_cases hplain : c = '$' → ∀ d ∈ rest.head?, isUpper d = false
        · rw [cut_literal hplain]
          exact .literal hplain (ih _ (by simp [← hn]) rest rfl)
        · obtain ⟨rfl, d, hd, hupper⟩ : c = '$' ∧ ∃ d ∈ rest.head?, isUpper d = true := by
            simpa using hplain
          obtain ⟨after, rfl⟩ := List.head?_eq_some_iff.mp hd
          obtain ⟨key, after', hkey, hends, hsplit⟩ := exists_key hupper after
          have hshorter : after'.length < n := by
            rw [← hn, hsplit]
            simp only [List.length_cons, List.length_append]
            omega
          rw [hsplit, cut_placeholder hkey hends]
          exact .placeholder hkey hends (ih _ hshorter after' rfl)

theorem cuts_iff {pieces : List Piece} : Cuts cs pieces ↔ Piece.cut cs = pieces :=
  ⟨Cuts.cut_eq, fun h => h ▸ cuts_cut cs⟩

/-! ### Filling -/

/-- The characters of a template once it is filled. -/
def fillText (values : Dictionary) (cs : List Char) : List Char :=
  (Piece.cut cs).flatMap (Piece.fill values)

/-- The text for a key: its value or, if it has none, the placeholder. -/
def valueFor (values : Dictionary) (key : String) : String :=
  (values.get? key).getD ("$" ++ key)

theorem toList_fill (values : Dictionary) (template : String) :
    (fill values template).toList = fillText values template.toList := by
  rw [fill, String.toList_ofList, fillText]

theorem fill_key (values : Dictionary) (key : String) :
    Piece.fill values (.placeholder key.toList) = (valueFor values key).toList := by
  rw [Piece.fill, String.ofList_toList, valueFor]
  cases values.get? key <;> simp

theorem fillText_append_cons (values : Dictionary) {c : Char} (hc : isNameChar c = false)
    (cs rest : List Char) :
    fillText values (cs ++ c :: rest) = fillText values cs ++ fillText values (c :: rest) := by
  rw [fillText, Piece.cut, cutFrom_append_cons hc, List.flatMap_append]
  rfl

/-- A placeholder becomes its value, between what the text around it becomes. -/
theorem fill_append_placeholder (values : Dictionary) (before : String) {key : String}
    (hkey : isKey key = true) {after : String} (hends : EndsName after.toList) :
    fill values (before ++ "$" ++ key ++ after) =
      fill values before ++ valueFor values key ++ fill values after := by
  apply String.toList_injective
  have htext : (before ++ "$" ++ key ++ after).toList =
      before.toList ++ '$' :: (key.toList ++ after.toList) := by simp
  rw [toList_fill, htext, fillText_append_cons values (by decide)]
  simp only [String.toList_append, toList_fill]
  simp only [fillText, cut_placeholder hkey hends, List.flatMap_cons, fill_key, List.append_assoc]

/-- A placeholder by itself becomes its value, whatever that looks like. -/
theorem fill_placeholder (values : Dictionary) {key : String} (h : isKey key = true) :
    fill values ("$" ++ key) = valueFor values key := by
  have hempty : fill values "" = "" := rfl
  have hends : EndsName "".toList := nofun
  simpa [hempty] using fill_append_placeholder values "" h hends

/-! ### Text that asks for nothing -/

/-- A text asks for a value where a dollar sign stands right before an upper-case letter. -/
def Asks (cs : List Char) : Prop :=
  ∃ before c after, cs = before ++ '$' :: c :: after ∧ isUpper c = true

theorem not_asks_of_notMem (h : '$' ∉ cs) : ¬Asks cs := by
  rintro ⟨before, c, after, rfl, -⟩
  exact h (by simp)

theorem cut_of_not_asks (h : ¬Asks cs) : Piece.cut cs = cs.map .literal := by
  induction cs with
  | nil => rfl
  | cons c cs ih =>
      have hrest : ¬Asks cs := by
        rintro ⟨before, d, after, rfl, hd⟩
        exact h ⟨c :: before, d, after, rfl, hd⟩
      have hplain : c = '$' → ∀ d ∈ cs.head?, isUpper d = false := by
        rintro rfl d hd
        obtain ⟨after, rfl⟩ := List.head?_eq_some_iff.mp hd
        exact Bool.eq_false_iff.mpr fun hupper => h ⟨[], d, after, rfl, hupper⟩
      rw [cut_literal hplain, ih hrest, List.map_cons]

/-- Text that asks for no value stays as it is. -/
theorem fill_of_not_asks (values : Dictionary) {text : String} (h : ¬Asks text.toList) :
    fill values text = text := by
  have hcopy : (text.toList.map Piece.literal).flatMap (Piece.fill values) = text.toList := by
    simp [List.flatMap_map, Piece.fill]
  rw [fill, cut_of_not_asks h, hcopy, String.ofList_toList]

theorem fill_of_notMem (values : Dictionary) {template : String} (h : '$' ∉ template.toList) :
    fill values template = template :=
  fill_of_not_asks values (not_asks_of_notMem h)

theorem cutFrom_append_of_notMem (h : '$' ∉ cs) (rest : List Char) :
    Piece.cutFrom none (cs ++ rest) = cs.map .literal ++ Piece.cutFrom none rest := by
  induction cs with
  | nil => rfl
  | cons c cs ih =>
      obtain ⟨hc, hcs⟩ := not_or.mp (mt List.mem_cons.mpr h)
      simp only [List.cons_append, Piece.cutFrom, Piece.goOn?, Piece.close, List.nil_append,
        Ne.symm hc, if_false, ih hcs, List.map_cons]

/-- Text that asks for no value is taken over as it stands. -/
theorem fillText_append_of_notMem (values : Dictionary) (h : '$' ∉ cs) (rest : List Char) :
    fillText values (cs ++ rest) = cs ++ fillText values rest := by
  have hliteral : (cs.map Piece.literal).flatMap (Piece.fill values) = cs := by
    simp [List.flatMap_map, Piece.fill]
  rw [fillText, Piece.cut, cutFrom_append_of_notMem h, List.flatMap_append, hliteral]
  rfl

/-! ### Which function filling is -/

/-- A key is asked for where it stands behind a dollar sign as a whole. -/
def AsksFor (text key : String) : Prop :=
  isKey key = true ∧ ∃ before after, text = before ++ "$" ++ key ++ after ∧ EndsName after.toList

/-- A text that asks for a value asks for a key. -/
theorem exists_asksFor {text : String} (h : Asks text.toList) : ∃ key, AsksFor text key := by
  obtain ⟨before, c, after, htext, hc⟩ := h
  obtain ⟨key, after', hkey, hends, hsplit⟩ := exists_key hc after
  refine ⟨key, hkey, String.ofList before, String.ofList after', ?_, by simpa using hends⟩
  apply String.toList_injective
  rw [htext, hsplit]
  simp

/-- A function that copies what asks for nothing, and replaces each key that is asked for by
its value between what it makes of the text before and behind. -/
structure Substitutes (values : Dictionary) (g : String → String) : Prop where
  copies : ∀ text, ¬Asks text.toList → g text = text
  replaces : ∀ before key after, isKey key = true → EndsName after.toList →
    g (before ++ "$" ++ key ++ after) = g before ++ valueFor values key ++ g after

theorem substitutes_fill (values : Dictionary) : Substitutes values (fill values) :=
  ⟨fun _ h => fill_of_not_asks values h,
    fun before _ _ hkey hends => fill_append_placeholder values before hkey hends⟩

/-- No other function does so. The induction is on the length of the text. -/
theorem Substitutes.eq_fill {g : String → String} (h : Substitutes values g) (text : String) :
    g text = fill values text := by
  induction hn : text.length using Nat.strongRecOn generalizing text with
  | ind n ih =>
    by_cases hasks : Asks text.toList
    · obtain ⟨key, hkey, before, after, rfl, hends⟩ := exists_asksFor hasks
      have hlength : before.length + 1 + key.length + after.length = n := by
        simp only [← hn, String.length_append]
        rfl
      rw [h.replaces before key after hkey hends, fill_append_placeholder values before hkey hends,
        ih before.length (by omega) before rfl, ih after.length (by omega) after rfl]
    · rw [h.copies text hasks, fill_of_not_asks values hasks]

/-! ### What filling depends on -/

theorem AsksFor.prepend {text key : String} (h : AsksFor text key) (front : String) :
    AsksFor (front ++ text) key := by
  obtain ⟨hkey, before, after, rfl, hends⟩ := h
  exact ⟨hkey, front ++ before, after, by simp only [String.append_assoc], hends⟩

/-- Only placeholders that are asked for are cut out. -/
theorem Cuts.asksFor {pieces : List Piece} (h : Cuts cs pieces) {name : List Char}
    (hname : .placeholder name ∈ pieces) : AsksFor (String.ofList cs) (String.ofList name) := by
  induction h with
  | nil => cases hname
  | @placeholder key rest pieces hkey hends _ ih =>
      have htext : String.ofList ('$' :: (key.toList ++ rest)) =
          "" ++ "$" ++ key ++ String.ofList rest := by
        apply String.toList_injective
        simp
      rw [htext]
      rcases List.mem_cons.mp hname with hhere | hlater
      · injection hhere with hhere
        rw [hhere, String.ofList_toList]
        exact ⟨hkey, "", String.ofList rest, rfl, by rwa [String.toList_ofList]⟩
      · exact (ih hlater).prepend _
  | @literal c rest pieces _ _ ih =>
      have htext : String.ofList (c :: rest) = String.ofList [c] ++ String.ofList rest := by
        apply String.toList_injective
        simp
      rcases List.mem_cons.mp hname with hhere | hlater
      · cases hhere
      · rw [htext]
        exact (ih hlater).prepend _

/-- Only the texts for keys that are asked for make a difference. -/
theorem fill_congr_valueFor {values values' : Dictionary} {template : String}
    (h : ∀ key, AsksFor template key → valueFor values key = valueFor values' key) :
    fill values template = fill values' template := by
  have hpieces : ∀ piece ∈ Piece.cut template.toList,
      Piece.fill values piece = Piece.fill values' piece := by
    intro piece hpiece
    cases piece with
    | literal c => rfl
    | placeholder name =>
        have hasks := (cuts_cut template.toList).asksFor hpiece
        rw [String.ofList_toList] at hasks
        have hkey := fill_key values (String.ofList name)
        rwa [h _ hasks, ← fill_key, String.toList_ofList] at hkey
  rw [fill, fill, List.flatMap_def, List.flatMap_def, List.map_congr_left hpieces]

/-- Values of other keys than those that are asked for make no difference. -/
theorem fill_congr {values values' : Dictionary} {template : String}
    (h : ∀ key, AsksFor template key → values.get? key = values'.get? key) :
    fill values template = fill values' template :=
  fill_congr_valueFor fun key hasks => by rw [valueFor, valueFor, h key hasks]

theorem fill_insert_of_not_isKey (values : Dictionary) {key : String} (hkey : isKey key = false)
    (v template : String) : fill (values.insert key v) template = fill values template := by
  refine fill_congr fun key' hasks => ?_
  have hne : key' ≠ key := by
    rintro rfl
    exact absurd hasks.1 (by simp [hkey])
  rw [Dictionary.get?_insert, if_neg hne]

/-- Filling cuts a template in the one way that there is, and replaces the placeholders that
have values: it is the one function that copies what asks for nothing and puts each value
verbatim between what becomes of the text before and behind. So only keys that are asked for
count, and what is no key is never asked for. -/
theorem fill_is_single_pass (values : Dictionary) :
    (∀ template, ∃ pieces, (∀ pieces', Cuts template.toList pieces' ↔ pieces' = pieces) ∧
      (fill values template).toList = pieces.flatMap (Piece.fill values)) ∧
    (Substitutes values (fill values) ∧ ∀ g, Substitutes values g → g = fill values) ∧
    (∀ key v template, isKey key = false →
      fill (values.insert key v) template = fill values template) ∧
    ∀ values' template, (∀ key, AsksFor template key → values.get? key = values'.get? key) →
      fill values template = fill values' template := by
  refine ⟨?_, ⟨substitutes_fill values, fun g h => funext h.eq_fill⟩, ?_,
    fun values' template h => fill_congr h⟩
  · intro template
    have hcut : ∀ pieces', Cuts template.toList pieces' ↔ pieces' = Piece.cut template.toList :=
      fun pieces' => cuts_iff.trans eq_comm
    exact ⟨Piece.cut template.toList, hcut, toList_fill values template⟩
  · intro key v template hkey
    exact fill_insert_of_not_isKey values hkey v template

example : fill (.ofList [("A", "$B"), ("B", "oops")]) "a: $A" = "a: $B" := by decide

end ScalingTrials.Manifest
