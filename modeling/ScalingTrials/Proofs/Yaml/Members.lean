import ScalingTrials.Proofs.Yaml.Mapping
import ScalingTrials.Yaml.Value

/-! # What a mapping is read as

A mapping whose keys are texts, each at most once, is read as the object of its members. Its
nesting is that of the text, whatever the values hold. -/

namespace ScalingTrials.Yaml

namespace Value

theorem read_scalar (src : Source) (depth : Nat) (p : Path) (anchor : Option Nat) (plain : Bool)
    (text : String) (followed : Nat) :
    read src depth p (.scalar anchor none plain text) followed =
      ofScalar p (if plain then .ofPlain text else .str text) followed := by
  delta read
  cases depth <;> rfl

theorem read_map (src : Source) (depth : Nat) (p : Path) (anchor : Option Nat)
    (entries : List (Node × Node)) (followed : Nat) :
    read src (depth + 1) p (.map anchor entries) followed =
      (do return map (← readEntries (read src depth) p [] entries)) followed := by
  delta read
  rfl

/-- An entry that was read goes behind the others unless its key is among theirs. -/
theorem setEntry_of_new {key v : Value} {acc : List (Value × Value)}
    (h : ∀ e ∈ acc, sameKey e.1 key = false) : setEntry key v acc = acc ++ [(key, v)] := by
  induction acc with
  | nil => rfl
  | cons e acc ih =>
      have he : sameKey e.1 key = false := h e (by simp)
      simp [setEntry, he, ih fun d hd => h d (by simp [hd])]

theorem setMember_of_new {key : String} {j : Json} {acc : List (String × Json)}
    (h : ∀ e ∈ acc, e.1 ≠ key) : Json.setMember key j acc = acc ++ [(key, j)] := by
  induction acc with
  | nil => rfl
  | cons e acc ih =>
      have he : e.1 ≠ key := h e (by simp)
      simp [Json.setMember, he, ih fun d hd => h d (by simp [hd])]

end Value

open Value (read readEntries ofScalar entriesToJson)

/-- What a value stands for, as a scalar. -/
def Written.scalar : Written → Scalar
  | plain v => .ofPlain v
  | quoted _ v => .str v

/-- What a value is read as, and the JSON form of that. -/
def Written.Stands (w : Written) (v : Value) (j : Json) : Prop :=
  (∀ p followed, ofScalar p w.scalar followed = .ok (v, followed)) ∧ v.toJson = .ok j

namespace Mapping

def keys : Mapping → List String
  | nil => []
  | value key _ rest => key :: rest.keys
  | mapping key _ rest => key :: rest.keys

/-- How deep the mappings are nested below the entries. -/
def depth : Mapping → Nat
  | nil => 0
  | value _ _ rest => rest.depth
  | mapping _ inner rest => max (inner.depth + 1) rest.depth

/-- What the entries of a mapping are read as, and the members that they become. -/
inductive Means : Mapping → List (Value × Value) → List (String × Json) → Prop where
  | nil : Means nil [] []
  | value {key : String} {w : Written} {v : Value} {j : Json} {rest : Mapping}
      {entries : List (Value × Value)} {members : List (String × Json)} :
      Scalar.ofPlain key = .str key → w.Stands v j → key ∉ rest.keys → Means rest entries members →
      Means (value key w rest) ((.str key, v) :: entries) ((key, j) :: members)
  | mapping {key : String} {inner rest : Mapping} {parts entries : List (Value × Value)}
      {inside members : List (String × Json)} :
      Scalar.ofPlain key = .str key → Means inner parts inside → key ∉ rest.keys →
      Means rest entries members →
      Means (mapping key inner rest) ((.str key, .map parts) :: entries)
        ((key, .obj inside) :: members)

variable {m : Mapping} {entries : List (Value × Value)} {members : List (String × Json)}

/-- An entry whose key is new stays new to the keys behind it. -/
theorem forall_mem_append_singleton {α : Type} {key : String} {rest : List String} {acc : List α}
    {e : α} {P : α → String → Prop} (hacc : ∀ k ∈ key :: rest, ∀ d ∈ acc, P d k)
    (he : ∀ k ∈ rest, P e k) : ∀ k ∈ rest, ∀ d ∈ acc ++ [e], P d k := by
  intro k hk d hd
  rcases List.mem_append.mp hd with hd | hd
  · exact hacc k (by simp [hk]) d hd
  · rw [List.mem_singleton.mp hd]
    exact he k hk

/-- An entry is put on top of the others under its key. -/
theorem readEntries_cons {src : Source} {depth : Nat} {key : String} {n : Node} {v : Value}
    {followed : Nat} (hkey : Scalar.ofPlain key = .str key)
    (hread : ∀ p, read src depth p n followed = .ok (v, followed)) (p : Path)
    (acc : List (Value × Value)) (rest : List (Node × Node)) :
    readEntries (read src depth) p acc ((.scalar none none true key, n) :: rest) followed =
      readEntries (read src depth) p (Value.setEntry (.str key) v acc) rest followed := by
  have hname : read src depth p (.scalar none none true key) followed =
      .ok (.str key, followed) := by
    rw [Value.read_scalar, if_pos rfl, hkey]
    rfl
  simp only [readEntries, bind, StateT.bind, Except.bind, hname, hread]

/-- Reading the entries on top of others with other keys puts them behind those. -/
theorem readEntries_of_means (h : Means m entries members) (src : Source) {depth : Nat}
    (hdepth : m.depth ≤ depth) (p : Path) (followed : Nat) (acc : List (Value × Value))
    (hacc : ∀ key ∈ m.keys, ∀ e ∈ acc, Value.sameKey e.1 (.str key) = false) :
    readEntries (read src depth) p acc m.nodes followed = .ok (acc ++ entries, followed) := by
  induction h generalizing depth p acc with
  | nil =>
      rw [List.append_nil]
      rfl
  | @value key w v j rest entries members hkey hstands hnew _ ih =>
      have hread : ∀ p, read src depth p w.node followed = .ok (v, followed) := by
        intro p
        rw [← hstands.1 p followed]
        cases w with
        | plain v => exact Value.read_scalar ..
        | quoted escaped v => exact Value.read_scalar ..
      have hother : ∀ k ∈ rest.keys, Value.sameKey (.str key) (.str k) = false := by
        intro k hk
        have hne : key ≠ k := fun heq => hnew (heq ▸ hk)
        simpa [Value.sameKey] using hne
      have hrest := ih hdepth p (acc ++ [(.str key, v)]) (forall_mem_append_singleton hacc hother)
      rw [nodes, readEntries_cons hkey hread, Value.setEntry_of_new (hacc key (by simp [keys])),
        hrest]
      simp
  | @mapping key inner rest parts entries inside members hkey _ hnew _ ihinner ihrest =>
      obtain ⟨hdeep, hdepth⟩ := Nat.max_le.mp hdepth
      obtain ⟨below, rfl⟩ : ∃ below, depth = below + 1 := ⟨depth - 1, by omega⟩
      have hinner : ∀ p, read src (below + 1) p (.map none inner.nodes) followed =
          .ok (.map parts, followed) := by
        intro p
        have hparts := ihinner (Nat.le_of_succ_le_succ hdeep) p [] (by simp)
        rw [Value.read_map]
        simp only [bind, StateT.bind, Except.bind, hparts]
        rfl
      have hother : ∀ k ∈ rest.keys, Value.sameKey (.str key) (.str k) = false := by
        intro k hk
        have hne : key ≠ k := fun heq => hnew (heq ▸ hk)
        simpa [Value.sameKey] using hne
      have hrest := ihrest hdepth p (acc ++ [(.str key, .map parts)])
        (forall_mem_append_singleton hacc hother)
      rw [nodes, readEntries_cons hkey hinner, Value.setEntry_of_new (hacc key (by simp [keys])),
        hrest]
      simp

theorem entriesToJson_of_means (h : Means m entries members) (acc : List (String × Json))
    (hacc : ∀ key ∈ m.keys, ∀ e ∈ acc, e.1 ≠ key) :
    entriesToJson acc entries = .ok (acc ++ members) := by
  induction h generalizing acc with
  | nil =>
      rw [List.append_nil]
      rfl
  | @value key w v j rest entries members hkey hstands hnew _ ih =>
      have hother : ∀ k ∈ rest.keys, key ≠ k := fun k hk heq => hnew (heq ▸ hk)
      have hrest := ih (acc ++ [(key, j)]) (forall_mem_append_singleton hacc hother)
      simp only [entriesToJson, Value.keyText, hstands.2, bind, Except.bind,
        Value.setMember_of_new (hacc key (by simp [keys])), hrest]
      simp
  | @mapping key inner rest parts entries inside members hkey _ hnew _ ihinner ihrest =>
      have hinner := ihinner [] (by simp)
      have hother : ∀ k ∈ rest.keys, key ≠ k := fun k hk heq => hnew (heq ▸ hk)
      have hrest := ihrest (acc ++ [(key, .obj inside)]) (forall_mem_append_singleton hacc hother)
      simp only [entriesToJson, Value.keyText, Value.toJson, hinner, Except.map, bind, Except.bind,
        Value.setMember_of_new (hacc key (by simp [keys])), hrest, List.nil_append]
      simp

/-- The only document of a mapping is read as its entries. -/
theorem parse_text (hm : m.Readable) (hne : m ≠ .nil) (h : Means m entries members)
    (hdepth : m.depth < Reading.depthLimit) :
    Value.parse (String.ofList m.text) = .ok (.map entries) := by
  obtain ⟨below, hbelow⟩ : ∃ below, Reading.depthLimit = below + 1 := ⟨127, rfl⟩
  have hread : ∀ src, read src Reading.depthLimit .root (.map none m.nodes) 0 =
      .ok (.map entries, 0) := by
    intro src
    have hentries := readEntries_of_means h src (Nat.le_of_lt_succ (hbelow ▸ hdepth)) .root 0
      [] (by simp)
    rw [hbelow, Value.read_map]
    simp only [bind, StateT.bind, Except.bind, hentries]
    rfl
  rw [Value.parse, readWith, documents_text hm hne]
  simp only [bind, Except.bind, hread]
  rfl

end Mapping

end ScalingTrials.Yaml
