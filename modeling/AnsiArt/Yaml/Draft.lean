import AnsiArt.Yaml.Node
import AnsiArt.Yaml.Scalar

/-!
# Drafts of values

A draft is a document whose scalars are interpreted and whose maps have taken in the maps they
merge, but in which some parts may be at fault. It means a value if none is.

Of several faults the one that counts is the first one of the least depth: all scalars in a list or
a map are looked at before what is inside its lists and maps.

Main statement: `isSome_value?_of_faults`, a draft without faults has a value.
-/

namespace AnsiArt.Yaml

/-- Why a text means no value. -/
inductive Refusal
  | invalid
  | scalar (cause : ScalarError)

/-- A document that may hold faults. -/
inductive Draft
  | leaf (r : Except Refusal Scalar)
  | list (items : List Draft)
  | map (entries : List (Draft × Draft))
  /-- A map that is to merge what is neither a map nor a list of maps. -/
  | unmergeable

namespace Draft

/-! ### Drafts of trees -/

/-- What a plain scalar means outside a key, where two words mean nothing. -/
def ofPlain (text : List Char) : Draft :=
  match PlainMeaning.ofText text with
  | .scalar r => leaf (r.mapError .scalar)
  | _ => leaf (.error .invalid)

/-- The entries of a map. -/
def entries? : Draft → Option (List (Draft × Draft))
  | map entries => some entries
  | _ => none

/-- The entries that a map merges; of several maps in a list the first one comes last. -/
def merged? : Draft → Option (List (Draft × Draft))
  | list items => (items.reverse.mapM entries?).map List.flatten
  | d => d.entries?

/-- A map with the entries that it merges in front of its own. -/
def ofEntries (merged : Option (List (Draft × Draft))) (own : List (Draft × Draft)) : Draft :=
  match merged with
  | some merged => map (merged ++ own)
  | none => unmergeable

/-- Whether a key merges. -/
def isMerge : Node → Bool
  | .plain text =>
    match PlainMeaning.ofText text with
    | .merge => true
    | _ => false
  | _ => false

mutual

/-- The draft of a tree. -/
def ofNode : Node → Draft
  | .plain text => ofPlain text
  | .quoted codes => leaf (.ok (Scalar.ofCodes codes))
  | .list items => list (ofItems items)
  | .map entries => ofEntries (mergedBy entries) (ownOf entries)

/-- The drafts of the items of a list. -/
def ofItems : List Node → List Draft
  | [] => []
  | n :: rest => ofNode n :: ofItems rest

/-- The entries that the keys of a map merge into it. -/
def mergedBy : List (Node × Node) → Option (List (Draft × Draft))
  | [] => some []
  | (k, v) :: rest =>
    match isMerge k, (ofNode v).merged?, mergedBy rest with
    | false, _, more => more
    | true, some entries, some more => some (entries ++ more)
    | true, _, _ => none

/-- The other entries of a map. -/
def ownOf : List (Node × Node) → List (Draft × Draft)
  | [] => []
  | (k, v) :: rest =>
    if isMerge k then ownOf rest else (ofKey k, ofNode v) :: ownOf rest

/-- The draft of a key. -/
def ofKey : Node → Draft
  | .plain text =>
    match PlainMeaning.ofText text with
    | .default => leaf (.ok (.text (String.ofList text)))
    | _ => ofPlain text
  | n => ofNode n

end

/-! ### Faults -/

/-- The lists of two rows joined place by place. -/
def joinLevels {α : Type} : List (List α) → List (List α) → List (List α)
  | [], ys => ys
  | xs, [] => xs
  | x :: xs, y :: ys => (x ++ y) :: joinLevels xs ys

/-- The fault of a leaf. -/
def leafFaults : Draft → List Refusal
  | leaf (.error r) => [r]
  | _ => []

/-- The fault of a key, which has to be a scalar. -/
def keyFaults : Draft → List Refusal
  | leaf (.error r) => [r]
  | leaf (.ok _) => []
  | _ => [.invalid]

mutual

/-- The faults inside a draft, those of each depth apart. -/
def levels : Draft → List (List Refusal)
  | leaf _ => []
  | list items => items.flatMap leafFaults :: itemLevels items
  | map entries => entries.flatMap (fun e => keyFaults e.1 ++ leafFaults e.2) :: entryLevels entries
  | unmergeable => [[.invalid]]

/-- The faults inside the items of a list. -/
def itemLevels : List Draft → List (List Refusal)
  | [] => []
  | d :: rest => joinLevels (levels d) (itemLevels rest)

/-- The faults inside the values of a map. -/
def entryLevels : List (Draft × Draft) → List (List Refusal)
  | [] => []
  | (_, v) :: rest => joinLevels (levels v) (entryLevels rest)

end

/-- All faults of a draft, the one that counts first. -/
def faults (d : Draft) : List Refusal := d.leafFaults ++ d.levels.flatten

/-! ### Values -/

/-- The scalar of a leaf. -/
def scalar? : Draft → Option Scalar
  | leaf (.ok s) => some s
  | _ => none

mutual

/-- The value of a draft. -/
def value? : Draft → Option Value
  | leaf (.ok s) => some (.scalar s)
  | list items => (itemValues? items).map .list
  | map entries => (entryValues? entries).map .ofEntries
  | _ => none

/-- The values of the items of a list. -/
def itemValues? : List Draft → Option (List Value)
  | [] => some []
  | d :: rest => do return (← value? d) :: (← itemValues? rest)

/-- The entries of a map. -/
def entryValues? : List (Draft × Draft) → Option (List (Scalar × Value))
  | [] => some []
  | (k, v) :: rest => do return (← scalar? k, ← value? v) :: (← entryValues? rest)

end

/-- Joining rows of lists keeps all members. -/
theorem flatten_joinLevels_eq_nil {α : Type} (xs ys : List (List α)) :
    (joinLevels xs ys).flatten = [] ↔ xs.flatten = [] ∧ ys.flatten = [] := by
  fun_induction joinLevels xs ys with
  | case1 ys => simp
  | case2 xs => simp
  | case3 x xs y ys ih =>
    simp only [List.flatten_cons, List.append_eq_nil_iff, ih]
    constructor
    · rintro ⟨⟨hx, hy⟩, hxs, hys⟩
      exact ⟨⟨hx, hxs⟩, hy, hys⟩
    · rintro ⟨⟨hx, hxs⟩, hy, hys⟩
      exact ⟨⟨hx, hy⟩, hxs, hys⟩

/-- A leaf without a fault holds a scalar, and a key without a fault is such a leaf. -/
theorem exists_scalar_of_keyFaults {d : Draft} (h : d.keyFaults = []) :
    ∃ s, d = leaf (.ok s) := by
  cases d with
  | leaf r =>
    cases r with
    | error e => simp [keyFaults] at h
    | ok s => exact ⟨s, rfl⟩
  | list items => simp [keyFaults] at h
  | map entries => simp [keyFaults] at h
  | unmergeable => simp [keyFaults] at h

mutual

theorem exists_value? (d : Draft) (hl : d.leafFaults = []) (h : d.levels.flatten = []) :
    ∃ v, d.value? = some v := by
  cases d with
  | leaf r =>
    cases r with
    | error e => simp [leafFaults] at hl
    | ok s => exact ⟨.scalar s, by rw [value?]⟩
  | list items =>
    rw [levels, List.flatten_cons, List.append_eq_nil_iff] at h
    obtain ⟨vs, hvs⟩ := exists_itemValues? items h.1 h.2
    exact ⟨.list vs, by rw [value?, hvs]; rfl⟩
  | map entries =>
    rw [levels, List.flatten_cons, List.append_eq_nil_iff] at h
    obtain ⟨es, hes⟩ := exists_entryValues? entries h.1 h.2
    exact ⟨.ofEntries es, by rw [value?, hes]; rfl⟩
  | unmergeable => simp [levels] at h

theorem exists_itemValues? (items : List Draft) (hl : items.flatMap leafFaults = [])
    (h : (itemLevels items).flatten = []) : ∃ vs, itemValues? items = some vs := by
  cases items with
  | nil => exact ⟨[], by rw [itemValues?]⟩
  | cons d rest =>
    rw [List.flatMap_cons, List.append_eq_nil_iff] at hl
    rw [itemLevels, flatten_joinLevels_eq_nil] at h
    obtain ⟨v, hv⟩ := exists_value? d hl.1 h.1
    obtain ⟨vs, hvs⟩ := exists_itemValues? rest hl.2 h.2
    exact ⟨v :: vs, by rw [itemValues?, hv, hvs]; rfl⟩

theorem exists_entryValues? (entries : List (Draft × Draft))
    (hl : entries.flatMap (fun e => keyFaults e.1 ++ leafFaults e.2) = [])
    (h : (entryLevels entries).flatten = []) : ∃ es, entryValues? entries = some es := by
  cases entries with
  | nil => exact ⟨[], by rw [entryValues?]⟩
  | cons e rest =>
    obtain ⟨k, d⟩ := e
    rw [List.flatMap_cons, List.append_eq_nil_iff, List.append_eq_nil_iff] at hl
    rw [entryLevels, flatten_joinLevels_eq_nil] at h
    obtain ⟨s, rfl⟩ := exists_scalar_of_keyFaults hl.1.1
    obtain ⟨v, hv⟩ := exists_value? d hl.1.2 h.1
    obtain ⟨es, hes⟩ := exists_entryValues? rest hl.2 h.2
    exact ⟨(s, v) :: es, by rw [entryValues?, hv, hes]; rfl⟩

end

/-- A draft without faults has a value. -/
theorem isSome_value?_of_faults {d : Draft} (h : d.faults = []) : d.value?.isSome := by
  rw [faults, List.append_eq_nil_iff] at h
  obtain ⟨v, hv⟩ := exists_value? d h.1 h.2
  simp [hv]

end Draft

/-! ### Reading -/

/-- The characters that a text may hold. -/
def isReadable (c : Char) : Bool :=
  c == '\t' || c == '\n' || c == '\r' || (0x20 ≤ c.toNat && c.toNat ≤ 0x7e) || c == '\u0085'
    || (0xa0 ≤ c.toNat && c.toNat ≤ 0xd7ff) || (0xe000 ≤ c.toNat && c.toNat ≤ 0xfffd)
    || 0x10000 ≤ c.toNat

/-- The tree of a text. A scalar that ends the reading of the tokens is refused unless one of the
tokens in front of it is at a wrong place. -/
def tree (text : List Char) : Except Refusal Node :=
  match tokens text with
  | .ok tokens => (Node.ofTokens tokens).mapError fun _ => .invalid
  | .error .invalid => .error .invalid
  | .error (.codePoint cause tokens) =>
    match Node.ofTokens tokens with
    | .error .misplaced => .error .invalid
    | _ => .error (.scalar (.codePoint cause))

/-- The value that a text means. -/
def read (text : List Char) : Except Refusal Value := do
  unless text.all isReadable do throw .invalid
  let draft := Draft.ofNode (← tree text)
  match h : draft.faults with
  | fault :: _ => throw fault
  | [] => return draft.value?.get (Draft.isSome_value?_of_faults h)

end AnsiArt.Yaml
