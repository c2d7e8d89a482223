/-
# The value of a JSON text

A tree that is spelled by a text has a value (`Node.value?`): strings are the characters that their
pieces stand for, numbers without a point and an exponent are integers, and the others are the
nearest binary64 numbers; lists and objects keep the order of the text.  `Tells` joins the grammar
and the value, and a text tells at most one value (`Tells.unique`).

Both texts of a value tell it, with `null` in the place of numbers that are not finite
(`tells_compact`, `tells_indented`).
-/

import CourtDocket.Proofs.Json.Arrangement
import CourtDocket.Proofs.Json.Spelling
import CourtDocket.Proofs.Number.FloatText

namespace CourtDocket
namespace Json

open Number

/-! ### The value of a tree -/

/-- The value of a numeral: an integer if it has neither a point nor an exponent, else the nearest
binary64 number. -/
def Numeral.exactValue (n : Numeral) : Json :=
  if n.fraction = [] ∧ n.exponent = none then
    .int (if n.negative then -(ofDigits n.whole : ℤ) else ofDigits n.whole)
  else .float (.ofDecimal n.negative n.decimal.digits n.decimal.exponent)

mutual

/-- The value of a tree, if there is no fault in it. -/
def Node.value? : Node → Option Json
  | .null => some .null
  | .bool b => some (.bool b)
  | .number n => some n.exactValue
  | .string t =>
    match t.text with
    | .ok s => some (.string s)
    | .error _ => none
  | .array items => items.values?.map .array
  | .object members => members.values?.map .object
  | .broken _ => none

/-- The values of the items of a list. -/
def Items.values? : Items → Option (List Json)
  | .close => some []
  | .stop _ => none
  | .item v rest => do return (← v.value?) :: (← rest.values?)

/-- The names and the values of the members of an object, in order. -/
def Members.values? : Members → Option (List (String × Json))
  | .close => some []
  | .stop _ => none
  | .noKey _ => none
  | .member key v rest =>
    match key.text with
    | .ok k => do return (k, ← v.value?) :: (← rest.values?)
    | .error _ => none

end

/-- **Whether a text tells a value**: it is a JSON document, and the value is that of its tree. -/
def Tells (text : String) (v : Json) : Prop :=
  ∃ tree : Node, tree.SpelledBy text ∧ tree.value? = some v

/-- **A text tells at most one value.** -/
theorem Tells.unique {text : String} {v w : Json} (hv : Tells text v) (hw : Tells text w) :
    v = w := by
  obtain ⟨tree, hspelled, hvalue⟩ := hv
  obtain ⟨tree', hspelled', hvalue'⟩ := hw
  have htrees := (Node.spelledBy_iff.1 hspelled).1.symm.trans (Node.spelledBy_iff.1 hspelled').1
  obtain rfl : tree = tree' := congrArg Prod.fst htrees
  exact Option.some.inj (hvalue.symm.trans hvalue')

mutual

/-- A tree with a value has no fault. -/
theorem Node.skip_of_value? : ∀ {v : Node} {w : Json}, v.value? = some w → v.skip = .ok ()
  | .null, _, _ => rfl
  | .bool _, _, _ => rfl
  | .number _, _, _ => rfl
  | .string t, _, h => by
    rw [Node.value?] at h
    split at h
    · exact RawString.skip_of_text ‹_›
    · cases h
  | .array items, _, h => by
    obtain ⟨vs, hvs, -⟩ := Option.map_eq_some_iff.1 h
    exact Items.skip_of_values? hvs
  | .object members, _, h => by
    obtain ⟨ms, hms, -⟩ := Option.map_eq_some_iff.1 h
    exact Members.skip_of_values? hms
  | .broken _, _, h => by cases h

/-- Items that have values have no fault. -/
theorem Items.skip_of_values? : ∀ {vs : Items} {ws : List Json}, vs.values? = some ws →
    vs.skip = .ok ()
  | .close, _, _ => rfl
  | .stop _, _, h => by cases h
  | .item v rest, _, h => by
    obtain ⟨w, hv, h⟩ := Option.bind_eq_some_iff.1 h
    obtain ⟨ws, hrest, -⟩ := Option.bind_eq_some_iff.1 h
    exact Items.skip_item.2 ⟨Node.skip_of_value? hv, Items.skip_of_values? hrest⟩

/-- Members that have values have no fault. -/
theorem Members.skip_of_values? : ∀ {ms : Members} {ws : List (String × Json)},
    ms.values? = some ws → ms.skip = .ok ()
  | .close, _, _ => rfl
  | .stop _, _, h => by cases h
  | .noKey _, _, h => by cases h
  | .member key v rest, _, h => by
    rw [Members.values?] at h
    split at h
    · next k hkey =>
      obtain ⟨w, hv, h⟩ := Option.bind_eq_some_iff.1 h
      obtain ⟨ws, hrest, -⟩ := Option.bind_eq_some_iff.1 h
      exact Members.skip_member.2 ⟨RawString.skip_of_text hkey, Node.skip_of_value? hv,
        Members.skip_of_values? hrest⟩
    · cases h

end

/-! ### What the texts of a value tell -/

mutual

/-- A value as its texts tell it: there is no word for a number that is not finite. -/
def told : Json → Json
  | null => null
  | bool b => bool b
  | int i => int i
  | float x => if x.isFinite then float x else null
  | string s => string s
  | array items => array (toldItems items)
  | object members => object (toldMembers members)

/-- The items of a list as they are told. -/
def toldItems : List Json → List Json
  | [] => []
  | v :: vs => told v :: toldItems vs

/-- The members of an object as they are told. -/
def toldMembers : List (String × Json) → List (String × Json)
  | [] => []
  | (k, v) :: ms => (k, told v) :: toldMembers ms

end

/-- Items are told one by one. -/
theorem toldItems_eq_map (vs : List Json) : toldItems vs = vs.map told := by
  induction vs with
  | nil => rfl
  | cons v vs ih => rw [toldItems, ih, List.map_cons]

/-- Members are told one by one, under their names. -/
theorem toldMembers_eq_map (ms : List (String × Json)) :
    toldMembers ms = ms.map fun m => (m.1, m.2.told) := by
  induction ms with
  | nil => rfl
  | cons m ms ih => rw [toldMembers, ih, List.map_cons]

/-- The numeral of an integer has that value. -/
theorem exactValue_ofInt (i : ℤ) : (Numeral.ofInt i).exactValue = .int i := by
  rw [Numeral.exactValue, if_pos ⟨rfl, rfl⟩]
  simp only [Numeral.ofInt, ofDigits_decimalDigits, decide_eq_true_eq]
  congr 1
  split_ifs <;> omega

/-- A finite number is written with a point or an exponent. -/
theorem fraction_or_exponent_ofFinite (negative : Bool) (m : ℕ) (e : ℤ) :
    ¬((Numeral.ofFinite negative m e).fraction = [] ∧
      (Numeral.ofFinite negative m e).exponent = none) := by
  have hne := decimalDigits_ne_nil (Decimal.shortest m e).digits
  simp only [Numeral.ofFinite]
  generalize FloatLayout.decimalDigits (Decimal.shortest m e).digits = ds at hne ⊢
  split_ifs with hm hplace
  · simp
  · rw [Numeral.plain]
    simp only
    split_ifs with hlow hlength
    · simp [hne]
    · simp
    · simp only [List.drop_eq_nil_iff, not_and]
      exact fun h => absurd h hlength
  · simp [Numeral.scientific]

/-- The numeral of a finite number is nearest to it. -/
theorem exactValue_ofFinite (negative : Bool) {m : ℕ} {e : ℤ} (h : Canonical m e) :
    (Numeral.ofFinite negative m e).exactValue = .float (.finite negative m e h) := by
  have hspelled := (Numeral.wellFormed_ofFinite negative m e).spelledBy_text
  rw [Numeral.text_ofFinite negative m e h] at hspelled
  have hread : Number.readFloat? (floatText (.finite negative m e h)) =
      some (.finite negative m e h) := FloatLayout.readFloat?_write (Or.inr rfl) rfl
  rw [hspelled.readFloat?_eq] at hread
  rw [Numeral.exactValue, if_neg (fraction_or_exponent_ofFinite negative m e),
    Option.some.inj hread]

mutual

/-- **The tree of a value has it as its value**, what is not finite aside. -/
theorem value?_node : ∀ v : Json, v.node.value? = some v.told
  | .null => rfl
  | .bool _ => rfl
  | .int i => by rw [node, Node.value?, exactValue_ofInt, told]
  | .float .nan => rfl
  | .float (.infinite _) => rfl
  | .float (.finite negative m e h) => by
    rw [node, Node.value?, exactValue_ofFinite negative h, told]
    rfl
  | .string s => by
    rw [node, Node.value?, RawString.text_ofString, told]
  | .array items => by
    rw [node, Node.value?, values?_nodes items, told]
    rfl
  | .object members => by
    rw [node, Node.value?, values?_memberNodes members, told]
    rfl

/-- The items of a list are told in its text. -/
theorem values?_nodes : ∀ vs : List Json, (Items.ofList (nodes vs)).values? = some (toldItems vs)
  | [] => rfl
  | v :: vs => by
    rw [nodes, Items.ofList, Items.values?, value?_node v, values?_nodes vs, toldItems]
    rfl

/-- The members of an object are told in its text. -/
theorem values?_memberNodes : ∀ ms : List (String × Json),
    (Members.ofList (memberNodes ms)).values? = some (toldMembers ms)
  | [] => rfl
  | (k, v) :: ms => by
    rw [memberNodes, Members.ofList, Members.values?, value?_node v, values?_memberNodes ms,
      RawString.text_ofString, toldMembers]
    rfl

end

/-- **The text without white space tells the value.** -/
theorem tells_compact (v : Json) : Tells (String.ofList v.compact) v.told :=
  ⟨v.node, (writtenAs_compact v).spelledBy (Node.skip_of_value? (value?_node v)), value?_node v⟩

/-- **The text on several lines tells the value.** -/
theorem tells_indented (v : Json) : Tells (String.ofList v.indented) v.told :=
  ⟨v.node, (writtenAs_indentedAt 0 v).spelledBy (Node.skip_of_value? (value?_node v)),
    value?_node v⟩

/-! ### Objects without a name that stands twice -/

/-- **Whether no object in a value has a name twice.** -/
inductive DistinctNames : Json → Prop where
  /-- There is no object. -/
  | null : DistinctNames null
  /-- There is no object. -/
  | bool (b : Bool) : DistinctNames (bool b)
  /-- There is no object. -/
  | int (i : ℤ) : DistinctNames (int i)
  /-- There is no object. -/
  | float (x : Binary64) : DistinctNames (float x)
  /-- There is no object. -/
  | string (s : String) : DistinctNames (string s)
  /-- No item has an object with a name twice. -/
  | array {items : List Json} (h : ∀ v ∈ items, DistinctNames v) : DistinctNames (array items)
  /-- Neither has this object, nor its members. -/
  | object {members : List (String × Json)} (hnames : (members.map Prod.fst).Nodup)
      (h : ∀ m ∈ members, DistinctNames m.2) : DistinctNames (object members)

attribute [simp] DistinctNames.null DistinctNames.bool DistinctNames.int DistinctNames.float
  DistinctNames.string

/-- A list has distinct names just when its items have. -/
@[simp] theorem distinctNames_array_iff {items : List Json} :
    DistinctNames (array items) ↔ ∀ v ∈ items, DistinctNames v :=
  ⟨fun h => by cases h; assumption, .array⟩

/-- An object has distinct names just when its own are and its members have. -/
@[simp] theorem distinctNames_object_iff {members : List (String × Json)} :
    DistinctNames (object members) ↔
      (members.map Prod.fst).Nodup ∧ ∀ m ∈ members, DistinctNames m.2 :=
  ⟨fun h => by cases h; exact ⟨‹_›, ‹_›⟩, fun h => .object h.1 h.2⟩

/-- Telling a value changes no name. -/
theorem DistinctNames.told {v : Json} (h : DistinctNames v) : DistinctNames v.told := by
  induction h with
  | null => exact .null
  | bool b => exact .bool b
  | int i => exact .int i
  | float x =>
    rw [Json.told]
    split_ifs
    · exact .float x
    · exact .null
  | string s => exact .string s
  | array _ ih =>
    rw [Json.told, toldItems_eq_map, distinctNames_array_iff, List.forall_mem_map]
    exact ih
  | object hnames _ ih =>
    rw [Json.told, toldMembers_eq_map, distinctNames_object_iff, List.map_map, List.forall_mem_map]
    exact ⟨hnames, ih⟩

end Json
end CourtDocket
