/-
# Values that are written into a document

A value is written into a record under the name of a field (`Record.Writes`):

| the record is | the field has | the value |
| --- | --- | --- |
| an object | a value | takes its place |
| an object | none | is a new member |
| a list | a value | takes its place |
| a list that ends just before the field | none | is a new item |

Of the nodes of the fields only this one is another one afterwards (`Record.Writes.exists_node`).
It need not be a value of the field.  So a reader tells either what it makes of the new value or
that there is nothing to make of it (`Reader.Takes`), and a list or a record does when its item or
its field does (`Reader.Takes.list`, `Record.Part.takes`).
-/

import CourtDocket.Proofs.Json.Arrangement

namespace CourtDocket
namespace Json

/-! ### Writing -/

/-- A list ends just before the place that a name has among others, and an item comes there. -/
inductive Items.Appends (name : String) (w : Node) : List String → Items → Items → Prop where
  /-- The first place has the name, and the list is empty. -/
  | here {names : List String} : Appends name w (name :: names) .close (.item w .close)
  /-- The first place has another name. -/
  | there {n : String} {names : List String} {v : Node} {vs vs' : Items} (hn : n ≠ name)
      (h : Appends name w names vs vs') :
      Appends name w (n :: names) (.item v vs) (.item v vs')

/-- The item at a place of a list changes from `w` to `w'`. -/
inductive Items.ChangesNth (w w' : Node) : ℕ → Items → Items → Prop where
  /-- The place is the first one. -/
  | zero {vs : Items} : ChangesNth w w' 0 (.item w vs) (.item w' vs)
  /-- The place is a later one. -/
  | succ {i : ℕ} {v : Node} {vs vs' : Items} (h : ChangesNth w w' i vs vs') :
      ChangesNth w w' (i + 1) (.item v vs) (.item v vs')

/-- The item at a place of a list changes. -/
inductive Node.AtNth (i : ℕ) (R : Node → Node → Prop) : Node → Node → Prop where
  /-- The items change. -/
  | array {w w' : Node} {vs vs' : Items} (hR : R w w') (h : vs.ChangesNth w w' i vs') :
      AtNth i R (.array vs) (.array vs')

/-- A record that is a list gains the value of a field. -/
inductive Record.Appends {α : Type} (r : Record α) (name : String) (w : Node) :
    Node → Node → Prop where
  /-- The value is a new item. -/
  | array {vs vs' : Items} (h : Items.Appends name w (r.slots.map (·.name)) vs vs') :
      r.Appends name w (.array vs) (.array vs')

/-- **A value is written into a record under the name of a field.**  `R` says which value, given
the one that the field has. -/
inductive Record.Writes {α : Type} (r : Record α) (name : String)
    (R : Option Node → Node → Prop) (v v' : Node) : Prop where
  /-- It is a new member. -/
  | gained {w : Node} (hR : R none w) (h : Node.Gains name w v v')
  /-- It is a new item. -/
  | appended {w : Node} (hR : R none w) (h : r.Appends name w v v')
  /-- It takes the place of another one. -/
  | changed (h : r.AtField name (fun w w' => R (some w) w') v v')

/-- A value is written in the place of another one. -/
inductive Replaces (R : Node → Node → Prop) : Option Node → Node → Prop where
  /-- The other one stands there. -/
  | mk {w w' : Node} (hR : R w w') : Replaces R (some w) w'

/-! ### The nodes of the fields -/

namespace Items.Appends

variable {name : String} {w : Node} {names : List String} {vs vs' : Items}

/-- A name behind all items has no value yet. -/
theorem find?_name (h : Items.Appends name w names vs vs') : vs.find? name names = none := by
  induction h with
  | here => rfl
  | there hn _ ih => rw [Items.find?, if_neg hn, ih]

/-- An item that is appended is the value of its name. -/
theorem find? (h : Items.Appends name w names vs vs') (n : String) :
    vs'.find? n names = Function.update (fun n => vs.find? n names) name (some w) n := by
  rw [Function.update_apply]
  induction h with
  | here =>
    rw [Items.find?, Items.find?, Items.find?]
    · simp only [eq_comm]
    · simp
    · simp
  | @there m names v vs vs' hm _ ih =>
    rw [Items.find?, Items.find?, ih]
    by_cases hn : n = name
    · subst hn
      rw [if_neg hm, if_pos rfl, if_pos rfl]
    · rw [if_neg hn, if_neg hn]

end Items.Appends

namespace Record

variable {α β : Type} {r : Record α} {name : String} {R : Option Node → Node → Prop}
  {v v' w : Node} {a : α}

/-- The nodes of the fields of a record, by the names of the fields. -/
def nodes (r : Record α) : Node → String → Option Node
  | .object ms => fun name => ms.find? name
  | .array vs => fun name => vs.find? name (r.slots.map (·.name))
  | _ => fun _ => none

/-- The nodes of an object are looked up by their names. -/
theorem nodes_object (ms : Members) (n : String) : r.nodes (.object ms) n = ms.find? n :=
  rfl

/-- The nodes of a list are looked up at the places of their names. -/
theorem nodes_array (vs : Items) (n : String) :
    r.nodes (.array vs) n = vs.find? n (r.slots.map (·.name)) :=
  rfl

/-- A record that is read is built of its nodes. -/
theorem build_nodes (h : r.read v = .ok a) : r.build (r.nodes v) = .ok a := by
  cases v with
  | object ms => exact (read_object_eq_ok_iff.1 h).2
  | array vs => exact (read_array_eq_ok_iff.1 h).2
  | _ => exact absurd h Reader.refuse_ne_ok

/-- What has been written to is an object or a list. -/
theorem Writes.ne_null (h : r.Writes name R v v') : v' ≠ .null := by
  rintro rfl
  cases h with
  | gained _ h => cases h
  | appended _ h => cases h
  | changed h => cases h

/-! ### Reading what has been written to -/

/-- The items are accepted with a new one, if that is one of its field. -/
theorem checkItems_appends {slots : List Slot} {slot : Slot} {expected : String} {length : ℕ}
    {vs vs' : Items} (h : Items.Appends name w (slots.map (·.name)) vs vs')
    (hfind : slots.find? (·.name = name) = some slot) (hcheck : slot.check w = .ok ())
    (hvs : checkItems expected length slots vs = .ok ()) :
    checkItems expected length slots vs' = .ok () := by
  induction slots generalizing length vs vs' with
  | nil => cases h
  | cons first slots ih =>
    cases h with
    | here =>
      rw [List.find?_cons_of_pos (by simp)] at hfind
      cases hfind
      rw [checkItems, checkRest] at hvs
      split_ifs at hvs
      exact checkItems_item.2 ⟨hcheck, by rwa [checkItems]⟩
    | there hn h =>
      rw [List.find?_cons_of_neg (by simpa using hn)] at hfind
      rw [checkItems_item] at hvs ⊢
      exact ⟨hvs.1, ih h hfind hvs.2⟩

/-- **Only the node of the field is another one**, and the record is read from its new nodes if the
written one is a value of the field. -/
theorem Writes.exists_node {f : RecordField β} (hslot : f.slot ∈ r.slots)
    (hnodup : (r.slots.map (·.name)).Nodup) (h : r.Writes f.name R v v') :
    ∃ w, R (r.nodes v f.name) w ∧ r.nodes v' = Function.update (r.nodes v) f.name (some w) ∧
      ∀ a b, r.read v = .ok a → f.read w = .ok b → r.read v' = r.build (r.nodes v') := by
  have hfind : r.slots.find? (·.name = f.name) = some f.slot := find?_slot hnodup hslot
  have hcheck : ∀ {w b}, f.read w = .ok b → f.slot.check w = .ok () :=
    fun hb => RecordField.check_eq_ok_iff.2 ⟨_, hb⟩
  cases h with
  -- an object gains a member, a list an item, or the value of a member or an item changes
  | @gained w hR h =>
    obtain ⟨hnone, h⟩ := h
    refine ⟨w, ?_, funext (h.find? hnone), fun a b hread hb => ?_⟩
    · rwa [nodes_object, hnone]
    · have hms := checkMembers_gains h hnone hfind (hcheck hb) List.not_mem_nil
        (read_object_eq_ok_iff.1 hread).1
      rw [read, hms]
      rfl
  | @appended w hR h =>
    obtain ⟨h⟩ := h
    refine ⟨w, ?_, funext h.find?, fun a b hread hb => ?_⟩
    · rwa [nodes_array, h.find?_name]
    · have hvs := checkItems_appends h hfind (hcheck hb) (read_array_eq_ok_iff.1 hread).1
      rw [read, hvs]
      rfl
  | changed h =>
    cases h with
    | @object _ w' _ _ hR h =>
      refine ⟨w', ?_, funext h.find?, fun a b hread hb => ?_⟩
      · rwa [nodes_object, h.find?_name]
      · have hms := (checkMembers_changes h hfind (read_object_eq_ok_iff.1 hread).1).2 (hcheck hb)
        rw [read, hms]
        rfl
    | @array _ w' _ _ hR h =>
      refine ⟨w', ?_, funext h.find?, fun a b hread hb => ?_⟩
      · rwa [nodes_array, h.find?_name]
      · have hvs := (checkItems_changesAt h hfind (read_array_eq_ok_iff.1 hread).1).2 (hcheck hb)
        rw [read, hvs]
        rfl

end Record

/-! ### What is made of a written value -/

variable {α β τ : Type} {t? : Option τ}

/-- **Whether a reader takes what is written**: it makes `g t` of what it read before when `t` is
what was written, and refuses the document when nothing was. -/
def Reader.Takes (read : Reader α) (t? : Option τ) (g : τ → α → α) (R : Node → Node → Prop) :
    Prop :=
  ∀ ⦃v v' a⦄, R v v' → read v = .ok a → ∀ a', read v' = .ok a' ↔ ∃ t, t? = some t ∧ a' = g t a

/-- Whether a field takes what is written. -/
def RecordField.Takes (f : RecordField β) (t? : Option τ) (g : τ → β → β)
    (R : Option Node → Node → Prop) : Prop :=
  ∀ ⦃node? w b⦄, R (node? f.name) w → f.take node? = .ok b →
    ∀ b', f.read w = .ok b' ↔ ∃ t, t? = some t ∧ b' = g t b

/-- A field takes what its reader does. -/
theorem Reader.Takes.field {f : RecordField β} {g : τ → β → β} {R : Node → Node → Prop}
    (h : f.read.Takes t? g R) : f.Takes t? g (Replaces R) := by
  intro node? w b hR hb
  obtain ⟨node, hnode⟩ : ∃ node, node? f.name = some node := by
    cases hnode : node? f.name with
    | none =>
      rw [hnode] at hR
      cases hR
    | some node => exact ⟨node, rfl⟩
  rw [RecordField.take_of_eq_some hnode] at hb
  rw [hnode] at hR
  obtain ⟨hR⟩ := hR
  exact h hR hb

/-- A list takes what the reader of its items does. -/
theorem Reader.Takes.list {read : Reader α} {g : τ → α → α} {R : Node → Node → Prop}
    (h : read.Takes t? g R) (i : ℕ) :
    (list read).Takes t? (fun t as => as.modify i (g t)) (Node.AtNth i R) := by
  rintro _ _ as ⟨hR, hitems⟩ hread as'
  rw [Reader.list] at hread ⊢
  induction hitems generalizing as as' with
  | zero =>
    obtain ⟨b, bs, hb, hbs, rfl⟩ := items_item_eq_ok_iff.1 hread
    rw [items_item_eq_ok_iff]
    constructor
    · rintro ⟨b', bs', hb', hbs', rfl⟩
      obtain ⟨t, ht, rfl⟩ := (h hR hb b').1 hb'
      obtain rfl : bs = bs' := Except.ok.inj (hbs.symm.trans hbs')
      exact ⟨t, ht, rfl⟩
    · rintro ⟨t, ht, rfl⟩
      exact ⟨g t b, bs, (h hR hb _).2 ⟨t, ht, rfl⟩, hbs, rfl⟩
  | succ _ ih =>
    obtain ⟨b, bs, hb, hbs, rfl⟩ := items_item_eq_ok_iff.1 hread
    rw [items_item_eq_ok_iff]
    constructor
    · rintro ⟨b', bs', hb', hbs', rfl⟩
      obtain ⟨t, ht, rfl⟩ := (ih hbs bs').1 hbs'
      obtain rfl : b = b' := Except.ok.inj (hb.symm.trans hb')
      exact ⟨t, ht, rfl⟩
    · rintro ⟨t, ht, rfl⟩
      exact ⟨b, _, hb, (ih hbs _).2 ⟨t, ht, rfl⟩, rfl⟩

/-- **A part of a record that one field gives**, and no other part does. -/
structure Record.Part (r : Record α) (f : RecordField β) (get : α → β) (set : β → α → α) :
    Prop where
  /-- The record has the field. -/
  slot : f.slot ∈ r.slots
  /-- Its fields have different names. -/
  nodup : (r.slots.map (·.name)).Nodup
  /-- The part is what the field takes. -/
  take : ∀ ⦃node? a⦄, r.build node? = .ok a → f.take node? = .ok (get a)
  /-- With another node of the field, the part is another one and all else is the same. -/
  build : ∀ ⦃node? a⦄, r.build node? = .ok a → ∀ w a',
    r.build (Function.update node? f.name (some w)) = .ok a' ↔
      ∃ b, f.read w = .ok b ∧ a' = set b a

/-- **A record takes what one of its fields does.** -/
theorem Record.Part.takes {r : Record α} {f : RecordField β} {get : α → β} {set : β → α → α}
    {g : τ → β → β} {R : Option Node → Node → Prop} (hpart : r.Part f get set)
    (hf : f.Takes t? g R) :
    r.read.Takes t? (fun t a => set (g t (get a)) a) (r.Writes f.name R) := by
  intro v v' a hedit hread a'
  obtain ⟨w, hR, hnodes, hread'⟩ := Writes.exists_node hpart.slot hpart.nodup hedit
  have hbuild := build_nodes hread
  have htakes := hf hR (hpart.take hbuild)
  have hset := hpart.build hbuild w
  rw [← hnodes] at hset
  constructor
  · intro h
    obtain ⟨b, hb, rfl⟩ := (hset a').1 (build_nodes h)
    obtain ⟨t, ht, rfl⟩ := (htakes b).1 hb
    exact ⟨t, ht, rfl⟩
  · rintro ⟨t, ht, rfl⟩
    have hb := (htakes _).2 ⟨t, ht, rfl⟩
    rw [hread' a _ hread hb]
    exact (hset _).2 ⟨_, hb, rfl⟩

end Json
end CourtDocket
