/-
# Documents that are edited

A document is edited at one place: an object gains a member of a name that it did not have
(`Node.Gains`), or the value of a field of a record changes (`Record.AtField`), or an item of a
list (`Node.AtItem`).

A record is built from the values of its fields, which are looked up by their names.  So an edit
is seen by the record as another value at one name: `Record.read_gains` says so for a field that
had no value, `Record.read_atField` for one that had one.

What is read from the edited value need not be the same, only the part of it that matters: a reader
keeps a function of what it reads (`Reader.Keeps`), and a field does (`RecordField.Keeps`).
-/

import CourtDocket.Proofs.Json.Reader
import Mathlib.Logic.Function.Basic
import Mathlib.Logic.Relation

namespace CourtDocket
namespace Json

/-! ### Edits -/

/-- Somewhere among the members there is a new one. -/
inductive Members.Gains (name : String) (w : Node) : Members → Members → Prop where
  /-- It stands before all others. -/
  | here {key : RawString} {ms : Members} (hkey : key.text = .ok name) :
      Gains name w ms (.member key w ms)
  /-- It stands after another member. -/
  | there {key : RawString} {v : Node} {ms ms' : Members} (h : Gains name w ms ms') :
      Gains name w (.member key v ms) (.member key v ms')

/-- The value of the first member of a given name changes from `w` to `w'`. -/
inductive Members.Changes (name : String) (w w' : Node) : Members → Members → Prop where
  /-- The first member has the name. -/
  | here {key : RawString} {ms : Members} (hkey : key.text = .ok name) :
      Changes name w w' (.member key w ms) (.member key w' ms)
  /-- The first member has another name. -/
  | there {key : RawString} {v : Node} {ms ms' : Members} (hkey : key.text ≠ .ok name)
      (h : Changes name w w' ms ms') : Changes name w w' (.member key v ms) (.member key v ms')

/-- The item at the place that a name has among others changes from `w` to `w'`. -/
inductive Items.ChangesAt (name : String) (w w' : Node) :
    List String → Items → Items → Prop where
  /-- The first place has the name. -/
  | here {names : List String} {vs : Items} :
      ChangesAt name w w' (name :: names) (.item w vs) (.item w' vs)
  /-- The first place has another name. -/
  | there {n : String} {names : List String} {v : Node} {vs vs' : Items} (hn : n ≠ name)
      (h : ChangesAt name w w' names vs vs') :
      ChangesAt name w w' (n :: names) (.item v vs) (.item v vs')

/-- An item changes from `w` to `w'`. -/
inductive Items.Changes (w w' : Node) : Items → Items → Prop where
  /-- The first one does. -/
  | here {vs : Items} : Changes w w' (.item w vs) (.item w' vs)
  /-- One after the first does. -/
  | there {v : Node} {vs vs' : Items} (h : Changes w w' vs vs') :
      Changes w w' (.item v vs) (.item v vs')

/-- An object gains a member of a name that it did not have. -/
inductive Node.Gains (name : String) (w : Node) : Node → Node → Prop where
  /-- The member is new. -/
  | object {ms ms' : Members} (hnone : ms.find? name = none) (h : ms.Gains name w ms') :
      Gains name w (.object ms) (.object ms')

/-- An item of a list changes. -/
inductive Node.AtItem (R : Node → Node → Prop) : Node → Node → Prop where
  /-- The items change. -/
  | array {w w' : Node} {vs vs' : Items} (hR : R w w') (h : vs.Changes w w' vs') :
      AtItem R (.array vs) (.array vs')

/-- The value of a field of a record changes. -/
inductive Record.AtField {α : Type} (r : Record α) (name : String) (R : Node → Node → Prop) :
    Node → Node → Prop where
  /-- The record is an object. -/
  | object {w w' : Node} {ms ms' : Members} (hR : R w w') (h : ms.Changes name w w' ms') :
      r.AtField name R (.object ms) (.object ms')
  /-- The record is a list. -/
  | array {w w' : Node} {vs vs' : Items} (hR : R w w')
      (h : Items.ChangesAt name w w' (r.slots.map (·.name)) vs vs') :
      r.AtField name R (.array vs) (.array vs')

/-! ### Looking up members -/

namespace Members

/-- The first member decides for its own name; any other name is looked up behind it. -/
theorem find?_member {key : RawString} {k : String} (hkey : key.text = .ok k) (v : Node)
    (ms : Members) (name : String) :
    (member key v ms).find? name = if k = name then some v else ms.find? name := by
  rw [find?, hkey]

/-- A member of another name, or of none, is passed over. -/
theorem find?_member_of_ne {key : RawString} {name : String} (hkey : key.text ≠ .ok name)
    (v : Node) (ms : Members) : (member key v ms).find? name = ms.find? name := by
  rw [find?]
  split
  next k hk =>
    have hne : k ≠ name := fun h => hkey (h ▸ hk)
    rw [if_neg hne]
  next => rfl

/-- What is looked up after a member of another name changes at the same name as before it. -/
theorem find?_member_update {key : RawString} {name n : String} {w? : Option Node}
    {ms ms' : Members} (hkey : key.text ≠ .ok name) (v : Node)
    (h : ms'.find? n = Function.update (fun n => ms.find? n) name w? n) :
    (member key v ms').find? n =
      Function.update (fun n => (member key v ms).find? n) name w? n := by
  by_cases hn : n = name
  · subst hn
    rw [find?_member_of_ne hkey, h, Function.update_self, Function.update_self]
  · rw [Function.update_of_ne hn] at h ⊢
    rw [find?, find?, h]

/-- A name that is not found is not that of the first member. -/
theorem ne_of_find?_eq_none {key : RawString} {v : Node} {ms : Members} {name : String}
    (h : (member key v ms).find? name = none) : key.text ≠ .ok name := by
  intro hkey
  rw [find?_member hkey, if_pos rfl] at h
  cases h

variable {name : String} {w w' : Node} {ms ms' : Members}

/-- A member that is new is found by its name, and all others as before. -/
theorem Gains.find? (h : ms.Gains name w ms') (hnone : ms.find? name = none) (n : String) :
    ms'.find? n = Function.update (fun n => ms.find? n) name (some w) n := by
  induction h with
  | here hkey => rw [find?_member hkey, Function.update_apply]; simp only [eq_comm]
  | there _ ih =>
    have hkey := ne_of_find?_eq_none hnone
    rw [find?_member_of_ne hkey] at hnone
    exact find?_member_update hkey _ (ih hnone)

/-- The value that changes is the one that was found. -/
theorem Changes.find?_name (h : ms.Changes name w w' ms') : ms.find? name = some w := by
  induction h with
  | here hkey => rw [find?_member hkey, if_pos rfl]
  | there hkey _ ih => rw [find?_member_of_ne hkey, ih]

/-- A value that changes is found by its name, and all others as before. -/
theorem Changes.find? (h : ms.Changes name w w' ms') (n : String) :
    ms'.find? n = Function.update (fun n => ms.find? n) name (some w') n := by
  induction h with
  | here hkey =>
    rw [Function.update_apply, find?_member hkey, find?_member hkey]
    by_cases hn : n = name
    · rw [if_pos hn, if_pos hn.symm]
    · rw [if_neg hn, if_neg (Ne.symm hn), if_neg (Ne.symm hn)]
  | there hkey _ ih => exact find?_member_update hkey _ ih

end Members

/-! ### Looking up items -/

namespace Items.ChangesAt

variable {name : String} {w w' : Node} {names : List String} {vs vs' : Items}

/-- The item that changes is the one that was found. -/
theorem find?_name (h : Items.ChangesAt name w w' names vs vs') :
    vs.find? name names = some w := by
  induction h with
  | here => rw [Items.find?, if_pos rfl]
  | there hn _ ih => rw [Items.find?, if_neg hn, ih]

/-- A value that changes is found by its name, and all others as before. -/
theorem find? (h : Items.ChangesAt name w w' names vs vs') (n : String) :
    vs'.find? n names = Function.update (fun n => vs.find? n names) name (some w') n := by
  induction h with
  | here =>
    rw [Function.update_apply, Items.find?, Items.find?]
    by_cases hn : n = name
    · rw [if_pos hn, if_pos hn.symm]
    · rw [if_neg hn, if_neg (Ne.symm hn), if_neg (Ne.symm hn)]
  | @there m names v vs vs' hm _ ih =>
    rw [Function.update_apply] at ih ⊢
    rw [Items.find?, Items.find?, ih]
    by_cases hn : n = name
    · subst hn
      rw [if_neg hm, if_pos rfl, if_pos rfl]
    · rw [if_neg hn, if_neg hn]

end Items.ChangesAt

namespace Record

variable {slots : List Slot} {seen : List String} {key : RawString} {v : Node} {ms : Members}

/-- The first of members that are accepted has a name. -/
theorem exists_text_of_checkMembers
    (h : checkMembers slots seen (.member key v ms) = .ok ()) : ∃ k, key.text = .ok k := by
  cases hkey : key.text with
  | ok k => exact ⟨k, rfl⟩
  | error e => simp [checkMembers, hkey, orMalformed, Except.mapError, bind, Except.bind] at h

/-- A member that names no field is skipped. -/
theorem checkMembers_of_find?_eq_none {k : String} (hkey : key.text = .ok k)
    (hfind : slots.find? (·.name = k) = none) :
    checkMembers slots seen (.member key v ms) = .ok () ↔
      v.skip = .ok () ∧ checkMembers slots seen ms = .ok () := by
  rw [checkMembers, hkey]
  simp only [orMalformed, Except.mapError, bind, Except.bind, hfind]
  cases v.skip <;> simp

/-- A member that names a field is checked, and must be the first one. -/
theorem checkMembers_of_find?_eq_some {k : String} {slot : Slot} (hkey : key.text = .ok k)
    (hfind : slots.find? (·.name = k) = some slot) :
    checkMembers slots seen (.member key v ms) = .ok () ↔
      k ∉ seen ∧ slot.check v = .ok () ∧ checkMembers slots (k :: seen) ms = .ok () := by
  rw [checkMembers, hkey]
  simp only [orMalformed, Except.mapError, bind, Except.bind, hfind]
  by_cases hseen : k ∈ seen
  · simp [hseen, throw, throwThe, MonadExceptOf.throw]
  · simp only [if_neg hseen]
    cases slot.check v <;> simp [hseen]

/-- Names that no member has may be seen or not. -/
theorem checkMembers_of_seen {seen seen' : List String} {ms : Members}
    (h : checkMembers slots seen ms = .ok ())
    (hseen : ∀ n ∈ seen', n ∈ seen ∨ ms.find? n = none) :
    checkMembers slots seen' ms = .ok () := by
  match ms with
  | .close => rfl
  | .stop s => cases h
  | .noKey _ => cases h
  | .member key v ms =>
    obtain ⟨k, hkey⟩ := exists_text_of_checkMembers h
    -- a new seen name is not that of the first member, since it is not found among all of them
    have hrest : ∀ n ∈ seen', n ∈ seen ∨ (k ≠ n ∧ ms.find? n = none) := by
      intro n hn
      refine (hseen n hn).imp_right fun hnone => ?_
      rw [Members.find?_member hkey] at hnone
      split_ifs at hnone with hk
      exact ⟨hk, hnone⟩
    cases hfind : slots.find? (·.name = k) with
    | none =>
      rw [checkMembers_of_find?_eq_none hkey hfind] at h ⊢
      exact ⟨h.1, checkMembers_of_seen h.2 fun n hn => (hrest n hn).imp_right And.right⟩
    | some slot =>
      rw [checkMembers_of_find?_eq_some hkey hfind] at h ⊢
      obtain ⟨hk, hv, hms⟩ := h
      refine ⟨fun hmem => ?_, hv, checkMembers_of_seen hms fun n hn => ?_⟩
      · rcases hrest k hmem with hmem | ⟨hne, -⟩
        · exact hk hmem
        · exact hne rfl
      · rcases List.mem_cons.1 hn with rfl | hn
        · exact .inl (List.mem_cons_self ..)
        · exact (hrest n hn).imp (List.mem_cons_of_mem _) And.right

variable {name : String} {slot : Slot} {w w' : Node} {ms' : Members}

/-- A new member is accepted with the others, if its value is. -/
theorem checkMembers_gains (h : ms.Gains name w ms') (hnone : ms.find? name = none)
    (hfind : slots.find? (·.name = name) = some slot) (hcheck : slot.check w = .ok ())
    (hunseen : name ∉ seen) (hms : checkMembers slots seen ms = .ok ()) :
    checkMembers slots seen ms' = .ok () := by
  induction h generalizing seen with
  | here hkey =>
    rw [checkMembers_of_find?_eq_some hkey hfind]
    refine ⟨hunseen, hcheck, checkMembers_of_seen hms fun n hn => ?_⟩
    rcases List.mem_cons.1 hn with rfl | hn
    · exact .inr hnone
    · exact .inl hn
  | @there key v ms ms' _ ih =>
    have hne := Members.ne_of_find?_eq_none hnone
    rw [Members.find?_member_of_ne hne] at hnone
    obtain ⟨k, hkey⟩ := exists_text_of_checkMembers hms
    cases hslot : slots.find? (·.name = k) with
    | none =>
      rw [checkMembers_of_find?_eq_none hkey hslot] at hms ⊢
      exact ⟨hms.1, ih hnone hunseen hms.2⟩
    | some other =>
      rw [checkMembers_of_find?_eq_some hkey hslot] at hms ⊢
      obtain ⟨hk, hv, hms⟩ := hms
      have hunseen' : name ∉ k :: seen := by
        rw [List.mem_cons, not_or]
        exact ⟨fun hname => hne (hname ▸ hkey), hunseen⟩
      exact ⟨hk, hv, ih hnone hunseen' hms⟩

/-- The value of a field was accepted, and with another accepted value the members still are. -/
theorem checkMembers_changes (h : ms.Changes name w w' ms')
    (hfind : slots.find? (·.name = name) = some slot)
    (hms : checkMembers slots seen ms = .ok ()) :
    slot.check w = .ok () ∧
      (slot.check w' = .ok () → checkMembers slots seen ms' = .ok ()) := by
  induction h generalizing seen with
  | here hkey =>
    rw [checkMembers_of_find?_eq_some hkey hfind] at hms ⊢
    exact ⟨hms.2.1, fun hcheck => ⟨hms.1, hcheck, hms.2.2⟩⟩
  | there _ _ ih =>
    obtain ⟨k, hkey⟩ := exists_text_of_checkMembers hms
    cases hslot : slots.find? (·.name = k) with
    | none =>
      rw [checkMembers_of_find?_eq_none hkey hslot] at hms ⊢
      obtain ⟨hw, hrest⟩ := ih hms.2
      exact ⟨hw, fun hcheck => ⟨hms.1, hrest hcheck⟩⟩
    | some other =>
      rw [checkMembers_of_find?_eq_some hkey hslot] at hms ⊢
      obtain ⟨hk, hv, hms⟩ := hms
      obtain ⟨hw, hrest⟩ := ih hms
      exact ⟨hw, fun hcheck => ⟨hk, hv, hrest hcheck⟩⟩

/-- Items are accepted just when the first slot accepts the first item and the others accept the
rest. -/
theorem checkItems_item {expected : String} {length : Nat} {vs : Items} :
    checkItems expected length (slot :: slots) (.item v vs) = .ok () ↔
      slot.check v = .ok () ∧ checkItems expected (length + 1) slots vs = .ok () := by
  rw [checkItems]
  cases slot.check v <;> simp [bind, Except.bind]

/-- The value of a field was accepted, and with another accepted value the items still are. -/
theorem checkItems_changesAt {expected : String} {length : Nat} {vs vs' : Items}
    (h : Items.ChangesAt name w w' (slots.map (·.name)) vs vs')
    (hfind : slots.find? (·.name = name) = some slot)
    (hvs : checkItems expected length slots vs = .ok ()) :
    slot.check w = .ok () ∧
      (slot.check w' = .ok () → checkItems expected length slots vs' = .ok ()) := by
  induction slots generalizing length vs vs' with
  | nil => cases h
  | cons first slots ih =>
    cases h with
    | here =>
      rw [List.find?_cons_of_pos (by simp)] at hfind
      cases hfind
      rw [checkItems_item] at hvs ⊢
      exact ⟨hvs.1, fun hcheck => ⟨hcheck, hvs.2⟩⟩
    | there hn h =>
      rw [List.find?_cons_of_neg (by simpa using hn)] at hfind
      rw [checkItems_item] at hvs ⊢
      obtain ⟨hw, hrest⟩ := ih h hfind hvs.2
      exact ⟨hw, fun hcheck => ⟨hvs.1, hrest hcheck⟩⟩

end Record

/-! ### Reading what has been edited -/

/-- **Whether a reader keeps a part of what it reads under an edit.**  What was read before is
read afterwards, but for what `g` does not see. -/
def Reader.Keeps {α β : Type} (read : Reader α) (g : α → β) (R : Node → Node → Prop) : Prop :=
  ∀ ⦃v v' a⦄, R v v' → read v = .ok a → ∃ a', read v' = .ok a' ∧ g a' = g a

/-- Whether a field keeps a part of its value when other nodes are looked up. -/
def RecordField.Keeps {α β : Type} (f : RecordField α) (g : α → β)
    (node? node?' : String → Option Node) : Prop :=
  ∀ ⦃a⦄, f.take node? = .ok a → ∃ a', f.take node?' = .ok a' ∧ g a' = g a

variable {α β γ : Type} {R : Node → Node → Prop}

namespace RecordField

variable {f : RecordField α} {node? node?' : String → Option Node} {w : Node}

/-- A value is accepted just when it is read. -/
theorem check_eq_ok_iff : f.slot.check w = .ok () ↔ ∃ a, f.read w = .ok a := by
  simp only [slot]
  cases f.read w <;> simp [Except.map]

/-- A field takes the value that is found under its name. -/
theorem take_of_eq_some (h : node? f.name = some w) : f.take node? = f.read w := by
  rw [take, h]

/-- A field that is not found takes the value for absent fields. -/
theorem take_of_eq_none (h : node? f.name = none) {a : α} :
    f.take node? = .ok a ↔ f.absent = some a := by
  rw [take, h]
  cases f.absent <;> simp [pure, Except.pure, throw, throwThe, MonadExceptOf.throw]

/-- A field only looks for its own name. -/
theorem take_congr (h : node?' f.name = node? f.name) : f.take node?' = f.take node? := by
  rw [take, take, h]

/-- A field takes the value that is put under its name. -/
theorem take_update (f : RecordField α) (node? : String → Option Node) (w : Node) :
    f.take (Function.update node? f.name (some w)) = f.read w :=
  take_of_eq_some (Function.update_self ..)

/-- A field does not see what is put under another name. -/
theorem take_update_of_ne {name : String} (h : f.name ≠ name) (w? : Option Node) :
    f.take (Function.update node? name w?) = f.take node? :=
  take_congr (Function.update_of_ne h ..)

/-- A field keeps all of its value when the same is found under its name. -/
theorem keeps_of_eq (h : node?' f.name = node? f.name) (g : α → β) : f.Keeps g node? node?' :=
  fun a ha => ⟨a, (take_congr h).trans ha, rfl⟩

/-- A field that keeps all of its value has the same value. -/
theorem Keeps.take (h : f.Keeps (fun a => a) node? node?') {a : α} (ha : f.take node? = .ok a) :
    f.take node?' = .ok a := by
  obtain ⟨_, ha', rfl⟩ := h ha
  exact ha'

end RecordField

namespace Reader

variable {read : Reader α} {g : α → β}

/-- A value that is edited so that its reader keeps a part of it is still accepted. -/
theorem Keeps.check {f : RecordField α} {w w' : Node} (h : f.read.Keeps g R) (hR : R w w')
    (hcheck : f.slot.check w = .ok ()) : f.slot.check w' = .ok () := by
  obtain ⟨a, ha⟩ := RecordField.check_eq_ok_iff.1 hcheck
  obtain ⟨a', ha', -⟩ := h hR ha
  exact RecordField.check_eq_ok_iff.2 ⟨a', ha'⟩

/-- What is kept of a value is kept of the field that has it. -/
theorem Keeps.field {f : RecordField α} {node? : String → Option Node} {w w' : Node}
    (h : f.read.Keeps g R) (hw : node? f.name = some w) (hR : R w w') :
    f.Keeps g node? (Function.update node? f.name (some w')) := by
  intro a ha
  rw [RecordField.take_of_eq_some hw] at ha
  rw [RecordField.take_update]
  exact h hR ha

/-- A run of edits keeps what each of them keeps. -/
theorem Keeps.reflTransGen (h : read.Keeps g R) : read.Keeps g (Relation.ReflTransGen R) := by
  intro v v' a hrun hread
  induction hrun with
  | refl => exact ⟨a, hread, rfl⟩
  | tail _ hedit ih =>
    obtain ⟨b, hb, hkeep⟩ := ih
    obtain ⟨c, hc, hkeep'⟩ := h hedit hb
    exact ⟨c, hc, hkeep'.trans hkeep⟩

/-- A list is read just when its first item and the rest are. -/
theorem items_item_eq_ok_iff {v : Node} {vs : Items} {as : List α} :
    items read (.item v vs) = .ok as ↔
      ∃ b bs, read v = .ok b ∧ items read vs = .ok bs ∧ b :: bs = as := by
  simp only [items, bind_eq_ok_iff, pure, Except.pure, Except.ok.injEq, exists_and_left]

/-- An edit of an item keeps of a list what it keeps of the item. -/
theorem Keeps.list (h : read.Keeps g R) : (list read).Keeps (List.map g) (Node.AtItem R) := by
  rintro _ _ as ⟨hR, hitems⟩ hread
  rw [Reader.list] at hread ⊢
  induction hitems generalizing as with
  | here =>
    obtain ⟨b, bs, hb, hbs, rfl⟩ := items_item_eq_ok_iff.1 hread
    obtain ⟨b', hb', hkeep⟩ := h hR hb
    refine ⟨b' :: bs, items_item_eq_ok_iff.2 ⟨b', bs, hb', hbs, rfl⟩, ?_⟩
    rw [List.map_cons, List.map_cons, hkeep]
  | there _ ih =>
    obtain ⟨b, bs, hb, hbs, rfl⟩ := items_item_eq_ok_iff.1 hread
    obtain ⟨bs', hbs', hkeep⟩ := ih hbs
    refine ⟨b :: bs', items_item_eq_ok_iff.2 ⟨b, bs', hb, hbs', rfl⟩, ?_⟩
    rw [List.map_cons, List.map_cons, hkeep]

/-- A fallback does not matter to edits of values that are not `null`. -/
theorem Keeps.orElse (h : read.Keeps g R) (hnull : ∀ v v', R v v' → v ≠ .null ∧ v' ≠ .null)
    (fallback : α) : (orElse fallback read).Keeps g R := by
  intro v v' a hR hread
  obtain ⟨hv, hv'⟩ := hnull v v' hR
  rw [orElse_of_ne_null hv] at hread
  rw [orElse_of_ne_null hv']
  exact h hR hread

end Reader

namespace Record

variable {r : Record α} {a : α} {v v' w : Node} {slot : Slot}

/-- **A field gains a value.**  It had none, and the record is built with it. -/
theorem read_gains (hedit : Node.Gains slot.name w v v') (hnodup : (r.slots.map (·.name)).Nodup)
    (hslot : slot ∈ r.slots) (hcheck : slot.check w = .ok ()) (hread : r.read v = .ok a) :
    ∃ node?, node? slot.name = none ∧ r.build node? = .ok a ∧
      r.read v' = r.build (Function.update node? slot.name (some w)) := by
  have hfind := find?_slot hnodup hslot
  cases hedit with
  | object hnone h =>
    rw [read, bind_eq_ok_iff] at hread
    obtain ⟨_, hms, hbuild⟩ := hread
    have hms' := checkMembers_gains h hnone hfind hcheck List.not_mem_nil hms
    refine ⟨_, hnone, hbuild, ?_⟩
    rw [read, hms', funext (h.find? hnone)]
    rfl

/-- **A field changes its value.**  The record is built with the new value, and all other fields
are as before. -/
theorem read_atField {f : RecordField β} {g : β → γ} (hslot : f.slot ∈ r.slots)
    (hnodup : (r.slots.map (·.name)).Nodup) (hkeeps : f.read.Keeps g R)
    (hedit : r.AtField f.name R v v') (hread : r.read v = .ok a) :
    ∃ node? node?', r.build node? = .ok a ∧ r.read v' = r.build node?' ∧
      f.Keeps g node? node?' ∧
      ∀ {γ : Type} (other : RecordField γ), other.name ≠ f.name →
        other.take node?' = other.take node? := by
  have hfind := find?_slot hnodup hslot
  cases hedit with
  | @object w w' ms ms' hR h =>
    rw [read, bind_eq_ok_iff] at hread
    obtain ⟨_, hms, hbuild⟩ := hread
    obtain ⟨hw, hms'⟩ := checkMembers_changes h hfind hms
    refine ⟨_, fun n => ms'.find? n, hbuild, ?_, ?_, ?_⟩
    · rw [read, hms' (hkeeps.check hR hw)]
      rfl
    · rw [funext h.find?]
      exact hkeeps.field h.find?_name hR
    · intro _ other hother
      exact RecordField.take_congr ((h.find? other.name).trans (Function.update_of_ne hother ..))
  | @array w w' vs vs' hR h =>
    rw [read, bind_eq_ok_iff] at hread
    obtain ⟨_, hvs, hbuild⟩ := hread
    obtain ⟨hw, hvs'⟩ := checkItems_changesAt h hfind hvs
    refine ⟨_, fun n => vs'.find? n (r.slots.map (·.name)), hbuild, ?_, ?_, ?_⟩
    · rw [read, hvs' (hkeeps.check hR hw)]
      rfl
    · rw [funext h.find?]
      exact hkeeps.field h.find?_name hR
    · intro _ other hother
      exact RecordField.take_congr ((h.find? other.name).trans (Function.update_of_ne hother ..))

end Record

end Json
end CourtDocket
