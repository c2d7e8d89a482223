/-
# Readers and the documents that they undo

A reader undoes a way of writing when it gives back every value that was written
(`Reader.Undoes`).  The readers of strings, counts, lists and maps undo the obvious documents.

A record is written as an object with a member for each field, in the order of the fields.  If each
field is read from its member, the record is built from these members (`Record.read_object`).
-/

import CourtDocket.Json.Record
import CourtDocket.Proofs.Json.Text

namespace CourtDocket
namespace Json

/-- A chain of two steps succeeds when both do. -/
theorem bind_eq_ok_iff {ε α β : Type} {x : Except ε α} {f : α → Except ε β} {b : β} :
    x >>= f = .ok b ↔ ∃ a, x = .ok a ∧ f a = .ok b := by
  cases x with
  | error e => simp [bind, Except.bind]
  | ok a => simp [bind, Except.bind]

/-- It fails when one of them does, the first one before the second. -/
theorem bind_eq_error_iff {ε α β : Type} {x : Except ε α} {f : α → Except ε β} {e : ε} :
    x >>= f = .error e ↔ x = .error e ∨ ∃ a, x = .ok a ∧ f a = .error e := by
  cases x with
  | error e => simp [bind, Except.bind]
  | ok a => simp [bind, Except.bind]

namespace Reader

variable {α : Type} {read : Reader α} {write : α → Json}

/-- **Whether a reader undoes a way of writing.** -/
def Undoes (read : Reader α) (write : α → Json) : Prop :=
  ∀ a, read (write a).node = .ok a

/-- A string is read back. -/
theorem string_undoes : string.Undoes .string := by
  intro s
  rw [node, string, text, RawString.text_ofString]
  rfl

/-- A count is read back. -/
theorem int64_undoes : int64.Undoes .count := by
  intro n
  have hlow := n.le_toInt
  have hhigh := n.toInt_lt
  have hvalue : (Numeral.ofInt n.toInt).value = .ok (.int n.toInt) :=
    Numeral.value_ofInt (by omega) (by omega)
  rw [count, node, int64]
  simp only [hvalue, orMalformed, Except.mapError, bind, Except.bind, int64?_toInt]
  rfl

/-- A choice is read back if each value is the one that its name is looked up as. -/
theorem choice_undoes {choices : List (String × α)} {name : α → String}
    (h : ∀ a, choices.lookup (name a) = some a) :
    (choice choices).Undoes fun a => .string (name a) := by
  intro a
  rw [node, choice]
  simp only [RawString.text_ofString, orMalformed, Except.mapError, bind, Except.bind, choose, h]
  rfl

/-- A list is read back if its items are. -/
theorem list_undoes (h : read.Undoes write) :
    (list read).Undoes fun as => .array (as.map write) := by
  intro as
  have hitems : items read (.ofList (nodes (as.map write))) = .ok as := by
    induction as with
    | nil => rfl
    | cons a as ih =>
      rw [List.map_cons, nodes, Items.ofList, items, h a, ih]
      rfl
  exact hitems

/-- A map is read back if its values are. -/
theorem map_undoes (h : read.Undoes write) :
    (map read).Undoes fun ms => .object (ms.map fun m => (m.1, write m.2)) := by
  intro ms
  have hmembers :
      members read (.ofList (memberNodes (ms.map fun m => (m.1, write m.2)))) = .ok ms := by
    induction ms with
    | nil => rfl
    | cons m ms ih =>
      rw [List.map_cons, memberNodes, Members.ofList, members, RawString.text_ofString, h m.2, ih]
      rfl
  exact hmembers

/-- What is not `null` is not missing. -/
theorem optional_of_ne_null {v : Node} (hv : v ≠ .null) :
    optional read v = (read v).map some := by
  cases v with
  | null => exact absurd rfl hv
  | _ => rfl

/-- What is not `null` has no need of a fallback. -/
theorem orElse_of_ne_null {v : Node} (hv : v ≠ .null) (fallback : α) :
    orElse fallback read v = read v := by
  rw [orElse, optional_of_ne_null hv]
  cases read v <;> rfl

/-- What is written as something else than `null` is not taken for a missing value. -/
theorem optional_undoes (h : read.Undoes write) (hnull : ∀ a, (write a).node ≠ .null) :
    (optional read).Undoes (.ofOption write) := by
  intro a?
  cases a? with
  | none => rfl
  | some a =>
    rw [ofOption, optional_of_ne_null (hnull a), h a]
    rfl

/-- What has a fallback is read back if it is never written as `null`. -/
theorem orElse_undoes (h : read.Undoes write) (hnull : ∀ a, (write a).node ≠ .null)
    (fallback : α) : (orElse fallback read).Undoes write := by
  intro a
  rw [orElse_of_ne_null (hnull a), h a]

/-- **A document is read when its tree is and nothing follows.** -/
theorem document_eq_ok_iff {text : List Symbol} {a : α} :
    document read text = .ok a ↔
      read (Node.ofSymbols text).1 = .ok a ∧ (Node.ofSymbols text).2 = false := by
  simp only [document, bind_eq_ok_iff]
  constructor
  · rintro ⟨b, hread, hmore⟩
    split_ifs at hmore with hstop
    · obtain ⟨_, hthrow, -⟩ := bind_eq_ok_iff.1 hmore
      cases hthrow
    · cases hmore
      exact ⟨hread, by simpa using hstop⟩
  · rintro ⟨hread, hmore⟩
    exact ⟨a, hread, by rw [hmore]; rfl⟩

end Reader

/-! ### Records -/

/-- Whether a field is read from a member of an object. -/
structure RecordField.ReadsFrom {α : Type} (f : RecordField α) (m : String × Json) (a : α) :
    Prop where
  /-- The member has the name of the field. -/
  name : m.1 = f.name
  /-- Its value is read. -/
  read : f.read m.2.node = .ok a

/-- Whether a value of a field is what a member has. -/
def Slot.Accepts (slot : Slot) (m : String × Json) : Prop :=
  m.1 = slot.name ∧ slot.check m.2.node = .ok ()

/-- A field that reads its member back accepts it. -/
theorem RecordField.ReadsFrom.accepts {α : Type} {f : RecordField α} {m : String × Json} {a : α}
    (h : f.ReadsFrom m a) : f.slot.Accepts m := by
  refine ⟨h.name, ?_⟩
  simp only [RecordField.slot, h.read]
  rfl

/-- The nodes of an object by their names. -/
def nodeOf? (ms : List (String × Json)) (name : String) : Option Node :=
  (ms.lookup name).map node

/-- A member that is written is found under its name, the first of several. -/
theorem find?_ofList_memberNodes (ms : List (String × Json)) (name : String) :
    (Members.ofList (memberNodes ms)).find? name = nodeOf? ms name := by
  induction ms with
  | nil => rfl
  | cons m ms ih =>
    obtain ⟨k, v⟩ := m
    rw [memberNodes, Members.ofList, Members.find?, RawString.text_ofString]
    simp only [nodeOf?, List.lookup_cons]
    split_ifs with hk
    · subst hk
      simp
    · rw [beq_false_of_ne (Ne.symm hk)]
      exact ih

/-- A field that reads its member back takes its value where the member is found. -/
theorem RecordField.ReadsFrom.take {α : Type} {f : RecordField α} {m : String × Json} {a : α}
    (h : f.ReadsFrom m a) {ms : List (String × Json)} (hm : ms.lookup m.1 = some m.2) :
    f.take (nodeOf? ms) = .ok a := by
  rw [RecordField.take, nodeOf?, ← h.name, hm]
  exact h.read

namespace Record

variable {α : Type} {r : Record α} {ms : List (String × Json)}

/-- Slots of different names are found by their names. -/
theorem find?_slot {slots : List Slot} (hnodup : (slots.map (·.name)).Nodup) {slot : Slot}
    (hslot : slot ∈ slots) : slots.find? (·.name = slot.name) = some slot := by
  induction slots with
  | nil => cases hslot
  | cons first slots ih =>
    rw [List.map_cons, List.nodup_cons] at hnodup
    rcases List.mem_cons.1 hslot with rfl | hslot
    · rw [List.find?_cons_of_pos (by simp)]
    · have hne : first.name ≠ slot.name := by
        intro hname
        exact hnodup.1 (hname ▸ List.mem_map_of_mem hslot)
      rw [List.find?_cons_of_neg (by simpa using hne)]
      exact ih hnodup.2 hslot

/-- The members are accepted one after another, as none of their names has been seen. -/
theorem checkMembers_ofList {slots accepting : List Slot} {seen : List String}
    (hnodup : (slots.map (·.name)).Nodup) (h : List.Forall₂ Slot.Accepts accepting ms)
    (hsub : ∀ slot ∈ accepting, slot ∈ slots) (hfresh : (accepting.map (·.name)).Nodup)
    (hseen : ∀ slot ∈ accepting, slot.name ∉ seen) :
    checkMembers slots seen (.ofList (memberNodes ms)) = .ok () := by
  induction h generalizing seen with
  | nil => rfl
  | @cons slot m accepting ms hm _ ih =>
    obtain ⟨k, v⟩ := m
    obtain ⟨hname, hcheck⟩ := hm
    obtain rfl : k = slot.name := hname
    rw [List.map_cons, List.nodup_cons] at hfresh
    have hfind := find?_slot hnodup (hsub slot (List.mem_cons_self ..))
    have hunseen := hseen slot (List.mem_cons_self ..)
    have hseen' : ∀ s ∈ accepting, s.name ∉ slot.name :: seen := by
      intro s hs hmem
      rcases List.mem_cons.1 hmem with hname | hmem
      · exact hfresh.1 (hname ▸ List.mem_map_of_mem hs)
      · exact hseen s (List.mem_cons_of_mem _ hs) hmem
    have hrest := ih (fun s hs => hsub s (List.mem_cons_of_mem _ hs)) hfresh.2 hseen'
    rw [memberNodes, Members.ofList, checkMembers, RawString.text_ofString]
    simp only [orMalformed, Except.mapError, bind, Except.bind, hfind, if_neg hunseen, hcheck]
    exact hrest

/-- **A record is read from an object with a member for each field.** -/
theorem read_object (h : List.Forall₂ Slot.Accepts r.slots ms)
    (hnodup : (r.slots.map (·.name)).Nodup) :
    r.read (node (.object ms)) = r.build (nodeOf? ms) := by
  have hcheck : checkMembers r.slots [] (.ofList (memberNodes ms)) = .ok () :=
    checkMembers_ofList hnodup h (fun _ hs => hs) hnodup fun _ _ hseen => by cases hseen
  rw [node, read, hcheck, funext (find?_ofList_memberNodes ms)]
  rfl

end Record
end Json
end CourtDocket
