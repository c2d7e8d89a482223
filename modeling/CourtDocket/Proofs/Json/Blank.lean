/-
# Blank values of fields

A field that a record may lack has blank values: `null`, for a text also the empty one, for some
texts any white space.  Which ones they are is told by a table (`Blanks`), and a document may gain
one of them where the field is missing (`Node.GainsBlank`).

A field ignores its blank values when they are read and nothing of what matters is lost
(`RecordField.Ignores`).  That each field does is all that has to be known of a record: then it is
still read when it gains a blank value, and every field keeps what matters of its own value
(`Record.read_gainsBlank`).
-/

import CourtDocket.Proofs.Json.Edit
import CourtDocket.Text.Blank

namespace CourtDocket
namespace Json

namespace Node

/-- The value is `null`. -/
inductive IsNull : Node → Prop where
  | null : IsNull .null

/-- The value is `null` or an empty text. -/
inductive IsEmptyText : Node → Prop where
  | null : IsEmptyText .null
  | string {t : RawString} (ht : t.text = .ok "") : IsEmptyText (.string t)

/-- The value is `null` or a text with nothing but white space. -/
inductive IsBlankText : Node → Prop where
  | null : IsBlankText .null
  | string {t : RawString} {s : String} (ht : t.text = .ok s) (hs : Text.isBlank s) :
      IsBlankText (.string t)

end Node

/-- The blank values of the fields of a record, by name. -/
abbrev Blanks :=
  List (String × (Node → Prop))

/-- An object gains a blank value of a field that it lacks. -/
inductive Node.GainsBlank (blanks : Blanks) (v v' : Node) : Prop where
  | mk {name : String} {blank : Node → Prop} {w : Node} (hname : blanks.lookup name = some blank)
      (hw : blank w) (h : Node.Gains name w v v')

/-- What gains a member is an object before and after. -/
theorem Node.GainsBlank.ne_null {blanks : Blanks} {v v' : Node} (h : GainsBlank blanks v v') :
    v ≠ .null ∧ v' ≠ .null := by
  obtain ⟨-, -, ⟨-, -⟩⟩ := h
  exact ⟨nofun, nofun⟩

/-- An object gains a blank value that is written before its other members. -/
theorem Node.GainsBlank.cons {blanks : Blanks} {name : String} {blank : Node → Prop} {w : Json}
    {ms : List (String × Json)} (hname : blanks.lookup name = some blank) (hw : blank w.node)
    (hnone : ms.lookup name = none) :
    GainsBlank blanks (node (.object ms)) (node (.object ((name, w) :: ms))) := by
  refine .mk hname hw (.object ?_ (.here (RawString.text_ofString name)))
  rw [find?_ofList_memberNodes, nodeOf?, hnone]
  rfl

/-- A blank value is looked up where there was none. -/
inductive Blanks.Written (blanks : Blanks) (node? : String → Option Node) :
    (String → Option Node) → Prop where
  | mk {name : String} {blank : Node → Prop} {w : Node} (hname : blanks.lookup name = some blank)
      (hw : blank w) (hnone : node? name = none) :
      blanks.Written node? (Function.update node? name (some w))

/-- The values of a field that are blank are accepted. -/
def Slot.AcceptsBlank (slot : Slot) (blanks : Blanks) : Prop :=
  ∀ ⦃blank w⦄, blanks.lookup slot.name = some blank → blank w → slot.check w = .ok ()

namespace RecordField

variable {α β : Type} {f : RecordField α} {g : α → β} {blanks : Blanks}

/-- **Whether a field takes its blank values for none**, as far as `g` sees. -/
def Ignores (f : RecordField α) (g : α → β) (blanks : Blanks) : Prop :=
  ∀ ⦃blank w⦄, blanks.lookup f.name = some blank → blank w →
    ∃ a b, f.absent = some a ∧ f.read w = .ok b ∧ g b = g a

/-- A field that ignores its blanks accepts them. -/
theorem Ignores.acceptsBlank (h : f.Ignores g blanks) : f.slot.AcceptsBlank blanks := by
  intro blank w hblank hw
  obtain ⟨-, b, -, hb, -⟩ := h hblank hw
  exact check_eq_ok_iff.2 ⟨b, hb⟩

/-- A blank value is as good as none for its own field, and no other field sees it. -/
theorem Ignores.keeps (h : f.Ignores g blanks) {node? node?' : String → Option Node}
    (hwritten : blanks.Written node? node?') : f.Keeps g node? node?' := by
  obtain @⟨name, blank, w, hname, hw, hnone⟩ := hwritten
  by_cases hf : f.name = name
  · subst hf
    intro a ha
    obtain ⟨a', b, habsent, hb, hkeep⟩ := h hname hw
    rw [take_of_eq_none hnone, habsent, Option.some.injEq] at ha
    subst ha
    exact ⟨b, (f.take_update node? w).trans hb, hkeep⟩
  · exact keeps_of_eq (Function.update_of_ne hf ..) g

/-! ### The kinds of fields -/

/-- A field without blank values ignores all of them. -/
theorem ignores_of_lookup_eq_none (h : blanks.lookup f.name = none) (g : α → β) :
    f.Ignores g blanks := by
  intro blank w hblank
  rw [h] at hblank
  cases hblank

/-- A lenient field ignores `null`: it is read as the fallback, like an absent value. -/
theorem lenient_ignores_null {name : String} (h : blanks.lookup name = some Node.IsNull)
    (fallback : α) (read : Reader α) (g : α → β) :
    (lenient name fallback read).Ignores g blanks := by
  intro blank w hblank hw
  obtain rfl : Node.IsNull = blank := Option.some.inj (h.symm.trans hblank)
  cases hw
  exact ⟨fallback, fallback, rfl, rfl, rfl⟩

/-- A lenient text that falls back to none ignores an empty text. -/
theorem lenient_ignores_emptyText {name : String}
    (h : blanks.lookup name = some Node.IsEmptyText) (g : String → β) :
    (lenient name "" Reader.string).Ignores g blanks := by
  intro blank w hblank hw
  obtain rfl : Node.IsEmptyText = blank := Option.some.inj (h.symm.trans hblank)
  refine ⟨"", "", rfl, ?_, rfl⟩
  cases hw with
  | null => rfl
  | @string t ht =>
    have hread : Reader.string (.string t) = .ok "" := congrArg orMalformed ht
    have hnull : Node.string t ≠ .null := nofun
    exact (Reader.orElse_of_ne_null hnull "").trans hread

/-- A text of white space is read as it stands, so `g` must not tell it from none. -/
theorem optional_ignores_blankText {name : String}
    (h : blanks.lookup name = some Node.IsBlankText) {g : Option String → β}
    (hg : ∀ s, Text.isBlank s → g (some s) = g none) :
    (optional name Reader.string).Ignores g blanks := by
  intro blank w hblank hw
  obtain rfl : Node.IsBlankText = blank := Option.some.inj (h.symm.trans hblank)
  cases hw with
  | null => exact ⟨none, none, rfl, rfl, rfl⟩
  | @string t s ht hs =>
    have hread : Reader.string (.string t) = .ok s := congrArg orMalformed ht
    have hnull : Node.string t ≠ .null := nofun
    refine ⟨none, some s, rfl, ?_, hg s hs⟩
    exact (Reader.optional_of_ne_null hnull).trans (congrArg (Except.map some) hread)

end RecordField

/-- **A record gains a blank value.**  If all its fields accept their blank values, it is built
from the same nodes as before and that value. -/
theorem Record.read_gainsBlank {α : Type} {r : Record α} {a : α} {blanks : Blanks} {v v' : Node}
    (hnodup : (r.slots.map (·.name)).Nodup)
    (hnames : blanks.map (·.1) ⊆ r.slots.map (·.name))
    (hslots : ∀ slot ∈ r.slots, slot.AcceptsBlank blanks)
    (hedit : Node.GainsBlank blanks v v') (hread : r.read v = .ok a) :
    ∃ node? node?', r.build node? = .ok a ∧ r.read v' = r.build node?' ∧
      blanks.Written node? node?' := by
  obtain @⟨name, blank, w, hname, hw, h⟩ := hedit
  have hmem : name ∈ blanks.map (·.1) := by
    obtain ⟨l₁, l₂, rfl, -⟩ := List.lookup_eq_some_iff.1 hname
    simp
  obtain ⟨slot, hslot, rfl⟩ := List.mem_map.1 (hnames hmem)
  obtain ⟨node?, hnone, hbuild, hread'⟩ :=
    read_gains h hnodup hslot (hslots slot hslot hname hw) hread
  exact ⟨node?, _, hbuild, hread', .mk hname hw hnone⟩

end Json
end CourtDocket
