/-
# Documents that are arranged otherwise

The members of an object may stand in any order (`Node.Reorders`), and a record may have members
that it does not know (`Node.Rearranges`).  Where the records of a document are is told by its
shape (`Shape`); what is not a record, such as an object whose names are free, must not gain
members.

A reader follows such changes when it reads the document before and after alike, as far as a
function of what it reads can tell (`Reader.Follows`).  The readers of values do; a list or a field
does when its reader does; a record does when its fields do (`Record.read_follows`), for two
reasons:

* whether its members are accepted does not depend on their order, and unknown ones are skipped
  (`Record.checkMembers_eq_ok_iff`);
* its fields are looked up by name, which finds the same values, or values arranged otherwise
  (`Shape.Looked`).
-/

import CourtDocket.Proofs.Json.Edit
import CourtDocket.Proofs.Json.Spelling
import Mathlib.Data.List.Perm.Basic
import Mathlib.Data.Option.Basic

namespace CourtDocket
namespace Json

/-! ### Changes of the arrangement -/

/-- Whether no name stands twice among the members. -/
def NamesDiffer (ms : List (RawString × Node)) : Prop :=
  ms.Pairwise fun m m' => ∀ k, m.1.text = .ok k → m'.1.text ≠ .ok k

/-- **The members of an object change their order**, somewhere in a tree. -/
inductive Node.Reorders : Node → Node → Prop where
  /-- Those of the object itself. -/
  | object {ms ms' : List (RawString × Node)} (hdiffer : NamesDiffer ms) (hperm : ms.Perm ms') :
      Node.Reorders (.object (.ofList ms)) (.object (.ofList ms'))
  /-- Those of an object in an item. -/
  | item {vs ws : List Node} {v v' : Node} (h : Node.Reorders v v') :
      Node.Reorders (.array (.ofList (vs ++ v :: ws))) (.array (.ofList (vs ++ v' :: ws)))
  /-- Those of an object in a member. -/
  | member {ms ns : List (RawString × Node)} {key : RawString} {v v' : Node}
      (h : Node.Reorders v v') :
      Node.Reorders (.object (.ofList (ms ++ (key, v) :: ns)))
        (.object (.ofList (ms ++ (key, v') :: ns)))

/-- Where the records are in a document. -/
inductive Shape where
  /-- There are none. -/
  | plain
  /-- In the items of a list. -/
  | list (item : Shape)
  /-- A record: the names of its fields, and those of them that have records. -/
  | record (names : List String) (fields : List (String × Shape))

/-- The shape of a field. -/
def Shape.field (fields : List (String × Shape)) (name : String) : Shape :=
  (fields.lookup name).getD .plain

/-- **A document is arranged otherwise**: an object is reordered, or a record gains a member. -/
inductive Node.Rearranges : Shape → Node → Node → Prop where
  /-- The members of an object change their order. -/
  | reorder {σ : Shape} {v v' : Node} (h : v.Reorders v') : Node.Rearranges σ v v'
  /-- A record gains a member of a name that it does not know, with a value that has no fault. -/
  | insert {names : List String} {fields : List (String × Shape)}
      {ms ns : List (RawString × Node)} {key : RawString} {name : String} {w : Node}
      (hkey : key.text = .ok name) (hname : name ∉ names) (hw : w.skip = .ok ()) :
      Node.Rearranges (.record names fields) (.object (.ofList (ms ++ ns)))
        (.object (.ofList (ms ++ (key, w) :: ns)))
  /-- An item is arranged otherwise. -/
  | item {σ : Shape} {vs ws : List Node} {v v' : Node} (h : Node.Rearranges σ v v') :
      Node.Rearranges (.list σ) (.array (.ofList (vs ++ v :: ws)))
        (.array (.ofList (vs ++ v' :: ws)))
  /-- A field is arranged otherwise. -/
  | field {names : List String} {fields : List (String × Shape)}
      {ms ns : List (RawString × Node)} {key : RawString} {name : String} {v v' : Node}
      (hkey : key.text = .ok name) (h : Node.Rearranges (Shape.field fields name) v v') :
      Node.Rearranges (.record names fields) (.object (.ofList (ms ++ (key, v) :: ns)))
        (.object (.ofList (ms ++ (key, v') :: ns)))

/-- **Whether a reader follows the arrangement of what it reads.**  What it reads has no fault, and
what `g` sees of it does not change when the document is arranged otherwise. -/
structure Reader.Follows {α β : Type} (read : Reader α) (g : α → β) (σ : Shape) : Prop where
  /-- There is no fault. -/
  skip : ∀ ⦃v a⦄, read v = .ok a → v.skip = .ok ()
  /-- Nothing changes. -/
  keeps : read.Keeps g (Node.Rearranges σ)

/-! ### Lists and objects without faults -/

/-- A function of what a step gives succeeds when the step does. -/
theorem map_eq_ok_iff {ε α β : Type} {x : Except ε α} {f : α → β} {b : β} :
    x.map f = .ok b ↔ ∃ a, x = .ok a ∧ f a = b := by
  cases x <;> simp [Except.map]

/-- A string has a text only if it has an end. -/
theorem RawString.ending_of_chars {ending : StringEnd} {pieces : List Piece}
    {cs : List (Option Char)} (h : chars ending pieces = .ok cs) : ending = .closed := by
  fun_induction chars ending pieces generalizing cs
  case case1 =>
    obtain ⟨_, hskip, -⟩ := map_eq_ok_iff.1 h
    exact skip_eq_ok_iff.1 hskip
  case case5 | case7 | case8 | case9 | case10 | case11 => cases h
  all_goals
    rename_i ih
    obtain ⟨_, hchars, -⟩ := map_eq_ok_iff.1 h
    exact ih hchars

/-- A string that has a text can be skipped. -/
theorem RawString.skip_of_text {t : RawString} {s : String} (h : t.text = .ok s) :
    t.skip = .ok () := by
  rw [text, bind_eq_ok_iff] at h
  obtain ⟨_, hchars, -⟩ := h
  exact skip_eq_ok_iff.2 (ending_of_chars hchars)

section Skip

variable {vs : List Node} {ms : List (RawString × Node)} {v v' : Node}

/-- A list has no fault just when none of its items has. -/
theorem skip_ofList_items : (Items.ofList vs).skip = .ok () ↔ ∀ v ∈ vs, v.skip = .ok () := by
  induction vs with
  | nil => exact iff_of_true rfl (List.forall_mem_nil _)
  | cons v vs ih => rw [Items.ofList, Items.skip_item, List.forall_mem_cons, ih]

/-- An object has no fault just when none of its names and values has. -/
theorem skip_ofList_members :
    (Members.ofList ms).skip = .ok () ↔ ∀ m ∈ ms, m.1.skip = .ok () ∧ m.2.skip = .ok () := by
  induction ms with
  | nil => exact iff_of_true rfl (List.forall_mem_nil _)
  | cons m ms ih =>
    rw [Members.ofList, Members.skip_member, List.forall_mem_cons, ih, and_assoc]

/-- What has no fault has none in another order. -/
theorem Node.Reorders.skip (h : v.Reorders v') (hv : v.skip = .ok ()) : v'.skip = .ok () := by
  induction h with
  | object _ hperm =>
    rw [Node.skip, skip_ofList_members] at hv ⊢
    exact fun m hm => hv m (hperm.mem_iff.2 hm)
  | @item vs ws v v' _ ih =>
    rw [Node.skip, skip_ofList_items] at hv ⊢
    simp only [List.forall_mem_append, List.forall_mem_cons] at hv ⊢
    exact ⟨hv.1, ih hv.2.1, hv.2.2⟩
  | @member ms ns key v v' _ ih =>
    rw [Node.skip, skip_ofList_members] at hv ⊢
    simp only [List.forall_mem_append, List.forall_mem_cons] at hv ⊢
    exact ⟨hv.1, ⟨hv.2.1.1, ih hv.2.1.2⟩, hv.2.2⟩

/-- What has no fault has none in another arrangement. -/
theorem Node.Rearranges.skip {σ : Shape} (h : Node.Rearranges σ v v') (hv : v.skip = .ok ()) :
    v'.skip = .ok () := by
  induction h with
  | reorder h => exact h.skip hv
  | insert hkey _ hw =>
    rw [Node.skip, skip_ofList_members] at hv ⊢
    simp only [List.forall_mem_append, List.forall_mem_cons] at hv ⊢
    exact ⟨hv.1, ⟨RawString.skip_of_text hkey, hw⟩, hv.2⟩
  | item _ ih =>
    rw [Node.skip, skip_ofList_items] at hv ⊢
    simp only [List.forall_mem_append, List.forall_mem_cons] at hv ⊢
    exact ⟨hv.1, ih hv.2.1, hv.2.2⟩
  | field _ _ ih =>
    rw [Node.skip, skip_ofList_members] at hv ⊢
    simp only [List.forall_mem_append, List.forall_mem_cons] at hv ⊢
    exact ⟨hv.1, ⟨hv.2.1.1, ih hv.2.1.2⟩, hv.2.2⟩

/-- Only lists and objects are arranged otherwise. -/
theorem Node.Rearranges.ne_null {σ : Shape} (h : Node.Rearranges σ v v') :
    v ≠ .null ∧ v' ≠ .null := by
  cases h with
  | reorder h => cases h <;> exact ⟨nofun, nofun⟩
  | insert _ _ _ => exact ⟨nofun, nofun⟩
  | item _ => exact ⟨nofun, nofun⟩
  | field _ _ => exact ⟨nofun, nofun⟩

/-- Objects are the same just when their members are. -/
theorem ofList_members_inj {ms ms' : List (RawString × Node)} :
    Members.ofList ms = .ofList ms' ↔ ms = ms' := by
  refine ⟨fun h => ?_, congrArg _⟩
  induction ms generalizing ms' with
  | nil =>
    cases ms' with
    | nil => rfl
    | cons m ms' => cases h
  | cons m ms ih =>
    cases ms' with
    | nil => cases h
    | cons m' ms' =>
      obtain ⟨key, v⟩ := m
      obtain ⟨key', v'⟩ := m'
      rw [Members.ofList, Members.ofList, Members.member.injEq] at h
      obtain ⟨rfl, rfl, h⟩ := h
      rw [ih h]

/-- An item between others is one that may change. -/
theorem changes_ofList (vs ws : List Node) (v v' : Node) :
    (Items.ofList (vs ++ v :: ws)).Changes v v' (.ofList (vs ++ v' :: ws)) := by
  induction vs with
  | nil => exact .here
  | cons _ vs ih => exact .there ih

end Skip

/-! ### Readers of values -/

/-- What is no fault of the text is what was found. -/
theorem orMalformed_eq_ok_iff {α : Type} {x : Except SyntaxFault α} {a : α} :
    orMalformed x = .ok a ↔ x = .ok a := by
  cases x <;> simp [orMalformed, Except.mapError]

namespace Reader

variable {α β : Type} {read : Reader α} {g : α → β} {σ : Shape}

/-- A reader of records also follows what happens to values without records. -/
theorem Follows.plain (h : read.Follows g σ) : read.Follows g .plain where
  skip := h.skip
  keeps := by
    rintro v v' a ⟨hreorders⟩ hread
    exact h.keeps (.reorder hreorders) hread

/-- What is no list and no object is not arranged otherwise. -/
theorem follows_of_atom (hskip : ∀ ⦃v a⦄, read v = .ok a → v.skip = .ok ())
    (hlist : ∀ vs a, read (.array vs) ≠ .ok a) (hobject : ∀ ms a, read (.object ms) ≠ .ok a)
    (g : α → β) : read.Follows g .plain where
  skip := hskip
  keeps := by
    rintro v v' a ⟨h⟩ hread
    cases h with
    | object => exact absurd hread (hobject _ _)
    | item => exact absurd hread (hlist _ _)
    | member => exact absurd hread (hobject _ _)

/-- A node that is refused is not read. -/
theorem refuse_ne_ok {expected : String} {v : Node} {a : α} : refuse expected v ≠ .ok a := by
  rw [refuse]
  cases v.found <;> nofun

/-- A reader of texts follows any arrangement: a text has none. -/
theorem text_follows (expected : String) (g : String → β) :
    (text expected).Follows g .plain := by
  refine follows_of_atom (fun v a hread => ?_) nofun nofun g
  cases v with
  | string t => exact RawString.skip_of_text (orMalformed_eq_ok_iff.1 hread)
  | _ => exact absurd hread refuse_ne_ok

/-- The reader of strings follows any arrangement. -/
theorem string_follows (g : String → β) : string.Follows g .plain :=
  text_follows _ g

/-- The reader of counts follows any arrangement. -/
theorem int64_follows (g : Int64 → β) : int64.Follows g .plain := by
  refine follows_of_atom (fun v a hread => ?_) nofun nofun g
  cases v with
  | number n => rfl
  | _ => exact absurd hread refuse_ne_ok

/-- The object that stands for a choice has one member, and its value is `null`. -/
theorem exists_of_choice_object {choices : List (String × α)} {ms : Members} {a : α}
    (h : choice choices (.object ms) = .ok a) :
    ∃ key, ms = .member key .null .close ∧ key.skip = .ok () := by
  cases ms with
  | member key v rest =>
    rw [choice, bind_eq_ok_iff] at h
    obtain ⟨s, hkey, h⟩ := h
    rw [bind_eq_ok_iff] at h
    obtain ⟨_, -, h⟩ := h
    refine ⟨key, ?_, RawString.skip_of_text (orMalformed_eq_ok_iff.1 hkey)⟩
    cases v with
    | null =>
      cases rest with
      | close => rfl
      | stop s => cases s <;> cases h
      | noKey _ => cases h
      | member _ _ _ => cases h
    | _ =>
      obtain ⟨_, hunit, -⟩ := bind_eq_ok_iff.1 h
      exact absurd hunit refuse_ne_ok
  | noKey _ => cases h
  | stop _ => cases h
  | close => cases h

/-- A choice is a string, or an object that has no other arrangement. -/
theorem choice_follows (choices : List (String × α)) (g : α → β) :
    (choice choices).Follows g .plain where
  skip v a hread := by
    cases v with
    | string t =>
      rw [choice, bind_eq_ok_iff] at hread
      obtain ⟨_, htext, -⟩ := hread
      exact RawString.skip_of_text (orMalformed_eq_ok_iff.1 htext)
    | object ms =>
      obtain ⟨key, rfl, hkey⟩ := exists_of_choice_object hread
      rw [Node.skip]
      exact Members.skip_member.2 ⟨hkey, rfl, rfl⟩
    | broken f => cases hread
    | null => cases hread
    | bool b => cases hread
    | number n => cases hread
    | array vs => cases hread
  keeps := by
    rintro v v' a ⟨h⟩ hread
    cases h with
    | @object ms ms' _ hperm =>
      obtain ⟨key, hms, -⟩ := exists_of_choice_object hread
      obtain rfl : ms = [(key, .null)] := ofList_members_inj.1 hms
      obtain rfl := List.singleton_perm.1 hperm
      exact ⟨a, hread, rfl⟩
    | item => cases hread
    | @member ms ns key v v' h =>
      -- the value of the only member is `null`, which has no other arrangement
      obtain ⟨other, hms, -⟩ := exists_of_choice_object hread
      have hmem : (key, v) ∈ ms ++ (key, v) :: ns := by simp
      rw [ofList_members_inj.1 (hms.trans (show _ = Members.ofList [(other, .null)] from rfl)),
        List.mem_singleton] at hmem
      cases hmem
      cases h

/-- What may be missing follows the arrangements that its reader follows. -/
theorem Follows.optional (h : read.Follows (fun a => a) σ) :
    (optional read).Follows (fun a => a) σ where
  skip v a hread := by
    by_cases hv : v = .null
    · rw [hv]
      rfl
    · rw [optional_of_ne_null hv, map_eq_ok_iff] at hread
      obtain ⟨_, hread, -⟩ := hread
      exact h.skip hread
  keeps := by
    intro v v' a hedit hread
    obtain ⟨hv, hv'⟩ := hedit.ne_null
    rw [optional_of_ne_null hv, map_eq_ok_iff] at hread
    obtain ⟨b, hread, rfl⟩ := hread
    obtain ⟨_, hread', rfl⟩ := h.keeps hedit hread
    exact ⟨some _, by rw [optional_of_ne_null hv', hread']; rfl, rfl⟩

/-- What has a fallback follows the arrangements that its reader follows. -/
theorem Follows.orElse (h : read.Follows g σ) (fallback : α) :
    (orElse fallback read).Follows g σ where
  skip v a hread := by
    by_cases hv : v = .null
    · rw [hv]
      rfl
    · rw [orElse_of_ne_null hv] at hread
      exact h.skip hread
  keeps := h.keeps.orElse (fun _ _ hedit => hedit.ne_null) fallback

/-- Items that are read have no fault, if what is read of each has none. -/
theorem skip_of_items (h : ∀ ⦃v a⦄, read v = .ok a → v.skip = .ok ()) {vs : Items} {as : List α}
    (hread : items read vs = .ok as) : vs.skip = .ok () := by
  match vs with
  | .close => rfl
  | .stop _ => cases hread
  | .item v vs =>
    obtain ⟨_, _, hv, hvs, -⟩ := items_item_eq_ok_iff.1 hread
    exact Items.skip_item.2 ⟨h hv, skip_of_items h hvs⟩

/-- Members that are read have no fault, if what is read of each has none. -/
theorem skip_of_members (h : ∀ ⦃v a⦄, read v = .ok a → v.skip = .ok ()) {ms : Members}
    {as : List (String × α)} (hread : members read ms = .ok as) : ms.skip = .ok () := by
  match ms with
  | .close => rfl
  | .stop _ => cases hread
  | .noKey _ => cases hread
  | .member key v ms =>
    simp only [members, bind_eq_ok_iff, orMalformed_eq_ok_iff] at hread
    obtain ⟨_, hkey, _, hv, _, hms, -⟩ := hread
    exact Members.skip_member.2 ⟨RawString.skip_of_text hkey, h hv, skip_of_members h hms⟩

/-- A list follows the arrangements in its items. -/
theorem Follows.list (h : read.Follows (fun a => a) σ) :
    (list read).Follows (fun as => as) (.list σ) where
  skip v as hread := by
    cases v with
    | array vs =>
      rw [Reader.list] at hread
      rw [Node.skip]
      exact skip_of_items h.skip hread
    | _ => exact absurd hread refuse_ne_ok
  keeps := by
    intro v v' as hedit hread
    -- the items are those of a list, one of which is arranged otherwise
    have hitem : Node.AtItem (Node.Rearranges σ) v v' := by
      cases hedit with
      | reorder hreorders =>
        cases hreorders with
        | object => exact absurd hread refuse_ne_ok
        | item h => exact .array (.reorder h) (changes_ofList ..)
        | member => exact absurd hread refuse_ne_ok
      | item h => exact .array h (changes_ofList ..)
    obtain ⟨as', hread', hkeep⟩ := h.keeps.list hitem hread
    rw [List.map_id', List.map_id'] at hkeep
    exact ⟨as', hread', hkeep⟩

end Reader

/-! ### Looking up the fields of a record -/

section Looking

variable {ms ns ms' : List (RawString × Node)} {name : String} {w : Node}

/-- A name is looked up among some members and then among those behind them. -/
theorem find?_append (ms ns : List (RawString × Node)) (name : String) :
    (Members.ofList (ms ++ ns)).find? name =
      ((Members.ofList ms).find? name).or ((Members.ofList ns).find? name) := by
  induction ms with
  | nil => rfl
  | cons m ms ih =>
    obtain ⟨key, v⟩ := m
    rw [List.cons_append, Members.ofList, Members.ofList]
    by_cases hkey : key.text = .ok name
    · rw [Members.find?_member hkey, Members.find?_member hkey, if_pos rfl, if_pos rfl]
      rfl
    · rw [Members.find?_member_of_ne hkey, Members.find?_member_of_ne hkey, ih]

/-- When no name stands twice, every member is found. -/
theorem find?_eq_some_iff (hdiffer : NamesDiffer ms) :
    (Members.ofList ms).find? name = some w ↔ ∃ key, key.text = .ok name ∧ (key, w) ∈ ms := by
  induction ms with
  | nil => exact iff_of_false nofun (by simp)
  | cons m ms ih =>
    obtain ⟨key, v⟩ := m
    obtain ⟨hfirst, hdiffer⟩ := List.pairwise_cons.1 hdiffer
    rw [Members.ofList]
    by_cases hkey : key.text = .ok name
    · rw [Members.find?_member hkey, if_pos rfl, Option.some_inj]
      constructor
      · rintro rfl
        exact ⟨key, hkey, List.mem_cons_self ..⟩
      · rintro ⟨key', hkey', hmem⟩
        rcases List.mem_cons.1 hmem with heq | hmem
        · exact (congrArg Prod.snd heq).symm
        · exact absurd hkey' (hfirst _ hmem name hkey)
    · rw [Members.find?_member_of_ne hkey, ih hdiffer]
      refine exists_congr fun key' => and_congr_right fun hkey' => ?_
      rw [List.mem_cons, or_iff_right]
      rintro ⟨rfl, -⟩
      exact hkey hkey'

/-- Names differ in any order. -/
theorem NamesDiffer.perm (hdiffer : NamesDiffer ms) (hperm : ms.Perm ms') : NamesDiffer ms' :=
  hperm.pairwise hdiffer fun h k hk hk' => h k hk' hk

/-- Members that are written with different names have different names. -/
theorem namesDiffer_memberNodes {ms : List (String × Json)} (h : (ms.map (·.1)).Nodup) :
    NamesDiffer (memberNodes ms) := by
  have htexts : (memberNodes ms).map (·.1.text) = ms.map fun m => .ok m.1 := by
    clear h
    induction ms with
    | nil => rfl
    | cons m ms ih => rw [memberNodes, List.map_cons, List.map_cons, ih, RawString.text_ofString]
  have hnames : (ms.map fun m => (Except.ok m.1 : Except SyntaxFault String)).Pairwise
      fun x y => ∀ k, x = .ok k → y ≠ .ok k := by
    rw [List.Nodup, List.pairwise_map] at h
    rw [List.pairwise_map]
    refine h.imp fun hne k hk hk' => hne ?_
    exact (Except.ok.inj hk).trans (Except.ok.inj hk').symm
  rw [← htexts, List.pairwise_map] at hnames
  exact hnames

/-- The order of the members does not matter for what is found. -/
theorem find?_perm (hdiffer : NamesDiffer ms) (hperm : ms.Perm ms') (name : String) :
    (Members.ofList ms').find? name = (Members.ofList ms).find? name := by
  refine Option.ext fun w => ?_
  simp only [find?_eq_some_iff hdiffer, find?_eq_some_iff (hdiffer.perm hperm),
    hperm.mem_iff]

/-- **What is looked up when a document is arranged otherwise**: the same, or a value of the field
that is arranged otherwise. -/
inductive Shape.Looked (σ : Shape) (v? v?' : Option Node) : Prop where
  /-- Nothing has changed. -/
  | same (h : v?' = v?)
  /-- The value is arranged otherwise. -/
  | rearranged {v v' : Node} (hv : v? = some v) (hv' : v?' = some v')
      (h : Node.Rearranges σ v v')

variable {σ : Shape} {key : RawString} {v v' : Node}

/-- A member that is arranged otherwise is seen by those who look it up. -/
theorem looked_member (ms ns : List (RawString × Node))
    (h : key.text = .ok name → Node.Rearranges σ v v') :
    σ.Looked ((Members.ofList (ms ++ (key, v) :: ns)).find? name)
      ((Members.ofList (ms ++ (key, v') :: ns)).find? name) := by
  rw [find?_append, find?_append]
  cases hms : (Members.ofList ms).find? name with
  | some w => exact .same rfl
  | none =>
    rw [Option.none_or, Option.none_or, Members.ofList, Members.ofList]
    by_cases hkey : key.text = .ok name
    · refine .rearranged ?_ ?_ (h hkey)
      · rw [Members.find?_member hkey, if_pos rfl]
      · rw [Members.find?_member hkey, if_pos rfl]
    · rw [Members.find?_member_of_ne hkey, Members.find?_member_of_ne hkey]
      exact .same rfl

/-- An item that is arranged otherwise is seen by those who look it up. -/
theorem looked_item (names : List String) (vs ws : List Node) (h : Node.Rearranges σ v v') :
    σ.Looked ((Items.ofList (vs ++ v :: ws)).find? name names)
      ((Items.ofList (vs ++ v' :: ws)).find? name names) := by
  induction vs generalizing names with
  | nil =>
    cases names with
    | nil => exact .same rfl
    | cons n names =>
      rw [List.nil_append, List.nil_append, Items.ofList, Items.ofList, Items.find?, Items.find?]
      split_ifs
      · exact .rearranged rfl rfl h
      · exact .same rfl
  | cons u vs ih =>
    cases names with
    | nil => exact .same rfl
    | cons n names =>
      rw [List.cons_append, List.cons_append, Items.ofList, Items.ofList, Items.find?, Items.find?]
      split_ifs
      · exact .same rfl
      · exact ih names

end Looking

/-! ### Records -/

/-- Whether a field follows the arrangement of its values. -/
structure Slot.Follows (slot : Slot) (σ : Shape) : Prop where
  /-- A value that is accepted has no fault. -/
  skip : ∀ ⦃w⦄, slot.check w = .ok () → w.skip = .ok ()
  /-- It is accepted in any arrangement. -/
  keeps : ∀ ⦃w w'⦄, Node.Rearranges σ w w' → slot.check w = .ok () → slot.check w' = .ok ()

/-- The shape of a record, some of whose fields have records. -/
def Record.shape {α : Type} (r : Record α) (fields : List (String × Shape)) : Shape :=
  .record (r.slots.map (·.name)) fields

namespace Reader.Follows

variable {α β : Type} {f : RecordField α} {g : α → β} {σ : Shape}
  {node? node?' : String → Option Node}

/-- The slot of a field follows the arrangements that its reader follows. -/
theorem slot (h : f.read.Follows g σ) : f.slot.Follows σ where
  skip w hcheck := by
    obtain ⟨_, hread⟩ := RecordField.check_eq_ok_iff.1 hcheck
    exact h.skip hread
  keeps _ _ hedit hcheck := h.keeps.check hedit hcheck

/-- A field keeps what its reader keeps. -/
theorem field (h : f.read.Follows g σ) (hlooked : σ.Looked (node? f.name) (node?' f.name)) :
    f.Keeps g node? node?' := by
  cases hlooked with
  | same hsame => exact RecordField.keeps_of_eq hsame g
  | rearranged hv hv' hedit =>
    intro a ha
    rw [RecordField.take_of_eq_some hv] at ha
    rw [RecordField.take_of_eq_some hv']
    exact h.keeps hedit ha

/-- A field takes the same value when its own value is arranged otherwise. -/
theorem take (h : f.read.Follows (fun a => a) σ)
    (hlooked : σ.Looked (node? f.name) (node?' f.name)) {a : α} (ha : f.take node? = .ok a) :
    f.take node?' = .ok a :=
  (h.field hlooked).take ha

end Reader.Follows

namespace Record

variable {α β : Type} {slots : List Slot} {seen : List String} {ms ms' : List (RawString × Node)}

/-- The field that a member is for. -/
def fieldName? (slots : List Slot) (m : RawString × Node) : Option String :=
  match m.1.text with
  | .ok k => (slots.find? (·.name = k)).map fun _ => k
  | .error _ => none

/-- Whether a member is accepted on its own: its value is one of its field, or it is skipped. -/
def AcceptsMember (slots : List Slot) (m : RawString × Node) : Prop :=
  ∃ k, m.1.text = .ok k ∧
    match slots.find? (·.name = k) with
    | none => m.2.skip = .ok ()
    | some slot => slot.check m.2 = .ok ()

section Member

variable {key : RawString} {v : Node} {k : String} {slot : Slot}

/-- A member of a name that no field has is for none. -/
theorem fieldName?_eq_none (hkey : key.text = .ok k) (hfind : slots.find? (·.name = k) = none) :
    fieldName? slots (key, v) = none := by
  rw [fieldName?, hkey]
  simp only [hfind, Option.map_none]

/-- A member of a name that a field has is for that field. -/
theorem fieldName?_eq_some (hkey : key.text = .ok k)
    (hfind : slots.find? (·.name = k) = some slot) : fieldName? slots (key, v) = some k := by
  rw [fieldName?, hkey]
  simp only [hfind, Option.map_some]

/-- A member of a name that no field has is accepted just when it can be skipped. -/
theorem acceptsMember_iff_skip (hkey : key.text = .ok k)
    (hfind : slots.find? (·.name = k) = none) :
    AcceptsMember slots (key, v) ↔ v.skip = .ok () := by
  simp only [AcceptsMember, hkey, Except.ok.injEq, exists_eq_left', hfind]

/-- A member of a name that a field has is accepted just when its value is. -/
theorem acceptsMember_iff_check (hkey : key.text = .ok k)
    (hfind : slots.find? (·.name = k) = some slot) :
    AcceptsMember slots (key, v) ↔ slot.check v = .ok () := by
  simp only [AcceptsMember, hkey, Except.ok.injEq, exists_eq_left', hfind]

end Member

/-- **Members are accepted when each of them is and no field is given twice.** -/
theorem checkMembers_eq_ok_iff :
    checkMembers slots seen (.ofList ms) = .ok () ↔
      (∀ m ∈ ms, AcceptsMember slots m) ∧ (ms.filterMap (fieldName? slots)).Nodup ∧
        ∀ k ∈ ms.filterMap (fieldName? slots), k ∉ seen := by
  induction ms generalizing seen with
  | nil => exact iff_of_true rfl ⟨List.forall_mem_nil _, List.nodup_nil, List.forall_mem_nil _⟩
  | cons m ms ih =>
    obtain ⟨key, v⟩ := m
    cases hkey : key.text with
    | error e =>
      refine iff_of_false (fun h => ?_) fun ⟨h, _⟩ => ?_
      · obtain ⟨k, hk⟩ := exists_text_of_checkMembers h
        rw [hkey] at hk
        cases hk
      · obtain ⟨k, hk, -⟩ := h _ (List.mem_cons_self ..)
        rw [hkey] at hk
        cases hk
    | ok k =>
      cases hfind : slots.find? (·.name = k) with
      | none =>
        rw [Members.ofList, checkMembers_of_find?_eq_none hkey hfind, ih,
          List.filterMap_cons_none (fieldName?_eq_none hkey hfind), List.forall_mem_cons,
          acceptsMember_iff_skip hkey hfind, and_assoc]
      | some slot =>
        rw [Members.ofList, checkMembers_of_find?_eq_some hkey hfind, ih,
          List.filterMap_cons_some (fieldName?_eq_some hkey hfind), List.forall_mem_cons,
          acceptsMember_iff_check hkey hfind, List.nodup_cons, List.forall_mem_cons]
        simp only [List.mem_cons, not_or]
        constructor
        · rintro ⟨hk, hv, hms, hnodup, hseen⟩
          exact ⟨⟨hv, hms⟩, ⟨fun hmem => (hseen k hmem).1 rfl, hnodup⟩, hk,
            fun n hn => (hseen n hn).2⟩
        · rintro ⟨⟨hv, hms⟩, ⟨hk, hnodup⟩, hunseen, hseen⟩
          refine ⟨hunseen, hv, hms, hnodup, fun n hn => ⟨?_, hseen n hn⟩⟩
          rintro rfl
          exact hk hn

/-- The order of the members does not matter. -/
theorem checkMembers_perm (hperm : ms.Perm ms')
    (h : checkMembers slots seen (.ofList ms) = .ok ()) :
    checkMembers slots seen (.ofList ms') = .ok () := by
  rw [checkMembers_eq_ok_iff] at h ⊢
  obtain ⟨hms, hnodup, hseen⟩ := h
  have hnames := hperm.filterMap (fieldName? slots)
  refine ⟨fun m hm => hms m (hperm.mem_iff.2 hm), hnames.nodup_iff.1 hnodup, fun k hk => ?_⟩
  exact hseen k (hnames.mem_iff.2 hk)

variable {ns : List (RawString × Node)} {key : RawString} {v v' w : Node} {name : String}

/-- A member of a name that no field has is skipped. -/
theorem checkMembers_insert (hkey : key.text = .ok name) (hname : name ∉ slots.map (·.name))
    (hw : w.skip = .ok ()) (h : checkMembers slots seen (.ofList (ms ++ ns)) = .ok ()) :
    checkMembers slots seen (.ofList (ms ++ (key, w) :: ns)) = .ok () := by
  have hfind : slots.find? (·.name = name) = none := by
    rw [List.find?_eq_none]
    intro slot hslot heq
    exact hname (List.mem_map.2 ⟨slot, hslot, by simpa using heq⟩)
  have haccepts : AcceptsMember slots (key, w) := (acceptsMember_iff_skip hkey hfind).2 hw
  rw [checkMembers_eq_ok_iff] at h ⊢
  rw [List.filterMap_append, List.filterMap_cons_none (fieldName?_eq_none hkey hfind),
    ← List.filterMap_append]
  refine ⟨fun m hm => ?_, h.2⟩
  rcases List.mem_append.1 hm with hm | hm
  · exact h.1 m (List.mem_append_left _ hm)
  · rcases List.mem_cons.1 hm with rfl | hm
    · exact haccepts
    · exact h.1 m (List.mem_append_right _ hm)

/-- A member with another value is accepted, if the value is. -/
theorem checkMembers_member
    (hv : AcceptsMember slots (key, v) → AcceptsMember slots (key, v'))
    (h : checkMembers slots seen (.ofList (ms ++ (key, v) :: ns)) = .ok ()) :
    checkMembers slots seen (.ofList (ms ++ (key, v') :: ns)) = .ok () := by
  rw [checkMembers_eq_ok_iff] at h ⊢
  have hname : fieldName? slots (key, v') = fieldName? slots (key, v) := rfl
  rw [List.filterMap_append, List.filterMap_cons, hname, ← List.filterMap_cons,
    ← List.filterMap_append]
  simp only [List.forall_mem_append, List.forall_mem_cons] at h ⊢
  exact ⟨⟨h.1.1, hv h.1.2.1, h.1.2.2⟩, h.2⟩

/-- An item with another value is accepted, if the value is. -/
theorem checkItems_changed {expected : String} {length : ℕ} {vs ws : List Node}
    (hv : ∀ slot ∈ slots, slot.check v = .ok () → slot.check v' = .ok ())
    (h : checkItems expected length slots (.ofList (vs ++ v :: ws)) = .ok ()) :
    checkItems expected length slots (.ofList (vs ++ v' :: ws)) = .ok () := by
  induction vs generalizing slots length with
  | nil =>
    cases slots with
    | nil => cases h
    | cons slot slots =>
      rw [List.nil_append, Items.ofList, checkItems_item] at h ⊢
      exact ⟨hv slot (List.mem_cons_self ..) h.1, h.2⟩
  | cons u vs ih =>
    cases slots with
    | nil => cases h
    | cons slot slots =>
      rw [List.cons_append, Items.ofList, checkItems_item] at h ⊢
      exact ⟨h.1, ih (fun s hs => hv s (List.mem_cons_of_mem _ hs)) h.2⟩

/-- Members that are accepted have no fault. -/
theorem skip_of_checkMembers {seen : List String} {ms : Members}
    (hslots : ∀ slot ∈ slots, ∀ w, slot.check w = .ok () → w.skip = .ok ())
    (h : checkMembers slots seen ms = .ok ()) : ms.skip = .ok () := by
  match ms with
  | .close => rfl
  | .stop _ => cases h
  | .noKey _ => cases h
  | .member key v ms =>
    obtain ⟨k, hkey⟩ := exists_text_of_checkMembers h
    rw [Members.skip_member]
    cases hfind : slots.find? (·.name = k) with
    | none =>
      obtain ⟨hv, hms⟩ := (checkMembers_of_find?_eq_none hkey hfind).1 h
      exact ⟨RawString.skip_of_text hkey, hv, skip_of_checkMembers hslots hms⟩
    | some slot =>
      obtain ⟨-, hv, hms⟩ := (checkMembers_of_find?_eq_some hkey hfind).1 h
      exact ⟨RawString.skip_of_text hkey, hslots slot (List.mem_of_find?_eq_some hfind) v hv,
        skip_of_checkMembers hslots hms⟩

/-- Items that are accepted have no fault. -/
theorem skip_of_checkItems {slots : List Slot} {expected : String} {length : ℕ} {vs : Items}
    (hslots : ∀ slot ∈ slots, ∀ w, slot.check w = .ok () → w.skip = .ok ())
    (h : checkItems expected length slots vs = .ok ()) : vs.skip = .ok () := by
  match slots, vs with
  | _, .close => rfl
  | [], .stop _ => cases h
  | [], .item _ _ => cases h
  | _ :: _, .stop _ => cases h
  | slot :: slots, .item v vs =>
    obtain ⟨hv, hvs⟩ := checkItems_item.1 h
    refine Items.skip_item.2 ⟨hslots slot (List.mem_cons_self ..) v hv, ?_⟩
    exact skip_of_checkItems (fun s hs => hslots s (List.mem_cons_of_mem _ hs)) hvs

variable {r : Record α} {g : α → β} {fields : List (String × Shape)} {a : α}

/-- An object is read as a record just when its members are accepted and the fields found among them
build it. -/
theorem read_object_eq_ok_iff {ms : Members} :
    r.read (.object ms) = .ok a ↔
      checkMembers r.slots [] ms = .ok () ∧ r.build (fun name => ms.find? name) = .ok a := by
  rw [read, bind_eq_ok_iff]
  constructor
  · rintro ⟨_, h⟩
    exact h
  · intro h
    exact ⟨(), h⟩

/-- A list is read as a record just when its items are accepted and the fields found at their places
build it. -/
theorem read_array_eq_ok_iff {vs : Items} :
    r.read (.array vs) = .ok a ↔
      checkItems (r.title ++ " with " ++ toString r.slots.length ++ " elements") 0 r.slots vs =
        .ok () ∧ r.build (fun name => vs.find? name (r.slots.map (·.name))) = .ok a := by
  rw [read, bind_eq_ok_iff]
  constructor
  · rintro ⟨_, h⟩
    exact h
  · intro h
    exact ⟨(), h⟩

section Follows

variable (hslots : ∀ slot ∈ r.slots, slot.Follows (Shape.field fields slot.name))

include hslots

/-- What a record is read from has no fault. -/
theorem skip_of_read {v : Node} (hread : r.read v = .ok a) : v.skip = .ok () := by
  have hskip : ∀ slot ∈ r.slots, ∀ w, slot.check w = .ok () → w.skip = .ok () :=
    fun slot hslot _ hw => (hslots slot hslot).skip hw
  cases v with
  | object ms => exact skip_of_checkMembers hskip (read_object_eq_ok_iff.1 hread).1
  | array vs => exact skip_of_checkItems hskip (read_array_eq_ok_iff.1 hread).1
  | _ => exact absurd hread Reader.refuse_ne_ok

/-- A member whose value is arranged otherwise is still accepted. -/
theorem AcceptsMember.rearranged
    (hv : ∀ name, key.text = .ok name → Node.Rearranges (Shape.field fields name) v v')
    (h : AcceptsMember r.slots (key, v)) : AcceptsMember r.slots (key, v') := by
  obtain ⟨k, hkey, h⟩ := h
  refine ⟨k, hkey, ?_⟩
  cases hfind : r.slots.find? (·.name = k) with
  | none =>
    rw [hfind] at h
    exact (hv k hkey).skip h
  | some slot =>
    rw [hfind] at h
    obtain rfl : slot.name = k := by simpa using List.find?_some hfind
    exact (hslots slot (List.mem_of_find?_eq_some hfind)).keeps (hv _ hkey) h

omit hslots

variable (hbuild : ∀ ⦃node? node?' a⦄, (∀ name ∈ r.slots.map (·.name),
  (Shape.field fields name).Looked (node? name) (node?' name)) → r.build node? = .ok a →
    ∃ a', r.build node?' = .ok a' ∧ g a' = g a)

include hbuild

/-- Two objects are read alike if the second is accepted with the first, and the fields find the
same in both, or values that are arranged otherwise. -/
theorem read_object_of_looked {ms ms' : Members}
    (hcheck : checkMembers r.slots [] ms = .ok () → checkMembers r.slots [] ms' = .ok ())
    (hlooked : ∀ name ∈ r.slots.map (·.name),
      (Shape.field fields name).Looked (ms.find? name) (ms'.find? name))
    (hread : r.read (.object ms) = .ok a) :
    ∃ a', r.read (.object ms') = .ok a' ∧ g a' = g a := by
  obtain ⟨hms, hread⟩ := read_object_eq_ok_iff.1 hread
  obtain ⟨a', hread', hkeep⟩ := hbuild hlooked hread
  exact ⟨a', read_object_eq_ok_iff.2 ⟨hcheck hms, hread'⟩, hkeep⟩

/-- The order of the members does not matter. -/
theorem read_perm (hdiffer : NamesDiffer ms) (hperm : ms.Perm ms')
    (hread : r.read (.object (.ofList ms)) = .ok a) :
    ∃ a', r.read (.object (.ofList ms')) = .ok a' ∧ g a' = g a :=
  read_object_of_looked hbuild (checkMembers_perm hperm)
    (fun name _ => .same (find?_perm hdiffer hperm name)) hread

/-- A member that the record does not know is passed over. -/
theorem read_insert (hkey : key.text = .ok name) (hname : name ∉ r.slots.map (·.name))
    (hw : w.skip = .ok ()) (hread : r.read (.object (.ofList (ms ++ ns))) = .ok a) :
    ∃ a', r.read (.object (.ofList (ms ++ (key, w) :: ns))) = .ok a' ∧ g a' = g a := by
  refine read_object_of_looked hbuild (checkMembers_insert hkey hname hw) (fun n hn => .same ?_)
    hread
  have hne : key.text ≠ .ok n := by
    intro heq
    rw [hkey, Except.ok.injEq] at heq
    exact hname (heq ▸ hn)
  rw [find?_append, find?_append, Members.ofList, Members.find?_member_of_ne hne]

include hslots

/-- A member may have a value that is arranged otherwise. -/
theorem read_member
    (hv : ∀ name, key.text = .ok name → Node.Rearranges (Shape.field fields name) v v')
    (hread : r.read (.object (.ofList (ms ++ (key, v) :: ns))) = .ok a) :
    ∃ a', r.read (.object (.ofList (ms ++ (key, v') :: ns))) = .ok a' ∧ g a' = g a :=
  read_object_of_looked hbuild (checkMembers_member (AcceptsMember.rearranged hslots hv))
    (fun name _ => looked_member ms ns (hv name)) hread

/-- So may an item, where the record is written as a list. -/
theorem read_item {vs ws : List Node} (h : v.Reorders v')
    (hread : r.read (.array (.ofList (vs ++ v :: ws))) = .ok a) :
    ∃ a', r.read (.array (.ofList (vs ++ v' :: ws))) = .ok a' ∧ g a' = g a := by
  obtain ⟨hcheck, hread⟩ := read_array_eq_ok_iff.1 hread
  obtain ⟨a', hread', hkeep⟩ := hbuild (fun name _ => looked_item _ vs ws (.reorder h)) hread
  have hcheck' := checkItems_changed
    (fun slot hslot => (hslots slot hslot).keeps (.reorder h)) hcheck
  exact ⟨a', read_array_eq_ok_iff.2 ⟨hcheck', hread'⟩, hkeep⟩

/-- **A record follows the arrangement of its document**, if its fields do and it is built from
values that are arranged otherwise as before. -/
theorem read_follows : r.read.Follows g (r.shape fields) where
  skip _ _ hread := skip_of_read hslots hread
  keeps := by
    intro v v' a hedit hread
    cases hedit with
    | reorder h =>
      cases h with
      | object hdiffer hperm => exact read_perm hbuild hdiffer hperm hread
      | item h => exact read_item hslots hbuild h hread
      | member h => exact read_member hslots hbuild (fun _ _ => .reorder h) hread
    | insert hkey hname hw => exact read_insert hbuild hkey hname hw hread
    | @field _ _ ms ns key name v v' hkey h =>
      refine read_member hslots hbuild (fun n hn => ?_) hread
      rw [hkey, Except.ok.injEq] at hn
      exact hn ▸ h

end Follows

end Record

end Json
end CourtDocket
